import RpcProxy.Proofs.Session.WorkSteps
import RpcProxy.Proofs.Session.SceneTurns

/-!
# Incidents

The sessions of a server share the pools of connections to hosts. An `Incident` is anything that
happens to them: a client connects, something happens to a session, a socket does something, or the
hosts become others. Incidents come in any order (`Crowd.undergo`), and what is done is a course of
steps of work (`Crowd.course`).

What routers have in mind and to do, and the pools, are the crowd's `scene`. It is a function of the
crowd, so a scene can be looked at behind every step of work, and also where a statement speaks of a
moment in the middle of an incident.

A session is proved about as if it had the pools to itself, and then put back among the others. That
is possible because what is shared is handed to it and taken back (`Crowd.put`), and because its
tasks are for routers of its own (`Member`). The two together say that others see of its work what
it did to the pools, and nothing else. So every step of work of one session is a piece of work for
the scene of all (`Session.RouterWork.advance`), as is everything a socket does
(`Crowd.Joined.hears`).

What a step of work comes to is a `Progress`. It is proved for every step of every incident
(`Joined.workSteps`), under the conditions that the crowd is joined and its scene fits, which a step
of work keeps in turn. The modules behind this one make their inductions over `course` with it and
never look into a session again.
-/

set_option autoImplicit false

namespace RpcProxy

/-- Something that happens to sessions or to the pools that they share. -/
inductive Incident where
  /-- A client connects. -/
  | opened (plan : Plan) (flags : Flags) (stats : ListenerStats) (clock : Clock)
  | happened (i : Nat) (op : SessionOp)
  /-- The hosts become others, for connections that are accepted from now on. -/
  | renewed (clusters : Clusters)
  /-- An attempt to connect to a host is over. -/
  | connected (handle : HandleId) (result : ConnectResult)
  | hostData (link : LinkId) (octets : Bytes)
  /-- A connection to a host ends from outside. -/
  | hostClosed (link : LinkId) (event : ConnectionEvent)

namespace Crowd

/-- The router with a name, while it is there. -/
def router? {σ : Type} (c : Crowd σ) (ref : RouterRef) : Option Router :=
  (c.sessions[ref.session]?).bind (·.router? ref)

def toDo {σ : Type} (c : Crowd σ) (ref : RouterRef) : List RouterOp :=
  ((c.sessions[ref.session]?).map (·.toDo ref)).getD []

/-- Everything that pools have told. -/
def notes {σ : Type} (c : Crowd σ) : List PoolNote := c.sessions.flatMap (·.poolNotes)

/-- How a request for a connection was taken back, as often as it was. -/
def withdrawals {σ : Type} (c : Crowd σ) (handle : HandleId) : List CancelPolicy :=
  c.notes.filterMap (·.withdraws? handle)

/-- What matters for calls and answers. A router whose session has not been opened has nothing in
mind and nothing to do, and its stream has not begun. -/
def scene (c : Crowd TcpPools) : Scene where
  mind := c.router?
  toDo := c.toDo
  born ref := ∃ s, c.sessions[ref.session]? = some s ∧ ref.stream < s.nextId
  pools := c.side.pools

/-- Whether a session has broken a promise, so that nothing more is run for it. -/
def isBroken {σ : Type} (c : Crowd σ) (i : Nat) : Bool := (c.sessions[i]?).any (·.panic.isSome)

/-- Whether a router is still there. -/
def alive (c : Crowd TcpPools) (ref : RouterRef) : Bool := (c.router? ref).isSome

/-- What follows from something that a socket of a pool did. The counters of hosts take it in at
once; the router that is told takes it up when its session is next at work. -/
def hear (c : Crowd TcpPools) (o : TcpPools.Outcome) : Crowd TcpPools :=
  let side := o.events.foldl HostSide.count { c.side with pools := o.pools }
  let c := { c with side }
  match o.told with
  | none => c
  | some (ref, d) =>
    match c.session? ref.session with
    | none => c
    | some s => c.put ref.session (s.step (.deliver ref d))

/-- Something happens. -/
def incur (c : Crowd TcpPools) : Incident → Crowd TcpPools
  | .opened plan flags stats clock => c.step (.opened plan flags stats clock)
  | .happened i op => c.step (.happened i op)
  | .renewed clusters =>
    { c with side := { c.side with generations := c.side.generations ++ [clusters] } }
  | .connected handle result => c.hear (c.side.pools.onConnected c.alive handle result)
  | .hostData link octets => c.hear (c.side.pools.onData c.alive link octets)
  | .hostClosed link event => c.hear (c.side.pools.onClosed c.alive link event)

def undergo (c : Crowd TcpPools) (es : List Incident) : Crowd TcpPools := es.foldl incur c

def workStepsIn (c : Crowd TcpPools) : Incident → List (WorkStep (Crowd TcpPools))
  | .happened i op =>
    match c.session? i with
    | none => []
    | some s => ⟨c, none, c.put i s⟩ :: (s.workSteps op).map (WorkStep.map (c.put i))
  | e => [⟨c, none, c.incur e⟩]

def course (c : Crowd TcpPools) : List Incident → List (WorkStep (Crowd TcpPools))
  | [] => []
  | e :: es => c.workStepsIn e ++ (c.incur e).course es

/-- What happens to the messages of one session in an incident. -/
def actsIn (i : Nat) (c : Crowd TcpPools) : Incident → List Act
  | .happened j op => if j = i then ((c.session? j).map (·.actsIn op)).getD [] else []
  | _ => []

/-- What happens to the messages of one session, in order. -/
def acts (i : Nat) (c : Crowd TcpPools) : List Incident → List Act
  | [] => []
  | e :: es => c.actsIn i e ++ (c.incur e).acts i es

def Came (c : Crowd TcpPools) (es : List Incident) (ref : RouterRef) (r : Request) : Prop :=
  Routed (c.acts ref.session es) ref r

/-- Whether an incident is what the rest of a server can bring about: routers are told things by
sockets alone, and a session is dismissed when all its streams are over. The first keeps answers
from being made up, the second from being taken away with a stream in the middle of its call. -/
def allows (c : Crowd TcpPools) : Incident → Bool
  | .happened _ (.deliver _ _) => false
  | .happened i .dismiss => (c.session? i).all (·.active.isEmpty)
  | _ => true

/-- Whether all of some incidents are of a kind, each in the crowd that it finds. What is allowed
depends on the crowd, so a condition on a list of incidents has to be read along the way. -/
def always (kind : Crowd TcpPools → Incident → Bool) (c : Crowd TcpPools) : List Incident → Bool
  | [] => true
  | e :: es => kind c e && (c.incur e).always kind es

section

variable {c c' : Crowd TcpPools} {i : Nat} {s s' : Session TcpPools}

theorem workStepsIn_path (c : Crowd TcpPools) (e : Incident) :
    WorkStep.Path c (c.workStepsIn e) (c.incur e) := by
  cases e with
  | happened i op =>
    unfold workStepsIn Crowd.incur Crowd.step
    dsimp only
    cases c.session? i with
    | none => exact rfl
    | some s => exact ⟨rfl, (s.workSteps_path op).map (c.put i)⟩
  | opened | renewed | connected | hostData | hostClosed => exact ⟨rfl, rfl⟩

theorem course_path (c : Crowd TcpPools) (es : List Incident) :
    WorkStep.Path c (c.course es) (c.undergo es) := by
  induction es generalizing c with
  | nil => exact rfl
  | cons e es ih => exact (workStepsIn_path c e).append (ih (c.incur e))

/-! ## A session that is put back

A session works on its own copy of what is shared, and is put back with it. What is read off the
crowd afterwards is what was read off the session. -/

theorem put_session (hi : i < c.sessions.length) (j : Nat) :
    (c.put i s).sessions[j]? = if j = i then some s else c.sessions[j]? := by
  show (c.sessions.set i s)[j]? = _
  by_cases hj : i = j
  · subst hj
    rw [List.getElem?_set_self hi, if_pos rfl]
  · rw [List.getElem?_set_ne hj, if_neg (Ne.symm hj)]

theorem put_router? (hi : i < c.sessions.length) (ref : RouterRef) :
    (c.put i s).router? ref = if ref.session = i then s.router? ref else c.router? ref := by
  unfold Crowd.router?
  rw [put_session hi]
  split
  · rfl
  · rfl

theorem put_toDo (hi : i < c.sessions.length) (ref : RouterRef) :
    (c.put i s).toDo ref = if ref.session = i then s.toDo ref else c.toDo ref := by
  unfold Crowd.toDo
  rw [put_session hi]
  split
  · rfl
  · rfl

theorem put_born (hi : i < c.sessions.length) (ref : RouterRef) :
    (c.put i s).scene.born ref ↔
      if ref.session = i then ref.stream < s.nextId else c.scene.born ref := by
  show (∃ s', (c.put i s).sessions[ref.session]? = some s' ∧ _) ↔ _
  rw [put_session hi]
  split
  · simp
  · exact Iff.rfl

theorem put_isBroken (hi : i < c.sessions.length) (j : Nat) :
    (c.put i s).isBroken j = if j = i then s.panic.isSome else c.isBroken j := by
  unfold Crowd.isBroken
  rw [put_session hi]
  split
  · rfl
  · rfl

theorem isBroken_of_session (hs : c.sessions[i]? = some s) : c.isBroken i = s.panic.isSome := by
  unfold Crowd.isBroken
  rw [hs]
  rfl

theorem router?_of_session {ref : RouterRef} (hs : c.sessions[ref.session]? = some s) :
    c.router? ref = s.router? ref := by
  unfold Crowd.router?
  rw [hs]
  rfl

theorem toDo_of_session {ref : RouterRef} (hs : c.sessions[ref.session]? = some s) :
    c.toDo ref = s.toDo ref := by
  unfold Crowd.toDo
  rw [hs]
  rfl

theorem born_of_session {ref : RouterRef} (hs : c.sessions[ref.session]? = some s) :
    c.scene.born ref ↔ ref.stream < s.nextId := by
  show (∃ s, c.sessions[ref.session]? = some s ∧ _) ↔ _
  simp [hs]

/-- As far as routers are concerned, two sessions are the same. -/
theorem put_scene (hi : i < c.sessions.length) (hminds : ∀ ref, s'.router? ref = s.router? ref)
    (htoDo : ∀ ref, s'.toDo ref = s.toDo ref) (hnext : s'.nextId = s.nextId)
    (hpools : s'.side.pools = s.side.pools) : (c.put i s').scene = (c.put i s).scene := by
  refine Scene.ext (funext fun ref => ?_) (funext fun ref => ?_) (funext fun ref => propext ?_) hpools
  · show (c.put i s').router? ref = (c.put i s).router? ref
    rw [put_router? hi, put_router? hi, hminds]
  · show (c.put i s').toDo ref = (c.put i s).toDo ref
    rw [put_toDo hi, put_toDo hi, htoDo]
  · rw [put_born hi, put_born hi, hnext]

/-- Pools have told some things between two moments. Sessions keep what they were told each for
itself, so what is new is somewhere in the middle. -/
def Tells (told : List PoolNote) (c c' : Crowd TcpPools) : Prop :=
  ∃ front behind, c.notes = front ++ behind ∧ c'.notes = front ++ (told ++ behind)

theorem Tells.none (h : c'.notes = c.notes) : Tells [] c c' := ⟨[], c.notes, rfl, h⟩

theorem put_notes (hs : c.sessions[i]? = some s) (h : s'.poolNotes = s.poolNotes) :
    (c.put i s').notes = c.notes := by
  obtain ⟨hi, hget⟩ := List.getElem?_eq_some_iff.mp hs
  show (c.sessions.set i s').flatMap _ = c.sessions.flatMap _
  rw [List.flatMap_def, List.flatMap_def, List.map_set, h, ← hget,
    ← List.getElem_map (f := Session.poolNotes), List.set_getElem_self]
  rwa [List.length_map]

theorem Tells.put {told : List PoolNote} (hi : i < c.sessions.length)
    (h : s'.poolNotes = told ++ s.poolNotes) : Tells told (c.put i s) (c.put i s') := by
  have hsplit : ∀ t : Session TcpPools, (c.put i t).notes =
      (c.sessions.take i).flatMap (·.poolNotes) ++
        (t.poolNotes ++ (c.sessions.drop (i + 1)).flatMap (·.poolNotes)) := by
    intro t
    show (c.sessions.set i t).flatMap _ = _
    rw [List.set_eq_take_append_cons_drop, if_pos hi, List.flatMap_append, List.flatMap_cons]
  exact ⟨_, _, hsplit s, by rw [hsplit s', h, List.append_assoc]⟩

end

end Crowd

namespace Session

/-- A session that has its place among others. -/
structure Member (i : Nat) (s : Session TcpPools) : Prop where
  number : s.number = i
  source : s.source = TcpPools.source
  coursing : s.RoutersOnCourse
  /-- Its tasks are for routers of its own. -/
  native : ∀ ref, ref.session ≠ i → s.toDo ref = []

variable {R R' : RouterRef → Request → Prop} {c : Crowd TcpPools} {i : Nat}
  {s s' : Session TcpPools} {m ms : List (Session TcpPools × Task)} {ref : RouterRef}

theorem Member.course (h : s.Member i) (href : ref.session = i) : ∃ past, OnCourse ref past s :=
  h.coursing ref (href.trans h.number.symm)

/-- A router that is on course waits, holds a connection or is done. -/
theorem OnCourse.waitsHoldsOrOver {past : List RouterOp} (h : OnCourse ref past s) :
    WaitsHoldsOrOver (s.router? ref) := by
  intro r e hr he
  obtain ⟨x, hx, hxr⟩ := h.router?_cases hr
  have hfollows := (Router.follows_of_some he).mp (h.follows x r hx hxr)
  exact hfollows.2.imp (·.1) (Or.imp (·.1) (·.1))

/-- A move takes up one task at most. -/
theorem Move.nil_or_singleton {D : Prop} (hm : Move R D m s s') : m = [] ∨ ∃ x, m = [x] := by
  cases hm with
  | wrote | popped | delivered | noted => exact Or.inr ⟨_, rfl⟩
  | aside | began | passed | refused | engaged | completed | destroyed | dropped => exact Or.inl rfl

/-- Whoever has a share in a move is one of the session's own routers. -/
theorem Acts.native {other : RouterRef} (ha : Acts R m other s s') (h : s.Member i) :
    other.session = i := by
  rcases ha.taken with ⟨-, hnumber⟩ | ⟨s₀, op, -, -, htoDo, -⟩
  · exact hnumber.trans h.number
  · refine Classical.byContradiction fun hne => ?_
    rw [h.native other hne] at htoDo
    cases htoDo

theorem Member.move (h : s.Member i) (hm : Move R False m s s') : s'.Member i where
  number := hm.number.trans h.number
  source := hm.moves.source.trans h.source
  coursing := h.coursing.moves hm.moves
  native ref hne := by
    have hnone := h.native ref hne
    cases hm.oneRouterActs with
    | unmoved _ _ _ _ _ _ htoDo =>
      have hall := htoDo ref
      rw [hnone] at hall
      exact (List.append_eq_nil_iff.mp hall).2
    | began _ hb =>
      unfold Session.toDo at hnone ⊢
      rw [hb.posted]
      exact hnone
    | dropped hd => exact hd.elim
    | acted other ha =>
      refine (ha.toDo ref fun heq => hne ?_).trans hnone
      exact heq ▸ ha.native h

theorem Member.moves (h : s.Member i) (hm : Moves R False ms s s') : s'.Member i := by
  induction hm with
  | refl => exact h
  | snoc _ h₂ ih => exact (ih h).move h₂

/-- A session as it is shown what it shares. -/
theorem Member.shown (h : s.Member i) (side : HostSide TcpPools) : Member i { s with side } where
  number := h.number
  source := h.source
  coursing ref href := by
    obtain ⟨past, hcourse⟩ := h.coursing ref href
    exact ⟨past, hcourse.elsewhere ⟨rfl, rfl, rfl, fun _ h => h,
      fun y hy => ⟨y, hy, rfl, rfl, rfl, rfl, Or.inr rfl, rfl⟩⟩⟩
  native := h.native

theorem Clears.toDo (h : Clears s s') (ref : RouterRef) : s'.toDo ref = s.toDo ref := by
  unfold Session.toDo
  rw [h.posted]

theorem Member.clears (h : s.Member i) (hc : Clears s s') : s'.Member i where
  number := hc.number.trans h.number
  source := hc.source.trans h.source
  coursing ref href := by
    obtain ⟨past, hcourse⟩ := h.coursing ref (href.trans hc.number)
    refine ⟨past, hcourse.elsewhere ⟨hc.number, hc.nextId, hc.toDo ref, fun id hid => ?_, fun y hy => ?_⟩⟩
    · rw [Option.eq_none_iff_forall_ne_some] at hid ⊢
      exact fun x hx => hid x (hc.streams id x hx)
    · exact ⟨y, hc.streams _ y hy, rfl, rfl, rfl, rfl, Or.inr rfl, rfl⟩
  native ref hne := (hc.toDo ref).trans (h.native ref hne)

/-! ## Moves are turns

A move of a session in a crowd, seen from the scene. -/

/-- What one router does is its share of a turn. -/
theorem Acts.turn {other : RouterRef} (ha : Acts R m other s s') (h : s.Member i)
    (hi : i < c.sessions.length) (hR : ∀ r, R other r → R' other r) :
    ∃ told, s'.poolNotes = told ++ s.poolNotes ∧
      Scene.Turn R' (fun ref => done ref m) told (c.put i s).scene (c.put i s').scene := by
  have hother := ha.native h
  obtain ⟨past, hcourse⟩ := h.course hother
  obtain ⟨ds, ops, hdeals, hown, htoDo, hshare, -⟩ := ha.share past hcourse
  have hpools := hdeals.pools
  have hnotes := hdeals.notes
  rw [h.source] at hpools hnotes hshare
  have hmind : ∀ t : Session TcpPools, (c.put i t).scene.mind other = t.router? other := fun t =>
    (Crowd.put_router? hi other).trans (if_pos hother)
  have hlist : ∀ t : Session TcpPools, (c.put i t).scene.toDo other = t.toDo other := fun t =>
    (Crowd.put_toDo hi other).trans (if_pos hother)
  -- The router is one of this session, so everything about it is read from this session.
  have hacted : Scene.Acted other (done other m) ops (c.put i s).scene (c.put i s').scene := by
    refine ⟨hown, ?_, funext fun ref => propext ?_, fun ref hne => ?_, fun ref hne => ?_, fun hnone => ?_⟩
    · rw [hlist, hlist]
      rcases ha.taken with ⟨rfl, -⟩ | ⟨s₀, op, rfl, -, hfirst, -⟩
      · exact ⟨s.toDo other, rfl, htoDo⟩
      · rw [done_singleton, opOf_router, if_pos rfl] at htoDo ⊢
        rw [hfirst] at htoDo ⊢
        exact ⟨s₀.toDo other, rfl, (List.cons.inj htoDo).2⟩
    · rw [Crowd.put_born hi, Crowd.put_born hi, ha.nextId]
    · refine (Crowd.put_router? hi ref).trans (Eq.trans ?_ (Crowd.put_router? hi ref).symm)
      rw [ha.minds ref (Ne.symm hne)]
    · refine (Crowd.put_toDo hi ref).trans (Eq.trans ?_ (Crowd.put_toDo hi ref).symm)
      rw [ha.toDo ref (Ne.symm hne)]
    · rw [hmind] at hnone ⊢
      exact ha.gone hnone
  refine ⟨_, hnotes, .shared other hacted (fun ref hne => ha.done_of_ne (Ne.symm hne)) ?_ ?_ hpools rfl
    ?_⟩
  · rw [hlist]
    exact hcourse.answers
  · rw [hmind]
    exact hcourse.waitsHoldsOrOver
  · rw [hmind, hmind]
    exact hshare.mono hR

theorem Begins.turn {x : Stream} (hb : Begins s x s') (hi : i < c.sessions.length) :
    Scene.Turn R' (fun _ => []) [] (c.put i s).scene (c.put i s').scene := by
  refine .began (fun _ => rfl) rfl hb.pools (funext fun ref => ?_) (fun ref => ?_) fun ref => ?_
  · refine (Crowd.put_toDo hi ref).trans (Eq.trans ?_ (Crowd.put_toDo hi ref).symm)
    unfold Session.toDo
    rw [hb.posted]
  · rw [Crowd.put_born hi, Crowd.put_born hi]
    show (c.put i s').router? ref = (c.put i s).router? ref ∨
      _ ∧ _ ∧ (c.put i s').router? ref = some {}
    rw [Crowd.put_router? hi, Crowd.put_router? hi]
    -- Only routers of the new stream are new, and its number was not given to any stream before.
    by_cases href : ref.session = i
    · simp only [if_pos href]
      cases hr : s.router? ref with
      | some r => exact Or.inl (hb.kept hr)
      | none =>
        cases hr' : s'.router? ref with
        | none => exact Or.inl rfl
        | some r' =>
          obtain hold | ⟨rfl, hnext⟩ := hb.router? hr'
          · rw [hr] at hold
            cases hold
          · rw [hnext, hb.nextId]
            exact Or.inr ⟨Nat.lt_irrefl _, Nat.lt_succ_self _, rfl⟩
    · simp only [if_neg href]
      exact Or.inl trivial
  · rw [Crowd.put_born hi, Crowd.put_born hi]
    split
    · rw [hb.nextId]
      exact Nat.lt_succ_of_lt
    · exact fun hb => hb

/-- A move of one session is a turn of all. -/
theorem Move.turn (hm : Move R False m s s') (h : s.Member i) (hi : i < c.sessions.length)
    (hR : ∀ ref r, ref.session = i → R ref r → R' ref r) :
    ∃ told, s'.poolNotes = told ++ s.poolNotes ∧
      Scene.Turn R' (fun ref => done ref m) told (c.put i s).scene (c.put i s').scene := by
  cases hm.oneRouterActs with
  | began hm hb =>
    subst hm
    exact ⟨[], hb.notes, hb.turn hi⟩
  | dropped hd => exact hd.elim
  | acted other ha => exact ha.turn h hi fun r => hR other r (ha.native h)
  | unmoved hnumber hsource hnext hside hnotes hminds htoDo htaken =>
    -- One router takes up what is for its stream to do, or none does.
    obtain ⟨asker, href, hothers⟩ : ∃ asker : RouterRef, asker.session = i ∧
        ∀ other, other ≠ asker → done other m = [] := by
      by_cases hnone : ∀ ref, done ref m = []
      · exact ⟨{ session := i, stream := 0 }, rfl, fun other _ => hnone other⟩
      · obtain ⟨asker, hasks⟩ := Classical.not_forall.mp hnone
        refine ⟨asker, Classical.byContradiction fun hne => hasks ?_, fun other hne => ?_⟩
        · have hall := htoDo asker
          rw [h.native asker hne] at hall
          exact (List.append_eq_nil_iff.mp hall).1
        · rcases hm.nil_or_singleton with rfl | ⟨⟨s₀, t⟩, rfl⟩
          · rfl
          · rw [done_singleton] at hasks ⊢
            cases t with
            | stream | closed => rfl
            | router ref op =>
              rw [opOf_router] at hasks ⊢
              split at hasks
              · next heq =>
                rw [if_neg fun heq' => hne (heq'.symm.trans heq)]
                rfl
              · exact absurd rfl hasks
    obtain ⟨past, hcourse⟩ := h.course href
    have hmind : ∀ ref, (c.put i s').scene.mind ref = (c.put i s).scene.mind ref := fun ref => by
      refine (Crowd.put_router? hi ref).trans (Eq.trans ?_ (Crowd.put_router? hi ref).symm)
      rw [hminds]
    have hlist : ∀ t : Session TcpPools, (c.put i t).scene.toDo asker = t.toDo asker := fun t =>
      (Crowd.put_toDo hi asker).trans (if_pos href)
    have hacted : Scene.Acted asker (done asker m) [] (c.put i s).scene (c.put i s').scene := by
      refine ⟨nofun, ⟨s'.toDo asker, ?_, ?_⟩, funext fun ref => propext ?_, fun other hne => hmind other,
        fun other hne => ?_, fun hnone => (hmind asker).trans hnone⟩
      · rw [hlist]
        exact (htoDo asker).symm
      · rw [hlist, List.append_nil]
      · rw [Crowd.put_born hi, Crowd.put_born hi, hnext]
      · refine (Crowd.put_toDo hi other).trans (Eq.trans ?_ (Crowd.put_toDo hi other).symm)
        have hall := htoDo other
        rw [hothers other hne, List.nil_append] at hall
        rw [hall]
    have hpools : (c.put i s').scene.pools =
        TcpPools.source.playAll asker [] (c.put i s).scene.pools := hside.pools
    refine ⟨[], hnotes, .shared asker hacted hothers ?_ ?_ hpools rfl ?_⟩
    · rw [hlist]
      exact hcourse.answers
    · show WaitsHoldsOrOver ((c.put i s).router? asker)
      rw [Crowd.put_router? hi, if_pos href]
      exact hcourse.waitsHoldsOrOver
    · rw [hmind]
      obtain hnone | ⟨op, hop⟩ := htaken asker
      · rw [hnone]
        exact .rest _
      · rw [hop]
        exact .took nofun nofun

/-- Moves in which routers take up nothing of their own. -/
theorem Moves.turns (hm : Moves R False ms s s') (h : s.Member i) (hi : i < c.sessions.length)
    (hR : ∀ ref r, ref.session = i → R ref r → R' ref r)
    (hasks : ∀ ref, ∀ op ∈ done ref ms, op.isAsk = true) :
    ∃ told, s'.poolNotes = told ++ s.poolNotes ∧
      Scene.Turns R' told (c.put i s).scene (c.put i s').scene := by
  induction hm with
  | refl s => exact ⟨[], rfl, .refl _⟩
  | @snoc s₁ s₂ s₃ ms m h₁ h₂ ih =>
    have hdone : ∀ ref, done ref (ms ++ m) = done ref ms ++ done ref m := fun ref =>
      List.filterMap_append
    obtain ⟨told₁, hnotes₁, hturns⟩ := ih h fun ref op hop =>
      hasks ref op (hdone ref ▸ List.mem_append_left _ hop)
    obtain ⟨told₂, hnotes₂, hturn⟩ := h₂.turn (h.moves h₁) hi hR
    refine ⟨told₂ ++ told₁, by rw [hnotes₂, hnotes₁, List.append_assoc], .snoc hturns ?_ hturn⟩
    exact fun ref op hop => hasks ref op (hdone ref ▸ List.mem_append_right _ hop)

/-! ## Steps of work

A step is a run of moves or a task of a router; what is joined before stays joined. -/

/-- A session with its place among others, whose streams are in order. -/
structure Joined (i : Nat) (s : Session TcpPools) : Prop extends Member i s where
  inOrder : s.StreamsInOrder

theorem Joined.shown (h : s.Joined i) (side : HostSide TcpPools) : Joined i { s with side } where
  toMember := h.toMember.shown side
  inOrder := h.inOrder.noEnds (.same rfl rfl rfl rfl (fun h => h) rfl rfl)

/-- A step of work of one session is a piece of work for all. The three kinds of steps become the
three kinds of pieces, and what is dropped is nothing to a scene. -/
theorem RouterWork.advance {x : WorkStep (Session TcpPools)} (hp : RouterWork R x) (h : x.before.Member i)
    (hi : i < c.sessions.length) (hR : ∀ ref r, ref.session = i → R ref r → R' ref r) :
    ∃ told, x.after.poolNotes = told ++ x.before.poolNotes ∧ x.after.Member i ∧
      Scene.Advance R' x.task told (c.put i x.before).scene (c.put i x.after).scene ∧
      Scene.FeedsNobody R' (c.put i x.before).scene (c.put i x.after).scene := by
  cases hp with
  | moves hm hasks htask =>
    obtain ⟨told, hnotes, hturns⟩ := hm.turns h hi hR hasks
    exact ⟨told, hnotes, h.moves hm, .quiet htask hturns, hturns.feedsNobody⟩
  | @took s s' rest ref op hask hm =>
    obtain ⟨told, hnotes, hturn⟩ := hm.turn h hi hR
    refine ⟨told, hnotes, h.move hm, .took rfl hask ?_, hturn.feedsNobody⟩
    -- The one task that was run is what this router took up, and nobody else took up anything.
    have hdone : (fun other => done other [(s.leave rest, Task.router ref op)]) =
        fun other => if other = ref then [op] else [] := by
      funext other
      rw [done_singleton, opOf_router]
      by_cases heq : ref = other
      · rw [if_pos heq, if_pos heq.symm]
        rfl
      · rw [if_neg heq, if_neg (Ne.symm heq)]
        rfl
    rwa [hdone] at hturn
  | @cleared s s' hc =>
    have hscene : (c.put i s').scene = (c.put i s).scene :=
      Crowd.put_scene hi hc.minds hc.toDo hc.nextId (by rw [hc.side])
    refine ⟨[], ?_, h.clears hc, .idle (fun _ _ h => nomatch h) hscene, .same hscene⟩
    unfold Session.poolNotes
    rw [hc.log]
    rfl

end Session

namespace Crowd

variable {R : RouterRef → Request → Prop} {A : LinkId → Account} {c c' : Crowd TcpPools} {i : Nat}
  {past : List (WorkStep (Crowd TcpPools))} {x : WorkStep (Crowd TcpPools)}

/-- Every session has its place. -/
def Joined (c : Crowd TcpPools) : Prop :=
  c.source = TcpPools.source ∧ ∀ (i : Nat) (s : Session TcpPools), c.sessions[i]? = some s → s.Joined i

/-- What a step of work comes to, while pools tell `told`. Everything that is later said of a course
is read from these five parts. -/
structure Progress (R : RouterRef → Request → Prop) (told : List PoolNote)
    (x : WorkStep (Crowd TcpPools)) : Prop where
  advance : Scene.Advance R x.task told x.before.scene x.after.scene
  tells : Tells told x.before x.after
  joined : x.after.Joined
  /-- A promise that was broken stays broken. -/
  broken : ∀ i, x.before.isBroken i = true → x.after.isBroken i = true
  /-- Routers are not at work behind a broken promise. -/
  waking : ∀ ref op, x.task = some (.router ref op) → op.isAsk = false →
    x.before.isBroken ref.session = false

theorem Joined.put {s : Session TcpPools} (h : c.Joined) (hi : i < c.sessions.length) (hs : s.Joined i) :
    (c.put i s).Joined := by
  refine ⟨h.1, fun j t ht => ?_⟩
  rw [put_session hi] at ht
  split at ht
  · next heq =>
    obtain rfl := Option.some.inj ht
    exact heq ▸ hs
  · exact h.2 j t ht

/-- A session that is shown what it shares is the same to all. The first step of an incident does no
more than that. -/
theorem Joined.session {s : Session TcpPools} (h : c.Joined) (hs : c.session? i = some s) :
    i < c.sessions.length ∧ s.Joined i ∧ (c.put i s).scene = c.scene ∧ (c.put i s).notes = c.notes ∧
      ∀ j, (c.put i s).isBroken j = c.isBroken j := by
  obtain ⟨s₀, hs₀, rfl⟩ := Option.map_eq_some_iff.mp hs
  have hi := (List.getElem?_eq_some_iff.mp hs₀).1
  refine ⟨hi, (h.2 i s₀ hs₀).shown c.side, ?_, put_notes hs₀ rfl, fun j => ?_⟩
  rotate_left
  · rw [put_isBroken hi]
    split
    · next heq => exact (isBroken_of_session (s := s₀) (by rw [heq, hs₀])).symm
    · rfl
  refine Scene.ext (funext fun ref => ?_) (funext fun ref => ?_) (funext fun ref => propext ?_) rfl
  · refine (put_router? hi ref).trans ?_
    split
    · next heq => exact (router?_of_session (s := s₀) (by rw [heq, hs₀])).symm
    · rfl
  · refine (put_toDo hi ref).trans ?_
    split
    · next heq => exact (toDo_of_session (s := s₀) (by rw [heq, hs₀])).symm
    · rfl
  · rw [put_born hi]
    split
    · next heq => exact (born_of_session (s := s₀) (by rw [heq, hs₀])).symm
    · exact Iff.rfl

theorem Joined.happened {op : SessionOp} (h : c.Joined) (hop : c.allows (.happened i op) = true)
    (hR : ∀ ref r, ref.session = i → Routed (c.actsIn i (.happened i op)) ref r → R ref r) :
    ∀ x ∈ c.workStepsIn (.happened i op), x.before.Joined → ∃ told, Progress R told x ∧
      Scene.FeedsNobody R x.before.scene x.after.scene := by
  unfold workStepsIn
  dsimp only
  cases hs : c.session? i with
  | none => exact fun x hx => nomatch hx
  | some s =>
    obtain ⟨hi, hjoined, hscene, hnotes, hbroken⟩ := h.session hs
    have hacts : c.actsIn i (.happened i op) = s.actsIn op := by
      show (if i = i then ((c.session? i).map (·.actsIn op)).getD [] else []) = _
      rw [if_pos rfl, hs]
      rfl
    intro x hx hbefore
    rcases List.mem_cons.mp hx with rfl | hx
    -- The first step hands the session what is shared.
    · exact ⟨[], ⟨.idle nofun hscene, .none hnotes, h.put hi hjoined, fun j hj => (hbroken j).trans hj,
        nofun⟩, .same hscene⟩
    · obtain ⟨y, hy, rfl⟩ := List.mem_map.mp hx
      -- What is not allowed is excluded here: telling a router something, and dismissing streams in
      -- flight.
      have hdeliver : ∀ ref d, op ≠ .deliver ref d := by
        rintro ref d rfl
        cases hop
      have hdismiss : op = .dismiss → s.active = [] := by
        rintro rfl
        have hall : (c.session? i).all (·.active.isEmpty) = true := hop
        rw [hs] at hall
        exact List.isEmpty_iff.mp hall
      have hwork := Session.workSteps_routerWork hjoined.inOrder hdeliver hdismiss y hy
      have hy : (c.put i y.before).sessions[i]? = some y.before := (put_session hi i).trans (if_pos rfl)
      have hplace := (hbefore.2 i y.before hy).toMember
      obtain ⟨told, htold, hmember, hadvance, hfeeds⟩ :=
        hwork.work.advance hplace hi fun ref r href hr => hR ref r href (hacts ▸ hr)
      refine ⟨told, ⟨hadvance, .put hi htold, h.put hi ⟨hmember, hwork.after⟩, fun j hj => ?_,
        fun ref op' htask hask => ?_⟩, hfeeds⟩
      · have hthen := hwork.broken
        change (c.put i y.before).isBroken j = true at hj
        show (c.put i y.after).isBroken j = true
        rw [put_isBroken hi] at hj ⊢
        split at hj
        · next heq =>
          rw [if_pos heq]
          refine Option.isSome_iff_ne_none.mpr fun hnone => ?_
          rw [hthen hnone] at hj
          cases hj
        · next hne => rwa [if_neg hne]
      · obtain ⟨rest, hq⟩ := hwork.work.posted htask hask
        -- A session takes up tasks for its own routers only.
        have href : ref.session = i := Classical.byContradiction fun hne => by
          have hnone := hplace.native ref hne
          unfold Session.toDo at hnone
          have hown : Task.opOf ref (.router ref op') = some op' := if_pos rfl
          rw [hq, List.filterMap_cons_some hown] at hnone
          cases hnone
        show (c.put i y.before).isBroken ref.session = false
        rw [put_isBroken hi, if_pos href, hwork.waking (htask ▸ rfl)]
        rfl

/-! ## What else can happen

Things from outside: sockets, hosts, clients that come. They change pools, and may tell one router
something. -/

/-- Whoever is told something by a socket is told it later. -/
theorem hear_cases (o : TcpPools.Outcome) :
    ∃ side : HostSide TcpPools, side.pools = o.pools ∧
      ((c.hear o = { c with side } ∧ ∀ ref d, o.told = some (ref, d) → c.router? ref = none) ∨
        ∃ ref d s, o.told = some (ref, d) ∧ c.sessions[ref.session]? = some s ∧
          c.hear o = c.put ref.session { s.post (.router ref (.deliver d)) with side }) := by
  refine ⟨o.events.foldl HostSide.count { c.side with pools := o.pools },
    HostSide.foldl_count_pools _ _, ?_⟩
  unfold hear
  dsimp only
  cases ho : o.told with
  | none => exact Or.inl ⟨rfl, nofun⟩
  | some x =>
    obtain ⟨ref, d⟩ := x
    dsimp only [Crowd.session?]
    cases hs : c.sessions[ref.session]? with
    | none =>
      refine Or.inl ⟨rfl, ?_⟩
      rintro ref' d' heq
      obtain ⟨rfl, -⟩ := Prod.mk.inj (Option.some.inj heq)
      unfold Crowd.router?
      rw [hs]
      rfl
    | some s => exact Or.inr ⟨ref, d, s, rfl, hs, rfl⟩

theorem Joined.told {o : TcpPools.Outcome} {ref : RouterRef} {d : Delivery} {s : Session TcpPools}
    (h : c.Joined) (hs : c.sessions[ref.session]? = some s)
    (hdo : TcpPools.SocketDoes c.alive c.side.pools o) (htold : o.told = some (ref, d))
    (hf : Scene.AccountsFit R A c.scene) :
    Session.Joined ref.session (s.post (.router ref (.deliver d))) := by
  have hs' := h.2 _ s hs
  -- An answer comes to a router that waits, with no other answer before it.
  have hmay : d.isAnswer = true → s.mayBeAnswered ref = true := by
    intro hans
    obtain ⟨r, hr⟩ := Option.isSome_iff_exists.mp (hdo.alive htold)
    obtain ⟨hwaits, hnone⟩ := hf.fair hdo htold hans hr
    have hquiet : (s.toDo ref).all (!·.isAnswer) = true := by
      rw [show c.scene.toDo ref = s.toDo ref from toDo_of_session hs, List.countP_eq_zero] at hnone
      exact List.all_eq_true.mpr fun op hop => by simpa using hnone op hop
    unfold Session.mayBeAnswered
    rw [hquiet, (router?_of_session hs).symm.trans hr]
    exact hwaits
  have hfair : s.fair (.deliver ref d) = true := by
    show (!d.isAnswer || decide (ref.session ≠ s.number) || s.mayBeAnswered ref) = true
    cases hans : d.isAnswer with
    | false => rfl
    | true => rw [hmay hans, Bool.or_true]
  refine ⟨⟨hs'.number, hs'.source, hs'.coursing.step hfair, fun other hne => ?_⟩, ?_⟩
  · show (s.queue.posted ++ [RouterOp.deliver d].map (Task.router ref)).filterMap (Task.opOf other) = _
    rw [Session.toDo_post, if_neg (ne_of_apply_ne RouterRef.session (Ne.symm hne)), List.append_nil]
    exact hs'.native other hne
  · exact hs'.inOrder.noEnds (Session.post_noEnds s _)

/-- As far as routers are concerned, the crowd is the same but for pools and for what one of them is
told. That a router is told an answer is fair only because the scene fits: it waits, and has no
other answer to take up. -/
theorem Joined.hears {o : TcpPools.Outcome} (h : c.Joined)
    (hdo : TcpPools.SocketDoes c.alive c.side.pools o) (hf : Scene.AccountsFit R A c.scene) :
    (c.hear o).scene.pools = o.pools ∧ Scene.OnlyTold o.told c.scene (c.hear o).scene ∧
      (c.hear o).notes = c.notes ∧ (c.hear o).Joined ∧ ∀ i, (c.hear o).isBroken i = c.isBroken i := by
  have hthere : ∀ ref d, o.told = some (ref, d) → (c.scene.mind ref).isSome := fun ref d hd =>
    hdo.alive hd
  -- Either nobody is told, or one session has one task more.
  obtain ⟨side, hpools, ⟨heq, hnone⟩ | ⟨ref, d, s, htold, hs, heq⟩⟩ := hear_cases (c := c) o
  · have htold : o.told = none := by
      rw [Option.eq_none_iff_forall_ne_some]
      rintro ⟨ref, d⟩ hd
      have hsome := hthere ref d hd
      rw [show c.scene.mind ref = c.router? ref from rfl, hnone ref d hd] at hsome
      cases hsome
    rw [heq, htold]
    exact ⟨hpools, ⟨rfl, rfl, fun ref => (List.append_nil _).symm, nofun⟩, rfl, h, fun i => rfl⟩
  · have hi := (List.getElem?_eq_some_iff.mp hs).1
    generalize ht : ({ s.post (.router ref (.deliver d)) with side } : Session TcpPools) = t at heq
    have hjoined : t.Joined ref.session := ht ▸ (h.told hs hdo htold hf).shown side
    have hsame : ∀ {other : RouterRef}, other.session = ref.session →
        c.sessions[other.session]? = some s := fun hother => by rw [hother, hs]
    rw [heq]
    refine ⟨by rw [← ht]; exact hpools, ⟨funext fun other => ?_, funext fun other => propext ?_,
      fun other => ?_, hthere⟩, put_notes hs (by rw [← ht]; rfl), h.put hi hjoined, fun j => ?_⟩
    · refine (put_router? hi other).trans ?_
      split
      · next hother =>
        refine Eq.trans ?_ (router?_of_session (hsame hother)).symm
        rw [← ht]
        exact Session.router?_congr rfl rfl other
      · rfl
    · rw [put_born hi]
      split
      · next hother =>
        rw [born_of_session (hsame hother), ← ht]
        exact Iff.rfl
      · exact Iff.rfl
    · refine (put_toDo hi other).trans ?_
      rw [htold, toldTo]
      split
      · next hother =>
        rw [show c.scene.toDo other = s.toDo other from toDo_of_session (hsame hother), ← ht]
        exact Session.toDo_post s other ref [.deliver d]
      · next hother =>
        rw [if_neg (ne_of_apply_ne RouterRef.session (Ne.symm hother)), List.append_nil]
        rfl
    · rw [put_isBroken hi]
      split
      · next heq =>
        rw [isBroken_of_session (heq ▸ hs), ← ht]
        rfl
      · rfl

theorem Joined.socket {o : TcpPools.Outcome} (h : c.Joined)
    (hdo : TcpPools.SocketDoes c.alive c.side.pools o) (hf : Scene.AccountsFit R A c.scene) :
    Progress R [] ⟨c, none, c.hear o⟩ := by
  obtain ⟨hpools, hheard, hnotes, hjoined, hbroken⟩ := h.hears hdo hf
  refine ⟨hheard.advance hdo hpools fun ref => ?_, .none hnotes, hjoined,
    fun i hi => (hbroken i).trans hi, nofun⟩
  intro r e hr he
  obtain ⟨s, hs, hrouter⟩ := Option.bind_eq_some_iff.mp hr
  obtain ⟨past, hcourse⟩ := (h.2 _ s hs).course rfl
  exact hcourse.waitsHoldsOrOver r e hrouter he

/-- A client that connects has done nothing yet. -/
theorem Joined.opened (h : c.Joined) (plan : Plan) (flags : Flags) (stats : ListenerStats)
    (clock : Clock) : Progress R [] ⟨c, none, c.incur (.opened plan flags stats clock)⟩ := by
  generalize hs : Session.opened c.sessions.length plan flags c.source c.side stats clock = s
  have hincur : c.incur (.opened plan flags stats clock) = { c with sessions := c.sessions ++ [s] } := by
    rw [← hs]
    rfl
  -- The new session stands behind all others, and nothing was known of its number.
  have hlook : ∀ j : Nat, (c.sessions ++ [s])[j]? = c.sessions[j]? ∨
      (j = c.sessions.length ∧ (c.sessions ++ [s])[j]? = some s ∧ c.sessions[j]? = none) := by
    intro j
    rcases Nat.lt_trichotomy j c.sessions.length with hlt | rfl | hgt
    · exact Or.inl (List.getElem?_append_left hlt)
    · exact Or.inr ⟨rfl, List.getElem?_concat_length, List.getElem?_eq_none (Nat.le_refl _)⟩
    · refine Or.inl ?_
      rw [List.getElem?_eq_none (Nat.le_of_lt hgt), List.getElem?_eq_none]
      rwa [List.length_append, List.length_singleton]
  have hjoined : s.Joined c.sessions.length := by
    rw [← hs]
    refine ⟨⟨rfl, h.1, ?_, fun ref _ => rfl⟩, Session.opened_streamsInOrder ..⟩
    rintro ⟨number, stream, slot⟩ rfl
    exact ⟨[], Session.opened_onCourse ..⟩
  have hblank : ∀ ref, s.router? ref = none ∧ s.toDo ref = [] ∧ s.nextId = 0 := by
    intro ref
    rw [← hs]
    refine ⟨?_, rfl, rfl⟩
    unfold Session.router?
    split
    · rfl
    · rfl
  rw [hincur]
  refine ⟨.idle nofun ?_, .none ?_, ⟨h.1, fun j t ht => ?_⟩, fun j hj => ?_, nofun⟩
  · refine Scene.ext (funext fun ref => ?_) (funext fun ref => ?_) (funext fun ref => propext ?_) rfl
    · show ((c.sessions ++ [s])[ref.session]?).bind _ = (c.sessions[ref.session]?).bind _
      obtain heq | ⟨-, hnew, hold⟩ := hlook ref.session
      · rw [heq]
      · rw [hnew, hold]
        exact (hblank ref).1
    · show (((c.sessions ++ [s])[ref.session]?).map _).getD [] =
        ((c.sessions[ref.session]?).map _).getD []
      obtain heq | ⟨-, hnew, hold⟩ := hlook ref.session
      · rw [heq]
      · rw [hnew, hold]
        exact (hblank ref).2.1
    · show (∃ t, (c.sessions ++ [s])[ref.session]? = some t ∧ _) ↔
        ∃ t, c.sessions[ref.session]? = some t ∧ _
      obtain heq | ⟨-, hnew, hold⟩ := hlook ref.session
      · rw [heq]
      · simp [hnew, hold, (hblank ref).2.2]
  · show (c.sessions ++ [s]).flatMap _ = _
    rw [List.flatMap_append, ← hs]
    exact List.append_nil _
  · obtain heq | ⟨rfl, hnew, -⟩ := hlook j
    · exact h.2 j t (heq ▸ ht)
    · exact Option.some.inj (hnew.symm.trans ht) ▸ hjoined
  · show ((c.sessions ++ [s])[j]?).any _ = true
    change (c.sessions[j]?).any _ = true at hj
    obtain heq | ⟨-, -, hold⟩ := hlook j
    · rwa [heq]
    · rw [hold] at hj
      cases hj

/-- Every step of work is progress, and only where an incident begins do octets come to routers. -/
theorem Joined.workSteps (h : c.Joined) (hf : Scene.AccountsFit R A c.scene) {e : Incident}
    (he : c.allows e = true)
    (hR : ∀ ref r, Routed (c.actsIn ref.session e) ref r → R ref r) :
    ∀ x ∈ c.workStepsIn e, x.before.Joined →
      ∃ told, Progress R told x ∧ (x.before = c ∨ Scene.FeedsNobody R x.before.scene x.after.scene) := by
  have hone : ∀ {c' : Crowd TcpPools}, Progress R [] ⟨c, none, c'⟩ →
      ∀ x ∈ [(⟨c, none, c'⟩ : WorkStep (Crowd TcpPools))], x.before.Joined →
        ∃ told, Progress R told x ∧ (x.before = c ∨ Scene.FeedsNobody R x.before.scene x.after.scene) := by
    intro c' hy x hx _
    obtain rfl := List.mem_singleton.mp hx
    exact ⟨[], hy, Or.inl rfl⟩
  cases e with
  | happened i op =>
    intro x hx hbefore
    obtain ⟨told, hp, hfeeds⟩ := h.happened he (fun ref r href hr => hR ref r (href ▸ hr)) x hx hbefore
    exact ⟨told, hp, Or.inr hfeeds⟩
  | opened plan flags stats clock => exact hone (h.opened plan flags stats clock)
  | renewed clusters => exact hone ⟨.idle nofun rfl, .none rfl, h, fun i hi => hi, nofun⟩
  | connected handle result => exact hone (h.socket (.connected handle result) hf)
  | hostData link octets => exact hone (h.socket (.data link octets) hf)
  | hostClosed link event => exact hone (h.socket (.closed link event) hf)

end Crowd

end RpcProxy

import RpcProxy.Pool.Scripted
import RpcProxy.Proofs.Session.StreamsInFlight
import RpcProxy.Proofs.Session.ConnectionHolders

/-!
# The gauges of hosts among all sessions

A `Crowd` is any number of sessions that share their pools and the gauges of hosts. At any time one
of them does something, a client connects, or the pools change by themselves. Whatever the order,
gauges are exact (`Crowd.gauges_exact`): each shows how many routers hold a connection that a pool
has given them for its host, above what it showed at first. So all are back there once every stream
is over.

Gauges are at zero at first, but that is not used. A gauge at zero does not show that it was moved
down once too often; one that stood higher would. As gauges are exact wherever they start, none is
ever moved down for a router that is not counted in it.

The session that does something is compared with all others, which hold what they held. What a gauge
shows is therefore split into what stands there for the others (`Crowd.others`) and the holders of
this one session, and the work of the session is followed with the first part fixed. That the others
do hold the same is not obvious, since a session can be told something by a pool at any time; but it
takes that up only when it is at work itself.

All that is asked of pools is that they answer a router once that has to wait (`Crowd.isFair`). And
a gauge shows numbers below `2 ^ 64` only, so there is a limit to the filters at a time
(`Crowd.hasRoom`).
-/

set_option autoImplicit false

namespace RpcProxy

theorem length_flatMap_set {α β : Type} {l : List α} {i : Nat} {b : α} (h : l[i]? = some b)
    (f : α → List β) (a : α) :
    ((l.set i a).flatMap f).length = ((l.eraseIdx i).flatMap f).length + (f a).length := by
  induction l generalizing i with
  | nil => cases h
  | cons c rest ih =>
    cases i with
    | zero =>
      rw [List.set_cons_zero, List.eraseIdx_cons_zero, List.flatMap_cons, List.length_append,
        Nat.add_comm]
    | succ i =>
      rw [List.set_cons_succ, List.eraseIdx_cons_succ, List.flatMap_cons, List.flatMap_cons,
        List.length_append, List.length_append, ih h, Nat.add_assoc]

namespace Session

variable {σ : Type} {others : HostRef → Nat} {s s' : Session σ} {ref : RouterRef}
  {R : RouterRef → Request → Prop} {D : Prop} {m ms : List (Session σ × Task)}

def RoutersOnCourse (s : Session σ) : Prop := ∀ ref, ref.session = s.number → ∃ past, OnCourse ref past s

theorem RoutersOnCourse.moves (hc : s.RoutersOnCourse) (hm : Moves R D ms s s') : s'.RoutersOnCourse := by
  intro ref href
  obtain ⟨past, hcourse⟩ := hc ref (href.trans hm.number)
  exact ⟨_, hcourse.moves hm⟩

/-- A task is taken up where the move begins, and nothing has happened there but that it was. -/
theorem Move.moment (hm : Move R D m s s') {x : Session σ × Task} (hx : x ∈ m) :
    x.1 = s ∨ ∃ rest, x.1 = s.leave rest := by
  cases hm with
  | wrote | popped | delivered => exact Or.inr ⟨_, by rw [List.mem_singleton.mp hx]⟩
  | noted => exact Or.inl (by rw [List.mem_singleton.mp hx])
  | aside | began | passed | refused | engaged | completed | destroyed | dropped => cases hx

theorem GaugesCount.leave (h : GaugesCount others s) (hr : s.Ranked) (rest : List Task) :
    GaugesCount others (s.leave rest) :=
  h.same hr ((leave_proceeds s rest).ranked hr) (fun _ => rfl) fun _ => rfl

/-- Gauges show who holds connections all the way through a run of moves. -/
theorem Moves.gaugesCount (hm : Moves R D ms s s') (hc : s.RoutersOnCourse) (h : GaugesCount others s)
    (hr : s.Ranked)
    (hroom : ∀ host, others host + s.filters.length +
      (s'.nextId - s.nextId) * s.plan.parts.length < UInt64.size) :
    GaugesCount others s' ∧ ∀ x ∈ ms, x.1.Ranked ∧ GaugesCount others x.1 := by
  induction hm with
  | refl s => exact ⟨h, fun x hx => nomatch hx⟩
  | @snoc s₁ s₂ s₃ ms m h₁ h₂ ih =>
    have hfirst := h₁.proceeds
    have hall := (h₁.snoc h₂).proceeds
    -- Streams only ever begin, so there is room at every moment on the way if there is at its end.
    have hsteps : ∀ {t : Session σ}, Proceeds s₁ t → t.nextId ≤ s₃.nextId → ∀ host,
        others host + t.filters.length < UInt64.size := by
      intro t ht hle host
      have hgrown := ht.filters
      have hbelow := Nat.mul_le_mul_right s₁.plan.parts.length hle
      have hspace := hroom host
      rw [Nat.sub_mul] at hspace
      omega
    obtain ⟨hthen, hbefore⟩ := ih hc h hr fun host => by
      have hspace := hroom host
      have hle := Nat.mul_le_mul_right s₁.plan.parts.length
        (Nat.sub_le_sub_right h₂.proceeds.nextId s₁.nextId)
      omega
    have hr₂ := hfirst.ranked hr
    refine ⟨h₂.gaugesCount (hc.moves h₁) hthen hr₂ (hsteps hfirst h₂.proceeds.nextId)
      (hsteps hall (Nat.le_refl _)), fun x hx => ?_⟩
    rcases List.mem_append.mp hx with hx | hx
    · exact hbefore x hx
    · obtain heq | ⟨rest, heq⟩ := h₂.moment hx
      · exact heq ▸ ⟨hr₂, hthen⟩
      · exact heq ▸ ⟨(leave_proceeds s₂ rest).ranked hr₂, hthen.leave hr₂ rest⟩

/-- What a router holds was given to it. -/
theorem Move.given (hm : Move R D m s s') (hc : s.RoutersOnCourse) {link : LinkId} {host : HostRef}
    (hx : s'.hold? ref = some (link, host)) :
    s.hold? ref = some (link, host) ∨ s.source.Gives ref (done ref m) link host := by
  -- Whoever holds something is of this session.
  obtain ⟨past, hcourse⟩ : ∃ past, OnCourse ref past s := by
    refine hc ref ?_
    cases hr : s'.router? ref with
    | some r => exact (session_of_router? hr).trans (hm.number)
    | none =>
      rw [hold?_of_gone hr] at hx
      cases hx
  cases hm.oneRouterActs with
  | unmoved _ _ _ _ _ hminds => exact Or.inl ((hold?_congr (hminds ref)).symm.trans hx)
  | began _ hb => exact Or.inl ((hb.hold? ref).symm.trans hx)
  | dropped _ _ id heq =>
    subst heq
    rcases (hcourse.dropped_router? id).2 with hsame | hgone
    · exact Or.inl ((hold?_congr hsame).symm.trans hx)
    · rw [hold?_of_gone hgone] at hx
      cases hx
  | acted other ha =>
    by_cases hne : ref = other
    · subst hne
      obtain ⟨-, -, -, -, -, -, hregrips⟩ := ha.share past hcourse
      exact hregrips.given link host hx
    · exact Or.inl ((hold?_congr (ha.minds ref (Ne.symm hne))).symm.trans hx)

theorem Moves.given (hm : Moves R D ms s s') (hc : s.RoutersOnCourse) {link : LinkId} {host : HostRef}
    (hx : s'.hold? ref = some (link, host)) :
    s.hold? ref = some (link, host) ∨ s.source.Gives ref (done ref ms) link host := by
  induction hm with
  | refl s => exact Or.inl hx
  | @snoc s₁ s₂ s₃ ms m h₁ h₂ ih =>
    rw [done, List.filterMap_append]
    rcases h₂.given (hc.moves h₁) hx with hx | hgiven
    · refine (ih hc hx).imp_right fun hgiven => ?_
      exact hgiven.imp_left fun hmem => List.mem_append_left _ hmem
    · rw [h₁.source] at hgiven
      exact Or.inr (hgiven.imp_left fun hmem => List.mem_append_right _ hmem)

/-! ## Steps -/

/-- Whether something that happens to a session tells no router for a second time that it may go on
with its call. A second connection would replace the first one without anybody letting go of it. -/
def fair (s : Session σ) : SessionOp → Bool
  | .deliver ref d => !d.isAnswer || decide (ref.session ≠ s.number) || s.mayBeAnswered ref
  | _ => true

/-- What a session is like among others, whatever it was told: its streams are numbered apart, and
in order. -/
structure Regular (s : Session σ) : Prop where
  ranked : s.Ranked
  orderly : Orderly s.plan .span s

theorem Orderly.own {plan : Plan} {f : EndNotice} (h : Orderly plan f s) : Orderly s.plan f s := by
  rw [h.settled]
  exact h

theorem step_frame (s : Session σ) (op : SessionOp) :
    (s.step op).number = s.number ∧ (s.step op).source = s.source := by
  by_cases hdeliver : ∃ ref d, op = .deliver ref d
  · obtain ⟨ref, d, rfl⟩ := hdeliver
    exact ⟨rfl, rfl⟩
  · have hm := step_moves s fun ref d he => hdeliver ⟨ref, d, he⟩
    exact ⟨hm.number, hm.source⟩

theorem RoutersOnCourse.step (hc : s.RoutersOnCourse) {op : SessionOp} (hop : s.fair op = true) :
    (s.step op).RoutersOnCourse := by
  intro ref href
  rw [(step_frame s op).1] at href
  obtain ⟨past, hcourse⟩ := hc ref href
  refine ⟨_, hcourse.step op fun d heq hans => ?_⟩
  subst heq
  simpa [fair, hans, href] using hop

theorem Regular.step (h : s.Regular) (op : SessionOp) : (s.step op).Regular where
  ranked := by
    by_cases hdeliver : ∃ ref d, op = .deliver ref d
    · obtain ⟨ref, d, rfl⟩ := hdeliver
      exact ⟨h.ranked.nodup, h.ranked.bound⟩
    · exact (step_moves s fun ref d he => hdeliver ⟨ref, d, he⟩).proceeds.ranked h.ranked
  orderly := Orderly.own (h.orderly.step (fun p _ => withholds_span p) op).1

/-- Whatever happens to a session, gauges show who holds connections all the way. -/
theorem RoutersOnCourse.gaugesCount (hc : s.RoutersOnCourse) (h : GaugesCount others s) (hr : s.Ranked)
    {op : SessionOp}
    (hroom : ∀ host, others host + s.filters.length +
      ((s.step op).nextId - s.nextId) * s.plan.parts.length < UInt64.size) :
    GaugesCount others (s.step op) ∧ ∀ x ∈ s.takenIn op, x.1.Ranked ∧ GaugesCount others x.1 := by
  by_cases hdeliver : ∃ ref d, op = .deliver ref d
  · obtain ⟨ref, d, rfl⟩ := hdeliver
    refine ⟨h.same hr ⟨hr.nodup, hr.bound⟩ (fun _ => rfl) fun _ => rfl, fun x hx => nomatch hx⟩
  · exact (step_moves s fun ref d he => hdeliver ⟨ref, d, he⟩).gaugesCount hc h hr hroom

theorem RoutersOnCourse.given (hc : s.RoutersOnCourse) {op : SessionOp} {link : LinkId} {host : HostRef}
    (hx : (s.step op).hold? ref = some (link, host)) :
    s.hold? ref = some (link, host) ∨ s.source.Gives ref (done ref (s.takenIn op)) link host := by
  by_cases hdeliver : ∃ ref d, op = .deliver ref d
  · obtain ⟨other, d, rfl⟩ := hdeliver
    exact Or.inl hx
  · exact (step_moves s fun ref d he => hdeliver ⟨ref, d, he⟩).given hc hx

/-- A session without streams that are not over holds nothing. -/
theorem Regular.holders_eq_nil (h : s.Regular) (hover : ∀ x ∈ s.streams, x.isCompleted = true)
    (host : HostRef) : s.holders host = [] := by
  have hrefs : s.refs = [] := by
    refine List.flatMap_eq_nil_iff.mpr fun x hx => ?_
    have hfound : s.stream? x.id = some x := by
      cases hy : s.stream? x.id with
      | none => exact absurd (List.find?_eq_none.mp hy x hx) (by simp)
      | some y =>
        exact congrArg some (List.inj_on_of_nodup_map h.ranked.nodup (List.mem_of_find?_eq_some hy) hx
          (stream?_id hy))
    have hgone := ((h.orderly.sound x.id x hfound).departed (hover x hx)).2
    rw [List.map_eq_nil_iff]
    exact List.filter_eq_nil_iff.mpr fun i _ => by simp [hgone i]
  unfold holders
  rw [hrefs]
  rfl

end Session

/-! ## Crowds -/

/-- Sessions that share their pools and the gauges of hosts. -/
structure Crowd (σ : Type) where
  /-- Where connections to hosts come from. -/
  source : PoolSource σ
  /-- What is shared on the side of the hosts. -/
  side : HostSide σ
  /-- The sessions, each with its number as its place. -/
  sessions : List (Session σ) := []

namespace Crowd

variable {σ : Type}

/-- Something that happens in a crowd. -/
inductive Event (σ : Type) where
  /-- A client connects. -/
  | opened (plan : Plan) (flags : Flags) (stats : ListenerStats) (clock : Clock)
  | happened (i : Nat) (op : SessionOp)
  | changed (pools : σ)

/-- The session at a place, with what it shares put in. Between two of its incidents, a session has
an old copy of what is shared, which nobody reads. -/
def session? (c : Crowd σ) (i : Nat) : Option (Session σ) :=
  (c.sessions[i]?).map fun s => { s with side := c.side }

/-- Puts a session back, and what it shares where it belongs. -/
def put (c : Crowd σ) (i : Nat) (s : Session σ) : Crowd σ :=
  { c with side := s.side, sessions := c.sessions.set i s }

/-- Something happens. -/
def step (c : Crowd σ) : Event σ → Crowd σ
  | .opened plan flags stats clock =>
    { c with sessions := c.sessions ++
        [Session.opened c.sessions.length plan flags c.source c.side stats clock] }
  | .happened i op =>
    match c.session? i with
    | none => c
    | some s => c.put i (s.step op)
  | .changed pools => { c with side := { c.side with pools } }

/-- The crowd after some things have happened. -/
def after (c : Crowd σ) (es : List (Event σ)) : Crowd σ := es.foldl step c

/-- The tasks that are taken up while something happens, each with the crowd at that moment. -/
def momentsIn (c : Crowd σ) : Event σ → List (Crowd σ × Task)
  | .happened i op =>
    match c.session? i with
    | none => []
    | some s => (s.takenIn op).map fun m => (c.put i m.1, m.2)
  | .opened _ _ _ _ | .changed _ => []

/-- The tasks that are taken up while some things happen. -/
def moments (c : Crowd σ) : List (Event σ) → List (Crowd σ × Task)
  | [] => []
  | e :: es => c.momentsIn e ++ (c.step e).moments es

/-- The routers that hold a connection to a host. -/
def holders (c : Crowd σ) (host : HostRef) : List RouterRef := c.sessions.flatMap (·.holders host)

def filters (c : Crowd σ) : List Slot := c.sessions.flatMap (·.filters)

/-- Whether the pools that tell a router something may do so: a router is answered once at most, and
only if it waits. -/
def isFair (c : Crowd σ) : Event σ → Bool
  | .happened i op => (c.session? i).all (·.fair op)
  | .opened _ _ _ _ | .changed _ => true

/-- Whether filters stay below a limit: those that are there, and those of the streams that begin.
Each router holds one connection at most, so the filters bound what a gauge can have to show. -/
def hasRoom (limit : Nat) (c : Crowd σ) : Event σ → Bool
  | .happened i op =>
    (c.session? i).all fun s =>
      c.filters.length + ((s.step op).nextId - s.nextId) * s.plan.parts.length < limit
  | .opened _ _ _ _ | .changed _ => true

/-- Whether everything that happens is fair, and finds room. -/
def admits (limit : Nat) (c : Crowd σ) : List (Event σ) → Bool
  | [] => true
  | e :: es => c.isFair e && c.hasRoom limit e && (c.step e).admits limit es

/-- Gauges of hosts are exact, if they showed `base` at first. -/
structure Exact (base : HostRef → Nat) (c : Crowd σ) : Prop where
  /-- A gauge shows how many routers hold a connection to its host. -/
  shows : ∀ host g, c.side.gauge? host = some g → g.value.toNat = base host + (c.holders host).length
  /-- As long as anybody does, one down is one less. -/
  unclipped : ∀ host g, c.side.gauge? host = some g → c.holders host ≠ [] →
    g.dec.value.toNat + 1 = g.value.toNat
  /-- Once all streams are over, it is back where it was. -/
  ended : (∀ s ∈ c.sessions, ∀ x ∈ s.streams, x.isCompleted = true) →
    ∀ host g, c.side.gauge? host = some g → g.value.toNat = base host

/-- Gauges show who holds connections, and sessions are as they should be. It holds in the middle of
the work of a session as well, where routers need not be on course. -/
structure Sound (base : HostRef → Nat) (c : Crowd σ) : Prop where
  shows : ∀ host g, c.side.gauge? host = some g → g.value.toNat = base host + (c.holders host).length
  regular : ∀ s ∈ c.sessions, s.Regular

/-- Moreover, all routers are on course. This holds between two incidents. -/
structure Steady (base : HostRef → Nat) (c : Crowd σ) : Prop extends Sound base c where
  numbered : ∀ (i : Nat) (s : Session σ), c.sessions[i]? = some s → s.number = i ∧ s.source = c.source
  coursing : ∀ s ∈ c.sessions, s.RoutersOnCourse

section

variable {base : HostRef → Nat} {limit : Nat} {c : Crowd σ}

theorem Sound.exact (h : c.Sound base) : c.Exact base where
  shows := h.shows
  unclipped host g hg hne := by
    refine Gauge.dec_toNat ?_
    rw [h.shows host g hg]
    exact Nat.add_pos_right _ (List.length_pos_iff.mpr hne)
  ended hover host g hg := by
    have hnone : c.holders host = [] :=
      List.flatMap_eq_nil_iff.mpr fun s hs => (h.regular s hs).holders_eq_nil (hover s hs) host
    rw [h.shows host g hg, hnone]
    rfl

/-! ### One step -/

/-- What the gauge of a host shows without one of the sessions. -/
def others (base : HostRef → Nat) (c : Crowd σ) (i : Nat) (host : HostRef) : Nat :=
  base host + ((c.sessions.eraseIdx i).flatMap (·.holders host)).length

theorem length_split {i : Nat} {s : Session σ} (hs : c.sessions[i]? = some s) {β : Type}
    (f : Session σ → List β) :
    (c.sessions.flatMap f).length = ((c.sessions.eraseIdx i).flatMap f).length + (f s).length := by
  obtain ⟨hlt, rfl⟩ := List.getElem?_eq_some_iff.mp hs
  rw [← length_flatMap_set hs f c.sessions[i], List.set_getElem_self]

theorem Sound.put {i : Nat} {s s' : Session σ} (h : c.Sound base) (hs : c.sessions[i]? = some s)
    (hregular : s'.Regular) (hgauges : Session.GaugesCount (c.others base i) s') :
    (c.put i s').Sound base where
  shows host g hg := by
    rw [hgauges host g hg, others, Nat.add_assoc]
    exact congrArg _ (length_flatMap_set hs _ s').symm
  regular t ht := by
    rcases List.mem_or_eq_of_mem_set ht with ht | rfl
    · exact h.regular t ht
    · exact hregular

theorem Steady.shown {i : Nat} {s : Session σ} (h : c.Steady base) (hs : c.session? i = some s) :
    ∃ s₀, c.sessions[i]? = some s₀ ∧ s.number = i ∧ s.source = c.source ∧ s.RoutersOnCourse ∧ s.Regular ∧
      Session.GaugesCount (c.others base i) s ∧ ∀ ref, s.hold? ref = s₀.hold? ref := by
  obtain ⟨s₀, hs₀, rfl⟩ := Option.map_eq_some_iff.mp hs
  have hmem := List.mem_of_getElem? hs₀
  obtain ⟨hnumber, hsource⟩ := h.numbered i s₀ hs₀
  have hregular := h.regular s₀ hmem
  refine ⟨s₀, hs₀, hnumber, hsource, fun ref href => ?_, ⟨⟨hregular.ranked.nodup, hregular.ranked.bound⟩,
    hregular.orderly.noEnds (fun p _ => withholds_span p) (.same rfl rfl rfl rfl (fun h => h) rfl rfl)⟩,
    fun host g hg => ?_, fun _ => rfl⟩
  · obtain ⟨past, hcourse⟩ := h.coursing s₀ hmem ref href
    exact ⟨past, hcourse.elsewhere ⟨rfl, rfl, rfl, fun _ h => h,
      fun y hy => ⟨y, hy, rfl, rfl, rfl, rfl, Or.inr rfl, rfl⟩⟩⟩
  · rw [h.shows host g hg, others, Nat.add_assoc]
    exact congrArg _ (length_split hs₀ _)

theorem length_holders_le (sessions : List (Session σ)) (host : HostRef) :
    (sessions.flatMap (·.holders host)).length ≤ (sessions.flatMap (·.filters)).length := by
  induction sessions with
  | nil => exact Nat.le_refl 0
  | cons s rest ih =>
    rw [List.flatMap_cons, List.flatMap_cons, List.length_append, List.length_append]
    exact Nat.add_le_add (s.length_holders_le host) ih

/-- Something happens to one session: gauges are exact whenever it takes up a task, and
afterwards. -/
theorem Steady.happened {i : Nat} {op : SessionOp} {s : Session σ} (h : c.Steady base)
    (hs : c.session? i = some s) (hfair : s.fair op = true)
    (hroom : ∀ host, base host + (c.filters.length +
      ((s.step op).nextId - s.nextId) * s.plan.parts.length) < UInt64.size) :
    (c.put i (s.step op)).Steady base ∧ ∀ m ∈ s.takenIn op, (c.put i m.1).Sound base := by
  obtain ⟨s₀, hs₀, hnumber, hsource, hcoursing, hregular, hgauges, -⟩ := h.shown hs
  -- What the others hold is bounded by their filters, and the limit is for the filters of all.
  have hspace : ∀ host, c.others base i host + s.filters.length +
      ((s.step op).nextId - s.nextId) * s.plan.parts.length < UInt64.size := by
    intro host
    have hroom := hroom host
    have hothers := length_holders_le (c.sessions.eraseIdx i) host
    have hall := length_split hs₀ (·.filters)
    have hsame : s.filters = s₀.filters := by
      obtain ⟨_, hs₁, rfl⟩ := Option.map_eq_some_iff.mp hs
      rw [← Option.some.inj (hs₀.symm.trans hs₁)]
      rfl
    unfold others
    rw [hsame]
    unfold filters at hroom
    omega
  obtain ⟨hthen, hmoments⟩ := hcoursing.gaugesCount hgauges hregular.ranked hspace
  refine ⟨⟨h.toSound.put hs₀ (hregular.step op) hthen, ?_, ?_⟩, fun m hm => ?_⟩
  · intro j t ht
    by_cases hj : i = j
    · subst hj
      obtain rfl : s.step op = t := by
        have hset : (c.put i (s.step op)).sessions[i]? = some (s.step op) :=
          List.getElem?_set_self (List.getElem?_eq_some_iff.mp hs₀).1
        exact Option.some.inj (hset.symm.trans ht)
      exact ⟨(Session.step_frame s op).1.trans hnumber, (Session.step_frame s op).2.trans hsource⟩
    · have hsame : (c.put i (s.step op)).sessions[j]? = c.sessions[j]? := List.getElem?_set_ne hj
      exact h.numbered j t (hsame ▸ ht)
  · intro t ht
    rcases List.mem_or_eq_of_mem_set ht with ht | rfl
    · exact h.coursing t ht
    · exact hcoursing.step hfair
  · obtain ⟨hranked, htaken⟩ := hmoments m hm
    refine h.toSound.put hs₀ ⟨hranked, ?_⟩ htaken
    exact (Session.LifeSteps.orderly hregular.orderly (fun p _ => withholds_span p)
      (Session.takenIn_lifeSteps hm)).1.own

theorem Steady.opened (h : c.Steady base) (plan : Plan) (flags : Flags) (stats : ListenerStats)
    (clock : Clock) : (c.step (.opened plan flags stats clock)).Steady base := by
  -- The new session holds nothing, and stands behind all others.
  have hmem : ∀ {s : Session σ}, s ∈ (c.step (.opened plan flags stats clock)).sessions →
      s ∈ c.sessions ∨
        s = Session.opened c.sessions.length plan flags c.source c.side stats clock := by
    intro s hs
    rcases List.mem_append.mp hs with hs | hs
    · exact Or.inl hs
    · exact Or.inr (List.mem_singleton.mp hs)
  refine ⟨⟨fun host g hg => ?_, fun s hs => ?_⟩, fun i s hs => ?_, fun s hs => ?_⟩
  · rw [h.shows host g hg]
    show _ = base host + ((c.sessions ++ [_]).flatMap _).length
    rw [List.flatMap_append, List.length_append]
    rfl
  · rcases hmem hs with hs | rfl
    · exact h.regular s hs
    · exact ⟨⟨List.nodup_nil, fun x hx => nomatch hx⟩, Session.opened_orderly ..⟩
  · have hs : (c.sessions ++ [Session.opened c.sessions.length plan flags c.source c.side stats
      clock])[i]? = some s := hs
    by_cases hlt : i < c.sessions.length
    · rw [List.getElem?_append_left hlt] at hs
      exact h.numbered i s hs
    · have hi := (List.getElem?_eq_some_iff.mp hs).1
      rw [List.length_append, List.length_singleton] at hi
      obtain rfl : i = c.sessions.length := Nat.le_antisymm (Nat.le_of_lt_succ hi) (Nat.not_lt.mp hlt)
      rw [← Option.some.inj (List.getElem?_concat_length.symm.trans hs)]
      exact ⟨rfl, rfl⟩
  · rcases hmem hs with hs | rfl
    · exact h.coursing s hs
    · rintro ⟨number, stream, slot⟩ rfl
      exact ⟨[], Session.opened_onCourse ..⟩

theorem Steady.step (h : c.Steady base) (hlimit : ∀ host, base host + limit ≤ UInt64.size)
    (e : Event σ) (hfair : c.isFair e = true) (hroom : c.hasRoom limit e = true) :
    (c.step e).Steady base ∧ ∀ m ∈ c.momentsIn e, m.1.Sound base := by
  cases e with
  | opened plan flags stats clock =>
    exact ⟨h.opened plan flags stats clock, fun m hm => nomatch hm⟩
  | changed pools =>
    exact ⟨⟨⟨h.shows, h.regular⟩, h.numbered, h.coursing⟩, fun m hm => nomatch hm⟩
  | happened i op =>
    unfold isFair at hfair
    unfold hasRoom at hroom
    unfold Crowd.step momentsIn
    dsimp only at hfair hroom ⊢
    cases hs : c.session? i with
    | none => exact ⟨h, fun m hm => nomatch hm⟩
    | some s =>
      rw [hs, Option.all_some] at hfair hroom
      obtain ⟨hthen, hmoments⟩ := h.happened hs hfair fun host =>
        Nat.lt_of_lt_of_le (Nat.add_lt_add_left (of_decide_eq_true hroom) _) (hlimit host)
      refine ⟨hthen, fun m hm => ?_⟩
      obtain ⟨x, hx, rfl⟩ := List.mem_map.mp hm
      exact hmoments x hx

/-- A pool gives a router a connection to a host: it says so while some things happen, or it does
when it is asked. -/
def Gives (source : PoolSource σ) (moments : List (Crowd σ × Task)) (ref : RouterRef) (link : LinkId)
    (host : HostRef) : Prop :=
  (∃ m ∈ moments, m.2 = .router ref (.deliver (.ready link host))) ∨
    ∃ cluster asked p, (source.ask cluster asked ref p).1 = .ready link host

/-- Where the connection comes from that a router holds. -/
theorem Steady.given {e : Event σ} (h : c.Steady base) {s' : Session σ}
    (hs' : s' ∈ (c.step e).sessions) {ref : RouterRef} {link : LinkId} {host : HostRef}
    (hx : s'.hold? ref = some (link, host)) :
    (∃ s ∈ c.sessions, s.hold? ref = some (link, host)) ∨
      Gives c.source (c.momentsIn e) ref link host := by
  cases e with
  | changed pools => exact Or.inl ⟨s', hs', hx⟩
  | opened plan flags stats clock =>
    rcases List.mem_append.mp hs' with hs' | hs'
    · exact Or.inl ⟨s', hs', hx⟩
    · rw [List.mem_singleton.mp hs', Session.hold?_of_gone] at hx
      · cases hx
      · unfold Session.router?
        split <;> rfl
  | happened i op =>
    unfold Crowd.step at hs'
    unfold momentsIn
    dsimp only at hs' ⊢
    cases hs : c.session? i with
    | none =>
      rw [hs] at hs'
      exact Or.inl ⟨s', hs', hx⟩
    | some s =>
      rw [hs] at hs'
      rcases List.mem_or_eq_of_mem_set hs' with hs' | rfl
      · exact Or.inl ⟨s', hs', hx⟩
      -- The session had it before, or got it in a moment of this event.
      · obtain ⟨s₀, hs₀, -, hsource, hcoursing, -, -, hholds⟩ := h.shown hs
        rcases hcoursing.given hx with hx | hmem | hasked
        · exact Or.inl ⟨s₀, List.mem_of_getElem? hs₀, (hholds ref).symm.trans hx⟩
        · obtain ⟨m, hm, hop⟩ := List.mem_filterMap.mp hmem
          exact Or.inr (Or.inl ⟨_, List.mem_map.mpr ⟨m, hm, rfl⟩, Task.eq_router_of_opOf hop⟩)
        · exact Or.inr (Or.inr (hsource ▸ hasked))

/-! ### Runs -/

theorem step_source (c : Crowd σ) (e : Event σ) : (c.step e).source = c.source := by
  cases e with
  | opened => rfl
  | changed => rfl
  | happened i op =>
    unfold Crowd.step
    dsimp only
    split
    · rfl
    · rfl

theorem Steady.after (h : c.Steady base) (hlimit : ∀ host, base host + limit ≤ UInt64.size)
    (es : List (Event σ)) (hes : c.admits limit es = true) :
    (c.after es).Steady base ∧ (∀ m ∈ c.moments es, m.1.Sound base) ∧
      ∀ s' ∈ (c.after es).sessions, ∀ ref link host, s'.hold? ref = some (link, host) →
        (∃ s ∈ c.sessions, s.hold? ref = some (link, host)) ∨
          Gives c.source (c.moments es) ref link host := by
  induction es generalizing c with
  | nil =>
    refine ⟨h, fun m hm => ?_, fun s' hs' ref link host hx => Or.inl ⟨s', hs', hx⟩⟩
    cases hm
  | cons e es ih =>
    unfold admits at hes
    rw [Bool.and_eq_true, Bool.and_eq_true] at hes
    obtain ⟨hthen, hfirst⟩ := h.step hlimit e hes.1.1 hes.1.2
    obtain ⟨hsteady, hlater, hgiven⟩ := ih hthen hes.2
    unfold moments
    refine ⟨hsteady, fun m hm => ?_, fun s' hs' ref link host hx => ?_⟩
    · rcases List.mem_append.mp hm with hm | hm
      · exact hfirst m hm
      · exact hlater m hm
    · rcases hgiven s' hs' ref link host hx with ⟨s, hs, hx⟩ | ⟨m, hm, htask⟩ | hasked
      · exact (h.given hs hx).imp_right fun hgave => hgave.imp_left fun ⟨m, hm, htask⟩ =>
          ⟨m, List.mem_append_left _ hm, htask⟩
      · exact Or.inr (Or.inl ⟨m, List.mem_append_right _ hm, htask⟩)
      · rw [step_source] at hasked
        exact Or.inr (Or.inr hasked)

end

/-- Whatever happens among sessions, gauges of hosts are exact: afterwards, and whenever a session
takes up a task. And whoever holds a connection to a host has got it from a pool, for that host. -/
theorem gauges_exact (source : PoolSource σ) (side : HostSide σ) (base : HostRef → Nat) (limit : Nat)
    (hbase : ∀ host g, side.gauge? host = some g → g.value.toNat = base host)
    (hlimit : ∀ host, base host + limit ≤ UInt64.size) (es : List (Event σ))
    (hes : ({ source, side } : Crowd σ).admits limit es = true) :
    (({ source, side } : Crowd σ).after es).Exact base ∧
      (∀ m ∈ ({ source, side } : Crowd σ).moments es, m.1.Exact base) ∧
      ∀ s ∈ (({ source, side } : Crowd σ).after es).sessions, ∀ ref link host,
        s.hold? ref = some (link, host) →
          Gives source (({ source, side } : Crowd σ).moments es) ref link host := by
  have hfirst : ({ source, side } : Crowd σ).Steady base :=
    ⟨⟨hbase, fun s hs => (nomatch hs)⟩, fun i s hs => (nomatch i, hs), fun s hs => (nomatch hs)⟩
  obtain ⟨hthen, hmoments, hgiven⟩ := hfirst.after hlimit es hes
  refine ⟨hthen.exact, fun m hm => (hmoments m hm).exact, fun s hs ref link host hx => ?_⟩
  obtain ⟨_, hnone, -⟩ | hgave := hgiven s hs ref link host hx
  · cases hnone
  · exact hgave

/-- Two clients share a host. One has to wait for its connection, the other has one at once; then
both hold one, and one hangs up. -/
theorem gauges_exact_two_clients :
    let plan : Plan :=
      { label := "edge", routes := ⟨[({}, { name := "all", cluster := some "c" })]⟩,
        parts := [⟨.decoder, .router 0⟩] }
    let host : HostRef := { address := "h:1", cluster := "c" }
    let side : HostSide ScriptedPools :=
      { generations := [{ list := [{ config := { name := "c", hosts := ["h:1"] },
                                     hosts := [{ address := "h:1", cluster := "c" }] }] }],
        pools := { scripts := [.pending] } }
    let c : Crowd ScriptedPools := { source := ScriptedPools.source, side }
    let opened : Event ScriptedPools := .opened plan {} (.start "edge" 0) {}
    let asked : SessionOp := .request { service := "users", method := "get" }
    let both := [opened, opened, .happened 0 asked, .happened 0 .run, .happened 1 asked, .happened 1 .run,
      .happened 0 (.deliver { session := 0, stream := 0 } (.ready 0 host)), .happened 0 .run]
    let es := both ++ [.happened 0 (.event .remoteClose), .happened 0 .run]
    c.admits UInt64.size es = true ∧ (c.after es).Exact (fun _ => 0) ∧
      (c.after both).side.gauge? host = some ⟨2⟩ ∧
      (c.after es).side.gauge? host = some ⟨1⟩ ∧
      (c.after es).holders host = [{ session := 1, stream := 0 }] := by
  intro plan host side c opened asked both es
  have hes : c.admits UInt64.size es = true := by decide +kernel
  refine ⟨hes, ?_, by decide +kernel, by decide +kernel, by decide +kernel⟩
  -- Nothing was counted before, so what the gauges show is what the two clients hold.
  have hzero : ∀ cs ∈ side.generations, ∀ c ∈ cs.list, ∀ x ∈ c.hosts, x.active.value.toNat = 0 := by
    decide +kernel
  refine (gauges_exact ScriptedPools.source side (fun _ => 0) UInt64.size (fun host g hg => ?_)
    (fun _ => Nat.le_of_eq (Nat.zero_add _)) es hes).1
  obtain ⟨cs, hcs, c, hc, x, hx, rfl⟩ := HostSide.mem_of_gauge? hg
  exact hzero cs hcs c hc x hx

end Crowd

end RpcProxy

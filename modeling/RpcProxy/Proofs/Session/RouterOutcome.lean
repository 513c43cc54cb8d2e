import RpcProxy.Pool.Scripted
import RpcProxy.Proofs.Session.RouterWork

/-!
# One outcome for every routed request

A router asks its stream for what the client gets: a reply, or the end of the client's connection.
`OnCourse` is what holds of one router at every moment: what it has asked for and what it still has
to do add up. As long as its exchange waits for the pool or holds a connection, it has asked for
nothing; once the exchange is over, it has asked exactly once.

A router does not ask by a call. It posts a task, and by the time the task is taken up the router
may be gone. So an invariant of the router's state cannot count what was asked for, and neither can
one of the queue. What is counted is both together, the tasks that were taken up (`past`) and those
that wait (`toDo`): taking one up moves it from one list to the other and changes nothing
(`OnCourse.leave`), and only a router's own work adds to them.

The count is tied to how far the request has come. Before it has come to the router, nothing was
asked for; when it has and its route names a cluster, the router either has an exchange, whose phase
tells the count (`Exchange.Stands`), or has refused, which is an outcome at once (`Router.Follows`).

All that is asked of the pool is that it answers a request at most once (`answersOnce`), and only a
request that is waiting or has been taken back. Pools do so (`RpcProxy.Proofs.Pool.Answers`); here
they are whoever posts deliveries from outside, and their promise is a condition on the operations.
-/

set_option autoImplicit false

namespace RpcProxy

/-- What a task is to a router: something that it does, if the task is its own. -/
def Task.opOf (ref : RouterRef) : Task → Option RouterOp
  | .router other op => if other = ref then some op else none
  | .stream _ _ | .closed => none

theorem Task.eq_router_of_opOf {ref : RouterRef} {t : Task} {op : RouterOp} (h : t.opOf ref = some op) :
    t = .router ref op := by
  cases t with
  | router other own =>
    obtain ⟨rfl, hop⟩ := Option.ite_none_right_eq_some.mp h
    rw [Option.some.inj hop]
  | stream | closed => cases h

/-- Whether a pool answers a request for a connection. -/
def Delivery.isAnswer : Delivery → Bool
  | .ready _ _ | .failure _ _ => true
  | .data _ | .event _ => false

/-- Whether a router is told a pool's answer. -/
def RouterOp.isAnswer : RouterOp → Bool
  | .deliver d => d.isAnswer
  | .write | .ask _ => false

theorem RouterOp.isOwn.not_isAnswer {op : RouterOp} (h : op.isOwn) : op.isAnswer = false := by
  cases op with
  | write => rfl
  | ask op => rfl
  | deliver d => exact absurd h id

namespace Stream

/-- The request has come to the filter at a place. -/
def HasPassed (x : Stream) (slot : Nat) : Prop := slot ∈ x.decoders.take x.decoded

def NamesCluster (x : Stream) : Prop :=
  ∃ route name, x.route? = some route ∧ route.cluster = some name

theorem hasPassed_congr {x y : Stream} {slot : Nat} (hdec : y.decoders = x.decoders)
    (hcur : y.decoded = x.decoded) : y.HasPassed slot ↔ x.HasPassed slot := by
  unfold HasPassed
  rw [hdec, hcur]

theorem NamesCluster.congr {x y : Stream} (h : y.NamesCluster) (hroute : y.route = x.route) :
    x.NamesCluster := by
  obtain ⟨route, name, hfound, hname⟩ := h
  exact ⟨route, name, by rw [← hfound, Stream.route?, Stream.route?, hroute], hname⟩

theorem decoders_nodup (x : Stream) : x.decoders.Nodup := List.nodup_range.sublist List.filter_sublist

/-- A request comes to each filter once. -/
theorem not_hasPassed_of_next {x : Stream} {slot : Nat} (h : x.decoders[x.decoded]? = some slot) :
    ¬x.HasPassed slot := by
  intro hin
  obtain ⟨hlt, hget⟩ := List.getElem?_eq_some_iff.mp h
  have hnd := x.decoders_nodup
  rw [← List.take_append_drop x.decoded x.decoders, List.drop_eq_getElem_cons hlt, hget] at hnd
  have hdis := (List.nodup_append.mp hnd).2.2
  exact hdis slot hin slot List.mem_cons_self rfl

theorem hasPassed_succ {x y : Stream} {slot next : Nat} (hdec : y.decoders = x.decoders)
    (hcur : y.decoded = x.decoded + 1) (h : x.decoders[x.decoded]? = some next) :
    y.HasPassed slot ↔ x.HasPassed slot ∨ slot = next := by
  unfold HasPassed
  rw [hdec, hcur, List.take_add_one, h]
  simp

end Stream

/-- Where the exchange of a router stands, `n` being how often it has asked for what the client
gets. There is no fourth phase: an exchange that is there has asked its pool, and one that has let
go has asked for an outcome in the same step. -/
def Exchange.Stands (e : Exchange) (d : ReplyDecoder) (n : Nat) : Prop :=
  (e.Waiting ∧ n = 0) ∨ (e.Holding ∧ e.DecoderSound d ∧ n = 0) ∨ (e.Over ∧ n = 1)

/-- What a router has asked for fits how far its request has come. A router without an exchange has
not been met by its request, or has refused it, or has let it pass because its route names no
cluster; in the last case nothing is said, since then some other filter may have to answer. -/
def Router.Follows (r : Router) (x : Stream) (slot n : Nat) : Prop :=
  match r.exchange with
  | none => (¬x.HasPassed slot → n = 0) ∧ (x.HasPassed slot → x.NamesCluster → n = 1)
  | some e => x.HasPassed slot ∧ e.Stands r.decoder n

namespace Router

variable {r : Router} {x y : Stream} {slot n : Nat}

theorem follows_of_none (hr : r.exchange = none) : r.Follows x slot n ↔
    (¬x.HasPassed slot → n = 0) ∧ (x.HasPassed slot → x.NamesCluster → n = 1) := by
  rw [Follows, hr]

theorem follows_of_some {e : Exchange} (hr : r.exchange = some e) :
    r.Follows x slot n ↔ x.HasPassed slot ∧ e.Stands r.decoder n := by
  rw [Follows, hr]

/-- All that counts of the stream is how far its request has come, and whether its route names a
cluster once the request has come to the router. -/
theorem Follows.congr (h : r.Follows x slot n) (hpass : y.HasPassed slot ↔ x.HasPassed slot)
    (hnames : y.HasPassed slot → y.NamesCluster → x.NamesCluster) : r.Follows y slot n := by
  cases hex : r.exchange with
  | none =>
    rw [follows_of_none hex] at h ⊢
    exact ⟨fun hp => h.1 fun hx => hp (hpass.mpr hx), fun hp hn => h.2 (hpass.mp hp) (hnames hp hn)⟩
  | some e =>
    rw [follows_of_some hex] at h ⊢
    exact ⟨hpass.mpr h.1, h.2⟩

end Router

namespace Session

variable {σ : Type}

/-- What a router still has to do. -/
def toDo (s : Session σ) (ref : RouterRef) : List RouterOp := s.queue.posted.filterMap (Task.opOf ref)

/-- What a router has done, going by the tasks that were taken up. -/
def done (ref : RouterRef) (moments : List (Session σ × Task)) : List RouterOp :=
  moments.filterMap fun m => m.2.opOf ref

/-- What holds of the place of a router at every moment, whatever the router has asked for. This is
apart from `OnCourse` since it is kept by steps in the middle of which the count does not fit. -/
structure Placed (ref : RouterRef) (s : Session σ) : Prop where
  /-- The router belongs to this connection. -/
  number : ref.session = s.number
  /-- Numbers are given out in order. -/
  unborn : ∀ id, s.nextId ≤ id → s.stream? id = none
  /-- The pool answers once at most. -/
  answers : (s.toDo ref).countP RouterOp.isAnswer ≤ 1
  /-- A router has a place in the chain. -/
  real : ∀ x, s.stream? ref.stream = some x → (x.router? ref.slot).isSome →
    x.hasRouter ref.slot = true
  /-- The route is looked up before any filter is met. -/
  looked : ∀ x, s.stream? ref.stream = some x → x.HasPassed ref.slot → x.route.isSome

/-- What holds of a router at every moment, `past` being what it has done.

That an answer which waits finds a router waiting (`awaited`) is what the promise of pools is for:
were a router answered that holds a connection already, it would take a second one and answer
twice. -/
structure OnCourse (ref : RouterRef) (past : List RouterOp) (s : Session σ) : Prop
    extends Placed ref s where
  /-- Before its stream begins, the router asks for nothing and nobody answers it. -/
  early : s.nextId ≤ ref.stream →
    (past ++ s.toDo ref).countP RouterOp.isOutcome = 0 ∧ (s.toDo ref).countP RouterOp.isAnswer = 0
  /-- It asks for one thing at most. -/
  once : (past ++ s.toDo ref).countP RouterOp.isOutcome ≤ 1
  /-- An answer that waits finds a router that waits for it, or none. -/
  awaited : (s.toDo ref).countP RouterOp.isAnswer ≠ 0 → ∀ x r, s.stream? ref.stream = some x →
    x.router? ref.slot = some r → ∃ e, r.exchange = some e ∧ e.pending.isSome
  /-- It is there until its stream is over. -/
  whole : ∀ x, s.stream? ref.stream = some x → x.isCompleted = false →
    x.hasRouter ref.slot = true → (x.router? ref.slot).isSome
  /-- What it has asked for fits how far the request has come. -/
  follows : ∀ x r, s.stream? ref.stream = some x → x.router? ref.slot = some r →
    r.Follows x ref.slot ((past ++ s.toDo ref).countP RouterOp.isOutcome)

/-! ## What happens elsewhere

Most of what a session does is not done by the router in question. It is enough then that its stream
and its slot, its tasks and its place in the chain are what they were; how they were left alone does
not matter. -/

/-- Nothing has happened to a router, nor to what it has to do. Its stream may have gone, but if it
is there, its request has come as far as before. -/
structure Elsewhere (ref : RouterRef) (s s' : Session σ) : Prop where
  /-- It is the same connection. -/
  number : s'.number = s.number
  /-- No stream has begun. -/
  nextId : s'.nextId = s.nextId
  /-- The router has the same things to do. -/
  toDo : s'.toDo ref = s.toDo ref
  unborn : ∀ id, s.stream? id = none → s'.stream? id = none
  /-- The stream of the router is what it was, and so is the router. -/
  stream : ∀ y, s'.stream? ref.stream = some y → ∃ x, s.stream? ref.stream = some x ∧
    y.decoded = x.decoded ∧ y.decoders = x.decoders ∧ y.hasRouter ref.slot = x.hasRouter ref.slot ∧
    y.router? ref.slot = x.router? ref.slot ∧ (x.route = none ∨ y.route = x.route) ∧
    y.isCompleted = x.isCompleted

variable {ref : RouterRef} {past : List RouterOp} {s s' : Session σ}

theorem OnCourse.elsewhere (h : OnCourse ref past s) (he : Elsewhere ref s s') :
    OnCourse ref past s' where
  number := h.number.trans he.number.symm
  unborn := fun id hid => he.unborn id (h.unborn id (he.nextId ▸ hid))
  early := by
    rw [he.nextId, he.toDo]
    exact h.early
  once := by
    rw [he.toDo]
    exact h.once
  answers := by
    rw [he.toDo]
    exact h.answers
  awaited := by
    rw [he.toDo]
    intro ha y r hy hr
    obtain ⟨x, hx, -, -, -, hsame, -, -⟩ := he.stream y hy
    exact h.awaited ha x r hx (hsame ▸ hr)
  real := by
    intro y hy hr
    obtain ⟨x, hx, -, -, hhas, hsame, -, -⟩ := he.stream y hy
    rw [hhas]
    exact h.real x hx (hsame ▸ hr)
  whole := by
    intro y hy hlive hr
    obtain ⟨x, hx, -, -, hhas, hsame, -, hover⟩ := he.stream y hy
    rw [hsame]
    exact h.whole x hx (hover ▸ hlive) (hhas ▸ hr)
  looked := by
    intro y hy hp
    obtain ⟨x, hx, hcur, hdec, -, -, hroute, -⟩ := he.stream y hy
    have hl := h.looked x hx ((Stream.hasPassed_congr hdec hcur).mp hp)
    rcases hroute with hr | hr
    · rw [hr] at hl
      cases hl
    · rwa [hr]
  follows := by
    intro y r hy hr
    obtain ⟨x, hx, hcur, hdec, -, hsame, hroute, -⟩ := he.stream y hy
    have hpass : y.HasPassed ref.slot ↔ x.HasPassed ref.slot := Stream.hasPassed_congr hdec hcur
    rw [he.toDo]
    refine (h.follows x r hx (hsame ▸ hr)).congr hpass fun hp hn => ?_
    -- A request that has come to the router has its route, and keeps it.
    have hl := h.looked x hx (hpass.mp hp)
    rcases hroute with hr | hr
    · rw [hr] at hl
      cases hl
    · exact hn.congr hr

theorem RoutersUntouched.elsewhere (h : RoutersUntouched s s') : Elsewhere ref s s' where
  number := h.number
  nextId := h.nextId
  toDo := by
    obtain ⟨ts, hts, hq⟩ := h.posted
    -- Only tasks of routers are anything to a router, and none of those were posted.
    have hnone : ts.filterMap (Task.opOf ref) = [] := by
      rw [List.filterMap_eq_nil_iff]
      intro t ht
      have hr := hts t ht
      cases t with
      | router other op => cases hr
      | stream id op => rfl
      | closed => rfl
    rw [toDo, hq, List.filterMap_append, hnone, List.append_nil]
    rfl
  unborn := by
    intro id hid
    obtain ⟨f, hf, hs⟩ := h.streams
    rw [stream?_of_map (fun x => (hf x).id) hs, hid]
    rfl
  stream := by
    intro y hy
    obtain ⟨f, hf, hs⟩ := h.streams
    rw [stream?_of_map (fun x => (hf x).id) hs] at hy
    obtain ⟨x, hx, rfl⟩ := Option.map_eq_some_iff.mp hy
    have ha := hf x
    exact ⟨x, hx, ha.decoded, ha.decoders, Stream.hasRouter_congr ha.parts _, ha.routers _, ha.route,
      ha.ended⟩

theorem toDo_post (s : Session σ) (ref other : RouterRef) (ops : List RouterOp) :
    (s.queue.posted ++ ops.map (Task.router other)).filterMap (Task.opOf ref) =
      s.toDo ref ++ if other = ref then ops else [] := by
  rw [List.filterMap_append, List.filterMap_map]
  congr 1
  by_cases h : other = ref
  · rw [if_pos h]
    have : (Task.opOf ref ∘ Task.router other) = some := by
      funext op
      simp [Task.opOf, h]
    rw [this, List.filterMap_some]
  · rw [if_neg h, List.filterMap_eq_nil_iff]
    intro op _
    simp [Task.opOf, h]

theorem Works.elsewhere {other : RouterRef} (h : Works other s s') (hne : other ≠ ref)
    (hsession : other.session = ref.session) : Elsewhere ref s s' := by
  obtain ⟨ops, -, g, side, notes, panic, -, rfl⟩ := h
  -- A router changes itself only: at another place of this session the filter stays as it is.
  have hother : ∀ x : Stream, x.id = ref.stream →
      (x.recall other g).router? ref.slot = x.router? ref.slot := by
    intro x hx
    refine Stream.recall_router?_of_ne g ?_
    by_cases hs : x.id = other.stream
    · refine Or.inr fun hslot => hne ?_
      obtain ⟨a, b, c⟩ := other
      obtain ⟨a', b', c'⟩ := ref
      simp only at hsession hs hx hslot
      rw [hsession, ← hs, hx, hslot]
    · exact Or.inl hs
  refine ⟨rfl, rfl, ?_, ?_, ?_⟩
  · show (s.queue.posted ++ ops.map (Task.router other)).filterMap (Task.opOf ref) = _
    rw [toDo_post, if_neg hne, List.append_nil]
  · intro id hid
    rw [stream?_of_map (f := fun x => x.recall other g) (Stream.recall_id other g) rfl, hid]
    rfl
  · intro y hy
    rw [stream?_of_map (f := fun x => x.recall other g) (Stream.recall_id other g) rfl] at hy
    obtain ⟨x, hx, rfl⟩ := Option.map_eq_some_iff.mp hy
    have hparts := Stream.recall_parts other g x
    exact ⟨x, hx, Stream.recall_decoded other g x, Stream.decoders_congr hparts,
      Stream.hasRouter_congr hparts _, hother x (stream?_id hx), Or.inr (Stream.recall_route other g x),
      Stream.recall_isCompleted other g x⟩

/-- A connection that is given back is no router's. -/
theorem giveBack_elsewhere (s : Session σ) (ref other : RouterRef) (link : LinkId) :
    Elsewhere ref s (s.giveBack other link) := by
  unfold Session.giveBack Session.effect
  dsimp only
  rw [foldl_note]
  exact ⟨rfl, rfl, rfl, fun _ h => h, fun y hy => ⟨y, hy, rfl, rfl, rfl, rfl, Or.inr rfl, rfl⟩⟩

/-! ## What the router does

The router changes its own slot, and puts its tasks behind all others. Whether it may is not asked
of the session but of what it has in mind, which is why the cases below are those of its exchange:
nothing begun, waiting for the pool, holding a connection, over. -/

theorem Placed.router?_eq (h : Placed ref s) :
    s.router? ref = (s.stream? ref.stream).bind (·.router? ref.slot) := by
  unfold Session.router?
  rw [if_pos h.number]

theorem Placed.begun {x : Stream} (h : Placed ref s) (hx : s.stream? ref.stream = some x) :
    ¬s.nextId ≤ ref.stream := by
  intro hle
  rw [h.unborn _ hle] at hx
  cases hx

theorem Touches.toDo {ops : List RouterOp} (h : Touches ref ops s s') :
    s'.toDo ref = s.toDo ref ++ ops := by
  obtain ⟨g, side, notes, panic, -, rfl⟩ := h
  show (s.queue.posted ++ ops.map (Task.router ref)).filterMap (Task.opOf ref) = _
  rw [toDo_post, if_pos rfl]

/-- What a router touches of the streams: what it keeps in mind itself. -/
theorem Touches.frame {ops : List RouterOp} (h : Touches ref ops s s') :
    s'.number = s.number ∧ s'.nextId = s.nextId ∧
      ∃ g, ∀ id, s'.stream? id = (s.stream? id).map (·.recall ref g) := by
  obtain ⟨g, side, notes, panic, -, rfl⟩ := h
  exact ⟨rfl, rfl, g, stream?_of_map (f := fun x => x.recall ref g) (Stream.recall_id ref g) rfl⟩

/-- A router that did something and is still there: what it has asked for must fit what it has in
mind now. -/
theorem Placed.own {ops : List RouterOp} {x : Stream} {r' : Router} (h : Placed ref s)
    (ht : Touches ref ops s s') (hops : ∀ op ∈ ops, op.isOwn) (hx : s.stream? ref.stream = some x)
    (hin : (x.router? ref.slot).isSome) (hr' : s'.router? ref = some r')
    (hwait : (s.toDo ref).countP RouterOp.isAnswer ≠ 0 →
      ∃ e, r'.exchange = some e ∧ e.pending.isSome)
    (hfollows : r'.Follows x ref.slot ((past ++ s.toDo ref).countP RouterOp.isOutcome +
      ops.countP RouterOp.isOutcome))
    (honce : (past ++ s.toDo ref).countP RouterOp.isOutcome + ops.countP RouterOp.isOutcome ≤ 1) :
    OnCourse ref past s' := by
  have htoDo := ht.toDo
  -- A router does not answer itself, so what it posts leaves the number of answers that wait as it
  -- is.
  have hnone : ops.countP RouterOp.isAnswer = 0 := by
    rw [List.countP_eq_zero]
    intro op hop
    simp [(hops op hop).not_isAnswer]
  have hanswers : (s'.toDo ref).countP RouterOp.isAnswer = (s.toDo ref).countP RouterOp.isAnswer := by
    rw [htoDo, List.countP_append, hnone, Nat.add_zero]
  have hasks : (past ++ s'.toDo ref).countP RouterOp.isOutcome =
      (past ++ s.toDo ref).countP RouterOp.isOutcome + ops.countP RouterOp.isOutcome := by
    rw [htoDo, ← List.append_assoc, List.countP_append]
  obtain ⟨hnumber, hnext, g, hstreams⟩ := ht.frame
  have hfound : s'.stream? ref.stream = some (x.recall ref g) := by rw [hstreams, hx, Option.map_some]
  have hparts := Stream.recall_parts ref g x
  -- What it keeps in mind is in its slot, which is no part of how far the request has come.
  have hpass : (x.recall ref g).HasPassed ref.slot ↔ x.HasPassed ref.slot :=
    Stream.hasPassed_congr (Stream.decoders_congr hparts) (Stream.recall_decoded ref g x)
  have hrouter : (x.recall ref g).router? ref.slot = some r' := by
    unfold Session.router? at hr'
    rw [if_pos (h.number.trans hnumber.symm), hfound] at hr'
    exact hr'
  have hthis : ∀ y, s'.stream? ref.stream = some y → y = x.recall ref g := by
    intro y hy
    exact Option.some.inj (hy.symm.trans hfound)
  refine ⟨⟨h.number.trans hnumber.symm, ?unborn, ?answers, ?real, ?looked⟩, ?early, ?once,
      ?awaited, ?whole, ?follows⟩
  case unborn =>
    intro id hid
    rw [hstreams, h.unborn id (hnext ▸ hid)]
    rfl
  case answers =>
    rw [hanswers]
    exact h.answers
  case real =>
    intro y hy _
    rw [hthis y hy, Stream.hasRouter_congr hparts]
    exact h.real x hx hin
  case looked =>
    intro y hy hp
    rw [hthis y hy] at hp ⊢
    rw [Stream.recall_route]
    exact h.looked x hx (hpass.mp hp)
  case early =>
    intro hle
    exact absurd (hnext ▸ hle) (h.begun hx)
  case once =>
    rw [hasks]
    exact honce
  case awaited =>
    intro ha y r hy hr
    rw [hthis y hy, hrouter] at hr
    obtain rfl := Option.some.inj hr
    exact hwait (hanswers ▸ ha)
  case whole =>
    intro y hy _ _
    rw [hthis y hy, hrouter]
    rfl
  case follows =>
    intro y r hy hr
    rw [hthis y hy] at hr ⊢
    rw [hrouter] at hr
    obtain rfl := Option.some.inj hr
    rw [hasks]
    exact hfollows.congr hpass fun _ hn => hn.congr (Stream.recall_route ref g x)

/-- The exchange of a router takes a step. -/
theorem Placed.takeStep {x : Stream} {r : Router} (h : Placed ref s)
    (hx : s.stream? ref.stream = some x) (hr : x.router? ref.slot = some r)
    (hp : x.HasPassed ref.slot) (t : Exchange.Step)
    (hwait : (s.toDo ref).countP RouterOp.isAnswer ≠ 0 → t.exchange.pending.isSome)
    (hstands : t.exchange.Stands r.decoder
      ((past ++ s.toDo ref).countP RouterOp.isOutcome + t.asks)) :
    OnCourse ref past (s.takeStep ref t) := by
  have hrouter : s.router? ref = some r := by
    rw [h.router?_eq, hx]
    exact hr
  obtain ⟨r', hr', hex, hdec⟩ := takeStep_router? hrouter t
  refine h.own (takeStep_touches s ref t) ?_ hx (by rw [hr]; rfl) hr' ?_ ?_ ?_
  · exact fun _ => Effect.isOwn_of_mem_later
  · intro ha
    exact ⟨_, hex, hwait ha⟩
  · rw [Exchange.Step.asks_later, Router.follows_of_some hex, hdec]
    exact ⟨hp, hstands⟩
  · rw [Exchange.Step.asks_later]
    rcases hstands with ⟨-, hn⟩ | ⟨-, -, hn⟩ | ⟨-, hn⟩
    · omega
    · omega
    · omega

/-- The exchange of a router that holds a connection has asked for nothing; one without a connection
has not even a request to write. -/
theorem OnCourse.holding {x : Stream} {r : Router} {e : Exchange} (h : OnCourse ref past s)
    (hx : s.stream? ref.stream = some x) (hr : x.router? ref.slot = some r)
    (he : r.exchange = some e) (hlink : e.link.isSome) :
    x.HasPassed ref.slot ∧ e.Holding ∧ e.DecoderSound r.decoder ∧
      (past ++ s.toDo ref).countP RouterOp.isOutcome = 0 ∧
      (s.toDo ref).countP RouterOp.isAnswer = 0 := by
  obtain ⟨hp, ⟨hw, -⟩ | ⟨hh, hsane, hn⟩ | ⟨ho, -⟩⟩ :=
    (Router.follows_of_some he).mp (h.follows x r hx hr)
  · rw [hw.link] at hlink
    cases hlink
  · refine ⟨hp, hh, hsane, hn, ?_⟩
    by_cases ha : (s.toDo ref).countP RouterOp.isAnswer = 0
    · exact ha
    · obtain ⟨e', he', hpending⟩ := h.awaited ha x r hx hr
      obtain rfl := Option.some.inj (he.symm.trans he')
      rw [hh.pending] at hpending
      cases hpending
  · rw [ho.link] at hlink
    cases hlink

theorem OnCourse.writeCall (h : OnCourse ref past s) (other : RouterRef) :
    OnCourse ref past (s.writeCall other) := by
  by_cases hother : other = ref
  · subst hother
    cases hr : s.router? other with
    | none =>
      unfold Session.writeCall
      rw [hr]
      exact h
    | some r =>
      cases he : r.exchange with
      | none =>
        unfold Session.writeCall
        rw [hr]
        dsimp only
        rw [he]
        exact h
      | some e =>
        by_cases hgo : (e.link.isNone || e.requestComplete) = true
        · unfold Session.writeCall
          rw [hr]
          dsimp only
          rw [he]
          dsimp only
          rw [if_pos hgo]
          exact h
        -- The call is really written. Nothing is asked for by that, and the exchange still holds
        -- its connection.
        · obtain ⟨htouch, -, r', envelope, hr', hdec, hex⟩ := writeCall_touches hr he hgo
          rw [h.router?_eq] at hr
          obtain ⟨x, hx, hxr⟩ := Option.bind_eq_some_iff.mp hr
          obtain ⟨hp, hh, hsane, hn, ha⟩ := h.holding hx hxr he (Exchange.link_isSome hgo)
          refine h.toPlaced.own htouch (by simp) hx (by rw [hxr]; rfl) hr' ?_ ?_ ?_
          · intro hne
            exact absurd ha hne
          · rw [Router.follows_of_some hex, hdec]
            refine ⟨hp, Or.inr (Or.inl ⟨{ hh with }, hsane, ?_⟩)⟩
            rw [hn]
            rfl
          · rw [hn]
            exact Nat.zero_le 1
  · by_cases hsession : other.session = ref.session
    · exact h.elsewhere ((writeCall_works s other).elsewhere hother hsession)
    -- A reference into another connection finds no router here, so there is nobody to write.
    · have hnone : s.router? other = none := by
        unfold Session.router?
        rw [if_neg fun he => hsession (he.trans h.number.symm)]
      unfold Session.writeCall
      rw [hnone]
      exact h

/-! ## A request comes to a filter

The cursor of the stream goes past the filter before the filter does anything. So a router that is
shown the request has been passed by then, and what it asks for counts as asked behind it. -/

theorem pass_elsewhere {id : StreamId} (hid : id ≠ ref.stream) : Elsewhere ref s (s.pass id) where
  number := rfl
  nextId := rfl
  toDo := rfl
  unborn := by
    intro id' h
    rw [stream?_pass, h]
    rfl
  stream := by
    intro y hy
    rw [stream?_pass] at hy
    obtain ⟨x, hx, rfl⟩ := Option.map_eq_some_iff.mp hy
    have hne : x.id ≠ id := fun he => hid (he.symm.trans (stream?_id hx))
    rw [if_neg hne]
    exact ⟨x, hx, rfl, rfl, rfl, rfl, Or.inr rfl, rfl⟩

theorem Placed.pass {x : Stream} {slot : Nat} (h : Placed ref s) (hn : Next s x slot)
    (hx : x.id = ref.stream) : Placed ref (s.pass x.id) := by
  have hfound : (s.pass x.id).stream? ref.stream = some { x with decoded := x.decoded + 1 } :=
    hx ▸ hn.found_behind
  refine ⟨h.number, ?_, h.answers, ?_, ?_⟩
  · intro id hid
    rw [stream?_pass, h.unborn id hid]
    rfl
  · intro y hy hr
    obtain rfl := Option.some.inj (hfound.symm.trans hy)
    exact h.real x (hx ▸ hn.found) hr
  · intro y hy _
    obtain rfl := Option.some.inj (hfound.symm.trans hy)
    exact hn.looked

/-- A request passes a filter that is not this router, or this router on a route that names no
cluster. -/
theorem OnCourse.pass {x : Stream} {slot : Nat} (h : OnCourse ref past s) (hn : Next s x slot)
    (hfree : x.id = ref.stream → slot = ref.slot →
      x.hasRouter slot = false ∨ ∃ route, x.route? = some route ∧ route.cluster = none) :
    OnCourse ref past (s.pass x.id) := by
  by_cases hid : x.id = ref.stream
  · have hx : s.stream? ref.stream = some x := hid ▸ hn.found
    have hfound : (s.pass x.id).stream? ref.stream = some { x with decoded := x.decoded + 1 } :=
      hid ▸ hn.found_behind
    have hthis : ∀ y, (s.pass x.id).stream? ref.stream = some y →
        y = { x with decoded := x.decoded + 1 } :=
      fun y hy => Option.some.inj (hy.symm.trans hfound)
    refine ⟨h.toPlaced.pass hn hid, h.early, h.once, ?_, ?_, ?_⟩
    · intro ha y r hy hr
      rw [hthis y hy] at hr
      exact h.awaited ha x r hx hr
    · intro y hy hlive hr
      rw [hthis y hy] at hlive hr ⊢
      exact h.whole x hx hlive hr
    · intro y r hy hr
      rw [hthis y hy] at hr ⊢
      have hf := h.follows x r hx hr
      have hpass : Stream.HasPassed { x with decoded := x.decoded + 1 } ref.slot ↔
          x.HasPassed ref.slot ∨ ref.slot = slot := Stream.hasPassed_succ rfl rfl hn.here
      cases hex : r.exchange with
      | some e =>
        rw [Router.follows_of_some hex] at hf ⊢
        exact ⟨hpass.mpr (Or.inl hf.1), hf.2⟩
      | none =>
        rw [Router.follows_of_none hex] at hf ⊢
        refine ⟨fun hp => hf.1 fun hp' => hp (hpass.mpr (Or.inl hp')), fun hp hnames => ?_⟩
        rcases hpass.mp hp with hp | hslot
        · exact hf.2 hp hnames
        -- The filter that it comes to just now stands at the place of the router. Then it is none,
        -- or the route names no cluster, and a stream that names one is another.
        · rcases hfree hid hslot.symm with hnone | ⟨route, hroute, hcluster⟩
          · have hreal := h.real x hx (by rw [show x.router? ref.slot = some r from hr]; rfl)
            rw [hslot, hnone] at hreal
            cases hreal
          · obtain ⟨route', name, hroute', hname⟩ := hnames
            obtain rfl := Option.some.inj (hroute.symm.trans hroute')
            rw [hcluster] at hname
            cases hname
  · exact h.elsewhere (pass_elsewhere hid)

theorem Next.hasPassed {x : Stream} {slot : Nat} (hn : Next s x slot) :
    Stream.HasPassed { x with decoded := x.decoded + 1 } slot :=
  (Stream.hasPassed_succ (x := x) (y := { x with decoded := x.decoded + 1 }) rfl rfl hn.here).mpr
    (Or.inr rfl)

/-- A router that a request comes to is there, has done nothing, and nobody answers it. -/
theorem OnCourse.reached {x : Stream} (h : OnCourse ref past s) (hn : Next s x ref.slot)
    (hid : x.id = ref.stream) (hrouter : x.hasRouter ref.slot = true) :
    ∃ r, x.router? ref.slot = some r ∧ r.exchange = none ∧
      (past ++ s.toDo ref).countP RouterOp.isOutcome = 0 ∧
      (s.toDo ref).countP RouterOp.isAnswer = 0 := by
  have hx : s.stream? ref.stream = some x := hid ▸ hn.found
  obtain ⟨r, hr⟩ := Option.isSome_iff_exists.mp (h.whole x hx hn.live hrouter)
  have hnot := Stream.not_hasPassed_of_next hn.here
  have hf := h.follows x r hx hr
  cases hex : r.exchange with
  | some e => exact absurd ((Router.follows_of_some hex).mp hf).1 hnot
  | none =>
    refine ⟨r, hr, hex, ((Router.follows_of_none hex).mp hf).1 hnot, ?_⟩
    by_cases ha : (s.toDo ref).countP RouterOp.isAnswer = 0
    · exact ha
    · obtain ⟨e, he, -⟩ := h.awaited ha x r hx hr
      rw [hex] at he
      cases he

theorem OnCourse.refused {x : Stream} {slot : Nat} (h : OnCourse ref past s) (hn : Next s x slot)
    (hrouter : x.hasRouter slot = true) (event : RouterEvent) (status : Status) :
    OnCourse ref past ((s.pass x.id).refuse (s.refTo x.id slot) event status) := by
  -- The router that is reached asks for a reply now, which is its one outcome; it has asked for
  -- none before.
  by_cases hself : s.refTo x.id slot = ref
  · subst hself
    obtain ⟨r, hr, hex, hasks, hanswers⟩ := h.reached hn rfl hrouter
    have hplaced := h.toPlaced.pass hn rfl
    have htouch : Touches (s.refTo x.id slot) [.ask (.localReply status .nothing)] (s.pass x.id)
        ((s.pass x.id).refuse (s.refTo x.id slot) event status) :=
      (Touches.count event).before (Touches.post _)
    have hr' : ((s.pass x.id).refuse (s.refTo x.id slot) event status).router? (s.refTo x.id slot) =
        some r := by
      refine (router?_congr (s := s.pass x.id) rfl rfl _).trans ?_
      rw [hplaced.router?_eq]
      show ((s.pass x.id).stream? x.id).bind _ = _
      rw [hn.found_behind]
      exact hr
    refine hplaced.own htouch (by simp [RouterOp.isOwn]) hn.found_behind (by
      show (x.router? slot).isSome = true
      rw [show x.router? slot = some r from hr]
      rfl) hr' (fun ha => absurd hanswers ha) ?_ ?_
    · have hone : (past ++ (s.pass x.id).toDo (s.refTo x.id slot)).countP RouterOp.isOutcome +
          [RouterOp.ask (.localReply status .nothing)].countP RouterOp.isOutcome = 1 :=
        congrArg (· + 1) hasks
      rw [Router.follows_of_none hex, hone]
      refine ⟨fun hp => absurd ?_ hp, fun _ _ => rfl⟩
      exact hn.hasPassed
    · exact Nat.le_of_eq (congrArg (· + 1) hasks)
  · have hpass : OnCourse ref past (s.pass x.id) := h.pass hn fun hid hslot =>
      absurd (by rw [Session.refTo, hid, hslot, ← h.number]) hself
    exact hpass.elsewhere ((refuse_works _ _ event status).elsewhere hself h.number.symm)

theorem OnCourse.engaged {x : Stream} {slot : Nat} (h : OnCourse ref past s) (hn : Next s x slot)
    (hrouter : x.hasRouter slot = true) (cluster : Config.Cluster) (host : HostRef)
    (request : Request) :
    OnCourse ref past ((s.pass x.id).engage (s.refTo x.id slot) cluster host request).2 := by
  by_cases hself : s.refTo x.id slot = ref
  · subst hself
    obtain ⟨r, hr, hex, hasks, hanswers⟩ := h.reached hn rfl hrouter
    have hplaced := h.toPlaced.pass hn rfl
    have hr₀ : (s.pass x.id).router? (s.refTo x.id slot) = some r := by
      rw [hplaced.router?_eq]
      show ((s.pass x.id).stream? x.id).bind _ = _
      rw [hn.found_behind]
      exact hr
    obtain ⟨shared, now, t, ht, htouch, -, -, hgot⟩ :=
      engage_touches (s.pass x.id) (s.refTo x.id slot) cluster host request
    obtain ⟨r', hr', hex', hdec'⟩ := hgot r hr₀
    -- The pool has a connection, has none, or refuses at once: the exchange holds, waits or is
    -- over, and in the last case only it has asked for an outcome.
    have hcourse := Exchange.start_course cluster request.method
      ((s.pass x.id).source.ask cluster host (s.refTo x.id slot) (s.pass x.id).side.pools).1 shared now
    rw [← ht] at hcourse
    have hasks' : (past ++ (s.pass x.id).toDo (s.refTo x.id slot)).countP RouterOp.isOutcome = 0 :=
      hasks
    refine hplaced.own htouch ?_ hn.found_behind (by
      show (x.router? slot).isSome = true
      rw [show x.router? slot = some r from hr]
      rfl) hr' (fun ha => absurd hanswers ha) ?_ ?_
    · exact fun _ => Effect.isOwn_of_mem_later
    · rw [Exchange.Step.asks_later, hasks', Nat.zero_add, Router.follows_of_some hex', hdec']
      refine ⟨hn.hasPassed, ?_⟩
      rcases hcourse with ⟨hw, ha⟩ | ⟨hh, hfresh, ha⟩ | ⟨ho, ha⟩
      · exact Or.inl ⟨hw, ha⟩
      · refine Or.inr (Or.inl ⟨hh, fun hs => ?_, ha⟩)
        rw [hfresh] at hs
        cases hs
      · exact Or.inr (Or.inr ⟨ho, ha⟩)
    · rw [Exchange.Step.asks_later, hasks', Nat.zero_add]
      rcases hcourse with ⟨-, ha⟩ | ⟨-, -, ha⟩ | ⟨-, ha⟩
      · exact ha ▸ Nat.zero_le 1
      · exact ha ▸ Nat.zero_le 1
      · exact Nat.le_of_eq ha
  -- The request comes to another router.
  · have hpass : OnCourse ref past (s.pass x.id) := h.pass hn fun hid hslot =>
      absurd (by rw [Session.refTo, hid, hslot, ← h.number]) hself
    exact hpass.elsewhere ((engage_works _ _ cluster host request).elsewhere hself h.number.symm)

theorem OnCourse.started {x : Stream} {slot : Nat} (h : OnCourse ref past s) (hn : Next s x slot)
    (hrouter : x.hasRouter slot = true) (cluster : Config.Cluster) (host : HostRef)
    (request : Request) :
    OnCourse ref past ((s.pass x.id).startExchange (s.refTo x.id slot) cluster host request) := by
  have hengaged := h.engaged hn hrouter cluster host request
  obtain ⟨-, heq⟩ | ⟨-, heq⟩ := startExchange_cases (s.pass x.id) (s.refTo x.id slot) cluster host request
  · rw [heq]
    exact hengaged
  · rw [heq]
    exact hengaged.writeCall _

/-! ## Tasks are taken up

A task leaves the queue before it is done. In between it is neither waiting nor past, and the lemmas
here put it on the side of the past at once, so that the count of what was asked stays the same. -/

theorem toDo_leave {t : Task} {rest : List Task} (hq : s.queue.posted = t :: rest) :
    s.toDo ref = (t.opOf ref).toList ++ (s.leave rest).toDo ref := by
  unfold Session.toDo
  rw [hq, List.filterMap_cons]
  cases t.opOf ref with
  | none => rfl
  | some op => rfl

/-- Taking a task up only moves it from what a router has to do to what it has done. -/
theorem OnCourse.leave {t : Task} {rest : List Task} (h : OnCourse ref past s)
    (hq : s.queue.posted = t :: rest) :
    OnCourse ref (past ++ (t.opOf ref).toList) (s.leave rest) := by
  have htoDo : s.toDo ref = _ := toDo_leave hq
  have hall : (past ++ (t.opOf ref).toList) ++ (s.leave rest).toDo ref = past ++ s.toDo ref := by
    rw [htoDo, List.append_assoc]
  have hle : ((s.leave rest).toDo ref).countP RouterOp.isAnswer ≤
      (s.toDo ref).countP RouterOp.isAnswer := by
    rw [htoDo, List.countP_append]
    exact Nat.le_add_left _ _
  refine ⟨⟨h.number, h.unborn, Nat.le_trans hle h.answers, h.real, h.looked⟩, ?_, ?_, ?_, h.whole, ?_⟩
  · intro hle'
    obtain ⟨hasks, hanswers⟩ := h.early hle'
    exact ⟨by rw [hall]; exact hasks, Nat.le_zero.mp (hanswers ▸ hle)⟩
  · rw [hall]
    exact h.once
  · intro ha
    exact h.awaited fun hzero => ha (Nat.le_zero.mp (hzero ▸ hle))
  · rw [hall]
    exact h.follows

/-- An answer that was taken up finds its router waiting, if it finds it at all. -/
theorem OnCourse.answered {d : Delivery} {rest : List Task} {x : Stream} {r : Router} {e : Exchange}
    (h : OnCourse ref past s) (hq : s.queue.posted = .router ref (.deliver d) :: rest)
    (hd : d.isAnswer = true) (hx : s.stream? ref.stream = some x)
    (hr : x.router? ref.slot = some r) (he : r.exchange = some e) :
    x.HasPassed ref.slot ∧ e.Waiting ∧ (past ++ s.toDo ref).countP RouterOp.isOutcome = 0 ∧
      ((s.leave rest).toDo ref).countP RouterOp.isAnswer = 0 := by
  have htoDo : s.toDo ref = .deliver d :: (s.leave rest).toDo ref := by
    have h' : s.toDo ref = _ := toDo_leave hq
    simpa [Task.opOf] using h'
  have hcount : (s.toDo ref).countP RouterOp.isAnswer =
      ((s.leave rest).toDo ref).countP RouterOp.isAnswer + 1 := by
    rw [htoDo]
    exact List.countP_cons_of_pos (p := RouterOp.isAnswer) (a := .deliver d) hd
  have hle := h.answers
  obtain ⟨e', he', hpending⟩ := h.awaited (by omega) x r hx hr
  obtain rfl := Option.some.inj (he.symm.trans he')
  obtain ⟨hp, ⟨hw, hn⟩ | ⟨hh, -, -⟩ | ⟨ho, -⟩⟩ :=
    (Router.follows_of_some he).mp (h.follows x r hx hr)
  · exact ⟨hp, hw, hn, by omega⟩
  · rw [hh.pending] at hpending
    cases hpending
  · rw [ho.pending] at hpending
    cases hpending

/-- Octets come for a router that holds a connection. -/
theorem OnCourse.hostData {x : Stream} {r : Router} {e : Exchange} (h : OnCourse ref past s)
    (hx : s.stream? ref.stream = some x) (hr : x.router? ref.slot = some r)
    (he : r.exchange = some e) (octets : Bytes) :
    OnCourse ref past (s.onHostData ref r e octets) := by
  unfold Session.onHostData
  split
  · exact h
  · next hgo =>
    obtain ⟨hp, hh, hsane, hn, ha⟩ := h.holding hx hr he (Exchange.link_isSome hgo)
    obtain ⟨isOver, d', t, hdata, hasks, hcourse⟩ :=
      Exchange.onData_course r.decoder octets s.now hh hsane
    rw [hdata]
    dsimp only
    have hrouter : s.router? ref = some r := by
      rw [h.router?_eq, hx]
      exact hr
    have hset := router?_setRouter hrouter { r with decoder := d' }
    obtain ⟨r₂, hr₂, hex₂, hdec₂⟩ := takeStep_router? hset t
    have ht₁ : Touches ref [] s (s.setRouter ref { r with decoder := d' }) :=
      Touches.setRouter hrouter _
    have ht₂ := ht₁.before (takeStep_touches _ ref t)
    have hown : ∀ op ∈ t.effects.filterMap Effect.later?, op.isOwn :=
      fun _ => Effect.isOwn_of_mem_later
    have hsome : (x.router? ref.slot).isSome := by
      rw [hr]
      rfl
    -- If the reply is complete, it is handed on in the same step. So the count goes from nothing to
    -- one just when the exchange lets go.
    cases isOver with
    | false =>
      simp only [Bool.false_eq_true, if_false] at hcourse ⊢
      refine h.toPlaced.own ht₂ hown hx hsome hr₂ (fun hne => absurd ha hne) ?_ ?_
      · rw [Exchange.Step.asks_later, hn, hasks]
        rw [Router.follows_of_some hex₂, hdec₂]
        exact ⟨hp, Or.inr (Or.inl ⟨hcourse.1, hcourse.2, rfl⟩)⟩
      · rw [Exchange.Step.asks_later, hn, hasks]
        exact Nat.zero_le 1
    | true =>
      simp only [if_true] at hcourse ⊢
      obtain ⟨op, htf, hop, r₃, hr₃, hex₃⟩ := forwardReply_touches hr₂ (hdec₂ ▸ hcourse.2)
      have hcount :
          (t.effects.filterMap Effect.later? ++ [RouterOp.ask op]).countP RouterOp.isOutcome = 1 := by
        have hask : [RouterOp.ask op].countP RouterOp.isOutcome = 1 :=
          List.countP_cons_of_pos (p := RouterOp.isOutcome) (a := .ask op) hop
        rw [List.countP_append, Exchange.Step.asks_later, hasks, hask]
      refine h.toPlaced.own (ht₂.trans htf) ?_ hx hsome hr₃ (fun hne => absurd ha hne) ?_ ?_
      · intro op' hop'
        rcases List.mem_append.mp hop' with hop' | hop'
        · exact hown op' hop'
        · rw [List.mem_singleton.mp hop']
          exact trivial
      · rw [hn, hcount, Router.follows_of_some (hex₃.trans hex₂)]
        exact ⟨hp, Or.inr (Or.inr ⟨hcourse.1, rfl⟩)⟩
      · exact Nat.le_of_eq (by rw [hn, hcount])

/-- The connection of a router goes down. -/
theorem OnCourse.hostEvent {x : Stream} {r : Router} {e : Exchange} (h : OnCourse ref past s)
    (hx : s.stream? ref.stream = some x) (hr : x.router? ref.slot = some r)
    (he : r.exchange = some e) (event : ConnectionEvent) :
    OnCourse ref past (s.onHostEvent ref e event) := by
  unfold Session.onHostEvent
  split
  · exact h
  · next hgo =>
    obtain ⟨hp, hh, hsane, hn, ha⟩ := h.holding hx hr he (Exchange.link_isSome hgo)
    split
    · exact h.elsewhere (stop_routersUntouched s _).elsewhere
    · next t ht =>
      obtain ⟨hover, hasks⟩ := Exchange.onEvent_course hh ht
      refine h.toPlaced.takeStep hx hr hp t (fun hne => absurd ha hne) ?_
      exact Or.inr (Or.inr ⟨hover, by rw [hn, hasks]⟩)

theorem OnCourse.delivered {other : RouterRef} {d : Delivery} {rest : List Task}
    (h : OnCourse ref past s) (hq : s.queue.posted = .router other (.deliver d) :: rest) :
    OnCourse ref (past ++ (Task.opOf ref (.router other (.deliver d))).toList)
      ((s.leave rest).onDelivery other d) := by
  have hleft := h.leave hq
  by_cases hself : other = ref
  · subst hself
    unfold Session.onDelivery
    cases hb : ((s.leave rest).router? other).bind fun r => r.exchange.map (r, ·) with
    | none =>
      dsimp only
      split
      · exact hleft.elsewhere (giveBack_elsewhere _ _ _ _)
      · exact hleft
    | some found =>
      -- The router is there and has an exchange.
      obtain ⟨r, e⟩ := found
      obtain ⟨r', hr', hmap⟩ := Option.bind_eq_some_iff.mp hb
      obtain ⟨e', he, hpair⟩ := Option.map_eq_some_iff.mp hmap
      obtain ⟨rfl, rfl⟩ := Prod.mk.inj hpair
      rw [hleft.router?_eq] at hr'
      obtain ⟨x, hx, hr⟩ := Option.bind_eq_some_iff.mp hr'
      cases d with
      | ready link host =>
        -- No other answer is on its way behind this one, so whatever becomes of the exchange, none
        -- finds it holding.
        obtain ⟨hp, hw, hn, ha⟩ := h.answered hq rfl hx hr he
        obtain ⟨hh, hfresh, hasks⟩ := Exchange.poolReady_holding link host
          ((s.leave rest).source.state? link (s.leave rest).side.pools) hw.toPlain hw.link hw.fresh
        refine hleft.toPlaced.takeStep hx hr hp _ (fun hne => absurd ha hne) ?_
        refine Or.inr (Or.inl ⟨hh, fun hs => ?_, ?_⟩)
        · rw [hfresh] at hs
          cases hs
        · rw [hasks, Nat.add_zero, List.append_assoc, ← toDo_leave hq]
          exact hn
      | failure reason host =>
        obtain ⟨hp, hw, hn, ha⟩ := h.answered hq rfl hx hr he
        obtain ⟨ho, hasks⟩ := Exchange.poolFailure_over reason host (s.leave rest).now hw.toPlain
          hw.link
        refine hleft.toPlaced.takeStep hx hr hp _ (fun hne => absurd ha hne) ?_
        refine Or.inr (Or.inr ⟨ho, ?_⟩)
        rw [hasks, List.append_assoc, ← toDo_leave hq, hn]
      | data octets => exact hleft.hostData hx hr he octets
      | event event => exact hleft.hostEvent hx hr he event
  -- Somebody else is told. All that can touch this router is a connection that is given back, which
  -- is no router's.
  · by_cases hsession : other.session = ref.session
    · exact hleft.elsewhere ((onDelivery_works _ other d).elsewhere hself hsession)
    · have hnone : (s.leave rest).router? other = none := by
        unfold Session.router?
        rw [if_neg fun he => hsession (he.trans hleft.number.symm)]
      unfold Session.onDelivery
      rw [hnone]
      dsimp only [Option.bind]
      split
      · exact hleft.elsewhere (giveBack_elsewhere _ _ _ _)
      · exact hleft

/-! ## Streams come and go

A router is there when its stream begins, and goes when its stream is over or is dropped. Of one
that has gone nothing more is to be shown than that it does not come back. -/

theorem Begins.toDo {x : Stream} (hb : Begins s x s') : s'.toDo ref = s.toDo ref := by
  unfold Session.toDo
  rw [hb.posted]

theorem Placed.unborn_of_begins {x : Stream} (h : Placed ref s) (hb : Begins s x s')
    (id : StreamId) (hid : s'.nextId ≤ id) : s'.stream? id = none := by
  rw [hb.nextId] at hid
  have hne : x.id ≠ id := by
    rw [hb.id]
    exact Nat.ne_of_lt hid
  rw [stream?_append hb.streams, h.unborn id (Nat.le_of_succ_le hid), if_neg hne]
  rfl

/-- The stream of a router begins: nothing has been asked for yet. -/
theorem OnCourse.born {x : Stream} (h : OnCourse ref past s) (hb : Begins s x s')
    (hid : s.nextId = ref.stream) : OnCourse ref past s' := by
  have htoDo : s'.toDo ref = s.toDo ref := hb.toDo
  obtain ⟨hasks, hanswers⟩ := h.early (Nat.le_of_eq hid)
  have hfound : s'.stream? ref.stream = some x := by
    rw [stream?_append hb.streams, h.unborn _ (Nat.le_of_eq hid), if_pos (hb.id.trans hid)]
    rfl
  have hthis : ∀ y, s'.stream? ref.stream = some y → y = x :=
    fun y hy => Option.some.inj (hy.symm.trans hfound)
  -- The cursor of a stream that begins stands before all filters.
  have hnot : ¬x.HasPassed ref.slot := by
    unfold Stream.HasPassed
    rw [hb.decoded, List.take_zero]
    exact List.not_mem_nil
  refine ⟨⟨h.number.trans hb.number.symm, h.unborn_of_begins hb, ?answers, ?real, ?looked⟩, ?early,
      ?once, ?awaited, ?whole, ?follows⟩
  case answers =>
    rw [htoDo]
    exact h.answers
  case real =>
    intro y hy hr
    rw [hthis y hy] at hr ⊢
    exact (hb.whole _).symm.trans hr
  case looked =>
    intro y hy hp
    rw [hthis y hy] at hp
    exact absurd hp hnot
  case early =>
    intro hle
    rw [htoDo]
    exact ⟨hasks, hanswers⟩
  case once =>
    rw [htoDo]
    exact h.once
  case awaited =>
    rw [htoDo]
    exact fun ha => absurd hanswers ha
  case whole =>
    intro y hy _ hr
    rw [hthis y hy] at hr ⊢
    exact (hb.whole _).trans hr
  case follows =>
    intro y r hy hr
    rw [hthis y hy] at hr ⊢
    rw [htoDo, hb.blank _ r hr]
    exact ⟨fun _ => hasks, fun hp => absurd hp hnot⟩

theorem OnCourse.began {x : Stream} (h : OnCourse ref past s) (hb : Begins s x s') :
    OnCourse ref past s' := by
  -- Either this is the stream of the router, or it is nothing to the router.
  by_cases hid : s.nextId = ref.stream
  · exact h.born hb hid
  have htoDo : s'.toDo ref = s.toDo ref := hb.toDo
  have hsame : s'.stream? ref.stream = s.stream? ref.stream := by
    rw [stream?_append hb.streams, if_neg fun he => hid (hb.id.symm.trans he), Option.or_none]
  refine ⟨⟨h.number.trans hb.number.symm, h.unborn_of_begins hb, ?answers, ?real, ?looked⟩, ?early,
      ?once, ?awaited, ?whole, ?follows⟩
  case answers =>
    rw [htoDo]
    exact h.answers
  case real =>
    rw [hsame]
    exact h.real
  case looked =>
    rw [hsame]
    exact h.looked
  case early =>
    intro hle
    rw [htoDo]
    rw [hb.nextId] at hle
    exact h.early (Nat.le_of_succ_le hle)
  case once =>
    rw [htoDo]
    exact h.once
  case awaited =>
    rw [htoDo, hsame]
    exact h.awaited
  case whole =>
    rw [hsame]
    exact h.whole
  case follows =>
    rw [htoDo, hsame]
    exact h.follows

theorem OnCourse.completed (h : OnCourse ref past s) (id : StreamId) :
    OnCourse ref past (s.modifyStream id fun x => { x with isCompleted := true }) := by
  have hfind := @stream?_modifyStream σ s id (fun x => { x with isCompleted := true })
    (fun _ => rfl)
  have hfound : ∀ y, (s.modifyStream id fun x => { x with isCompleted := true }).stream? ref.stream =
      some y → ∃ x, s.stream? ref.stream = some x ∧
        (y = x ∨ y = { x with isCompleted := true }) := by
    intro y hy
    rw [hfind] at hy
    obtain ⟨x, hx, rfl⟩ := Option.map_eq_some_iff.mp hy
    refine ⟨x, hx, ?_⟩
    split
    · exact Or.inr rfl
    · exact Or.inl rfl
  -- The mark is no part of what is compared, except that a router need not be there any more.
  refine ⟨⟨h.number, ?unborn, h.answers, ?real, ?looked⟩, h.early, h.once, ?awaited, ?whole,
      ?follows⟩
  case unborn =>
    intro id' hid'
    rw [hfind, h.unborn id' hid']
    rfl
  case real =>
    intro y hy hr
    obtain ⟨x, hx, rfl | rfl⟩ := hfound y hy
    · exact h.real y hx hr
    · exact h.real x hx hr
  case looked =>
    intro y hy hp
    obtain ⟨x, hx, rfl | rfl⟩ := hfound y hy
    · exact h.looked y hx hp
    · exact h.looked x hx hp
  case awaited =>
    intro ha y r hy hr
    obtain ⟨x, hx, rfl | rfl⟩ := hfound y hy
    · exact h.awaited ha y r hx hr
    · exact h.awaited ha x r hx hr
  case whole =>
    intro y hy hlive hr
    obtain ⟨x, hx, rfl | rfl⟩ := hfound y hy
    · exact h.whole y hx hlive hr
    · cases hlive
  case follows =>
    intro y r hy hr
    obtain ⟨x, hx, rfl | rfl⟩ := hfound y hy
    · exact h.follows y r hx hr
    · exact h.follows x r hx hr

/-- A router is gone, and its stream with it or at an end. It asks for nothing any more. -/
theorem OnCourse.gone (h : OnCourse ref past s) (hnumber : s'.number = s.number)
    (hnext : s'.nextId = s.nextId) (htoDo : s'.toDo ref = s.toDo ref)
    (hunborn : ∀ id, s.stream? id = none → s'.stream? id = none)
    (hstream : ∀ y, s'.stream? ref.stream = some y → ∃ x, s.stream? ref.stream = some x ∧
      y.decoded = x.decoded ∧ y.decoders = x.decoders ∧ y.route = x.route ∧
      y.isCompleted = true ∧ y.router? ref.slot = none) : OnCourse ref past s' := by
  -- What was asked for stays counted. All that was said about the router itself is said of none.
  refine ⟨⟨h.number.trans hnumber.symm, ?unborn, ?answers, ?real, ?looked⟩, ?early, ?once,
      ?awaited, ?whole, ?follows⟩
  case unborn =>
    intro id hid
    exact hunborn id (h.unborn id (hnext ▸ hid))
  case answers =>
    rw [htoDo]
    exact h.answers
  case real =>
    intro y hy hr
    obtain ⟨x, -, -, -, -, -, hnone⟩ := hstream y hy
    rw [hnone] at hr
    cases hr
  case looked =>
    intro y hy hp
    obtain ⟨x, hx, hcur, hdec, hroute, -, -⟩ := hstream y hy
    rw [hroute]
    exact h.looked x hx ((Stream.hasPassed_congr hdec hcur).mp hp)
  case early =>
    rw [hnext, htoDo]
    exact h.early
  case once =>
    rw [htoDo]
    exact h.once
  case awaited =>
    intro _ y r hy hr
    obtain ⟨x, -, -, -, -, -, hnone⟩ := hstream y hy
    rw [hnone] at hr
    cases hr
  case whole =>
    intro y hy hlive _
    obtain ⟨x, -, -, -, -, hover, -⟩ := hstream y hy
    rw [hover] at hlive
    cases hlive
  case follows =>
    intro y r hy hr
    obtain ⟨x, -, -, -, -, -, hnone⟩ := hstream y hy
    rw [hnone] at hr
    cases hr

theorem OnCourse.destroyed {other : RouterRef} (h : OnCourse ref past s)
    (hnumber : other.session = s.number)
    (hover : ∀ x, s.stream? other.stream = some x → x.isCompleted = true) :
    OnCourse ref past (s.destroyRouter other) := by
  by_cases hself : other = ref
  · subst hself
    obtain ⟨htouch, hnone⟩ := destroyRouter_touches s other
    have htoDo := htouch.toDo
    rw [List.append_nil] at htoDo
    obtain ⟨hsame, hnext, g, hstreams⟩ := htouch.frame
    refine h.gone hsame hnext htoDo ?_ ?_
    · intro id hid
      rw [hstreams, hid]
      rfl
    · intro y hy
      have hrouter : y.router? other.slot = none := by
        unfold Session.router? at hnone
        rw [if_pos (hnumber.trans hsame.symm), hy] at hnone
        exact hnone
      rw [hstreams] at hy
      obtain ⟨x, hx, rfl⟩ := Option.map_eq_some_iff.mp hy
      exact ⟨x, hx, Stream.recall_decoded other g x,
        Stream.decoders_congr (Stream.recall_parts other g x), Stream.recall_route other g x,
        (Stream.recall_isCompleted other g x).trans (hover x hx), hrouter⟩
  · exact h.elsewhere ((destroyRouter_works s other).elsewhere hself (hnumber.trans h.number.symm))

/-- Letting go of the routers of a stream is silent. -/
theorem dropRouters_frame (slots : List Nat) (s : Session σ) (id : StreamId) (ref : RouterRef) :
    let s' := slots.foldl (fun s slot => s.dropRouter (s.refTo id slot)) s
    s'.number = s.number ∧ s'.nextId = s.nextId ∧ s'.toDo ref = s.toDo ref ∧
      ∀ id', s.stream? id' = none → s'.stream? id' = none := by
  induction slots generalizing s with
  | nil => exact ⟨rfl, rfl, rfl, fun _ h => h⟩
  | cons slot rest ih =>
    obtain ⟨hnumber, hnext, htoDo, hunborn⟩ := ih (s.dropRouter (s.refTo id slot))
    obtain ⟨g, side, notes, panic, -, hs'⟩ := dropRouter_touches s (s.refTo id slot)
    simp only [List.map_nil, List.append_nil] at hs'
    refine ⟨hnumber.trans (by rw [hs']), hnext.trans (by rw [hs']), htoDo.trans (by rw [hs']; rfl), ?_⟩
    intro id' hid'
    refine hunborn id' ?_
    rw [hs', stream?_of_map (f := fun x => x.recall _ g) (Stream.recall_id _ g) rfl, hid']
    rfl

theorem OnCourse.dropRouters (slots : List Nat) {id : StreamId} (hid : id ≠ ref.stream)
    (h : OnCourse ref past s) :
    OnCourse ref past (slots.foldl (fun s slot => s.dropRouter (s.refTo id slot)) s) := by
  induction slots generalizing s with
  | nil => exact h
  | cons slot rest ih =>
    refine ih (h.elsewhere ((dropRouter_works s _).elsewhere (fun he => hid ?_) h.number.symm))
    exact congrArg RouterRef.stream he

theorem OnCourse.dropped (h : OnCourse ref past s) (id : StreamId) :
    OnCourse ref past (s.dropStream id) := by
  unfold Session.dropStream
  split
  · exact h
  · next x _ =>
    dsimp only
    obtain ⟨hnumber, hnext, htoDo, hunborn⟩ := dropRouters_frame x.routers s id ref
    by_cases hid : id = ref.stream
    -- The stream goes with its routers, and what they let go of is not theirs any more.
    · generalize x.routers.foldl (fun s slot => s.dropRouter (s.refTo id slot)) s = s₁
        at hnumber hnext htoDo hunborn
      refine h.gone hnumber hnext htoDo ?_ ?_
      · intro id' hid'
        by_cases hsame : id' = id
        · rw [hsame]
          exact stream?_filter_same s₁ id
        · rw [stream?_filter_ne hsame]
          exact hunborn id' hid'
      · intro y hy
        rw [← hid, stream?_filter_same] at hy
        cases hy
    · have hdropped := h.dropRouters x.routers hid
      generalize x.routers.foldl (fun s slot => s.dropRouter (s.refTo id slot)) s = s₁ at hdropped
      refine hdropped.elsewhere ⟨rfl, rfl, rfl, ?_, ?_⟩
      · intro id' hid'
        by_cases hsame : id' = id
        · rw [hsame]
          exact stream?_filter_same s₁ id
        · rw [stream?_filter_ne hsame]
          exact hid'
      · intro y hy
        rw [stream?_filter_ne fun he => hid he.symm] at hy
        exact ⟨y, hy, rfl, rfl, rfl, rfl, Or.inr rfl, rfl⟩

/-! ## Every run

One case for each kind of move, each of them a lemma from above, and from it all moves of a run. -/

theorem OnCourse.move {R : RouterRef → Request → Prop} {D : Prop} {m : List (Session σ × Task)}
    (h : OnCourse ref past s) (hm : Move R D m s s') : OnCourse ref (past ++ done ref m) s' := by
  have hquiet : OnCourse ref past s' → OnCourse ref (past ++ done ref ([] : List (Session σ × Task))) s' := by
    intro h'
    rw [done, List.filterMap_nil, List.append_nil]
    exact h'
  have htakes : ∀ {s₁ : Session σ} {t : Task}, OnCourse ref (past ++ (t.opOf ref).toList) s' →
      OnCourse ref (past ++ done ref [(s₁, t)]) s' := by
    intro s₁ t h'
    rw [done, List.filterMap_cons, List.filterMap_nil]
    revert h'
    generalize Task.opOf ref t = found
    intro h'
    cases found with
    | none => exact h'
    | some op => exact h'
  -- One case for each move; all but a few are moves of other routers, or of nobody.
  cases hm with
  | aside ha => exact hquiet (h.elsewhere ha.elsewhere)
  | began hb => exact hquiet (h.began hb)
  | passed hn hfree => exact hquiet (h.pass hn fun _ _ => hfree)
  | refused hn hrouter event status => exact hquiet (h.refused hn hrouter event status)
  | engaged hn hrouter cluster host => exact hquiet (h.started hn hrouter cluster host _)
  | wrote hq => exact htakes ((h.leave hq).writeCall _)
  | popped hq ht => exact htakes (h.leave hq)
  | delivered hq => exact htakes (h.delivered hq)
  | noted _ id op =>
    rw [done, List.filterMap_cons, List.filterMap_nil]
    exact (List.append_nil past).symm ▸ h
  | completed _ id => exact hquiet (h.completed id)
  | destroyed hnumber hover => exact hquiet (h.destroyed hnumber hover)
  | dropped _ id => exact hquiet (h.dropped id)

theorem OnCourse.moves {R : RouterRef → Request → Prop} {D : Prop} {ms : List (Session σ × Task)}
    (h : OnCourse ref past s) (hm : Moves R D ms s s') : OnCourse ref (past ++ done ref ms) s' := by
  induction hm with
  | refl s => exact (List.append_nil past).symm ▸ h
  | snoc _ hlast ih =>
    have h' := (ih h).move hlast
    rw [done, List.filterMap_append, ← List.append_assoc]
    exact h'

end Session

/-! ## What pools may tell

What comes from outside is not the work of the session, so nothing it keeps can follow for it. The
condition on it is that nobody is answered who does not wait for an answer; it is checked at every
operation, in the state before it. -/

def Router.waits (r : Router) : Bool := r.exchange.any (·.pending.isSome)

/-- Whether a router holds a connection whose response is not complete. -/
def Router.holds (r : Router) : Bool := r.exchange.any fun e => e.link.isSome && !e.responseComplete

namespace Session

variable {σ : Type} {ref : RouterRef} {past : List RouterOp} {s : Session σ}

/-- Whether a pool may answer a router: no answer is on its way, and the router waits for one or is
gone. A router that is gone may be answered, since a pool cannot know; the connection is then given
back. -/
def mayBeAnswered (s : Session σ) (ref : RouterRef) : Bool :=
  (s.toDo ref).all (!·.isAnswer) &&
    match s.router? ref with
    | some r => r.waits
    | none => decide (ref.stream < s.nextId)

/-- Whether the pool of a router answers it at most once while some things happen, and only if the
router has to wait for the answer. -/
def answersOnce (ref : RouterRef) : Session σ → List SessionOp → Bool
  | _, [] => true
  | s, op :: ops =>
    (match op with
      | .deliver other d => other ≠ ref || !d.isAnswer || s.mayBeAnswered ref
      | _ => true) &&
      answersOnce ref (s.step op) ops

theorem OnCourse.told {d : Delivery} (h : OnCourse ref past s)
    (hd : d.isAnswer = true → s.mayBeAnswered ref = true) :
    OnCourse ref past (s.post (.router ref (.deliver d))) := by
  have htoDo : (s.post (.router ref (.deliver d))).toDo ref = s.toDo ref ++ [.deliver d] := by
    show (s.queue.posted ++ [RouterOp.deliver d].map (Task.router ref)).filterMap (Task.opOf ref) = _
    rw [toDo_post, if_pos rfl]
  have hasks : (past ++ (s.post (.router ref (.deliver d))).toDo ref).countP RouterOp.isOutcome =
      (past ++ s.toDo ref).countP RouterOp.isOutcome := by
    rw [htoDo, ← List.append_assoc, List.countP_append]
    rfl
  have hanswers : ((s.post (.router ref (.deliver d))).toDo ref).countP RouterOp.isAnswer =
      (s.toDo ref).countP RouterOp.isAnswer + d.isAnswer.toNat := by
    rw [htoDo, List.countP_append]
    have hlast : (RouterOp.deliver d).isAnswer = d.isAnswer := rfl
    cases hans : d.isAnswer with
    | true => simp [hlast, hans]
    | false => simp [hlast, hans]
  cases hans : d.isAnswer with
  | false =>
    rw [hans] at hanswers
    refine ⟨⟨h.number, h.unborn, ?answers, h.real, h.looked⟩, ?early, ?once, ?awaited, h.whole,
        ?follows⟩
    case answers =>
      rw [hanswers]
      exact h.answers
    case early =>
      rw [hasks, hanswers]
      exact h.early
    case once =>
      rw [hasks]
      exact h.once
    case awaited =>
      rw [hanswers]
      exact h.awaited
    case follows =>
      rw [hasks]
      exact h.follows
  | true =>
    rw [hans] at hanswers
    obtain ⟨hnone, hwaits⟩ := (Bool.and_eq_true _ _).mp (hd hans)
    have hzero : (s.toDo ref).countP RouterOp.isAnswer = 0 := by
      rw [List.countP_eq_zero]
      intro op hop
      simpa using List.all_eq_true.mp hnone op hop
    rw [hzero] at hanswers
    refine ⟨⟨h.number, h.unborn, ?answers, h.real, h.looked⟩, ?early, ?once, ?awaited, h.whole,
        ?follows⟩
    case answers =>
      rw [hanswers]
      exact Nat.le_refl 1
    case early =>
      -- An answer never comes before the stream begins.
      intro hle
      have hgone : s.router? ref = none := by
        rw [h.router?_eq, h.unborn _ hle]
        rfl
      rw [hgone] at hwaits
      exact absurd (of_decide_eq_true hwaits) (Nat.not_lt.mpr hle)
    case once =>
      rw [hasks]
      exact h.once
    case awaited =>
      intro _ x r hx hr
      have hrouter : s.router? ref = some r := by
        have hx' : s.stream? ref.stream = some x := hx
        rw [h.router?_eq, hx']
        exact hr
      rw [hrouter] at hwaits
      exact (Option.any_eq_true _ _).mp hwaits
    case follows =>
      rw [hasks]
      exact h.follows

theorem OnCourse.step (h : OnCourse ref past s) (op : SessionOp)
    (hop : ∀ d, op = .deliver ref d → d.isAnswer = true → s.mayBeAnswered ref = true) :
    OnCourse ref (past ++ done ref (s.takenIn op)) (s.step op) := by
  by_cases hdeliver : ∃ other d, op = .deliver other d
  · obtain ⟨other, d, rfl⟩ := hdeliver
    have hnothing : done ref (s.takenIn (.deliver other d)) = [] := rfl
    rw [hnothing, List.append_nil]
    by_cases hself : other = ref
    · subst hself
      exact h.told (hop d rfl)
    · refine h.elsewhere ⟨rfl, rfl, ?_, fun _ h => h, ?_⟩
      · show (s.queue.posted ++ [RouterOp.deliver d].map (Task.router other)).filterMap
          (Task.opOf ref) = _
        rw [toDo_post, if_neg hself, List.append_nil]
      · exact fun y hy => ⟨y, hy, rfl, rfl, rfl, rfl, Or.inr rfl, rfl⟩
  · exact h.moves (step_moves s fun other d he => hdeliver ⟨other, d, he⟩)

theorem OnCourse.after {ops : List SessionOp} (h : OnCourse ref past s)
    (hops : answersOnce ref s ops = true) :
    OnCourse ref (past ++ done ref (s.history ops)) (s.after ops) := by
  induction ops generalizing s past with
  | nil => exact (List.append_nil past).symm ▸ h
  | cons op ops ih =>
    obtain ⟨hop, hrest⟩ := (Bool.and_eq_true _ _).mp hops
    have h' := h.step op fun d he hans => by
      subst he
      simpa [hans] using hop
    have hall := ih h' hrest
    rw [history, done, List.filterMap_append, ← List.append_assoc]
    exact hall

/-! ## The outcome

What a router has asked for is what its tasks say and what it has done already. At the end of a run
no task is left, so that all is past, and what was counted becomes a list with one entry at most. -/

theorem opened_onCourse (number : Nat) (plan : Plan) (flags : Flags) (source : PoolSource σ)
    (side : HostSide σ) (stats : ListenerStats) (clock : Clock) (id : StreamId) (slot : Nat) :
    OnCourse { session := number, stream := id, slot } []
      (opened number plan flags source side stats clock) := by
  refine ⟨⟨rfl, fun _ _ => rfl, Nat.zero_le 1, ?real, ?looked⟩, fun _ => ⟨rfl, rfl⟩, Nat.zero_le 1,
      ?awaited, ?whole, ?follows⟩
  case real =>
    exact fun x hx => nomatch hx
  case looked =>
    exact fun x hx => nomatch hx
  case awaited =>
    exact fun _ x _ hx => nomatch hx
  case whole =>
    exact fun x hx => nomatch hx
  case follows =>
    exact fun x _ hx => nomatch hx

end Session

/-- What a router asks for that decides what the client gets. -/
def RouterOp.outcome? : RouterOp → Option StreamOp
  | .ask op => if op.isOutcome then some op else none
  | .write | .deliver _ => none

def StreamOp.isReply : StreamOp → Bool
  | .localReply _ _ | .respond _ => true
  | _ => false

namespace Session

variable {σ : Type} {ref : RouterRef} {past : List RouterOp} {s : Session σ}

/-- What a router has asked for that decides what the client gets, in the order in which it did,
`moments` being the tasks that were taken up. -/
def outcomes (ref : RouterRef) (moments : List (Session σ × Task)) (s : Session σ) : List StreamOp :=
  (done ref moments ++ s.toDo ref).filterMap RouterOp.outcome?

theorem length_outcomes (ref : RouterRef) (moments : List (Session σ × Task)) (s : Session σ) :
    (outcomes ref moments s).length =
      (done ref moments ++ s.toDo ref).countP RouterOp.isOutcome := by
  unfold outcomes
  rw [List.length_filterMap_eq_countP]
  refine congrArg (List.countP · _) (funext fun op => ?_)
  cases op with
  | write => rfl
  | ask op =>
    show (if op.isOutcome then some op else none).isSome = op.isOutcome
    cases op.isOutcome with
    | true => rfl
    | false => rfl
  | deliver d => rfl

/-- One outcome for every routed request. A connection was opened and things have happened to it in
any order, its pools answering a router that waits at most once. Then a router has asked for one
reply at most, and never for both a reply and the end of the client's connection. And if a stream is
not over whose request has come to the router on a route that names a cluster, then exactly one of
three things is the case: the router waits for its pool, it holds a connection whose response is not
complete, or it has asked for exactly one outcome. -/
theorem opened_outcome (number : Nat) (plan : Plan) (flags : Flags) (source : PoolSource σ)
    (side : HostSide σ) (stats : ListenerStats) (clock : Clock) (id : StreamId) (slot : Nat)
    (ops : List SessionOp)
    (hops : answersOnce { session := number, stream := id, slot }
      (opened number plan flags source side stats clock) ops = true) :
    let s₀ := opened number plan flags source side stats clock
    let s := s₀.after ops
    let ref := s₀.refTo id slot
    let asked := outcomes ref (s₀.history ops) s
    (asked.countP StreamOp.isReply ≤ 1 ∧
      ¬(asked.any StreamOp.isReply = true ∧ .resetConnection ∈ asked)) ∧
    ∀ x, s.stream? id = some x → x.isCompleted = false → x.hasRouter slot = true →
      x.HasPassed slot → x.NamesCluster → ∃ r, s.router? ref = some r ∧
        ((r.waits = true ∧ r.holds = false ∧ asked = []) ∨
          (r.waits = false ∧ r.holds = true ∧ asked = []) ∨
          (r.waits = false ∧ r.holds = false ∧ ∃ op, asked = [op])) := by
  intro s₀ s ref asked
  have h : OnCourse ref (done ref (s₀.history ops)) s :=
    (opened_onCourse number plan flags source side stats clock id slot).after hops
  have hlength : asked.length = (done ref (s₀.history ops) ++ s.toDo ref).countP RouterOp.isOutcome :=
    length_outcomes ref (s₀.history ops) s
  -- What was asked for is a list, and its length is what the course counts.
  have honce : asked.length ≤ 1 := hlength ▸ h.once
  refine ⟨⟨Nat.le_trans List.countP_le_length honce, ?_⟩, ?_⟩
  -- There is only one thing in the list, and it cannot be both.
  · rintro ⟨hreply, hreset⟩
    obtain ⟨op, hop, hisReply⟩ := List.any_eq_true.mp hreply
    obtain ⟨a, ha⟩ := List.length_eq_one_iff.mp (Nat.le_antisymm honce (List.length_pos_of_mem hop))
    rw [ha] at hop hreset
    rw [List.mem_singleton.mp hop, ← List.mem_singleton.mp hreset] at hisReply
    cases hisReply
  · intro x hx hlive hhas hp hnames
    obtain ⟨r, hr⟩ := Option.isSome_iff_exists.mp (h.whole x hx hlive hhas)
    refine ⟨r, by rw [h.router?_eq]; exact (congrArg (Option.bind · _) hx).trans hr, ?_⟩
    have hf := h.follows x r hx hr
    unfold Router.Follows at hf
    unfold Router.waits Router.holds
    rw [← hlength] at hf
    cases hex : r.exchange with
    | none =>
      rw [hex] at hf
      exact Or.inr (Or.inr ⟨rfl, rfl, List.length_eq_one_iff.mp (hf.2 hp hnames)⟩)
    | some e =>
      rw [hex] at hf
      -- The three phases of the exchange are the three cases.
      obtain ⟨-, ⟨hw, hn⟩ | ⟨hh, -, hn⟩ | ⟨ho, hn⟩⟩ := hf
      · refine Or.inl ⟨hw.pending, ?_, List.length_eq_zero_iff.mp hn⟩
        simp [hw.link]
      · refine Or.inr (Or.inl ⟨?_, ?_, List.length_eq_zero_iff.mp hn⟩)
        · simp [hh.pending]
        · simp [hh.link, hh.incomplete]
      · refine Or.inr (Or.inr ⟨?_, ?_, List.length_eq_one_iff.mp hn⟩)
        · simp [ho.pending]
        · simp [ho.link]

/-- A pool answers later, once. The router then holds a connection and has asked for nothing. -/
theorem opened_outcome_connection_later :
    let plan : Plan :=
      { label := "edge", routes := ⟨[({}, { name := "all", cluster := some "c" })]⟩,
        parts := [⟨.decoder, .router 0⟩] }
    let host : HostRef := { address := "h:1", cluster := "c" }
    let side : HostSide ScriptedPools :=
      { generations := [{ list := [{ config := { name := "c", hosts := ["h:1"] },
                                     hosts := [{ address := "h:1", cluster := "c" }] }] }],
        pools := { scripts := [.pending] } }
    let s₀ := opened 0 plan {} ScriptedPools.source side (.start "edge" 0) {}
    let ref := s₀.refTo 0 0
    let ops : List SessionOp := [.request { service := "users", method := "get" },
      .deliver ref (.ready 0 host), .run]
    let s := s₀.after ops
    answersOnce ref s₀ ops = true ∧ (s.router? ref).any Router.holds = true ∧
      (outcomes ref (s₀.history ops) s).countP StreamOp.isReply ≤ 1 := by
  intro plan host side s₀ ref ops s
  have hops : answersOnce ref s₀ ops = true := by decide +kernel
  refine ⟨hops, by decide +kernel, ?_⟩
  exact (opened_outcome 0 plan {} ScriptedPools.source side (.start "edge" 0) {} 0 0 ops hops).1.1

end Session

end RpcProxy

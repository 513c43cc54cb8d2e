import RpcProxy.Proofs.Config.Chains
import RpcProxy.Proofs.Exchange.Calls
import RpcProxy.Proofs.Session.StreamsInFlight

/-!
# What a task comes to

A run takes tasks up until none is left, and tasks post tasks. That this ends is a matter of what
filters ask for: a reply asks for nothing more than the end of the client's connection, and what a
pool tells a router makes it ask for no more than three things. `Task.reach` counts the tasks that a
task can come to, itself among them, and `PostsAtMost` says of a piece of work how much of that it
leaves behind; `Orderly.runTask_postsAtMost` is the step and `Steady.runUntilIdle` the run: with as
many steps as the tasks that wait can come to, a run ends with nothing left to do.

The number of tasks that wait is no measure, since taking one up may post several. But what is
posted is of a lower kind: deliveries lead to requests of routers, these lead to work of streams,
and that leads to the end of the connection or to nothing. The weights are chosen so that each kind
outweighs all that it can post. A filter that lets a stream go on again would break the order, as
its stream's request could meet it once more, and so could one that asks for something whenever a
response meets it; this is why such filters are excluded here (`Part.Brief`), while everything else
about sessions is proved for any filters.

`PostsAtMost` says two things more, for the end of the connection: no stream comes back among those
in flight, and a connection that becomes known to be closed is not open and has no stream in flight.
-/

set_option autoImplicit false

namespace RpcProxy

/-! ## Tasks that come to an end

What a task can come to. The number is the size of a tree that is known beforehand, as tasks of each
kind lead to lower kinds only. -/

/-- Whether something that is asked of a stream leaves its filters behind. -/
def StreamOp.isFinal : StreamOp → Bool
  | .continueDecoding | .continueEncoding => false
  | .localReply _ _ | .respond _ | .complete | .reset | .resetConnection => true

/-- Whether a router does nothing that leads back to its filters. -/
def RouterOp.isBrief : RouterOp → Bool
  | .ask op => op.isFinal
  | .write | .deliver _ => true

/-- Whether a task does nothing that leads back to filters. -/
def Task.isBrief : Task → Bool
  | .stream _ op => op.isFinal
  | .router _ op => op.isBrief
  | .closed => true

/-- The tasks that something a router does can come to, itself among them. A delivery makes a router
ask for three things at most, each of which comes to two tasks. -/
def RouterOp.reach : RouterOp → Nat
  | .write => 1
  | .ask _ => 2
  | .deliver _ => 7

/-- The tasks that a task can come to, itself among them. A reply posts the end of the connection,
if it closes it. -/
def Task.reach : Task → Nat
  | .stream _ _ => 2
  | .router _ op => op.reach
  | .closed => 1

theorem Task.reach_pos (t : Task) : 0 < t.reach := by
  cases t with
  | stream | closed => exact Nat.succ_pos _
  | router ref op => cases op <;> exact Nat.succ_pos _

theorem Task.eq_nil_of_reach {ts : List Task} (h : (ts.map Task.reach).sum ≤ 0) : ts = [] := by
  cases ts with
  | nil => rfl
  | cons t rest =>
    have hpos := t.reach_pos
    rw [List.map_cons, List.sum_cons] at h
    omega

/-- A filter that asks for nothing which leads back to filters, and for nothing at all when it meets
a response or when a stream ends. Filters of settings are such (`Config.Filter.Makes.brief`),
whatever their settings are. -/
structure Part.Brief (p : Part) : Prop where
  onRequest : ∀ view r, (p.onRequest view r).asks.all (·.2.isFinal) = true
  onResponse : ∀ view number r, (p.onResponse view number r).asks = []
  onEnd : ∀ id, (p.onEnd id).asks = []

/-- All filters that settings can name are such filters. -/
theorem Config.Filter.Makes.brief {generation : Nat} {f : Config.Filter} {p : Part}
    (h : f.Makes generation p) : p.Brief := by
  cases h with
  | router | access => exact ⟨fun _ _ => rfl, fun _ _ _ => rfl, fun _ => rfl⟩
  | direct =>
    refine ⟨fun view r => ?_, fun _ _ _ => rfl, fun _ => rfl⟩
    show ((directResponse.onRequest view r).asks).all (·.2.isFinal) = true
    rcases directResponse_cases view r with heq | ⟨status, heq⟩
    · rw [heq]
      rfl
    · rw [heq]
      rfl
  | requests => exact ⟨fun _ _ => rfl, fun _ _ _ => rfl, fun _ => rfl⟩
  | responses => exact ⟨fun _ _ => rfl, fun _ _ _ => rfl, fun _ => rfl⟩

/-! ## What exchanges leave to do

A step of an exchange asks its router for a bounded number of things. -/

theorem Effect.later_brief {e : Effect} {op : RouterOp} (h : e.later? = some op) :
    op.isBrief = true ∧ op.reach ≤ 2 := by
  cases e <;> simp only [Effect.later?, Option.some.injEq, reduceCtorEq] at h <;> subst h <;>
    exact ⟨rfl, Nat.le_of_ble_eq_true rfl⟩

namespace Exchange

/-- What a step leaves to do. It is never what a pool tells. -/
theorem Step.later_brief (t : Step) : ∀ op ∈ t.effects.filterMap Effect.later?,
    op.isBrief = true ∧ op.reach ≤ 2 := by
  intro op hop
  obtain ⟨e, -, he⟩ := List.mem_filterMap.mp hop
  exact Effect.later_brief he

variable {e : Exchange}

theorem startCall_later (resume : Bool) (e : Exchange) :
    (e.startCall resume).effects.filterMap Effect.later? = if resume then [.write] else [] := by
  unfold startCall
  cases e.link <;> cases e.linkState <;> cases resume <;> rfl

theorem startCall_later_le (resume : Bool) (e : Exchange) :
    ((e.startCall resume).effects.filterMap Effect.later?).length ≤ 1 := by
  rw [startCall_later]
  cases resume with
  | true => exact Nat.le_refl 1
  | false => exact Nat.zero_le 1

theorem poolReady_later_le (link : LinkId) (host : HostRef) (shared : Option LinkState)
    (e : Exchange) : ((e.poolReady link host shared).effects.filterMap Effect.later?).length ≤ 1 := by
  have htaken : (([.report host .connectSuccess, .hold host, .link (.attach link)] : List Effect) ++
      (if shared.isNone then [Effect.link (.initState link (shared.getD {}))] else []) ++
      (e.link.map fun old => [Effect.link (.release old)]).getD []).filterMap Effect.later? = [] := by
    cases shared <;> cases e.link <;> rfl
  unfold poolReady
  dsimp only
  split
  · simp only [Step.andThen]
    rw [List.filterMap_append, htaken]
    exact Nat.zero_le 1
  · simp only [Step.andThen]
    rw [List.filterMap_append, htaken, List.nil_append]
    exact startCall_later_le _ _

theorem fail_later_le (reason : FailureReason) (now : Instant) (e : Exchange) :
    ((e.fail reason now).2.effects.filterMap Effect.later?).length ≤ 1 := by
  obtain ⟨op, -, h⟩ | ⟨h, -⟩ := fail_later reason now e
  · rw [h]
    exact Nat.le_refl 1
  · rw [h]
    exact Nat.zero_le 1

theorem poolFailure_later_le (reason : FailureReason) (host : Option HostRef) (now : Instant)
    (e : Exchange) :
    ((e.poolFailure reason host now).effects.filterMap Effect.later?).length ≤ 2 := by
  have h := fail_later_le reason now { e with pending := none, host }
  unfold poolFailure
  generalize { e with pending := none, host }.fail reason now = failed at h
  obtain ⟨closes, s⟩ := failed
  simp only [Step.andThen, emit, List.filterMap_append, List.length_append]
  cases closes
  · exact Nat.add_le_add (b := 1) h (Nat.le_refl 1)
  · exact Nat.le_succ_of_le h

theorem onUpgradeData_later_le (upgrade : Upgrade) (sofar data : Bytes) (e : Exchange) :
    ((e.onUpgradeData upgrade sofar data).effects.filterMap Effect.later?).length ≤ 1 := by
  unfold onUpgradeData
  dsimp only
  split
  · simp only [Step.andThen, List.filterMap_append, List.length_append]
    refine Nat.add_le_add (Nat.le_of_eq (m := 0) ?_) (startCall_later_le true _)
    cases e.link <;> cases e.linkState <;> rfl
  · exact Nat.zero_le 1

theorem onResponseData_later {δ : Type} (dec : Decoding δ) (d : δ) (data : Bytes) (now : Instant)
    (e : Exchange) :
    (e.onResponseData dec d data now).2.2.effects.filterMap Effect.later? = [] := by
  unfold onResponseData
  dsimp only
  refine Step.later_andThen ?_ (onReply_later ..)
  cases e.responseStarted <;> rfl

theorem onData_later_le {d d' : ReplyDecoder} {data : Bytes} {now : Instant} {isOver : Bool}
    {t : Step} (h : e.onData lineReplies d data false now = .ok (isOver, d', t)) :
    (t.effects.filterMap Effect.later?).length ≤ 1 := by
  -- Whatever the octets are for, the step is taken over as it is, since none of them are the last.
  have htaken : ∀ r : ReplyStatus × ReplyDecoder × Step,
      (if r.1 ≠ .moreData then Except.ok (true, r.2.1, r.2.2)
        else .ok (false, r.2.1, r.2.2) : Except Panic _) = .ok (isOver, d', t) → r.2.2 = t := by
    intro r hr
    split at hr
    · cases hr
      rfl
    · cases hr
      rfl
  unfold onData at h
  split at h
  · cases h
  · cases hup : e.upgrading with
    | some under =>
      simp only [hup, Bool.false_eq_true, if_false] at h
      rw [← htaken (.moreData, d, _) h]
      exact onUpgradeData_later_le _ _ _ _
    | none =>
      simp only [hup, Bool.false_eq_true, if_false] at h
      rw [← htaken _ h, onResponseData_later]
      exact Nat.zero_le 1

theorem onEvent_later_le {event : ConnectionEvent} {now : Instant} {t : Step}
    (h : e.onEvent event now = .ok t) : (t.effects.filterMap Effect.later?).length ≤ 2 := by
  obtain ⟨-, reason, -, rfl⟩ := onEvent_cases h
  simp only [Step.andThen, emit, List.filterMap_append, releaseLink_later, List.append_nil,
    List.length_append]
  have hreset : ∀ asks : Bool,
      ((if asks then [Effect.resetStream] else []).filterMap Effect.later?).length ≤ 1 := by
    intro asks
    cases asks with
    | true => exact Nat.le_refl 1
    | false => exact Nat.zero_le 1
  exact Nat.add_le_add (b := 1) (d := 1) (fail_later_le reason now e) (hreset _)

end Exchange

namespace Session

variable {σ : Type}

/-! ## What routers leave to do

Each thing that a router does posts what its exchange asked for. -/

/-- A router was at work, and what it has put behind other work can come to no more than `n`
tasks. -/
def RouterPosts (ref : RouterRef) (n : Nat) (s s' : Session σ) : Prop :=
  ∃ ops, (∀ op ∈ ops, op.isBrief = true) ∧ (ops.map RouterOp.reach).sum ≤ n ∧ Touches ref ops s s'

section

variable {ref : RouterRef} {m n : Nat} {s s' s₁ s₂ s₃ : Session σ}

theorem Touches.routerPosts (h : Touches ref [] s s') : RouterPosts ref 0 s s' := ⟨[], by simp, by simp, h⟩

theorem RouterPosts.trans (h₁ : RouterPosts ref m s₁ s₂) (h₂ : RouterPosts ref n s₂ s₃) :
    RouterPosts ref (m + n) s₁ s₃ := by
  obtain ⟨ops₁, hbrief₁, hreach₁, ht₁⟩ := h₁
  obtain ⟨ops₂, hbrief₂, hreach₂, ht₂⟩ := h₂
  refine ⟨ops₁ ++ ops₂, fun op hop => ?_, ?_, ht₁.trans ht₂⟩
  · exact (List.mem_append.mp hop).elim (hbrief₁ op) (hbrief₂ op)
  · rw [List.map_append, List.sum_append]
    exact Nat.add_le_add hreach₁ hreach₂

theorem RouterPosts.mono (h : RouterPosts ref m s s') (hle : m ≤ n) : RouterPosts ref n s s' := by
  obtain ⟨ops, hbrief, hreach, ht⟩ := h
  exact ⟨ops, hbrief, Nat.le_trans hreach hle, ht⟩

/-- A piece of work behind one that leaves nothing to do. -/
theorem RouterPosts.behind (h₂ : RouterPosts ref n s₂ s₃) (h₁ : Touches ref [] s₁ s₂) :
    RouterPosts ref n s₁ s₃ :=
  Nat.zero_add n ▸ h₁.routerPosts.trans h₂

theorem sum_reach_le {ops : List RouterOp} (h : ∀ op ∈ ops, op.reach ≤ 2) :
    (ops.map RouterOp.reach).sum ≤ 2 * ops.length := by
  induction ops with
  | nil => exact Nat.le_refl 0
  | cons op ops ih =>
    have hop := h op List.mem_cons_self
    have hops := ih fun op hop => h op (List.mem_cons_of_mem _ hop)
    rw [List.map_cons, List.sum_cons, List.length_cons]
    omega

theorem takeStep_routerPosts (s : Session σ) (ref : RouterRef) {t : Exchange.Step}
    (h : (t.effects.filterMap Effect.later?).length ≤ n) :
    RouterPosts ref (2 * n) s (s.takeStep ref t) := by
  refine ⟨_, fun op hop => (t.later_brief op hop).1, ?_, takeStep_touches s ref t⟩
  exact Nat.le_trans (sum_reach_le fun op hop => (t.later_brief op hop).2) (Nat.mul_le_mul_left 2 h)

theorem effect_routerPosts (s : Session σ) (ref : RouterRef) (e : Effect) :
    RouterPosts ref 2 s (s.effect ref e) := by
  refine ⟨e.later?.toList, fun op hop => (Effect.later_brief (Option.mem_toList.mp hop)).1, ?_,
    effect_touches ref s e⟩
  cases he : e.later? with
  | none => exact Nat.zero_le 2
  | some op => exact (Effect.later_brief he).2

theorem askBy_routerPosts (s : Session σ) (ref : RouterRef) {op : StreamOp} (h : op.isFinal = true) :
    RouterPosts ref 2 s (s.askBy ref op) :=
  ⟨[.ask op], by simpa [RouterOp.isBrief] using h, Nat.le_refl 2, Touches.post _⟩

theorem writeCall_routerPosts (s : Session σ) (ref : RouterRef) : RouterPosts ref 0 s (s.writeCall ref) := by
  obtain h | ⟨r, e, hr, he, hgo⟩ := writeCall_cases s ref
  · rw [h]
    exact (Touches.refl ref s).routerPosts
  · exact (writeCall_touches hr he hgo).1.routerPosts

theorem startExchange_routerPosts (s : Session σ) (ref : RouterRef) (cluster : Config.Cluster)
    (host : HostRef) (request : Request) :
    ∃ n, RouterPosts ref n s (s.startExchange ref cluster host request) := by
  obtain ⟨shared, now, t, -, htouch, -⟩ := engage_touches s ref cluster host request
  have hengaged : RouterPosts ref _ s (s.engage ref cluster host request).2 :=
    ⟨_, fun op hop => (t.later_brief op hop).1, Nat.le_refl _, htouch⟩
  obtain ⟨-, h⟩ | ⟨-, h⟩ := startExchange_cases s ref cluster host request
  · rw [h]
    exact ⟨_, hengaged⟩
  · rw [h]
    exact ⟨_, hengaged.trans (writeCall_routerPosts _ ref)⟩

/-- What a request makes its router do leads back to no filter. -/
theorem route_routerPosts (s : Session σ) (ref : RouterRef) (generation : Nat) (found : Option Route)
    (request : Request) : ∃ n, RouterPosts ref n s (s.route ref generation found request).2 := by
  have hrefuse : ∀ (s : Session σ) (event : RouterEvent) (status : Status),
      RouterPosts ref 2 s (s.refuse ref event status) := by
    intro s event status
    exact (askBy_routerPosts (s.count event) ref rfl).behind (Touches.count event)
  unfold Session.route
  split
  · exact ⟨2, hrefuse _ _ _⟩
  · split
    · exact ⟨0, (Touches.refl ref s).routerPosts⟩
    · dsimp only
      split
      · next cluster host _ =>
        obtain ⟨n, h⟩ := startExchange_routerPosts _ ref cluster.config host request
        exact ⟨n, h.behind (Touches.withSide _)⟩
      · exact ⟨2, (hrefuse _ _ _).behind (Touches.withSide _)⟩
      · exact ⟨2, (hrefuse _ _ _).behind (Touches.withSide _)⟩

theorem forwardReply_routerPosts (s : Session σ) (ref : RouterRef) :
    RouterPosts ref 2 s (s.forwardReply ref) := by
  unfold Session.forwardReply
  split
  · exact (Touches.refl ref s).routerPosts.mono (Nat.zero_le 2)
  · next r hr =>
    have hset : ∀ decoder, Touches ref [] s (s.setRouter ref { r with decoder }) :=
      fun decoder => Touches.setRouter hr _
    dsimp only
    split
    · exact (effect_routerPosts _ ref _).behind (hset _)
    · exact (hset _).routerPosts.mono (Nat.zero_le 2)
    · exact (askBy_routerPosts _ ref rfl).behind (hset _)

/-- What a router does when it is told something comes to no more than six tasks. -/
theorem onDelivery_routerPosts (s : Session σ) (ref : RouterRef) (d : Delivery) :
    RouterPosts ref 6 s (s.onDelivery ref d) := by
  obtain ⟨-, h⟩ | ⟨r, e, hr, -, h⟩ := onDelivery_cases s ref d
  · rw [h]
    cases d with
    | ready link host => exact (giveBack_touches s ref link).routerPosts.mono (Nat.zero_le 6)
    | failure | data | event => exact (Touches.refl ref s).routerPosts.mono (Nat.zero_le 6)
  · rw [h]
    cases d with
    | ready link host =>
      exact (takeStep_routerPosts s ref (Exchange.poolReady_later_le ..)).mono (by decide)
    | failure reason host =>
      exact (takeStep_routerPosts s ref (Exchange.poolFailure_later_le ..)).mono (by decide)
    | data octets =>
      dsimp only
      unfold Session.onHostData
      split
      · exact (Touches.refl ref s).routerPosts.mono (Nat.zero_le 6)
      · split
        · exact (Touches.stop _).routerPosts.mono (Nat.zero_le 6)
        · next isOver d' t ht =>
          -- At most what the step of the exchange posts, and one task more for the reply that it
          -- completes.
          have htaken := (takeStep_routerPosts (s.setRouter ref { r with decoder := d' }) ref
            (Exchange.onData_later_le ht)).behind (Touches.setRouter hr _)
          dsimp only
          split
          · exact (htaken.trans (forwardReply_routerPosts _ ref)).mono (by decide)
          · exact htaken.mono (by decide)
    | event event =>
      dsimp only
      unfold Session.onHostEvent
      split
      · exact (Touches.refl ref s).routerPosts.mono (Nat.zero_le 6)
      · split
        · exact (Touches.stop _).routerPosts.mono (Nat.zero_le 6)
        · next t ht =>
          exact (takeStep_routerPosts s ref (Exchange.onEvent_later_le ht)).mono (by decide)

end

/-! ## What work leaves behind

Work posts so much at most, and does not open what was closed. The second half is needed for the
first: a connection that closes ends all streams, but can do so only once. -/

/-- No stream comes back among those in flight, the connection does not open, and a connection that
becomes known to be closed has gone down with all its streams. -/
structure OpensNothing (s s' : Session σ) : Prop where
  isServed : s'.isServed = s.isServed
  isClosed : s.isClosed = true → s'.isClosed = true
  active : s'.active ⊆ s.active
  isOpen : s'.connection.isOpen = true → s.connection.isOpen = true
  shut : s'.isClosed = true → s.isClosed = true ∨ s'.connection.isOpen = false ∧ s'.active = []

/-- Such work that leaves no more behind than `n` tasks can come to. What is posted leads back to no
filter, and it tells of the end of the connection only when there was one. -/
structure PostsAtMost (n : Nat) (s s' : Session σ) : Prop extends OpensNothing s s' where
  posted : ∃ ts, s'.queue.posted = s.queue.posted ++ ts ∧ (ts.map Task.reach).sum ≤ n ∧
    ∀ t ∈ ts, t.isBrief = true ∧ (t = .closed → s'.connection.isOpen = false)

section

variable {plan : Plan} {f : EndNotice} {id : StreamId} {m n : Nat} {s s' s₁ s₂ s₃ : Session σ}

theorem not_isOpen_of {c c' : Downstream} (h : c'.isOpen = true → c.isOpen = true)
    (hc : c.isOpen = false) : c'.isOpen = false := by
  cases hc' : c'.isOpen with
  | false => rfl
  | true => exact absurd (h hc') (by simp [hc])

/-- The connection is what it was, or is not open any more. -/
theorem OpensNothing.same (hserved : s'.isServed = s.isServed) (hclosed : s'.isClosed = s.isClosed)
    (hactive : s'.active ⊆ s.active)
    (hopen : s'.connection.isOpen = true → s.connection.isOpen = true) : OpensNothing s s' where
  isServed := hserved
  isClosed h := hclosed.trans h
  active := hactive
  isOpen := hopen
  shut h := Or.inl (hclosed.symm.trans h)

theorem OpensNothing.refl (s : Session σ) : OpensNothing s s := .same rfl rfl (fun _ h => h) (fun h => h)

theorem OpensNothing.trans (h₁ : OpensNothing s₁ s₂) (h₂ : OpensNothing s₂ s₃) : OpensNothing s₁ s₃ where
  isServed := h₂.isServed.trans h₁.isServed
  isClosed h := h₂.isClosed (h₁.isClosed h)
  active := List.Subset.trans h₂.active h₁.active
  isOpen h := h₁.isOpen (h₂.isOpen h)
  shut h := by
    obtain hclosed | hdown := h₂.shut h
    · obtain hclosed | ⟨hopen, hnone⟩ := h₁.shut hclosed
      · exact Or.inl hclosed
      · exact Or.inr ⟨not_isOpen_of h₂.isOpen hopen, List.subset_nil.mp (hnone ▸ h₂.active)⟩
    · exact Or.inr hdown

theorem PostsAtMost.trans (h₁ : PostsAtMost m s₁ s₂) (h₂ : PostsAtMost n s₂ s₃) :
    PostsAtMost (m + n) s₁ s₃ where
  toOpensNothing := h₁.toOpensNothing.trans h₂.toOpensNothing
  posted := by
    obtain ⟨ts₁, heq₁, hreach₁, hbrief₁⟩ := h₁.posted
    obtain ⟨ts₂, heq₂, hreach₂, hbrief₂⟩ := h₂.posted
    refine ⟨ts₁ ++ ts₂, by rw [heq₂, heq₁, List.append_assoc], ?_, fun t ht => ?_⟩
    · rw [List.map_append, List.sum_append]
      exact Nat.add_le_add hreach₁ hreach₂
    · rcases List.mem_append.mp ht with ht | ht
      · exact ⟨(hbrief₁ t ht).1, fun he => not_isOpen_of h₂.isOpen ((hbrief₁ t ht).2 he)⟩
      · exact hbrief₂ t ht

theorem PostsAtMost.mono (h : PostsAtMost m s s') (hle : m ≤ n) : PostsAtMost n s s' where
  toOpensNothing := h.toOpensNothing
  posted := by
    obtain ⟨ts, heq, hreach, hbrief⟩ := h.posted
    exact ⟨ts, heq, Nat.le_trans hreach hle, hbrief⟩

/-- A piece of work behind one that leaves nothing to do. -/
theorem PostsAtMost.behind (h₂ : PostsAtMost n s₂ s₃) (h₁ : PostsAtMost 0 s₁ s₂) : PostsAtMost n s₁ s₃ :=
  Nat.zero_add n ▸ h₁.trans h₂

theorem OpensNothing.postsAtMost (h : OpensNothing s s') (hposted : s'.queue.posted = s.queue.posted) :
    PostsAtMost 0 s s' :=
  ⟨h, [], by simp [hposted], Nat.le_refl 0, by simp⟩

/-- The queue is what it was, too. -/
theorem PostsAtMost.same (hserved : s'.isServed = s.isServed) (hclosed : s'.isClosed = s.isClosed)
    (hactive : s'.active ⊆ s.active)
    (hopen : s'.connection.isOpen = true → s.connection.isOpen = true)
    (hposted : s'.queue.posted = s.queue.posted) : PostsAtMost 0 s s' :=
  (OpensNothing.same hserved hclosed hactive hopen).postsAtMost hposted

theorem PostsAtMost.refl (s : Session σ) : PostsAtMost 0 s s := .same rfl rfl (fun _ h => h) (fun h => h) rfl

theorem PostsAtMost.foldl {α : Type} {f : Session σ → α → Session σ} (hf : ∀ s a, PostsAtMost 0 s (f s a))
    (l : List α) (s : Session σ) : PostsAtMost 0 s (l.foldl f s) := by
  induction l generalizing s with
  | nil => exact .refl s
  | cons a rest ih => exact (hf s a).trans (ih (f s a))

theorem RouterPosts.postsAtMost {ref : RouterRef} (h : RouterPosts ref n s s') : PostsAtMost n s s' := by
  obtain ⟨ops, hbrief, hreach, g, side, notes, panic, -, rfl⟩ := h
  refine ⟨.same rfl rfl (fun _ h => h) (fun h => h), ops.map (.router ref), rfl, ?_, fun t ht => ?_⟩
  · rw [List.map_map]
    exact hreach
  · obtain ⟨op, hop, rfl⟩ := List.mem_map.mp ht
    exact ⟨hbrief op hop, nofun⟩

/-! ## Ends

An end posts nothing: filters ask for nothing then, and a connection that goes down takes its
streams down at once. -/

theorem closeIfDrained_postsAtMost (s : Session σ) : PostsAtMost 0 s s.closeIfDrained := by
  unfold Session.closeIfDrained
  split
  · refine .same rfl rfl (fun _ h => h) (fun h => ?_) rfl
    rw [close_isOpen] at h
    cases h
  · exact .refl s

theorem post_closed_postsAtMost (h : s.connection.isOpen = false) : PostsAtMost 1 s (s.post .closed) := by
  refine ⟨.same rfl rfl (fun _ h => h) (fun h => h), [.closed], rfl, Nat.le_refl 1, fun t ht => ?_⟩
  rw [List.mem_singleton.mp ht]
  exact ⟨rfl, fun _ => h⟩

theorem writeToClient_postsAtMost (s : Session σ) (data : Bytes) (last : Bool) :
    PostsAtMost 1 s (s.writeToClient data last) := by
  have hwritten : PostsAtMost 0 s { s with connection := s.connection.write data last } :=
    .same rfl rfl (fun _ h => h) write_isOpen rfl
  unfold Session.writeToClient
  dsimp only
  split
  · next hclosed =>
    refine PostsAtMost.behind (post_closed_postsAtMost ?_) hwritten
    simpa using (Bool.and_eq_true_iff.mp hclosed).1
  · exact hwritten.mono (Nat.zero_le 1)

/-- A filter that asks for nothing leaves nothing to do. -/
theorem afterFilter_postsAtMost (s : Session σ) {a : Asides} (ha : a.asks = []) :
    PostsAtMost 0 s (s.afterFilter a) := by
  rw [afterFilter_eq, Asides.tasks, ha]
  exact .same rfl rfl (fun _ h => h) (fun h => h) (List.append_nil _)

theorem destroySlot_postsAtMost (s : Session σ) {x : Stream} (hbrief : ∀ p ∈ x.parts, p.Brief) (slot : Nat) :
    PostsAtMost 0 s (s.destroySlot x slot) := by
  unfold Session.destroySlot
  split
  · exact .refl s
  · next hslot =>
    have hpart := hbrief _ (List.mem_map_of_mem (List.mem_of_getElem? hslot))
    exact afterFilter_postsAtMost s (hpart.onEnd x.id)
  · exact .same rfl rfl (fun _ h => h) (fun h => h) rfl
  · exact .refl s
  · exact (destroyRouter_touches s _).1.routerPosts.postsAtMost

theorem completeStream_postsAtMost (hbrief : s.AllParts Part.Brief) (id : StreamId) :
    PostsAtMost 0 s (s.completeStream id) := by
  unfold Session.completeStream
  split
  · exact .refl s
  · next x hx =>
    split
    · exact .refl s
    · refine PostsAtMost.trans ?_ (.foldl (fun s i => destroySlot_postsAtMost s (hbrief id x hx) i) _ _)
      unfold Session.recordEnd
      dsimp only
      split
      · exact .same rfl rfl (fun _ h => h) (fun h => h) rfl
      · exact .same rfl rfl (fun _ h => h) (fun h => h) rfl

theorem finishStream_postsAtMost (hbrief : s.AllParts Part.Brief) (id : StreamId) :
    PostsAtMost 0 s (s.finishStream id) := by
  refine PostsAtMost.behind ?_ (completeStream_postsAtMost hbrief id)
  unfold Session.finishStream
  dsimp only
  generalize s.completeStream id = s₁
  split
  · exact .refl s₁
  · split
    · exact .refl s₁
    · refine PostsAtMost.trans ?_ (closeIfDrained_postsAtMost _)
      split
      · exact .same rfl rfl List.erase_subset (fun h => h) rfl
      · exact .same rfl rfl (fun _ h => h) (fun h => h) rfl

theorem resetStream_postsAtMost (hbrief : s.AllParts Part.Brief) (id : StreamId) :
    PostsAtMost 0 s (s.resetStream id) := by
  rcases resetStream_eq s id with heq | ⟨count, heq⟩
  · rw [heq]
    exact .refl s
  · rw [heq]
    have hmarked : PostsAtMost 0 s ((s.flag id).measure count) :=
      .same rfl rfl (fun _ h => h) (fun h => h) rfl
    split
    · exact (finishStream_postsAtMost (hbrief.flag id count) id).behind hmarked
    · exact hmarked

theorem Orderly.resetAll_postsAtMost (h : Orderly plan .span s) (hbrief : ∀ p ∈ plan.parts, p.Brief) :
    PostsAtMost 0 s s.resetAll := by
  have hall : ∀ (ids : List StreamId) (s : Session σ), Orderly plan .span s →
      PostsAtMost 0 s (ids.foldl resetStream s) := by
    intro ids
    induction ids with
    | nil => exact fun s _ => .refl s
    | cons id ids ih =>
      intro s h
      have hnext : Orderly plan .span (s.resetStream id) :=
        LifeStep.orderly h (fun p _ => withholds_span p) (.reset s id)
      exact (resetStream_postsAtMost (h.allParts hbrief) id).trans (ih _ hnext)
  exact hall s.active s h

theorem Orderly.resetStream_subset (h : Orderly plan f s) (id : StreamId) :
    (s.resetStream id).active ⊆ s.active := by
  rcases h.resetStream_cases id with heq | ⟨x, -, -, heq⟩ | ⟨-, heq⟩ | ⟨-, x, -, -, -, heq, -⟩
  · rw [heq]
    exact fun _ hin => hin
  · rw [heq]
    exact fun _ hin => hin
  · rw [heq]
    exact fun _ hin => hin
  · rw [heq]
    exact List.erase_subset

/-- A stream that is reset is not in flight any more. -/
theorem Orderly.not_mem_resetStream (h : Orderly plan f s)
    (hs : s.isServed = true) (id : StreamId) : id ∉ (s.resetStream id).active := by
  intro hin
  have hid := h.resetStream_subset id hin
  obtain ⟨x, hx, hlive⟩ := h.there hs id hid
  obtain ⟨hinserted, hreset, -⟩ := h.inFlight hs id x hx hlive
  obtain ⟨-, hactive, -⟩ := resetStream_ended (f := f) hx hreset hlive (h.sound id x hx).memorySuits hinserted hid hs
  rw [hactive] at hin
  exact h.nodup.not_mem_erase hin

/-- When all streams in flight are reset, none is left. -/
theorem Orderly.resetAll_active (h : Orderly plan f s)
    (hf : ∀ p ∈ plan.parts, p.Withholds f) (hs : s.isServed = true) : s.resetAll.active = [] := by
  have hall : ∀ (ids : List StreamId) (s : Session σ), Orderly plan f s → s.isServed = true →
      ∀ id ∈ (ids.foldl resetStream s).active, id ∈ s.active ∧ id ∉ ids := by
    intro ids
    induction ids with
    | nil => exact fun s _ _ id hid => ⟨hid, List.not_mem_nil⟩
    | cons a ids ih =>
      intro s h hs id hid
      obtain ⟨hin, hout⟩ := ih (s.resetStream a) (LifeStep.orderly h hf (.reset s a))
        ((LifeStep.isServed h (.reset s a)).trans hs) id hid
      refine ⟨h.resetStream_subset a hin, fun hmem => ?_⟩
      rcases List.mem_cons.mp hmem with rfl | hmem
      · exact h.not_mem_resetStream hs id hin
      · exact hout hmem
  refine List.eq_nil_iff_forall_not_mem.mpr fun id hid => ?_
  obtain ⟨hin, hout⟩ := hall s.active s h hs id hid
  exact hout hin

/-- A connection that is not open becomes known to be closed. -/
theorem Orderly.close_postsAtMost (h : Orderly plan .span s) (hbrief : ∀ p ∈ plan.parts, p.Brief)
    (hs : s.isServed = true) (hopen : s.connection.isOpen = false) :
    PostsAtMost 0 s (s.onConnectionEvent .localClose) := by
  have hmarked : Orderly plan .span { s with isClosed := true } :=
    h.noEnds (fun p _ => withholds_span p) (.same rfl rfl rfl rfl (fun h => h) rfl rfl)
  have hreset := hmarked.resetAll_postsAtMost hbrief
  have hnone := hmarked.resetAll_active (fun p _ => withholds_span p) hs
  refine ⟨⟨hreset.isServed, fun _ => hreset.isClosed rfl, hreset.active, hreset.isOpen, fun _ => ?_⟩,
    hreset.posted⟩
  exact Or.inr ⟨not_isOpen_of hreset.isOpen hopen, hnone⟩

theorem Orderly.closeConnection_postsAtMost (h : Orderly plan .span s) (hbrief : ∀ p ∈ plan.parts, p.Brief)
    (hs : s.isServed = true) (how : CloseType) : PostsAtMost 0 s (s.closeConnection how) := by
  unfold Session.closeConnection
  split
  · exact .refl s
  · have hopen := close_isOpen s.connection how
    refine PostsAtMost.behind (Orderly.close_postsAtMost ?_ hbrief hs hopen)
      (.same rfl rfl (fun _ h => h) (fun hup => ?_) rfl)
    · exact h.noEnds (fun p _ => withholds_span p) (.same rfl rfl rfl rfl (fun h => h) rfl rfl)
    · rw [hopen] at hup
      cases hup

/-! ## Replies

A reply is written and its stream ends. If writing it closes the connection, that is posted, and it
is the only task that a reply leaves. -/

theorem sendReply_postsAtMost (hbrief : s.AllParts Part.Brief) (id : StreamId) :
    PostsAtMost 1 s (s.sendReply id) := by
  unfold Session.sendReply
  split
  · exact (PostsAtMost.refl s).mono (Nat.zero_le 1)
  · split
    · exact (PostsAtMost.refl s).mono (Nat.zero_le 1)
    · split
      · exact (PostsAtMost.refl s).mono (Nat.zero_le 1)
      · next x _ _ r _ _ =>
        have hstatus : PostsAtMost 0 s (s.modifyStream id fun x =>
            { x with info := { x.info with status := some r.status.code } }) :=
          .same rfl rfl (fun _ h => h) (fun h => h) rfl
        have hnoted := hbrief.modifyStream
          (g := fun x => { x with info := { x.info with status := some r.status.code } })
          (fun _ => rfl) (fun _ => rfl) id
        have hwritten := (writeToClient_noEnds (f := .span) _ r.encode r.asksToClose).toSameStreams.allParts
          hnoted
        exact ((writeToClient_postsAtMost _ _ _).trans (finishStream_postsAtMost hwritten id)).behind hstatus

theorem encodeOne_postsAtMost (s : Session σ) {x : Stream} (hbrief : ∀ p ∈ x.parts, p.Brief) (r : Response)
    (slot : Nat) : PostsAtMost 0 s (s.encodeOne x r slot).2 := by
  unfold Session.encodeOne
  split
  · next hslot =>
    have hpart := hbrief _ (List.mem_map_of_mem (List.mem_of_getElem? hslot))
    refine (afterFilter_postsAtMost _ (hpart.onResponse x.view x.answers r)).behind ?_
    exact .same rfl rfl (fun _ h => h) (fun h => h) rfl
  · exact .same rfl rfl (fun _ h => h) (fun h => h) rfl
  · exact .refl s

/-- A response passes filters that ask for nothing. -/
theorem continueEncoding_postsAtMost (hbrief : s.AllParts Part.Brief) (id : StreamId) :
    PostsAtMost 1 s (s.continueEncoding id) := by
  unfold Session.continueEncoding
  split
  · exact (PostsAtMost.refl s).mono (Nat.zero_le 1)
  · split
    · exact (PostsAtMost.refl s).mono (Nat.zero_le 1)
    · -- That the filters stay is kept along with what is shown.
      refine encodeThrough_invariant (P := fun s' => s'.AllParts Part.Brief ∧ PostsAtMost 0 s s')
        (Q := PostsAtMost 1 s)
        (fun s' h => ⟨h.1.modifyStream (g := fun x => { x with encoded := x.encoded + 1 })
          (fun _ => rfl) (fun _ => rfl) id, PostsAtMost.behind ?_ h.2⟩)
        (fun s' y r slot h hy _ => ⟨encodeOne_allParts h.1 y r slot,
          (encodeOne_postsAtMost s' (h.1 id y hy) r slot).behind h.2⟩)
        (fun _ h => h.2.mono (Nat.zero_le 1)) (fun s' h => (sendReply_postsAtMost h.1 id).behind h.2) _ s
        ⟨hbrief, .refl s⟩
      exact .same rfl rfl (fun _ h => h) (fun h => h) rfl

theorem respond_postsAtMost (hbrief : s.AllParts Part.Brief) (id : StreamId) (r : Response) :
    PostsAtMost 1 s (s.respond id r) := by
  unfold Session.respond
  split
  · exact (PostsAtMost.refl s).mono (Nat.zero_le 1)
  · split
    · exact (PostsAtMost.refl s).mono (Nat.zero_le 1)
    · have hset : (s.modifyStream id (·.setResponse r)).AllParts Part.Brief :=
        hbrief.modifyStream (g := (·.setResponse r)) (fun _ => rfl) (fun _ => rfl) id
      exact (continueEncoding_postsAtMost hset id).behind (.same rfl rfl (fun _ h => h) (fun h => h) rfl)

theorem localReply_postsAtMost (hbrief : s.AllParts Part.Brief) (id : StreamId) (status : Status)
    (update : Change) : PostsAtMost 1 s (s.localReply id status update) := by
  rcases localReply_eq s id status update with heq | heq | ⟨-, r, -, -, heq⟩
  · rw [heq]
    exact (PostsAtMost.refl s).mono (Nat.zero_le 1)
  · rw [heq]
    have hstop : PostsAtMost 0 s (s.stop .noMessageCreator) :=
      .same rfl rfl (fun _ h => h) (fun h => h) rfl
    exact hstop.mono (Nat.zero_le 1)
  · rw [heq]
    refine (respond_postsAtMost (hbrief.aboutToReply id) id r).behind ?_
    exact .same rfl rfl (fun _ h => h) (fun h => h) rfl

/-! ## Tasks and runs

A task leaves less behind than it was worth, so that with steps for all that waits a run comes to
its end. -/

/-- What is asked of a stream that leaves its filters behind comes to the end of the connection at
most. -/
theorem Orderly.perform_postsAtMost (h : Orderly plan .span s) (hbrief : ∀ p ∈ plan.parts, p.Brief)
    (hs : s.isServed = true) (id : StreamId) {op : StreamOp} (hop : op.isFinal = true) :
    PostsAtMost 1 s (s.perform id op) := by
  have hparts := h.allParts hbrief
  cases op with
  | continueDecoding => cases hop
  | continueEncoding => cases hop
  | localReply status update => exact localReply_postsAtMost hparts id status update
  | respond r => exact respond_postsAtMost hparts id r
  | complete =>
    show PostsAtMost 1 s (if s.isServed then s.finishStream id else s)
    rw [hs, if_pos rfl]
    exact (finishStream_postsAtMost hparts id).mono (Nat.zero_le 1)
  | reset => exact (resetStream_postsAtMost hparts id).mono (Nat.zero_le 1)
  | resetConnection =>
    show PostsAtMost 1 s (if _ then _ else _)
    split
    · exact (h.closeConnection_postsAtMost hbrief hs .noFlush).mono (Nat.zero_le 1)
    · exact (PostsAtMost.refl s).mono (Nat.zero_le 1)

/-- A task comes to no more than it can, itself not counted. -/
theorem Orderly.runTask_postsAtMost (h : Orderly plan .span s) (hbrief : ∀ p ∈ plan.parts, p.Brief)
    (hs : s.isServed = true) {t : Task} (ht : t.isBrief = true)
    (hclosed : t = .closed → s.connection.isOpen = false) :
    ∃ n, n + 1 ≤ t.reach ∧ PostsAtMost n s (s.runTask t) := by
  cases t with
  | stream id op => exact ⟨1, Nat.le_refl 2, h.perform_postsAtMost hbrief hs id ht⟩
  | router ref op =>
    cases op with
    | write => exact ⟨0, Nat.le_refl 1, (writeCall_routerPosts s ref).postsAtMost⟩
    | ask op => exact ⟨1, Nat.le_refl 2, h.perform_postsAtMost hbrief hs ref.stream ht⟩
    | deliver d => exact ⟨6, Nat.le_refl 7, (onDelivery_routerPosts s ref d).postsAtMost⟩
  | closed =>
    refine ⟨0, Nat.le_refl 1, ?_⟩
    show PostsAtMost 0 s (if _ then _ else _)
    rw [hs, if_pos rfl]
    exact h.close_postsAtMost hbrief hs (hclosed rfl)

theorem dropStream_postsAtMost (s : Session σ) (id : StreamId) :
    PostsAtMost 0 s (s.dropStream id) ∧ (s.dropStream id).queue.deferred = s.queue.deferred := by
  have hrouters : ∀ (slots : List Nat) (s : Session σ),
      let s' := slots.foldl (fun s slot => s.dropRouter (s.refTo id slot)) s
      PostsAtMost 0 s s' ∧ s'.queue.deferred = s.queue.deferred := by
    intro slots
    induction slots with
    | nil => exact fun s => ⟨.refl s, rfl⟩
    | cons slot rest ih =>
      intro s
      obtain ⟨hrest, hdeferred⟩ := ih (s.dropRouter (s.refTo id slot))
      have htouch := dropRouter_touches s (s.refTo id slot)
      refine ⟨hrest.behind htouch.routerPosts.postsAtMost, hdeferred.trans ?_⟩
      obtain ⟨g, side, notes, panic, -, heq⟩ := htouch
      rw [heq]
  unfold Session.dropStream
  split
  · exact ⟨.refl s, rfl⟩
  · next x _ =>
    obtain ⟨hwork, hdeferred⟩ := hrouters x.routers s
    dsimp only at hwork hdeferred ⊢
    generalize x.routers.foldl (fun s slot => s.dropRouter (s.refTo id slot)) s = s₁ at *
    have hgone : PostsAtMost 0 s₁ { s₁ with streams := s₁.streams.filter (·.id != id) } :=
      .same rfl rfl (fun _ h => h) (fun h => h) rfl
    exact ⟨hgone.behind hwork, hdeferred⟩

/-- Streams that are dropped leave nothing to do. -/
theorem clearDeferred_postsAtMost (s : Session σ) :
    PostsAtMost 0 s s.clearDeferred ∧ s.clearDeferred.queue.deferred = [] := by
  have hall : ∀ (ids : List StreamId) (s : Session σ),
      PostsAtMost 0 s (ids.foldl dropUnneeded s) ∧
        (ids.foldl dropUnneeded s).queue.deferred = s.queue.deferred := by
    intro ids
    induction ids with
    | nil => exact fun s => ⟨.refl s, rfl⟩
    | cons id rest ih =>
      intro s
      have hone : PostsAtMost 0 s (s.dropUnneeded id) ∧
          (s.dropUnneeded id).queue.deferred = s.queue.deferred := by
        unfold Session.dropUnneeded
        split
        · exact ⟨.refl s, rfl⟩
        · exact dropStream_postsAtMost s id
      obtain ⟨hrest, hdeferred⟩ := ih (s.dropUnneeded id)
      exact ⟨hrest.behind hone.1, hdeferred.trans hone.2⟩
  obtain ⟨hwork, hdeferred⟩ := hall s.queue.deferred { s with queue := { s.queue with deferred := [] } }
  exact ⟨hwork.behind (.same rfl rfl (fun _ h => h) (fun h => h) rfl), hdeferred⟩

/-- What holds between tasks while a connection is served. `brief` is what bounds a turn: a task may
post others, but none that comes back to a filter, and so there is an end to them. -/
structure Steady (plan : Plan) (s : Session σ) : Prop where
  orderly : Orderly plan .span s
  served : s.isServed = true
  /-- No task leads back to filters, and the end of the connection is told only when there was
  one. -/
  brief : ∀ t ∈ s.queue.posted, t.isBrief = true ∧ (t = .closed → s.connection.isOpen = false)

theorem Steady.postsAtMost (h : Steady plan s) (hbeats : LifeSteps .span s s') (hwork : PostsAtMost n s s') :
    Steady plan s' where
  orderly := (LifeSteps.orderly h.orderly (fun p _ => withholds_span p) hbeats).1
  served := hwork.isServed.trans h.served
  brief := by
    obtain ⟨ts, heq, -, hbrief⟩ := hwork.posted
    intro t ht
    rw [heq] at ht
    rcases List.mem_append.mp ht with ht | ht
    · exact ⟨(h.brief t ht).1, fun he => not_isOpen_of hwork.isOpen ((h.brief t ht).2 he)⟩
    · exact hbrief t ht

theorem runUntilIdle_of_idle (fuel : Nat) (hposted : s.queue.posted = [])
    (hdeferred : s.queue.deferred = []) : Session.runUntilIdle fuel s = s := by
  cases fuel with
  | zero => rfl
  | succ fuel =>
    unfold Session.runUntilIdle
    rw [hposted, hdeferred]
    exact ite_self s

/-- With as many steps as the tasks that wait can come to, a run ends with nothing left to do unless
a promise is broken. -/
theorem Steady.runUntilIdle (hbrief : ∀ p ∈ plan.parts, p.Brief) (fuel : Nat) (h : Steady plan s)
    (hfuel : (s.queue.posted.map Task.reach).sum < fuel) :
    Steady plan (runUntilIdle fuel s) ∧ OpensNothing s (Session.runUntilIdle fuel s) ∧
      ((Session.runUntilIdle fuel s).panic = none →
        (Session.runUntilIdle fuel s).queue.isIdle = true) := by
  induction fuel generalizing s with
  | zero => exact absurd hfuel (Nat.not_lt_zero _)
  | succ fuel ih =>
    unfold Session.runUntilIdle
    split
    · next hpanic =>
      refine ⟨h, .refl s, fun hnone => ?_⟩
      rw [hnone] at hpanic
      cases hpanic
    · cases hq : s.queue.posted with
      | nil =>
        dsimp only
        split
        · next hdeferred => exact ⟨h, .refl s, fun _ => by simp [WorkQueue.isIdle, hq, hdeferred]⟩
        · -- Nothing is left to do once streams were dropped, whatever steps are left.
          obtain ⟨hwork, hnone⟩ := clearDeferred_postsAtMost s
          have hcleared := h.postsAtMost (clearDeferred_lifeSteps s) hwork
          have hempty : s.clearDeferred.queue.posted = [] := by
            obtain ⟨ts, heq, hreach, -⟩ := hwork.posted
            rw [heq, hq, List.nil_append]
            exact Task.eq_nil_of_reach hreach
          rw [runUntilIdle_of_idle fuel hempty hnone]
          exact ⟨hcleared, hwork.toOpensNothing, fun _ => by simp [WorkQueue.isIdle, hempty, hnone]⟩
      | cons t rest =>
        dsimp only
        rw [hq, List.map_cons, List.sum_cons] at hfuel
        have ht := h.brief t (hq ▸ List.mem_cons_self)
        have hleft : Steady plan (s.leave rest) :=
          ⟨h.orderly.noEnds (fun p _ => withholds_span p) (leave_noEnds s rest), h.served,
            fun u hu => h.brief u (hq ▸ List.mem_cons_of_mem t hu)⟩
        -- What the task leaves behind weighs less than the task, so the bound goes down with the
        -- fuel.
        obtain ⟨n, hn, hwork⟩ := hleft.orderly.runTask_postsAtMost hbrief hleft.served ht.1 ht.2
        have hdone := hleft.postsAtMost (runTask_lifeSteps _ t) hwork
        have hless : (((s.leave rest).runTask t).queue.posted.map Task.reach).sum < fuel := by
          obtain ⟨ts, heq, hreach, -⟩ := hwork.posted
          rw [heq, List.map_append, List.sum_append]
          show (rest.map Task.reach).sum + _ < fuel
          omega
        obtain ⟨hsteady, hebbs, hidle⟩ := ih hdone hless
        have hfirst : OpensNothing s (s.leave rest) := .same rfl rfl (fun _ h => h) fun h => h
        exact ⟨hsteady, hfirst.trans (hwork.toOpensNothing.trans hebbs), hidle⟩

end

end Session

end RpcProxy

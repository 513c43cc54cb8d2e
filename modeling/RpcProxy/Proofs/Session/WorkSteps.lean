import RpcProxy.Proofs.Session.GaugeCounts

/-!
# Steps of work

Much can happen to a session at once: a run takes up one task after another, and octets can hold
many requests. A `WorkStep` is one piece of that work, and `Session.workSteps` lists the pieces in
order. What holds behind every incident only would leave open what went on within one, and a router
can come, get a connection and go in a single run. So courses are lists of steps of work, and
nothing happens in between.

`workSteps_routerWork` says what a step of work can be to routers. Either no router takes up
anything but what its stream does for it, or one router takes up one thing of its own, or streams
are dropped. A stream that is dropped is over, unless the session was dismissed with streams in
flight; so no router goes with it, and dropping comes to nothing (`Clears`).

That dropping comes to nothing needs streams that are in order (`StreamsInOrder`), which steps of
work keep; that they are kept between the pieces of one incident is proved along with the rest
(`OrderlyWork`).
-/

set_option autoImplicit false

namespace RpcProxy

/-- A piece of work: what there is before and after it, and the task that it takes up, if it takes
one up. -/
structure WorkStep (α : Type) where
  before : α
  task : Option Task
  after : α

namespace WorkStep

variable {α β : Type}

/-- The same piece of work as a part of something else. -/
def map (f : α → β) (x : WorkStep α) : WorkStep β := ⟨f x.before, x.task, f x.after⟩

/-- Pieces of work follow one another. -/
def Path : α → List (WorkStep α) → α → Prop
  | a, [], b => a = b
  | a, x :: xs, b => x.before = a ∧ Path x.after xs b

theorem Path.append {xs ys : List (WorkStep α)} {a b c : α} (h₁ : Path a xs b) (h₂ : Path b ys c) :
    Path a (xs ++ ys) c := by
  induction xs generalizing a with
  | nil => exact h₁ ▸ h₂
  | cons x xs ih => exact ⟨h₁.1, ih h₁.2⟩

theorem Path.map (f : α → β) {xs : List (WorkStep α)} {a b : α} (h : Path a xs b) :
    Path (f a) (xs.map (WorkStep.map f)) (f b) := by
  induction xs generalizing a with
  | nil => exact congrArg f h
  | cons x xs ih => exact ⟨congrArg f h.1, ih h.2⟩

/-- What holds of every piece of work and those before it. A statement about a piece may look back,
as when it counts how often something was done, and never ahead. -/
def Each (Q : List (WorkStep α) → WorkStep α → Prop) : List (WorkStep α) → List (WorkStep α) → Prop
  | _, [] => True
  | past, x :: xs => Q past x ∧ Each Q (past ++ [x]) xs

variable {Q : List (WorkStep α) → WorkStep α → Prop} {past xs ys : List (WorkStep α)} {a b : α}

theorem Each.append (h₁ : Each Q past xs) (h₂ : Each Q (past ++ xs) ys) : Each Q past (xs ++ ys) := by
  induction xs generalizing past with
  | nil => rwa [List.append_nil] at h₂
  | cons x xs ih =>
    refine ⟨h₁.1, ih h₁.2 ?_⟩
    rwa [List.append_assoc]

/-- Pieces of work that lead somewhere lead past each of them, where it stands among the others. -/
theorem Path.split {x : WorkStep α} (h : Path a (xs ++ x :: ys) b) (hq : Each Q past (xs ++ x :: ys)) :
    Q (past ++ xs) x ∧ Path x.after ys b ∧ Each Q (past ++ xs ++ [x]) ys := by
  induction xs generalizing past a with
  | nil =>
    rw [List.append_nil]
    exact ⟨hq.1, h.2, hq.2⟩
  | cons y xs ih =>
    have hrest := ih h.2 hq.2
    rwa [List.append_assoc past] at hrest

/-- What holds of the past and the present at first, and is kept by every piece of work, holds at
the end. -/
theorem Path.keeps {P : List (WorkStep α) → α → Prop} (h : Path a xs b) (ha : P past a)
    (hstep : ∀ past x, x ∈ xs → P past x.before → Q past x ∧ P (past ++ [x]) x.after) :
    P (past ++ xs) b ∧ Each Q past xs := by
  induction xs generalizing past a with
  | nil =>
    rw [List.append_nil]
    exact ⟨h ▸ ha, trivial⟩
  | cons y ys ih =>
    obtain ⟨hy, hthen⟩ := hstep past y List.mem_cons_self (h.1.symm ▸ ha)
    obtain ⟨hend, heach⟩ := ih h.2 hthen fun past x hx => hstep past x (List.mem_cons_of_mem _ hx)
    exact ⟨by rwa [List.append_assoc] at hend, hy, heach⟩

/-- What is never undone stays as it is. -/
theorem Path.lasts {K : α → Prop} (h : Path a xs b) (hq : Each Q past xs)
    (hstep : ∀ past x, Q past x → K x.before → K x.after) (ha : K a) :
    K b ∧ ∀ x ∈ xs, K x.after := by
  induction xs generalizing past a with
  | nil => exact ⟨h ▸ ha, fun x hx => (nomatch hx)⟩
  | cons y ys ih =>
    have hy := hstep past y hq.1 (h.1.symm ▸ ha)
    obtain ⟨hend, hall⟩ := ih h.2 hq.2 hy
    refine ⟨hend, fun x hx => ?_⟩
    rcases List.mem_cons.mp hx with rfl | hx
    · exact hy
    · exact hall x hx

end WorkStep

namespace Session

variable {σ : Type}

/-- The pieces of a run, see `runUntilIdle`. -/
def runWorkSteps : Nat → Session σ → List (WorkStep (Session σ))
  | 0, _ => []
  | fuel + 1, s =>
    if s.panic.isSome then []
    else
      match s.queue.posted with
      | t :: rest =>
        ⟨s, some t, (s.leave rest).runTask t⟩ :: runWorkSteps fuel ((s.leave rest).runTask t)
      | [] =>
        if s.queue.deferred.isEmpty then []
        else ⟨s, none, s.clearDeferred⟩ :: runWorkSteps fuel s.clearDeferred

/-- What was decoded is taken up piece by piece, see `onWireEvent`. -/
def wireWorkSteps : List Wire.Event → Session σ → List (WorkStep (Session σ))
  | [], _ => []
  | e :: es, s => ⟨s, none, s.onWireEvent e⟩ :: wireWorkSteps es (s.onWireEvent e)

/-- The pieces of what happens to a session. -/
def workSteps (s : Session σ) : SessionOp → List (WorkStep (Session σ))
  | .run => runWorkSteps s.effort s
  | .data octets =>
    if s.isServed && !s.isClosed then
      let (events, left) := Wire.decode (s.buffer ++ octets)
      ⟨s, none, { s with buffer := left }⟩ :: wireWorkSteps events { s with buffer := left }
    else [⟨s, none, s.step (.data octets)⟩]
  | op => [⟨s, none, s.step op⟩]

theorem runWorkSteps_path (fuel : Nat) (s : Session σ) :
    WorkStep.Path s (runWorkSteps fuel s) (runUntilIdle fuel s) := by
  induction fuel generalizing s with
  | zero => rfl
  | succ fuel ih =>
    unfold runWorkSteps runUntilIdle
    split
    · rfl
    · cases hq : s.queue.posted with
      | cons t rest => exact ⟨rfl, ih _⟩
      | nil =>
        dsimp only
        split
        · rfl
        · exact ⟨rfl, ih _⟩

theorem wireWorkSteps_path (events : List Wire.Event) (s : Session σ) :
    WorkStep.Path s (wireWorkSteps events s) (events.foldl onWireEvent s) := by
  induction events generalizing s with
  | nil => rfl
  | cons e es ih => exact ⟨rfl, ih _⟩

theorem workSteps_path (s : Session σ) (op : SessionOp) : WorkStep.Path s (s.workSteps op) (s.step op) := by
  cases op with
  | run => exact runWorkSteps_path _ s
  | data octets =>
    unfold Session.workSteps
    dsimp only
    split
    · next h =>
      obtain ⟨hserved, hopen⟩ := (Bool.and_eq_true _ _).mp h
      have hstep : s.step (.data octets) = (Wire.decode (s.buffer ++ octets)).1.foldl onWireEvent
          { s with buffer := (Wire.decode (s.buffer ++ octets)).2 } := by
        show (if s.isServed then s.onClientData octets else _) = _
        rw [if_pos hserved]
        unfold Session.onClientData
        rw [if_neg (by simpa using hopen)]
      rw [hstep]
      exact ⟨rfl, wireWorkSteps_path _ _⟩
    · exact ⟨rfl, rfl⟩
  | request | event | close | closeQuietly | resetAll | drain | drainCheck | stream | ask | deliver
  | hold | release | clearDeferred | dismiss | advance => exact ⟨rfl, rfl⟩

/-! ## Streams that are dropped -/

/-- Streams are in order, and none is in flight once the connection is not served any more. The
second part fails of a session that is dismissed too early, which is why `step_routerWork` asks for
more in that case. -/
structure StreamsInOrder (s : Session σ) : Prop where
  orderly : Orderly s.plan .span s
  ended : s.isServed = false → ∀ id x, s.stream? id = some x → x.isCompleted = true

/-- Streams may have gone, but none that had a router. Everything that others look at is the
same. -/
structure Clears (s s' : Session σ) : Prop where
  /-- It is the same connection. -/
  number : s'.number = s.number
  /-- The pools answer as before. -/
  source : s'.source = s.source
  /-- The pools and gauges are what they were. -/
  side : s'.side = s.side
  /-- No stream has begun. -/
  nextId : s'.nextId = s.nextId
  /-- No promise was broken meanwhile. -/
  panic : s'.panic = s.panic
  /-- The tasks are the same. -/
  posted : s'.queue.posted = s.queue.posted
  /-- Nothing was logged. -/
  log : s'.log = s.log
  /-- The streams that are left are what they were. -/
  streams : ∀ id x, s'.stream? id = some x → s.stream? id = some x
  /-- Each router has in mind what it had. -/
  minds : ∀ ref, s'.router? ref = s.router? ref

section

variable {s s' s₁ s₂ s₃ : Session σ} {id : StreamId}

theorem Clears.refl (s : Session σ) : Clears s s :=
  ⟨rfl, rfl, rfl, rfl, rfl, rfl, rfl, fun _ _ h => h, fun _ => rfl⟩

theorem Clears.trans (h₁ : Clears s₁ s₂) (h₂ : Clears s₂ s₃) : Clears s₁ s₃ where
  number := h₂.number.trans h₁.number
  source := h₂.source.trans h₁.source
  side := h₂.side.trans h₁.side
  nextId := h₂.nextId.trans h₁.nextId
  panic := h₂.panic.trans h₁.panic
  posted := h₂.posted.trans h₁.posted
  log := h₂.log.trans h₁.log
  streams id x h := h₁.streams id x (h₂.streams id x h)
  minds ref := (h₂.minds ref).trans (h₁.minds ref)

theorem opened_streamsInOrder (number : Nat) (plan : Plan) (flags : Flags) (source : PoolSource σ)
    (side : HostSide σ) (stats : ListenerStats) (clock : Clock) :
    StreamsInOrder (opened number plan flags source side stats clock) where
  orderly := opened_orderly ..
  ended h := nomatch h

theorem StreamsInOrder.lifeSteps (h : s.StreamsInOrder) (hb : LifeSteps .span s s')
    (hended : s.isServed = false → ∀ id x, s'.stream? id = some x → x.isCompleted = true) :
    s'.StreamsInOrder := by
  obtain ⟨horderly, -, hserved⟩ := LifeSteps.orderly h.orderly (fun p _ => withholds_span p) hb
  exact ⟨horderly.own, fun hs => hended (hserved ▸ hs)⟩

theorem StreamsInOrder.served (h : s.StreamsInOrder) (hs : s.isServed = true) (hb : LifeSteps .span s s') :
    s'.StreamsInOrder :=
  h.lifeSteps hb fun hnot => by rw [hs] at hnot; cases hnot

theorem StreamsInOrder.noEnds (h : s.StreamsInOrder) (hc : NoEnds .span s s') : s'.StreamsInOrder :=
  h.lifeSteps hc.lifeSteps fun hs id y hy => by
    obtain ⟨x, hx, hsame⟩ := hc.toSameStreams.sameStage_of hy
    exact hsame.isCompleted.trans (h.ended hs id x hx)

/-- A stream that is not in flight is over, and its routers are gone. -/
theorem StreamsInOrder.unrouted {x : Stream} (h : s.StreamsInOrder) (hx : s.stream? id = some x)
    (hid : id ∉ s.active) :
    x.Unrouted := by
  have hover : x.isCompleted = true := by
    cases hs : s.isServed with
    | false => exact h.ended hs id x hx
    | true =>
      refine Classical.byContradiction fun hlive => hid ?_
      exact (h.orderly.inFlight hs id x hx (Bool.eq_false_iff.mpr hlive)).2.2
  exact ((h.orderly.sound id x hx).departed hover).2

theorem dropStream_of_unrouted {x : Stream} (hx : s.stream? id = some x) (hnone : x.Unrouted) :
    s.dropStream id = { s with streams := s.streams.filter (·.id != id) } := by
  have hfree : ∀ slot, s.router? (s.refTo id slot) = none := fun slot => by
    unfold Session.router? Session.refTo
    rw [if_pos rfl, hx]
    exact hnone slot
  have hsame : ∀ slots : List Nat,
      slots.foldl (fun s slot => s.dropRouter (s.refTo id slot)) s = s := by
    intro slots
    induction slots with
    | nil => rfl
    | cons slot rest ih =>
      rw [List.foldl_cons]
      have hstep : s.dropRouter (s.refTo id slot) = s := by
        unfold Session.dropRouter
        rw [hfree slot]
        rfl
      rw [hstep, ih]
  unfold Session.dropStream
  rw [hx]
  dsimp only
  rw [hsame]

theorem StreamsInOrder.dropStream (h : s.StreamsInOrder) (hid : id ∉ s.active) :
    Clears s (s.dropStream id) ∧ (s.dropStream id).StreamsInOrder ∧ (s.dropStream id).active = s.active := by
  have hbeats : LifeSteps .span s (s.dropStream id) := LifeStep.lifeSteps (.dropped hid)
  cases hx : s.stream? id with
  | none =>
    have hsame : s.dropStream id = s := by
      unfold Session.dropStream
      rw [hx]
    rw [hsame]
    exact ⟨.refl s, h, rfl⟩
  | some x =>
    have hnone := h.unrouted hx hid
    -- A stream that is over has no router any more, so that no router goes with it.
    have hclears : Clears s (s.dropStream id) := by
      rw [dropStream_of_unrouted hx hnone]
      refine ⟨rfl, rfl, rfl, rfl, rfl, rfl, rfl, fun other y hy => ?_, fun ref => ?_⟩
      · by_cases hne : other = id
        · rw [hne, stream?_filter_same] at hy
          cases hy
        · rwa [stream?_filter_ne hne] at hy
      · unfold Session.router?
        by_cases hne : ref.stream = id
        · rw [hne, stream?_filter_same, hx, Option.bind_some, hnone ref.slot]
          rfl
        · rw [stream?_filter_ne hne]
    refine ⟨hclears, h.lifeSteps hbeats fun hs other y hy => ?_, ?_⟩
    · exact h.ended hs other y (hclears.streams other y hy)
    · rw [dropStream_of_unrouted hx hnone]

theorem StreamsInOrder.dropUnneeded (h : s.StreamsInOrder) (id : StreamId) :
    Clears s (s.dropUnneeded id) ∧ (s.dropUnneeded id).StreamsInOrder := by
  unfold Session.dropUnneeded
  split
  · exact ⟨.refl s, h⟩
  · next hneeded =>
    have hid : id ∉ s.active := by
      intro hin
      exact hneeded (by simp [hin])
    obtain ⟨hclears, hwritable, -⟩ := h.dropStream hid
    exact ⟨hclears, hwritable⟩

theorem StreamsInOrder.dropAll (h : s.StreamsInOrder) (ids : List StreamId) :
    Clears s (ids.foldl Session.dropUnneeded s) ∧ (ids.foldl Session.dropUnneeded s).StreamsInOrder := by
  induction ids generalizing s with
  | nil => exact ⟨.refl s, h⟩
  | cons id ids ih =>
    obtain ⟨hclears, hwritable⟩ := h.dropUnneeded id
    obtain ⟨hclears', hkempt'⟩ := ih hwritable
    exact ⟨hclears.trans hclears', hkempt'⟩

theorem StreamsInOrder.clearDeferred (h : s.StreamsInOrder) :
    Clears s s.clearDeferred ∧ s.clearDeferred.StreamsInOrder := by
  have hquiet : NoEnds .span s { s with queue := { s.queue with deferred := [] } } :=
    .same rfl rfl rfl rfl (fun h => h) rfl rfl
  have hfirst : Clears s { s with queue := { s.queue with deferred := [] } } :=
    ⟨rfl, rfl, rfl, rfl, rfl, rfl, rfl, fun _ _ h => h, fun _ => rfl⟩
  obtain ⟨hclears, hwritable⟩ := (h.noEnds hquiet).dropAll s.queue.deferred
  exact ⟨hfirst.trans hclears, hwritable⟩

/-- A stream is held no longer. -/
theorem StreamsInOrder.release (h : s.StreamsInOrder) (id : StreamId) :
    Clears s (s.step (.release id)) ∧ (s.step (.release id)).StreamsInOrder := by
  have hquiet : NoEnds .span s { s with held := s.held.erase id } :=
    .same rfl rfl rfl rfl (fun h => h) rfl rfl
  have hfirst : Clears s { s with held := s.held.erase id } :=
    ⟨rfl, rfl, rfl, rfl, rfl, rfl, rfl, fun _ _ h => h, fun _ => rfl⟩
  obtain ⟨hclears, hwritable⟩ := (h.noEnds hquiet).dropUnneeded id
  exact ⟨hfirst.trans hclears, hwritable⟩

/-- A session without streams in flight is dismissed. -/
theorem StreamsInOrder.dismiss (h : s.StreamsInOrder) (hactive : s.active = []) :
    Clears s s.dismiss ∧ s.dismiss.StreamsInOrder := by
  unfold Session.dismiss
  split
  · exact ⟨.refl s, h⟩
  · next hs =>
    rw [hactive]
    refine ⟨⟨rfl, rfl, rfl, rfl, rfl, rfl, rfl, fun _ _ h => h, fun _ => rfl⟩,
      ⟨h.orderly.dismissed fun m => { m with activeConnections := m.activeConnections.dec }, ?_⟩⟩
    intro _ id x hx
    refine Classical.byContradiction fun hlive => ?_
    have hflying := (h.orderly.inFlight (by simpa using hs) id x hx (Bool.eq_false_iff.mpr hlive)).2.2
    rw [hactive] at hflying
    cases hflying

/-! ## Sessions that were dismissed -/

/-- Whatever is asked of a stream once its session was dismissed, it is marked as reset at most. -/
theorem StreamsInOrder.perform_of_dismissed (h : s.StreamsInOrder) (hs : s.isServed = false) (id : StreamId)
    (op : StreamOp) : s.perform id op = s ∨ s.perform id op = s.flag id := by
  by_cases hop : op = .resetConnection
  · subst hop
    exact Or.inl (if_neg (by simp [hs]))
  · cases hx : s.stream? id with
    | some x => exact ((h.orderly.final id x hx (Or.inl (h.ended hs id x hx))).1 op hop).imp_right (·.2)
    | none =>
      left
      cases op with
      | complete => exact if_neg (by simp [hs])
      | resetConnection => exact absurd rfl hop
      | reset => exact resetStream_of_reset fun x hx' => by rw [hx] at hx'; cases hx'
      | continueDecoding | continueEncoding | localReply | respond =>
        simp only [Session.perform, Session.continueDecoding, Session.continueEncoding,
          Session.localReply, Session.respond, hx]

theorem StreamsInOrder.perform (h : s.StreamsInOrder) (id : StreamId) (op : StreamOp) :
    (s.perform id op).StreamsInOrder := by
  refine h.lifeSteps (perform_lifeSteps s id op) fun hs other y hy => ?_
  rcases h.perform_of_dismissed hs id op with hsame | hflag
  · rw [hsame] at hy
    exact h.ended hs other y hy
  · rw [hflag, stream?_flag] at hy
    obtain ⟨x, hx, rfl⟩ := Option.map_eq_some_iff.mp hy
    have hover := h.ended hs other x hx
    split <;> exact hover

theorem StreamsInOrder.runTask (h : s.StreamsInOrder) (t : Task) : (s.runTask t).StreamsInOrder := by
  cases t with
  | stream id op => exact h.perform id op
  | router ref op =>
    cases op with
    | write => exact h.noEnds (writeCall_works s ref).noEnds
    | ask op => exact h.perform ref.stream op
    | deliver d => exact h.noEnds (onDelivery_works s ref d).noEnds
  | closed =>
    cases hs : s.isServed with
    | true => exact h.served hs (runTask_lifeSteps s .closed)
    | false =>
      have hsame : s.runTask .closed = s := if_neg (by simp [hs])
      rwa [hsame]

/-! ## What a step of work can be -/

/-- What a step of work can be to routers. Requests come to routers as `R` allows. Any number of
moves may make a step, as long as the one task that was taken up is not a router's own. -/
inductive RouterWork (R : RouterRef → Request → Prop) : WorkStep (Session σ) → Prop
  /-- Routers take up nothing but what their streams do for them. -/
  | moves {s s' : Session σ} {t : Option Task} {ms : List (Session σ × Task)}
    (hm : Moves R False ms s s') (hasks : ∀ ref, ∀ op ∈ done ref ms, op.isAsk = true)
    (htask : ∀ ref op, t = some (.router ref op) → op.isAsk = true) : RouterWork R ⟨s, t, s'⟩
  /-- A router takes up one thing of its own. -/
  | took {s s' : Session σ} {rest : List Task} {ref : RouterRef} {op : RouterOp}
    (hask : op.isAsk = false) (hm : Move R False [(s.leave rest, .router ref op)] s s') :
    RouterWork R ⟨s, some (.router ref op), s'⟩
  /-- Streams are dropped. -/
  | cleared {s s' : Session σ} (h : Clears s s') : RouterWork R ⟨s, none, s'⟩

variable {R : RouterRef → Request → Prop}

theorem RouterWork.mono {R' : RouterRef → Request → Prop} {x : WorkStep (Session σ)}
    (hR : ∀ ref r, R ref r → R' ref r) (h : RouterWork R x) : RouterWork R' x := by
  cases h with
  | moves hm hasks htask => exact .moves (hm.mono hR) hasks htask
  | took hask hm => exact .took hask (hm.mono hR)
  | cleared h => exact .cleared h

/-- What a router takes up was the next task. -/
theorem Move.posted {D : Prop} {s s' s₀ : Session σ} {ref : RouterRef} {op : RouterOp}
    (h : Move R D [(s₀, .router ref op)] s s') : ∃ rest, s.queue.posted = .router ref op :: rest := by
  generalize hm : [(s₀, Task.router ref op)] = m at h
  cases h with
  | wrote hq | popped hq | delivered hq =>
    obtain ⟨-, htask⟩ := Prod.mk.inj (List.cons.inj hm).1
    exact ⟨_, htask ▸ hq⟩
  | aside | began | passed | refused | engaged | noted | completed | destroyed | dropped => cases hm

theorem RouterWork.posted {x : WorkStep (Session σ)} (h : RouterWork R x) {ref : RouterRef} {op : RouterOp}
    (htask : x.task = some (.router ref op)) (hask : op.isAsk = false) :
    ∃ rest, x.before.queue.posted = .router ref op :: rest := by
  cases h with
  | moves _ _ hasks =>
    rw [hasks ref op htask] at hask
    cases hask
  | took _ hm =>
    obtain ⟨rfl, rfl⟩ := Task.router.inj (Option.some.inj htask)
    exact hm.posted
  | cleared => cases htask

/-- What holds of the steps of work of a session whose streams are in order. -/
structure OrderlyWork (R : RouterRef → Request → Prop) (x : WorkStep (Session σ)) : Prop where
  /-- The step is one of those that routers know of. -/
  work : RouterWork R x
  /-- The streams are in order before it. -/
  before : x.before.StreamsInOrder
  /-- They are so behind it. -/
  after : x.after.StreamsInOrder
  /-- A promise that was broken stays broken. -/
  broken : x.after.panic = none → x.before.panic = none
  /-- Nothing is taken up behind a broken promise. -/
  waking : x.task.isSome → x.before.panic = none

theorem OrderlyWork.mono {R' : RouterRef → Request → Prop} {x : WorkStep (Session σ)}
    (hR : ∀ ref r, R ref r → R' ref r) (h : OrderlyWork R x) : OrderlyWork R' x :=
  { h with work := h.work.mono hR }

theorem runTask_routerWork {t : Task} {rest : List Task} (hq : s.queue.posted = t :: rest) :
    RouterWork (Routed ((s.leave rest).actsOf t)) ⟨s, some t, (s.leave rest).runTask t⟩ := by
  have hmoves := runTask_moves (D := False) hq
  cases t with
  | stream id op =>
    refine .moves hmoves (fun ref op hop => ?_) fun ref op h => nomatch h
    cases hop
  | closed =>
    refine .moves hmoves (fun ref op hop => ?_) fun ref op h => nomatch h
    cases hop
  | router ref op =>
    cases op with
    | write => exact .took rfl (.wrote hq)
    | deliver d => exact .took rfl (.delivered hq)
    | ask op =>
      refine .moves hmoves (fun other op' hop => ?_) fun other op' h => ?_
      · rw [done_singleton, opOf_router] at hop
        split at hop
        · rw [Option.mem_toList.mp hop |> Option.some.inj |>.symm]
          rfl
        · cases hop
      · obtain ⟨-, rfl⟩ := Task.router.inj (Option.some.inj h)
        rfl

theorem runWorkSteps_routerWork (fuel : Nat) {s : Session σ} (h : s.StreamsInOrder) :
    (∀ x ∈ runWorkSteps fuel s, OrderlyWork (Routed (actsAt (taken fuel s))) x) ∧
      (runUntilIdle fuel s).StreamsInOrder := by
  induction fuel generalizing s with
  | zero => exact ⟨fun x hx => absurd hx List.not_mem_nil, h⟩
  | succ fuel ih =>
    unfold runWorkSteps taken runUntilIdle
    split
    · exact ⟨fun x hx => absurd hx List.not_mem_nil, h⟩
    · next hpanic =>
      have hfine : s.panic = none := Option.not_isSome_iff_eq_none.mp hpanic
      cases hq : s.queue.posted with
      | cons t rest =>
        have hleft : (s.leave rest).StreamsInOrder := h.noEnds (leave_noEnds s rest)
        -- The induction is on the fuel, and the order of the streams is what carries it.
        obtain ⟨hall, hend⟩ := ih (hleft.runTask t)
        refine ⟨fun x hx => ?_, hend⟩
        have hacts : actsAt ((s.leave rest, t) :: taken fuel ((s.leave rest).runTask t)) =
            (s.leave rest).actsOf t ++ actsAt (taken fuel ((s.leave rest).runTask t)) :=
          List.flatMap_cons
        rw [hacts]
        rcases List.mem_cons.mp hx with rfl | hx
        · exact ⟨(runTask_routerWork hq).mono fun _ _ => Routed.mono (List.subset_append_left _ _), h,
            hleft.runTask t, fun _ => hfine, fun _ => hfine⟩
        · exact (hall x hx).mono fun _ _ => Routed.mono (List.subset_append_right _ _)
      | nil =>
        dsimp only
        split
        · exact ⟨fun x hx => absurd hx List.not_mem_nil, h⟩
        · obtain ⟨hclears, hwritable⟩ := h.clearDeferred
          obtain ⟨hall, hend⟩ := ih hwritable
          refine ⟨fun x hx => ?_, hend⟩
          rcases List.mem_cons.mp hx with rfl | hx
          · refine ⟨.cleared hclears, h, hwritable, fun _ => hfine, fun ht => ?_⟩
            cases ht
          · exact hall x hx

theorem wireWorkSteps_routerWork (events : List Wire.Event) {s : Session σ} (h : s.StreamsInOrder)
    (hs : s.isServed = true) :
    (∀ x ∈ wireWorkSteps events s, OrderlyWork (Routed (s.wireActs events)) x) ∧
      (events.foldl onWireEvent s).StreamsInOrder := by
  induction events generalizing s with
  | nil => exact ⟨fun x hx => absurd hx List.not_mem_nil, h⟩
  | cons e es ih =>
    have hbeats := onWireEvent_lifeSteps (f := .span) s e
    have hserved := (LifeSteps.orderly h.orderly (fun p _ => withholds_span p) hbeats).2.2
    obtain ⟨hall, hend⟩ := ih (h.served hs hbeats) (hserved.trans hs)
    have hacts : s.wireActs (e :: es) = s.wireActs [e] ++ (s.onWireEvent e).wireActs es := by
      simp [Session.wireActs]
    refine ⟨fun x hx => ?_, hend⟩
    rw [hacts]
    rcases List.mem_cons.mp hx with rfl | hx
    · refine ⟨.moves ((onWireEvent_moves s e).mono fun _ _ =>
        Routed.mono (List.subset_append_left _ _)) ?_ ?_, h, h.served hs hbeats, ?_, ?_⟩
      · intro ref op hop
        cases hop
      · intro ref op ht
        cases ht
      · exact (LifeSteps.orderly h.orderly (fun p _ => withholds_span p) hbeats).2.1.panic
      · intro ht
        cases ht
    · exact (hall x hx).mono fun _ _ => Routed.mono (List.subset_append_right _ _)

/-- What happens at once to a session, if streams are not dropped by it. -/
theorem step_routerWork (s : Session σ) {op : SessionOp} (hop : ∀ ref d, op ≠ .deliver ref d)
    (hdrops : op.drops = false) : RouterWork (Routed (s.actsIn op)) ⟨s, none, s.step op⟩ := by
  refine .moves (step_moves_of_drops s hop hdrops) (fun ref op' hop' => ?_) nofun
  cases op with
  | run => cases hdrops
  | stream | data | request | event | close | closeQuietly | resetAll | drain | drainCheck | ask
  | deliver | hold | release | clearDeferred | dismiss | advance => cases hop'

theorem StreamsInOrder.step (h : s.StreamsInOrder) {op : SessionOp}
    (hdismiss : op = .dismiss → s.active = []) :
    (s.step op).StreamsInOrder := by
  cases op with
  | run => exact (runWorkSteps_routerWork _ h).2
  | stream id op => exact h.perform id op
  | dismiss => exact (h.dismiss (hdismiss rfl)).2
  | clearDeferred => exact h.clearDeferred.2
  | release id => exact (h.release id).2
  | hold id =>
    show StreamsInOrder (if _ then _ else _)
    split
    · exact h.noEnds (.same rfl rfl rfl rfl (fun h => h) rfl rfl)
    · exact h
  | closeQuietly | drain | advance => exact h.noEnds (.same rfl rfl rfl rfl (fun h => h) rfl rfl)
  | ask | deliver => exact h.noEnds (post_noEnds s _)
  | data octets =>
    cases hs : s.isServed with
    | true => exact h.served hs (step_lifeSteps s nofun)
    | false =>
      -- What a closed connection reads is kept and not looked at.
      have hsame : s.step (.data octets) = { s with buffer := s.buffer ++ octets } :=
        if_neg (by simp [hs])
      rw [hsame]
      exact h.noEnds (.same rfl rfl rfl rfl (fun h => h) rfl rfl)
  | request | event | close | resetAll | drainCheck =>
    cases hs : s.isServed with
    | true => exact h.served hs (step_lifeSteps s nofun)
    | false =>
      simp only [Session.step, hs]
      exact h

/-- Only a run takes up tasks. -/
theorem workSteps_task (s : Session σ) {op : SessionOp} (hop : op ≠ .run) :
    ∀ x ∈ s.workSteps op, x.task = none := by
  have hwire : ∀ (events : List Wire.Event) (s : Session σ), ∀ x ∈ wireWorkSteps events s,
      x.task = none := by
    intro events
    induction events with
    | nil => exact fun s x hx => absurd hx List.not_mem_nil
    | cons e es ih =>
      intro s x hx
      rcases List.mem_cons.mp hx with rfl | hx
      · rfl
      · exact ih _ x hx
  intro x hx
  cases op with
  | run => exact absurd rfl hop
  | data octets =>
    unfold Session.workSteps at hx
    dsimp only at hx
    split at hx
    · rcases List.mem_cons.mp hx with rfl | hx
      · rfl
      · exact hwire _ _ x hx
    · rw [List.mem_singleton.mp hx]
  | request | event | close | closeQuietly | resetAll | drain | drainCheck | stream | ask | deliver
  | hold | release | clearDeferred | dismiss | advance => rw [List.mem_singleton.mp hx]

/-- What happens to a session is made of steps of work, but for what pools tell routers. -/
theorem workSteps_routerWork (h : s.StreamsInOrder) {op : SessionOp} (hop : ∀ ref d, op ≠ .deliver ref d)
    (hdismiss : op = .dismiss → s.active = []) :
    ∀ x ∈ s.workSteps op, OrderlyWork (Routed (s.actsIn op)) x := by
  -- An operation that runs no queue is one piece of work.
  have hsingle : RouterWork (Routed (s.actsIn op)) ⟨s, none, s.step op⟩ →
      ∀ x ∈ [(⟨s, none, s.step op⟩ : WorkStep (Session σ))], OrderlyWork (Routed (s.actsIn op)) x := by
    intro hpace x hx
    obtain rfl := List.mem_singleton.mp hx
    exact ⟨hpace, h, h.step hdismiss, (h.orderly.step (fun p _ => withholds_span p) op).2.panic, nofun⟩
  cases op with
  | run => exact (runWorkSteps_routerWork _ h).1
  | data octets =>
    unfold Session.workSteps
    dsimp only
    split
    · next hserved =>
      have hs := ((Bool.and_eq_true _ _).mp hserved).1
      -- The octets are decoded first, which leaves all routers alone; each message is a piece of
      -- work of its own.
      have hwritable : StreamsInOrder { s with buffer := (Wire.decode (s.buffer ++ octets)).2 } :=
        h.noEnds (.same rfl rfl rfl rfl (fun h => h) rfl rfl)
      have hacts : s.actsIn (.data octets) =
          { s with buffer := (Wire.decode (s.buffer ++ octets)).2 }.wireActs
            (Wire.decode (s.buffer ++ octets)).1 := by
        unfold Session.actsIn Session.begunIn
        dsimp only
        rw [if_pos hserved]
        exact List.append_nil _
      intro x hx
      rcases List.mem_cons.mp hx with rfl | hx
      · refine ⟨.moves (RoutersUntouched.moves (RoutersUntouched.same rfl rfl rfl (.refl _) rfl rfl rfl rfl))
          (fun _ _ hop => nomatch hop) nofun, h, hwritable, fun hp => hp, nofun⟩
      · rw [hacts]
        exact (wireWorkSteps_routerWork _ hwritable hs).1 x hx
    · exact hsingle (step_routerWork s hop rfl)
  | clearDeferred => exact hsingle (.cleared h.clearDeferred.1)
  | dismiss => exact hsingle (.cleared (h.dismiss (hdismiss rfl)).1)
  | release id => exact hsingle (.cleared (h.release id).1)
  | request | event | close | closeQuietly | resetAll | drain | drainCheck | stream | ask | deliver
  | hold | advance => exact hsingle (step_routerWork s hop rfl)

end

end Session

end RpcProxy

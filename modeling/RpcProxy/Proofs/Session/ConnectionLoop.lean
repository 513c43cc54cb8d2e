import RpcProxy.Proofs.Session.CounterBalance
import RpcProxy.Proofs.Session.TaskBound
import RpcProxy.Proofs.Wire.Pieces
import RpcProxy.Session.Serve

/-!
# A connection leaves nothing behind

A connection is served in turns until its loop returns. Whenever the loop waits, between turns or in
the middle of one, routers may be told something, and others may change what the connection shares
with them (`Interruption`). `Service` is the connection with its loop, and `Occasion` lists what can
happen to it.

While the loop goes on, the connection is open (`LoopReady`): it can be closed by a reply, by a
stream that is reset or because the process is about to stop, but only by work that waits, never
while requests are taken up, and every turn ends with a look at the connection. So nothing is
decoded behind the end of a connection. That a filter could close it when it is shown a request is
excluded by what settings can name, and `Takes` is the lemma for it: taking up requests posts tasks
and leaves the connection alone.

The last turn takes down what is in flight, and what then waits is done, which comes to an end for
the filters that settings can name (`Steady.runUntilIdle`). Nothing may be left then (`Cleared`). A
promise that was broken stops the work early, so all of this is said unless that has happened.

An interruption can tell a router something at any point, even one that is gone since. It posts
tasks and touches neither streams nor the connection, so it keeps whatever the loop relies on
(`Steady.interruptAll`).
-/

set_option autoImplicit false

namespace RpcProxy

namespace Session

variable {σ : Type}

/-! ## Requests are taken up -/

/-- The connection is left alone, and what is posted leads back to no filter and does not tell of
the end of the connection. -/
structure Takes (s s' : Session σ) : Prop where
  isServed : s'.isServed = s.isServed
  isClosed : s'.isClosed = s.isClosed
  connection : s'.connection = s.connection
  posted : ∃ ts, s'.queue.posted = s.queue.posted ++ ts ∧ ∀ t ∈ ts, t.isBrief = true ∧ t ≠ .closed

section

variable {plan : Plan} {f : EndNotice} {id : StreamId} {m n : Nat} {s s' s₁ s₂ s₃ : Session σ}

theorem Takes.trans (h₁ : Takes s₁ s₂) (h₂ : Takes s₂ s₃) : Takes s₁ s₃ where
  isServed := h₂.isServed.trans h₁.isServed
  isClosed := h₂.isClosed.trans h₁.isClosed
  connection := h₂.connection.trans h₁.connection
  posted := by
    obtain ⟨ts₁, heq₁, hbrief₁⟩ := h₁.posted
    obtain ⟨ts₂, heq₂, hbrief₂⟩ := h₂.posted
    refine ⟨ts₁ ++ ts₂, by rw [heq₂, heq₁, List.append_assoc], fun t ht => ?_⟩
    exact (List.mem_append.mp ht).elim (hbrief₁ t) (hbrief₂ t)

theorem Takes.same (hserved : s'.isServed = s.isServed) (hclosed : s'.isClosed = s.isClosed)
    (hconnection : s'.connection = s.connection) (hposted : s'.queue.posted = s.queue.posted) :
    Takes s s' := ⟨hserved, hclosed, hconnection, [], by simp [hposted], by simp⟩

theorem Takes.refl (s : Session σ) : Takes s s := .same rfl rfl rfl rfl

theorem stop_takes (s : Session σ) (p : Panic) : Takes s (s.stop p) := .same rfl rfl rfl rfl

theorem RouterPosts.takes {ref : RouterRef} (h : RouterPosts ref n s s') : Takes s s' := by
  obtain ⟨ops, hbrief, -, g, side, notes, panic, -, rfl⟩ := h
  refine ⟨rfl, rfl, rfl, ops.map (.router ref), rfl, fun t ht => ?_⟩
  obtain ⟨op, hop, rfl⟩ := List.mem_map.mp ht
  exact ⟨hbrief op hop, nofun⟩

theorem decodeOne_takes (s : Session σ) {x : Stream} (hbrief : ∀ p ∈ x.parts, p.Brief) (slot : Nat) :
    Takes s (s.decodeOne x slot).2 := by
  unfold Session.decodeOne
  split
  · exact .refl s
  · next hslot =>
    have hpart := hbrief _ (List.mem_map_of_mem (List.mem_of_getElem? hslot))
    have hasks := hpart.onRequest x.view x.request
    dsimp only
    rw [afterFilter_eq]
    refine ⟨rfl, rfl, rfl, _, rfl, fun t ht => ?_⟩
    obtain ⟨id, op, hin, rfl⟩ := Asides.mem_tasks.mp ht
    exact ⟨List.all_eq_true.mp hasks _ hin, nofun⟩
  · exact .same rfl rfl rfl rfl
  · obtain ⟨n, h⟩ := route_routerPosts s (s.refTo x.id slot) _ x.route? x.request
    exact h.takes

/-- A request passes filters that ask for nothing which leads back to them. -/
theorem decodeThrough_takes (slots : List Nat) (hbrief : s.AllParts Part.Brief) (id : StreamId) :
    Takes s (s.decodeThrough id slots) :=
  -- That the filters stay is kept along with what is shown.
  (decodeThrough_invariant (P := fun s' => s'.AllParts Part.Brief ∧ Takes s s')
    (fun _ h => ⟨h.1.modifyStream (g := fun x => { x with decoded := x.decoded + 1 })
      (fun _ => rfl) (fun _ => rfl) id, h.2.trans (.same rfl rfl rfl rfl)⟩)
    (fun s' y slot h hy =>
      ⟨decodeOne_allParts h.1 y slot, h.2.trans (decodeOne_takes s' (h.1 id y hy) slot)⟩) slots s
    ⟨hbrief, .refl s⟩).2

theorem continueDecoding_takes (hbrief : s.AllParts Part.Brief) (id : StreamId) :
    Takes s (s.continueDecoding id) := by
  unfold Session.continueDecoding
  split
  · exact .refl s
  · split
    · exact .refl s
    · have hresolve : Takes s (s.modifyStream id (·.resolve s.plan.routes)) := .same rfl rfl rfl rfl
      refine hresolve.trans (decodeThrough_takes _ ?_ id)
      exact hbrief.modifyStream (g := (·.resolve s.plan.routes)) (fun y => resolve_id y _)
        (fun y => (Stream.Alike.resolve y _).parts) id

/-- A stream that begins leaves the connection alone. -/
theorem beginStream_takes (h : s.AllParts Part.Brief) (hbrief : ∀ p ∈ s.plan.parts, p.Brief)
    (request : Request) :
    Takes s (s.beginStream request) := by
  unfold Session.beginStream
  dsimp only
  split
  · exact stop_takes s _
  · obtain ⟨info, span, es, hopen, -⟩ := openSpan_cases { s with nextId := s.nextId + 1 } request
    rw [hopen]
    dsimp only
    generalize hslots : (if (decide (s.clock.wall < 0) && s.plan.parts.any (·.stamps)) = true then []
      else s.plan.parts.map (Slot.start s.nextId s.clock)) = slots
    have hinserted : ∀ x : Stream, Takes s (({ s with nextId := s.nextId + 1, log := es ++ s.log } :
        Session σ).insertStream x) := fun x => .same rfl rfl rfl rfl
    split
    · exact (hinserted _).trans (stop_takes _ _)
    · next hstuck =>
      rw [if_neg hstuck] at hslots
      have hparts := start_parts
        (x := { id := s.nextId, request, slots, info, span, inserted := true }) hslots.symm
      exact (hinserted _).trans (continueDecoding_takes (h.append rfl fun p hp =>
        hbrief p (hparts ▸ hp)) _)

/-- Requests that are taken up leave the connection alone. -/
theorem onRequests_takes (h : Orderly plan .span s) (hbrief : ∀ p ∈ plan.parts, p.Brief)
    (requests : List Request) :
    Takes s ((requests.map Wire.Event.request).foldl onWireEvent s) := by
  induction requests generalizing s with
  | nil => exact .refl s
  | cons r rest ih =>
    have hone : Takes s (s.onWireEvent (.request r)) := by
      unfold Session.onWireEvent
      split
      · exact .refl s
      · exact beginStream_takes (h.allParts hbrief) (h.settled ▸ hbrief) r
    have hnext := (LifeSteps.orderly h (fun p _ => withholds_span p) (onWireEvent_lifeSteps s (.request r))).1
    exact hone.trans (ih hnext)

theorem Steady.takes (h : Steady plan s) (hbeats : LifeSteps .span s s') (htakes : Takes s s') :
    Steady plan s' where
  orderly := (LifeSteps.orderly h.orderly (fun p _ => withholds_span p) hbeats).1
  served := htakes.isServed.trans h.served
  brief := by
    obtain ⟨ts, heq, hbrief⟩ := htakes.posted
    intro t ht
    rw [heq] at ht
    rcases List.mem_append.mp ht with ht | ht
    · exact htakes.connection ▸ h.brief t ht
    · exact ⟨(hbrief t ht).1, fun he => absurd he (hbrief t ht).2⟩

/-- Octets that come are decoded unless the connection is known to be closed. -/
theorem step_data (hs : s.isServed = true) (hclosed : s.isClosed = false) (octets : Bytes) :
    s.step (.data octets) = (Wire.decode (s.buffer ++ octets)).1.foldl onWireEvent
      { s with buffer := (Wire.decode (s.buffer ++ octets)).2 } := by
  show (if s.isServed then s.onClientData octets else _) = _
  rw [if_pos hs]
  unfold Session.onClientData
  dsimp only
  rw [if_neg (by simp [hclosed])]

/-- Octets that come do not make the end of the connection known. -/
theorem Steady.data (h : Steady plan s) (hbrief : ∀ p ∈ plan.parts, p.Brief)
    (hclosed : s.isClosed = false) (octets : Bytes) :
    Steady plan (s.step (.data octets)) ∧ (s.step (.data octets)).isClosed = false := by
  rw [step_data h.served hclosed]
  generalize (Wire.decode (s.buffer ++ octets)).2 = left
  have hquiet : NoEnds .span s { s with buffer := left } := .same rfl rfl rfl rfl (fun h => h) rfl rfl
  have hfirst : Takes s { s with buffer := left } := .same rfl rfl rfl rfl
  have hbase := h.takes hquiet.lifeSteps hfirst
  have hrequests : ∀ requests : List Request,
      let s' := (requests.map Wire.Event.request).foldl onWireEvent { s with buffer := left }
      Steady plan s' ∧ s'.isClosed = false := by
    intro requests
    have htakes := onRequests_takes hbase.orderly hbrief requests
    exact ⟨hbase.takes (LifeSteps.foldl (fun s e => onWireEvent_lifeSteps s e) _ _) htakes,
      htakes.isClosed.trans hclosed⟩
  -- Octets make requests, and behind them perhaps a failure, which ends all streams and closes the
  -- connection.
  obtain ⟨requests, hall | ⟨hall, -⟩⟩ := Wire.decode_cases (s.buffer ++ octets)
  · rw [hall]
    exact hrequests requests
  · rw [hall, List.foldl_append]
    obtain ⟨hsteady, hopen⟩ := hrequests requests
    generalize (requests.map Wire.Event.request).foldl onWireEvent { s with buffer := left } = s₁ at *
    have hbeats := onWireEvent_lifeSteps (f := .span) s₁ .failure
    show Steady plan (s₁.onWireEvent .failure) ∧ (s₁.onWireEvent .failure).isClosed = false
    unfold Session.onWireEvent at hbeats ⊢
    cases hp : s₁.panic.isSome with
    | true => exact ⟨hsteady, hopen⟩
    | false =>
      rw [hp] at hbeats
      simp only [Bool.false_eq_true, if_false] at hbeats ⊢
      have hcounted : PostsAtMost 0 s₁
          (s₁.measure fun m => { m with decodingErrors := m.decodingErrors.inc }) :=
        .same rfl rfl (fun _ h => h) (fun h => h) rfl
      have horderly : Orderly plan .span
          (s₁.measure fun m => { m with decodingErrors := m.decodingErrors.inc }) :=
        hsteady.orderly.noEnds (fun p _ => withholds_span p) (measure_noEnds s₁ _)
      have hreset := horderly.resetAll_postsAtMost hbrief
      have hsettles := resetAll_onlyEndsStreams
        (s₁.measure fun m => { m with decodingErrors := m.decodingErrors.inc })
      generalize (s₁.measure fun m =>
        { m with decodingErrors := m.decodingErrors.inc }).resetAll = s₂ at *
      -- That the connection was closed is not known yet: the turn looks at it when it ends.
      have hclose : PostsAtMost 0 s₂ { s₂ with connection := s₂.connection.close .flush } := by
        refine .same rfl rfl (fun _ h => h) (fun hup => ?_) rfl
        rw [close_isOpen] at hup
        cases hup
      exact ⟨hsteady.postsAtMost hbeats (hclose.behind (hreset.behind hcounted)),
        hsettles.isClosed.trans hopen⟩

theorem reach_lt_effort (s : Session σ) : (s.queue.posted.map Task.reach).sum < s.effort := by
  have hreach : ∀ ts : List Task, (ts.map Task.reach).sum ≤ 7 * ts.length := by
    intro ts
    induction ts with
    | nil => exact Nat.le_refl 0
    | cons t rest ih =>
      have ht : t.reach ≤ 7 := by
        cases t with
        | stream | closed => exact Nat.le_of_ble_eq_true rfl
        | router ref op => cases op <;> exact Nat.le_of_ble_eq_true rfl
      rw [List.map_cons, List.sum_cons, List.length_cons]
      omega
  have hall := hreach s.queue.posted
  unfold effort patience
  omega

/-- A run ends with nothing left to do unless a promise is broken. -/
theorem Steady.run (h : Steady plan s) (hbrief : ∀ p ∈ plan.parts, p.Brief) :
    Steady plan (s.step .run) ∧ OpensNothing s (s.step .run) ∧
      ((s.step .run).panic = none → (s.step .run).queue.isIdle = true) :=
  Steady.runUntilIdle hbrief s.effort h s.reach_lt_effort

/-- The end of the connection takes down everything that is in flight. -/
theorem Steady.ends (h : Steady plan s) (hbrief : ∀ p ∈ plan.parts, p.Brief) {e : ConnectionEvent}
    (he : e = .remoteClose ∨ e = .localClose) :
    Steady plan (s.step (.event e)) ∧ (s.step (.event e)).active = [] := by
  have hstep : s.step (.event e) = { s with isClosed := true }.resetAll := by
    show (if s.isServed then s.onConnectionEvent e else s) = _
    rw [if_pos h.served]
    rcases he with rfl | rfl
    · rfl
    · rfl
  rw [hstep]
  have hmarked : Steady plan { s with isClosed := true } :=
    ⟨h.orderly.noEnds (fun p _ => withholds_span p) (.same rfl rfl rfl rfl (fun h => h) rfl rfl),
      h.served, h.brief⟩
  exact ⟨hmarked.postsAtMost (resetAll_lifeSteps _) (hmarked.orderly.resetAll_postsAtMost hbrief),
    hmarked.orderly.resetAll_active (fun p _ => withholds_span p) h.served⟩

end

/-! ## The end of a connection -/

/-- Nothing is left behind of a connection that began with the ledger `b`: no stream is in flight or
not over, and nothing is left to do. Every stream that began was timed at its end, once. The gauge
of streams in flight has gone down as often as it went up, and the gauge of open connections has
gone down once. -/
structure Cleared (b : Ledger) (s : Session σ) : Prop where
  /-- The connection is not served any more. -/
  served : s.isServed = false
  /-- No stream is in flight. -/
  active : s.active = []
  /-- No task waits and no stream is to be dropped. -/
  idle : s.queue.isIdle = true
  /-- What streams are still there are over. -/
  completed : ∀ x ∈ s.streams, x.isCompleted = true
  /-- Each stream was timed once. -/
  timed : s.stats.duration.count = b.timed + s.nextId
  /-- The gauge of streams is what it was, whatever it was. -/
  requests : b.gauge.value.toNat + s.nextId < 2 ^ 64 → s.stats.activeRequests = b.gauge
  /-- The gauge of connections is one less. -/
  connections : s.stats.activeConnections = b.links.dec

/-- A connection whose loop goes on. It holds whenever the loop waits to be woken, and not within a
turn, where the connection may be closed and the turn not be over. -/
structure LoopReady (plan : Plan) (b : Ledger) (s : Session σ) : Prop where
  /-- The streams are in order and no promise was broken. -/
  steady : Steady plan s
  /-- The counters tell of the streams as they began and ended. -/
  balanced : ∃ direct, LedgerBalanced b direct s
  /-- The connection is open: a turn that closes it is the last. -/
  isOpen : s.connection.isOpen = true
  /-- Its end is not known. -/
  isClosed : s.isClosed = false

section

variable {plan : Plan} {b : Ledger} {direct : Nat} {s : Session σ}

theorem Steady.interrupt (h : Steady plan s) (i : Interruption σ) : Steady plan (s.interrupt i) := by
  cases i with
  | told ref d =>
    refine ⟨h.orderly.noEnds (fun p _ => withholds_span p) (post_noEnds s _), h.served, fun t ht => ?_⟩
    rcases List.mem_append.mp ht with ht | ht
    · exact h.brief t ht
    · rw [List.mem_singleton.mp ht]
      exact ⟨rfl, nofun⟩
  | shared side clock roll draining =>
    exact ⟨h.orderly.noEnds (fun p _ => withholds_span p) (.same rfl rfl rfl rfl (fun h => h) rfl rfl),
      h.served, h.brief⟩

theorem LedgerBalanced.interrupt (h : LedgerBalanced b direct s) (i : Interruption σ) :
    ∃ direct, LedgerBalanced b direct (s.interrupt i) := by
  cases i with
  | told ref d => exact ⟨_, h.step (show SessionOp.deliver ref d ≠ .dismiss from nofun)⟩
  | shared side clock roll draining => exact ⟨direct, h.quiet ⟨rfl, rfl⟩⟩

/-- Whatever others do while the loop waits, they leave the connection and its streams to it. Any
number of interruptions may come at one place. -/
theorem Steady.interruptAll (h : Steady plan s) (hbalanced : LedgerBalanced b direct s)
    (is : List (Interruption σ)) :
    Steady plan (s.interruptAll is) ∧ (∃ direct, LedgerBalanced b direct (s.interruptAll is)) ∧
      (s.interruptAll is).connection = s.connection ∧ (s.interruptAll is).isClosed = s.isClosed ∧
      (s.interruptAll is).active = s.active ∧ (s.interruptAll is).panic = s.panic := by
  induction is generalizing s direct with
  | nil => exact ⟨h, ⟨direct, hbalanced⟩, rfl, rfl, rfl, rfl⟩
  | cons i is ih =>
    obtain ⟨direct₁, hbalanced₁⟩ := hbalanced.interrupt i
    have hsame : (s.interrupt i).connection = s.connection ∧ (s.interrupt i).isClosed = s.isClosed ∧
        (s.interrupt i).active = s.active ∧ (s.interrupt i).panic = s.panic := by
      cases i <;> exact ⟨rfl, rfl, rfl, rfl⟩
    have hrest := ih (h.interrupt i) hbalanced₁
    rw [hsame.1, hsame.2.1, hsame.2.2.1, hsame.2.2.2] at hrest
    exact hrest

/-- What waits is done, and then the connection is not served any more. -/
theorem Steady.finish (h : Steady plan s) (hbrief : ∀ p ∈ plan.parts, p.Brief)
    (hbalanced : LedgerBalanced b direct s) (hnone : s.active = []) (hfine : s.finish.panic = none) :
    Cleared b s.finish := by
  obtain ⟨hsteady, hebbs, hidle⟩ := h.run hbrief
  have hrun : SessionOp.run ≠ .dismiss := nofun
  have hbalanced := hbalanced.step hrun
  -- What is done in the last run begins no stream, so none is in flight behind it.
  have hempty : (s.step .run).active = [] := List.subset_nil.mp (hnone ▸ hebbs.active)
  have hfinish : s.finish = { (s.step .run).measure fun m =>
      { m with activeConnections := m.activeConnections.dec } with isServed := false, active := [] } := by
    show (s.step .run).dismiss = _
    unfold Session.dismiss
    rw [hsteady.served, hempty]
    rfl
  rw [hfinish] at hfine ⊢
  obtain ⟨hsound, -, -⟩ := hbalanced.balanced
  refine ⟨rfl, rfl, hidle hfine, fun x hx => ?_, ?_, fun hroom => ?_, ?_⟩
  · have hmark : x.mark ∈ (s.step .run).ledger.marks := List.mem_map_of_mem hx
    have hopen : x.isCompleted = false ↔ x.id ∈ (s.step .run).active := hsound.open_iff _ hmark
    cases hc : x.isCompleted with
    | true => rfl
    | false =>
      have hin := hopen.mp hc
      rw [hempty] at hin
      cases hin
  · have htimed : (s.step .run).stats.duration.count + (s.step .run).active.length =
        b.timed + (s.step .run).nextId := hsound.timed_add
    rw [hempty] at htimed
    exact htimed
  · have hgauged : (s.step .run).stats.activeRequests.value.toNat =
        b.gauge.value.toNat + (s.step .run).active.length := hsound.gauged hroom
    rw [hempty] at hgauged
    exact congrArg Gauge.mk (UInt64.toNat_inj.mp hgauged)
  · exact congrArg Gauge.dec hsound.linked

theorem Steady.lastTurn (h : Steady plan s) (hbrief : ∀ p ∈ plan.parts, p.Brief)
    (hbalanced : LedgerBalanced b direct s) (sent : Bytes) {e : ConnectionEvent}
    (he : e = .remoteClose ∨ e = .localClose) (is : List (Interruption σ))
    (hfine : (s.lastTurn sent e is).session.panic = none) :
    Cleared b (s.lastTurn sent e is).session := by
  obtain ⟨hended, hnone⟩ := h.ends hbrief he
  have hevent : SessionOp.event e ≠ .dismiss := nofun
  obtain ⟨hsteady, ⟨_, hbalanced⟩, -, -, hactive, -⟩ := hended.interruptAll (hbalanced.step hevent) is
  exact hsteady.finish hbrief hbalanced (hactive.trans hnone) hfine

/-- A promise that was broken is not mended when everything is given up. -/
theorem abandon_panic {f : EndNotice} (h : Orderly plan f s) (hf : ∀ p ∈ plan.parts, p.Withholds f)
    (hfine : s.abandon.panic = none) : s.panic = none := by
  have hgive : ∀ (ts : List Task) (s : Session σ), (ts.foldl giveUp s).panic = none → s.panic = none := by
    intro ts
    induction ts with
    | nil => exact fun _ h => h
    | cons t rest ih =>
      intro s hs
      have hs := ih _ hs
      unfold giveUp at hs
      split at hs
      · obtain ⟨g, side, notes, panic, -, heq⟩ := giveBack_touches s ‹_› ‹_›
        rw [heq] at hs
        exact (Option.or_eq_none_iff.mp hs).2
      · exact hs
  exact (h.dismiss hf).2.1.panic
    (hgive (s.step .dismiss).queue.posted { s.step .dismiss with queue := {} } hfine)

/-- What was written is sent. The loop goes on as long as the connection is open; else nothing is
left behind unless a promise was broken. -/
theorem Steady.flush (h : Steady plan s) (hbrief : ∀ p ∈ plan.parts, p.Brief)
    (hbalanced : LedgerBalanced b direct s)
    (hshut : s.isClosed = true → s.connection.isOpen = false ∧ s.active = [])
    (canSend : Bool) (waits : Waits σ) :
    let turn := s.flush canSend waits
    (turn.isLast = false → LoopReady plan b turn.session) ∧
      (turn.isLast = true → turn.session.panic = none → Cleared b turn.session) := by
  have htaken : Steady plan { s with connection := s.connection.take.2 } :=
    ⟨h.orderly.noEnds (fun p _ => withholds_span p) (.same rfl rfl rfl rfl (fun h => h) rfl rfl),
      h.served, h.brief⟩
  have hbalanced : LedgerBalanced b direct { s with connection := s.connection.take.2 } := hbalanced.quiet ⟨rfl, rfl⟩
  have hdown : s.isClosed = true → s.connection.take.2.isOpen = false := fun hclosed => (hshut hclosed).1
  unfold Session.flush
  dsimp only
  split
  -- A promise that was broken ends the connection, and nothing is said of it.
  · next hpanic =>
    refine ⟨nofun, fun _ hfine => ?_⟩
    rw [abandon_panic htaken.orderly (fun p _ => withholds_span p) hfine] at hpanic
    cases hpanic
  · -- Until what was written is sent, others are at work, if there is anything to send.
    obtain ⟨is, his⟩ : ∃ is, (if s.connection.take.1.isEmpty then
        { s with connection := s.connection.take.2 } else
        ({ s with connection := s.connection.take.2 }).interruptAll waits.sending) =
        ({ s with connection := s.connection.take.2 }).interruptAll is := by
      split
      · exact ⟨[], rfl⟩
      · exact ⟨waits.sending, rfl⟩
    obtain ⟨hsteady, ⟨direct₁, hbalanced₁⟩, hconnection, hclosed, hactive, -⟩ := htaken.interruptAll hbalanced is
    rw [his]
    generalize ({ s with connection := s.connection.take.2 }).interruptAll is = s₁ at *
    split
    · exact ⟨nofun, fun _ => hsteady.lastTurn hbrief hbalanced₁ _ (Or.inl rfl) []⟩
    · split
      · next hopen =>
        refine ⟨fun _ => ⟨hsteady, ⟨direct₁, hbalanced₁⟩, hopen, ?_⟩, nofun⟩
        rw [hclosed]
        rw [hconnection] at hopen
        refine Bool.eq_false_iff.mpr fun hknown => ?_
        exact Bool.false_ne_true ((hdown hknown).symm.trans hopen)
      · split
        -- The end of the connection is known, so its streams have been taken down already.
        · next hknown =>
          obtain ⟨hlast, ⟨direct₂, hbalanced₂⟩, -, -, hnone, -⟩ := hsteady.interruptAll hbalanced₁ waits.shutting
          refine ⟨nofun, fun _ => hlast.finish hbrief hbalanced₂ ?_⟩
          rw [hnone, hactive]
          exact (hshut (hclosed.symm.trans hknown)).2
        · exact ⟨nofun, fun _ => hsteady.lastTurn hbrief hbalanced₁ _ (Or.inr rfl) waits.shutting⟩

theorem LoopReady.turn (h : LoopReady plan b s) (hbrief : ∀ p ∈ plan.parts, p.Brief) (canSend : Bool)
    (w : Wake) (waits : Waits σ) :
    let turn := s.turn canSend w waits
    (turn.isLast = false → LoopReady plan b turn.session) ∧
      (turn.isLast = true → turn.session.panic = none → Cleared b turn.session) := by
  obtain ⟨direct, hbalanced⟩ := h.balanced
  -- Whatever woke the loop, the rest of the turn is a run and a look at the connection.
  have hrun : ∀ {s : Session σ} {direct : Nat}, Steady plan s → LedgerBalanced b direct s →
      s.isClosed = false →
      let turn := (s.step .run).flush canSend waits
      (turn.isLast = false → LoopReady plan b turn.session) ∧
        (turn.isLast = true → turn.session.panic = none → Cleared b turn.session) := by
    intro s direct hsteady hbalanced hclosed
    obtain ⟨hran, hebbs, -⟩ := hsteady.run hbrief
    refine hran.flush hbrief (hbalanced.step nofun) (fun hknown => ?_) canSend waits
    exact (hebbs.shut hknown).resolve_left (by simp [hclosed])
  cases w with
  | octets data =>
    obtain ⟨hsteady, hclosed⟩ := h.steady.data hbrief h.isClosed data
    exact hrun hsteady (hbalanced.step nofun) hclosed
  | ended => exact ⟨nofun, fun _ => h.steady.lastTurn hbrief hbalanced _ (Or.inl rfl) []⟩
  | tick =>
    have hstep : s.step .drainCheck = s.closeIfDrained := if_pos h.steady.served
    refine hrun ?_ (hbalanced.step nofun) ?_
    · rw [hstep]
      exact h.steady.postsAtMost (closeIfDrained_noEnds s).lifeSteps (closeIfDrained_postsAtMost s)
    · rw [hstep]
      unfold Session.closeIfDrained
      split
      · exact h.isClosed
      · exact h.isClosed
  | work => exact hrun h.steady hbalanced h.isClosed

end

end Session

/-! ## The loop -/

/-- Something that happens while a connection is served. -/
inductive Occasion (σ : Type) where
  /-- The loop is woken, and the client can be sent something or not. Others are at work while the
  loop waits for its socket. -/
  | turn (w : Wake) (canSend : Bool) (waits : Waits σ)
  /-- Others do something while the loop waits to be woken. -/
  | meanwhile (i : Interruption σ)

/-- A connection with its loop. -/
structure Service (σ : Type) where
  session : Session σ
  /-- Whether the loop has returned. -/
  isOver : Bool := false

namespace Service

variable {σ : Type}

/-- Something happens. Nothing does once the loop has returned. -/
def step (v : Service σ) (o : Occasion σ) : Service σ :=
  if v.isOver then v
  else
    match o with
    | .turn w canSend waits =>
      let turn := v.session.turn canSend w waits
      { session := turn.session, isOver := turn.isLast }
    | .meanwhile i => { v with session := v.session.interrupt i }

/-- The connection after some things have happened. -/
def after (v : Service σ) (os : List (Occasion σ)) : Service σ := os.foldl step v

/-- A connection whose loop goes on, or that has left nothing behind. It is what every occasion
keeps. -/
def Kept (plan : Plan) (b : Ledger) (v : Service σ) : Prop :=
  (v.isOver = false → v.session.LoopReady plan b) ∧
    (v.isOver = true → v.session.panic = none → v.session.Cleared b)

section

variable {plan : Plan} {b : Ledger} {v : Service σ}

theorem Kept.step (h : Kept plan b v) (hbrief : ∀ p ∈ plan.parts, p.Brief) (o : Occasion σ) :
    Kept plan b (v.step o) := by
  unfold Service.step
  cases hover : v.isOver with
  | true => exact ⟨fun hgoes => absurd (hover.symm.trans hgoes) (by decide), h.2⟩
  | false =>
    have hfits := h.1 hover
    rw [if_neg (by decide)]
    cases o with
    | turn w canSend waits => exact hfits.turn hbrief canSend w waits
    | meanwhile i =>
      obtain ⟨direct, hbalanced⟩ := hfits.balanced
      obtain ⟨hsteady, hbalanced, hconnection, hclosed, -, -⟩ := hfits.steady.interruptAll hbalanced [i]
      exact ⟨fun _ => ⟨hsteady, hbalanced, (congrArg Downstream.isOpen hconnection).trans hfits.isOpen,
        hclosed.trans hfits.isClosed⟩, nofun⟩

theorem Kept.after (h : Kept plan b v) (hbrief : ∀ p ∈ plan.parts, p.Brief) (os : List (Occasion σ)) :
    Kept plan b (v.after os) := by
  induction os generalizing v with
  | nil => exact h
  | cons o os ih => exact ih (h.step hbrief o)

end

theorem opened_kept (number : Nat) (plan : Plan) (flags : Flags) (source : PoolSource σ)
    (side : HostSide σ) (stats : ListenerStats) (clock : Clock) :
    let s := Session.opened number plan flags source side stats clock
    Kept plan s.ledger { session := s } := by
  intro s
  refine ⟨fun _ => ⟨⟨?_, rfl, fun t ht => nomatch ht⟩, ⟨0, ?_⟩, rfl, rfl⟩, nofun⟩
  · exact Session.opened_orderly number plan flags source side stats clock .span
  · exact Session.opened_ledgerBalanced number plan flags source side stats clock

/-- A connection leaves nothing behind. A listener was set up from settings, a connection of a
client was accepted, and things have happened to it in any order, also while the loop was waiting
for its socket in the middle of a turn.

While the loop goes on, octets that come are decoded, and whatever was decoded of them, the
connection is still open behind it or there is nothing else to decode. Once the loop has returned
without a broken promise, no stream is in flight, nothing is left to do, every stream that is still
there is over, and every stream that ever began was timed at its end, once. As long as the streams
of the connection can be counted together with those of others, the gauge of streams in flight is
back where it was, whatever that was. The gauge of open connections went up once and down once. -/
theorem leaves_nothing {generation : Nat} {faults : FileFaults} {l : Config.Listener} {plan : Plan}
    (hplan : Plan.ofConfig (.routing generation) faults l = .ok plan) (number : Nat) (flags : Flags)
    (source : PoolSource σ) (side : HostSide σ) (stats : ListenerStats) (clock : Clock)
    (os : List (Occasion σ)) :
    let v : Service σ :=
      after { session := Session.opened number plan flags source side stats clock } os
    (v.isOver = false → ∀ octets,
      let decoded := Wire.decode (v.session.buffer ++ octets)
      let s := { v.session with buffer := decoded.2 }
      v.session.step (.data octets) = decoded.1.foldl Session.onWireEvent s ∧
        ∀ before behind, decoded.1 = before ++ behind →
          (before.foldl Session.onWireEvent s).connection.isOpen = true ∨
            behind = [] ∧ decoded.2 = []) ∧
    (v.isOver = true → v.session.panic = none →
      v.session.active = [] ∧ v.session.queue.isIdle = true ∧
      (∀ x ∈ v.session.streams, x.isCompleted = true) ∧
      v.session.stats.duration.count = stats.duration.count + v.session.nextId ∧
      (stats.activeRequests.value.toNat + v.session.nextId < 2 ^ 64 →
        v.session.stats.activeRequests = stats.activeRequests) ∧
      v.session.stats.activeConnections = stats.activeConnections.inc.dec) := by
  intro v
  have hbrief : ∀ p ∈ plan.parts, p.Brief := by
    intro p hp
    obtain ⟨f, -, hmakes⟩ := Plan.makes hplan hp
    exact hmakes.brief
  obtain ⟨hfits, hcleared⟩ : Kept plan _ v :=
    (opened_kept number plan flags source side stats clock).after hbrief os
  refine ⟨fun hgoes octets => ?_, fun hover hfine => ?_⟩
  · have h := hfits hgoes
    refine ⟨Session.step_data h.steady.served h.isClosed octets, fun before behind hall => ?_⟩
    dsimp only
    generalize hleft : (Wire.decode (v.session.buffer ++ octets)).2 = left
    have hbase : Session.Orderly plan .span { v.session with buffer := left } :=
      h.steady.orderly.noEnds (fun p _ => withholds_span p)
        (.same rfl rfl rfl rfl (fun h => h) rfl rfl)
    -- Requests leave the connection alone, and nothing is behind a failure.
    have hrequests : ∀ requests : List Request, before = requests.map .request →
        (before.foldl Session.onWireEvent { v.session with buffer := left }).connection.isOpen = true := by
      rintro requests rfl
      rw [(Session.onRequests_takes hbase hbrief requests).connection]
      exact h.isOpen
    obtain ⟨requests, hevents | ⟨hevents, hnothing⟩⟩ :=
      Wire.decode_cases (v.session.buffer ++ octets)
    · rw [hall] at hevents
      obtain ⟨first, -, -, hfirst, -⟩ := List.append_eq_map_iff.mp hevents
      exact Or.inl (hrequests first hfirst.symm)
    · rw [hall] at hevents
      rcases List.eq_nil_or_concat behind with rfl | ⟨init, last, rfl⟩
      · exact Or.inr ⟨rfl, hleft ▸ hnothing⟩
      · rw [List.concat_eq_append, ← List.append_assoc] at hevents
        obtain ⟨first, -, -, hfirst, -⟩ :=
          List.append_eq_map_iff.mp (List.append_inj_left' hevents rfl)
        exact Or.inl (hrequests first hfirst.symm)
  · obtain ⟨-, hactive, hidle, hcompleted, htimed, hgauge, hlinks⟩ := hcleared hover hfine
    exact ⟨hactive, hidle, hcompleted, htimed, hgauge, hlinks⟩

/-- A request and half of another come, then the rest of it with the beginning of a third. The
client cannot be sent the second reply; while that is found out, a router is told something and the
process is about to stop. Three streams of other connections are in flight all the time. -/
theorem leaves_nothing_two_requests :
    let l : Config.Listener :=
      { name := "edge", address := "x", filters := [{ name := "access_log" }, { name := "direct_response" }] }
    let stats : ListenerStats := { ListenerStats.start "edge" 0 with activeRequests := ⟨3⟩ }
    let first : List (Occasion TcpPools) := [.turn (.octets (Bytes.ofText "users get\nusers ")) true {}]
    let all := first ++ [.turn (.octets (Bytes.ofText "put\nus")) false
      { sending := [.told { stream := 1 } (.data []), .shared { pools := {} } {} 0.5 true] }]
    ∃ plan, Plan.ofConfig (.routing 0) (fun _ => none) l = .ok plan ∧
      let start : Service TcpPools :=
        { session := Session.opened 0 plan {} TcpPools.source { pools := {} } stats {} }
      ((start.after first).isOver = false ∧
        (((start.after first).session.step (.data (Bytes.ofText "put\nus"))).connection.isOpen = true)) ∧
      ((start.after all).isOver = true ∧ (start.after all).session.panic = none ∧
        (start.after all).session.nextId = 2 ∧ (start.after all).session.active = [] ∧
        (start.after all).session.stats.activeRequests = ⟨3⟩ ∧
        ∀ x ∈ (start.after all).session.streams, x.isCompleted = true) := by
  intro l stats first all
  have hplan : Plan.ofConfig (.routing 0) (fun _ => none) l = .ok _ := rfl
  -- The first turn leaves the connection open, with octets of a request behind it; the second ends
  -- it while a router is still told something.
  refine ⟨_, hplan, ⟨by decide +kernel, ?_⟩, by decide +kernel, by decide +kernel, by decide +kernel, ?_⟩
  · obtain ⟨hstep, hopen⟩ := (leaves_nothing hplan 0 {} TcpPools.source { pools := {} } stats {}
      first).1 (by decide +kernel) (Bytes.ofText "put\nus")
    rw [hstep]
    exact (hopen _ [] (List.append_nil _).symm).resolve_right (by decide +kernel)
  · obtain ⟨hactive, -, hcompleted, -, hgauge, -⟩ := (leaves_nothing hplan 0 {} TcpPools.source
      { pools := {} } stats {} all).2 (by decide +kernel) (by decide +kernel)
    exact ⟨hactive, hgauge (by decide +kernel), hcompleted⟩

end Service

end RpcProxy

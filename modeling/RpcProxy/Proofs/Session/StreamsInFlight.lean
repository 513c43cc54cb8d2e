import RpcProxy.Proofs.Session.FilterOrder
import RpcProxy.Proofs.Session.Finality
import RpcProxy.Proofs.Session.SurplusOctets

/-!
# Streams that stay in flight

A stream leaves the streams in flight because something is done with it, or because the client's
connection goes down. `StaysInFlight` says that neither has happened: as long as the connection is
up, the stream is in flight if it was, and no task was posted that does something with it, except
for what its own router asks. One lemma for each function of a session shows that work for other
streams leaves a stream alone, and that what ends all streams takes the connection down.

Both parts have to be carried together. That a stream is in flight lasts only until the next task
about it is taken up, and that task was posted earlier, when somebody else was at work; so what is
posted has to be known at all times, and not only when it is taken up. Filters of other streams
could post such tasks, and therefore have to be asked for the opposite (`Part.Spares`); the filters
that settings can name do not post any for other streams.

`up` runs backwards. When the connection has gone down nothing is said any more, and a connection
that is down stays so; hence whatever takes it down needs no further look (`StaysInFlight.down`).

What begins a stream is looked at for a chain that answers nothing by itself:
`beginStream_inFlight`. The whole run is put together in `UnansweredInFlight`, which also keeps the
course of the messages, since what is said of a moment in the past is needed with the state of the
chain at that moment.
-/

set_option autoImplicit false

namespace RpcProxy

/-- A task does nothing with the stream of a router, unless the router has asked for it. What a
router is told, and the writing of a call, do something with a router only; what that makes the
router ask for is a task of its own. -/
def Task.suits (ref : RouterRef) : Task → Bool
  | .stream id _ => id ≠ ref.stream
  | .router other (.ask _) => other = ref || other.stream ≠ ref.stream
  | .router _ .write | .router _ (.deliver _) | .closed => true

/-- A filter asks nothing of a stream from outside: not when a message of another stream meets it,
and not when a stream ends. -/
structure Part.Spares (p : Part) (id : StreamId) : Prop where
  onRequest : ∀ view r, view.id ≠ id → ∀ a ∈ (p.onRequest view r).asks, a.1 ≠ id
  onResponse : ∀ view number r, view.id ≠ id → ∀ a ∈ (p.onResponse view number r).asks, a.1 ≠ id
  onEnd : ∀ other, ∀ a ∈ (p.onEnd other).asks, a.1 ≠ id

/-- No filter says that a span is over. -/
theorem withholds_span (p : Part) : p.Withholds .span := fun _ _ _ h => nomatch h

namespace Session

variable {σ : Type}

/-- Whether the client's connection is served, open, and not yet known to be closed. -/
def isUp (s : Session σ) : Bool := s.isServed && !s.isClosed && s.connection.isOpen

/-- As long as the client's connection is up, the stream of a router is in flight if it was, and
tasks that were posted suit the router. Nothing is said about a stream that has begun meanwhile:
`begun` excludes that it is the one in question, and a beginning has a lemma of its own. -/
structure StaysInFlight (ref : RouterRef) (s s' : Session σ) : Prop where
  /-- A connection that is up was up. -/
  up : s'.isUp = true → s.isUp = true
  /-- The stream in question has not begun meanwhile. -/
  begun : ref.stream < s'.nextId → ref.stream < s.nextId
  /-- It is in flight if it was. -/
  active : s'.isUp = true → ref.stream ∈ s.active → ref.stream ∈ s'.active
  /-- What was posted suits the router. -/
  posted : ∀ t ∈ s'.queue.posted, t ∈ s.queue.posted ∨ t.suits ref = true

section

variable {ref other : RouterRef} {s s' s₁ s₂ s₃ : Session σ} {id : StreamId} {plan : Plan}

theorem StaysInFlight.trans (h₁ : StaysInFlight ref s₁ s₂) (h₂ : StaysInFlight ref s₂ s₃) :
    StaysInFlight ref s₁ s₃ where
  up hup := h₁.up (h₂.up hup)
  begun hid := h₁.begun (h₂.begun hid)
  active hup hin := h₂.active hup (h₁.active (h₂.up hup) hin)
  posted t ht := (h₂.posted t ht).elim (h₁.posted t) Or.inr

/-- The connection is what it was, or is down. -/
theorem StaysInFlight.same (hserved : s'.isServed = s.isServed) (hclosed : s'.isClosed = s.isClosed)
    (hopen : s'.connection.isOpen = true → s.connection.isOpen = true) (hnext : s'.nextId = s.nextId)
    (hactive : ref.stream ∈ s.active → ref.stream ∈ s'.active)
    (hposted : s'.queue.posted = s.queue.posted) : StaysInFlight ref s s' where
  up hup := by
    simp only [isUp, Bool.and_eq_true] at hup ⊢
    rw [← hserved, ← hclosed]
    exact ⟨hup.1, hopen hup.2⟩
  begun hid := hnext ▸ hid
  active _ := hactive
  posted t ht := Or.inl (hposted ▸ ht)

theorem StaysInFlight.refl (ref : RouterRef) (s : Session σ) : StaysInFlight ref s s :=
  .same rfl rfl id rfl id rfl

theorem StaysInFlight.foldl {α : Type} {f : Session σ → α → Session σ} {l : List α}
    (hf : ∀ a ∈ l, ∀ s, StaysInFlight ref s (f s a)) (s : Session σ) : StaysInFlight ref s (l.foldl f s) := by
  induction l generalizing s with
  | nil => exact .refl ref s
  | cons a rest ih =>
    exact (hf a List.mem_cons_self s).trans (ih (fun b hb => hf b (List.mem_cons_of_mem a hb)) (f s a))

/-- Whatever has become of streams, the connection is down. -/
theorem StaysInFlight.down (hdown : s'.isUp = false) (hnext : s'.nextId = s.nextId)
    (hposted : ∀ t ∈ s'.queue.posted, t ∈ s.queue.posted ∨ t.suits ref = true) : StaysInFlight ref s s' where
  up hup := by rw [hdown] at hup; cases hup
  begun hid := hnext ▸ hid
  active hup := by rw [hdown] at hup; cases hup
  posted := hposted

theorem isUp_of_closed (h : s.isClosed = true) : s.isUp = false := by
  simp [isUp, h]

theorem isUp_of_not_open (h : s.connection.isOpen = false) : s.isUp = false := by
  simp [isUp, h]

theorem isUp_of_not_served (h : s.isServed = false) : s.isUp = false := by
  simp [isUp, h]

theorem close_isOpen (c : Downstream) (how : CloseType) : (c.close how).isOpen = false := by
  unfold Downstream.close Downstream.isOpen
  split
  · next h => rw [h]; rfl
  · rfl

theorem write_isOpen {c : Downstream} {data : Bytes} {last : Bool}
    (h : (c.write data last).isOpen = true) : c.isOpen = true := by
  cases hc : c.isOpen with
  | true => rfl
  | false => rw [write_closed hc, hc] at h; cases h

/-! ## Small steps

Steps that concern no stream, or only what is posted. -/

theorem post_staysInFlight {t : Task} (ht : t.suits ref = true) : StaysInFlight ref s (s.post t) where
  up hup := hup
  begun hid := hid
  active _ hin := hin
  posted u hu := by
    rcases List.mem_append.mp hu with hu | hu
    · exact Or.inl hu
    · exact Or.inr (List.mem_singleton.mp hu ▸ ht)

/-- What a router does suits another one, if both are of different streams, and suits itself. -/
theorem Touches.leaves {ops : List RouterOp} (h : Touches other ops s s')
    (hops : ∀ op ∈ ops, (Task.router other op).suits ref = true) : StaysInFlight ref s s' := by
  obtain ⟨g, side, notes, panic, -, rfl⟩ := h
  refine ⟨fun hup => hup, fun hid => hid, fun _ hin => hin, fun t ht => ?_⟩
  rcases List.mem_append.mp ht with ht | ht
  · exact Or.inl ht
  · obtain ⟨op, hop, rfl⟩ := List.mem_map.mp ht
    exact Or.inr (hops op hop)

theorem Task.suits_router (h : other = ref ∨ other.stream ≠ ref.stream) (op : RouterOp) :
    (Task.router other op).suits ref = true := by
  cases op with
  | ask op => simpa [Task.suits] using h
  | write => rfl
  | deliver d => rfl

theorem Works.leaves (h : Works other s s') (hother : other = ref ∨ other.stream ≠ ref.stream) :
    StaysInFlight ref s s' := by
  obtain ⟨ops, -, ht⟩ := h
  exact ht.leaves fun op _ => Task.suits_router hother op

theorem closeIfDrained_staysInFlight (s : Session σ) : StaysInFlight ref s s.closeIfDrained := by
  unfold Session.closeIfDrained
  split
  · exact .down (isUp_of_not_open (close_isOpen _ _)) rfl fun _ ht => Or.inl ht
  · exact .refl ref s

theorem writeToClient_staysInFlight (s : Session σ) (data : Bytes) (last : Bool) :
    StaysInFlight ref s (s.writeToClient data last) := by
  have hwritten : StaysInFlight ref s { s with connection := s.connection.write data last } :=
    .same rfl rfl write_isOpen rfl (fun h => h) rfl
  unfold Session.writeToClient
  dsimp only
  split
  · exact hwritten.trans (post_staysInFlight rfl)
  · exact hwritten

theorem afterFilter_staysInFlight (s : Session σ) {a : Asides} (ha : ∀ ask ∈ a.asks, ask.1 ≠ ref.stream) :
    StaysInFlight ref s (s.afterFilter a) := by
  unfold Session.afterFilter
  refine StaysInFlight.trans ?_ (.foldl (fun t ht s => post_staysInFlight ?_) _)
  · rw [foldl_note]
    exact .same rfl rfl (fun h => h) rfl (fun h => h) rfl
  · obtain ⟨id, op, hin, rfl⟩ := Asides.mem_tasks.mp ht
    simpa [Task.suits] using ha _ hin

/-! ## Ends of streams

Another stream that ends takes nothing from this one, except that the connection may be closed when
the last is over. -/

theorem destroySlot_staysInFlight (s : Session σ) {x : Stream} (hparts : ∀ p ∈ x.parts, p.Spares ref.stream)
    (slot : Nat) : StaysInFlight ref s (s.destroySlot x slot) := by
  unfold Session.destroySlot
  split
  · exact .refl ref s
  · next hslot =>
    have hpart := hparts _ (List.mem_map_of_mem (List.mem_of_getElem? hslot))
    exact afterFilter_staysInFlight s (hpart.onEnd x.id)
  · exact .same rfl rfl (fun h => h) rfl (fun h => h) rfl
  · exact .refl ref s
  · exact (destroyRouter_touches s (s.refTo x.id slot)).1.leaves (by simp)

theorem completeStream_staysInFlight (hparts : s.AllParts (·.Spares ref.stream)) (id : StreamId) :
    StaysInFlight ref s (s.completeStream id) := by
  unfold Session.completeStream
  split
  · exact .refl ref s
  · next x hx =>
    split
    · exact .refl ref s
    · have hmarked : StaysInFlight ref s ((s.recordEnd x).modifyStream id fun y =>
          { y with isCompleted := true, info := y.info.complete (s.recordEnd x).now, span := none }) := by
        unfold Session.recordEnd
        dsimp only
        split
        · exact .same rfl rfl (fun h => h) rfl (fun h => h) rfl
        · exact .same rfl rfl (fun h => h) rfl (fun h => h) rfl
      exact hmarked.trans (.foldl (fun i _ s => destroySlot_staysInFlight s (hparts id x hx) i) _)

theorem finishStream_staysInFlight (hparts : s.AllParts (·.Spares ref.stream)) (hne : id ≠ ref.stream) :
    StaysInFlight ref s (s.finishStream id) := by
  refine (completeStream_staysInFlight hparts id).trans ?_
  unfold Session.finishStream
  dsimp only
  generalize s.completeStream id = s₁
  split
  · exact .refl ref s₁
  · split
    · exact .refl ref s₁
    · refine StaysInFlight.trans ?_ (closeIfDrained_staysInFlight _)
      split
      · refine .same rfl rfl (fun h => h) rfl (fun hin => ?_) rfl
        exact (List.mem_erase_of_ne (Ne.symm hne)).mpr hin
      · exact .same rfl rfl (fun h => h) rfl (fun h => h) rfl

theorem resetStream_staysInFlight (hparts : s.AllParts (·.Spares ref.stream)) (hne : id ≠ ref.stream) :
    StaysInFlight ref s (s.resetStream id) := by
  rcases resetStream_eq s id with heq | ⟨count, heq⟩
  · rw [heq]
    exact .refl ref s
  · rw [heq]
    have hmarked : StaysInFlight ref s ((s.flag id).measure count) :=
      .same rfl rfl (fun h => h) rfl (fun h => h) rfl
    split
    · exact hmarked.trans (finishStream_staysInFlight (hparts.flag id count) hne)
    · exact hmarked

/-! ## The end of the connection

When the connection goes down, all streams end, and there is nothing to show. What has to be known
is that it does go down: the relation is stated for a connection that is up at the end. -/

/-- Streams may have ended. The connection is known to be closed if it was, and no stream has
begun. -/
structure OnlyEndsStreams (s s' : Session σ) : Prop where
  isClosed : s'.isClosed = s.isClosed
  nextId : s'.nextId = s.nextId

theorem OnlyEndsStreams.trans (h₁ : OnlyEndsStreams s₁ s₂) (h₂ : OnlyEndsStreams s₂ s₃) :
    OnlyEndsStreams s₁ s₃ :=
  ⟨h₂.isClosed.trans h₁.isClosed, h₂.nextId.trans h₁.nextId⟩

theorem OnlyEndsStreams.foldl {α : Type} {f : Session σ → α → Session σ}
    (hf : ∀ s a, OnlyEndsStreams s (f s a))
    (l : List α) (s : Session σ) : OnlyEndsStreams s (l.foldl f s) := by
  induction l generalizing s with
  | nil => exact ⟨rfl, rfl⟩
  | cons a rest ih => exact (hf s a).trans (ih (f s a))

theorem destroySlot_onlyEndsStreams (s : Session σ) (x : Stream) (slot : Nat) :
    OnlyEndsStreams s (s.destroySlot x slot) := by
  unfold Session.destroySlot
  split
  · exact ⟨rfl, rfl⟩
  · rw [afterFilter_eq]
    exact ⟨rfl, rfl⟩
  · exact ⟨rfl, rfl⟩
  · exact ⟨rfl, rfl⟩
  · obtain ⟨g, side, notes, panic, -, heq⟩ := (destroyRouter_touches s (s.refTo x.id slot)).1
    rw [heq]
    exact ⟨rfl, rfl⟩

theorem completeStream_onlyEndsStreams (s : Session σ) (id : StreamId) :
    OnlyEndsStreams s (s.completeStream id) := by
  unfold Session.completeStream
  split
  · exact ⟨rfl, rfl⟩
  · next x _ =>
    split
    · exact ⟨rfl, rfl⟩
    · refine OnlyEndsStreams.trans ?_ (.foldl (fun s i => destroySlot_onlyEndsStreams s x i) _ _)
      unfold Session.recordEnd
      dsimp only
      split
      · exact ⟨rfl, rfl⟩
      · exact ⟨rfl, rfl⟩

/-- A stream that leaves the streams in flight is done with: nothing is posted after its end. -/
theorem finishStream_onlyEndsStreams (s : Session σ) (id : StreamId) :
    OnlyEndsStreams s (s.finishStream id) ∧
      (s.finishStream id).queue.posted = (s.completeStream id).queue.posted := by
  have hcomplete := completeStream_onlyEndsStreams s id
  unfold Session.finishStream Session.closeIfDrained
  dsimp only
  generalize s.completeStream id = s₁ at hcomplete ⊢
  split
  · exact ⟨hcomplete, rfl⟩
  · split
    · exact ⟨hcomplete, rfl⟩
    · split
      · split
        · exact ⟨⟨hcomplete.isClosed, hcomplete.nextId⟩, rfl⟩
        · exact ⟨⟨hcomplete.isClosed, hcomplete.nextId⟩, rfl⟩
      · split
        · exact ⟨⟨hcomplete.isClosed, hcomplete.nextId⟩, rfl⟩
        · exact ⟨⟨hcomplete.isClosed, hcomplete.nextId⟩, rfl⟩

theorem resetStream_onlyEndsStreams (s : Session σ) (id : StreamId) :
    OnlyEndsStreams s (s.resetStream id) := by
  rcases resetStream_eq s id with heq | ⟨count, heq⟩
  · rw [heq]
    exact ⟨rfl, rfl⟩
  · rw [heq]
    have hmarked : OnlyEndsStreams s ((s.flag id).measure count) := ⟨rfl, rfl⟩
    split
    · exact hmarked.trans (finishStream_onlyEndsStreams _ id).1
    · exact hmarked

theorem resetAll_onlyEndsStreams (s : Session σ) : OnlyEndsStreams s s.resetAll :=
  .foldl (fun s id => resetStream_onlyEndsStreams s id) _ s

/-- What the end of any stream posts suits a router if no filter asks for its stream then. -/
theorem resetStream_posted (hparts : s.AllParts (·.Spares ref.stream)) (id : StreamId) :
    ∀ t ∈ (s.resetStream id).queue.posted, t ∈ s.queue.posted ∨ t.suits ref = true := by
  rcases resetStream_eq s id with heq | ⟨count, heq⟩
  · rw [heq]
    exact fun t ht => Or.inl ht
  · rw [heq]
    split
    · rw [(finishStream_onlyEndsStreams _ id).2]
      exact (completeStream_staysInFlight (hparts.flag id count) id).posted
    · exact fun t ht => Or.inl ht

theorem resetStreams_posted (ho : Orderly plan .span s)
    (hplan : ∀ p ∈ plan.parts, p.Spares ref.stream) (ids : List StreamId) :
    ∀ t ∈ (ids.foldl resetStream s).queue.posted, t ∈ s.queue.posted ∨ t.suits ref = true := by
  induction ids generalizing s with
  | nil => exact fun t ht => Or.inl ht
  | cons id ids ih =>
    intro t ht
    have hnext : Orderly plan .span (s.resetStream id) :=
      LifeStep.orderly ho (fun p _ => withholds_span p) (.reset s id)
    rcases ih hnext t ht with ht | hsuits
    · exact resetStream_posted (ho.allParts hplan) id t ht
    · exact Or.inr hsuits

theorem onConnectionEvent_staysInFlight (ho : Orderly plan .span s)
    (hplan : ∀ p ∈ plan.parts, p.Spares ref.stream) (e : ConnectionEvent) :
    StaysInFlight ref s (s.onConnectionEvent e) := by
  have hdown : StaysInFlight ref s ({ s with isClosed := true }.resetAll) := by
    have hclosed : Orderly plan .span { s with isClosed := true } :=
      ho.noEnds (fun p _ => withholds_span p) (.same rfl rfl rfl rfl (fun h => h) rfl rfl)
    have hends : OnlyEndsStreams _ ({ s with isClosed := true }.resetAll) := resetAll_onlyEndsStreams _
    exact .down (isUp_of_closed hends.isClosed) hends.nextId (resetStreams_posted hclosed hplan _)
  cases e with
  | remoteClose => exact hdown
  | localClose => exact hdown
  | connected => exact .refl ref s
  | connectedZeroRtt => exact .refl ref s

theorem closeConnection_staysInFlight (ho : Orderly plan .span s)
    (hplan : ∀ p ∈ plan.parts, p.Spares ref.stream) (how : CloseType) :
    StaysInFlight ref s (s.closeConnection how) := by
  unfold Session.closeConnection
  split
  · exact .refl ref s
  · have hclosed : StaysInFlight ref s { s with connection := s.connection.close how } :=
      .down (isUp_of_not_open (close_isOpen _ _)) rfl fun _ ht => Or.inl ht
    refine hclosed.trans (onConnectionEvent_staysInFlight ?_ hplan .localClose)
    exact ho.noEnds (fun p _ => withholds_span p) (.same rfl rfl rfl rfl (fun h => h) rfl rfl)

/-! ## Messages of other streams

Requests and responses of other streams, and all that can be asked of those. -/

theorem decodeOne_staysInFlight (s : Session σ) {x : Stream} (hparts : ∀ p ∈ x.parts, p.Spares ref.stream)
    (hne : x.id ≠ ref.stream) (slot : Nat) : StaysInFlight ref s (s.decodeOne x slot).2 := by
  unfold Session.decodeOne
  split
  · exact .refl ref s
  · next hslot =>
    have hpart := hparts _ (List.mem_map_of_mem (List.mem_of_getElem? hslot))
    refine StaysInFlight.trans ?_ (afterFilter_staysInFlight _ (hpart.onRequest x.view x.request hne))
    exact .same rfl rfl (fun h => h) rfl (fun h => h) rfl
  · exact .same rfl rfl (fun h => h) rfl (fun h => h) rfl
  · exact (route_works s _ _ _ _).leaves (Or.inr hne)

theorem decodeThrough_staysInFlight (slots : List Nat) (hparts : s.AllParts (·.Spares ref.stream))
    (hne : id ≠ ref.stream) : StaysInFlight ref s (s.decodeThrough id slots) := by
  refine (decodeThrough_invariant (P := fun s' => s'.AllParts (·.Spares ref.stream) ∧ StaysInFlight ref s s')
    (fun s' h => ⟨h.1.modifyStream (g := fun x => { x with decoded := x.decoded + 1 })
      (fun _ => rfl) (fun _ => rfl) id, h.2.trans ?_⟩)
    (fun s' x slot h hx => ⟨decodeOne_allParts h.1 x slot, h.2.trans ?_⟩) slots s
    ⟨hparts, .refl ref s⟩).2
  · exact .same rfl rfl (fun h => h) rfl (fun h => h) rfl
  · exact decodeOne_staysInFlight s' (h.1 id x hx) (stream?_id hx ▸ hne) slot

theorem continueDecoding_staysInFlight (hparts : s.AllParts (·.Spares ref.stream)) (hne : id ≠ ref.stream) :
    StaysInFlight ref s (s.continueDecoding id) := by
  unfold Session.continueDecoding
  split
  · exact .refl ref s
  · split
    · exact .refl ref s
    · refine StaysInFlight.trans ?_ (decodeThrough_staysInFlight _ ?_ hne)
      · exact .same rfl rfl (fun h => h) rfl (fun h => h) rfl
      · exact hparts.modifyStream (g := (·.resolve s.plan.routes)) (fun x => resolve_id x _)
          (fun x => (Stream.Alike.resolve x _).parts) id

theorem encodeOne_staysInFlight (s : Session σ) {x : Stream} (hparts : ∀ p ∈ x.parts, p.Spares ref.stream)
    (hne : x.id ≠ ref.stream) (r : Response) (slot : Nat) : StaysInFlight ref s (s.encodeOne x r slot).2 := by
  unfold Session.encodeOne
  split
  · next hslot =>
    have hpart := hparts _ (List.mem_map_of_mem (List.mem_of_getElem? hslot))
    refine StaysInFlight.trans ?_ (afterFilter_staysInFlight _ (hpart.onResponse x.view x.answers r hne))
    exact .same rfl rfl (fun h => h) rfl (fun h => h) rfl
  · exact .same rfl rfl (fun h => h) rfl (fun h => h) rfl
  · exact .refl ref s

theorem sendReply_staysInFlight (hparts : s.AllParts (·.Spares ref.stream)) (hne : id ≠ ref.stream) :
    StaysInFlight ref s (s.sendReply id) := by
  unfold Session.sendReply
  split
  · exact .refl ref s
  · split
    · exact .refl ref s
    · split
      · exact .refl ref s
      · next r _ _ =>
        have hnoted := hparts.modifyStream
          (g := fun x => { x with info := { x.info with status := some r.status.code } })
          (fun _ => rfl) (fun _ => rfl) id
        have hwritten := (writeToClient_noEnds (f := .span) _ r.encode r.asksToClose).toSameStreams.allParts
          hnoted
        refine StaysInFlight.trans ?_ (finishStream_staysInFlight hwritten hne)
        refine StaysInFlight.trans ?_ (writeToClient_staysInFlight _ _ _)
        exact .same rfl rfl (fun h => h) rfl (fun h => h) rfl

theorem continueEncoding_staysInFlight (hparts : s.AllParts (·.Spares ref.stream)) (hne : id ≠ ref.stream) :
    StaysInFlight ref s (s.continueEncoding id) := by
  unfold Session.continueEncoding
  split
  · exact .refl ref s
  · next x _ =>
    split
    · exact .refl ref s
    · -- That the filters stay is kept along with what is shown.
      refine encodeThrough_invariant
        (P := fun s' => s'.AllParts (·.Spares ref.stream) ∧ StaysInFlight ref s s') (Q := StaysInFlight ref s)
        (fun s' h => ⟨h.1.modifyStream (g := fun x => { x with encoded := x.encoded + 1 })
          (fun _ => rfl) (fun _ => rfl) id, h.2.trans ?_⟩)
        (fun s' y r slot h hy _ => ⟨encodeOne_allParts h.1 y r slot, h.2.trans ?_⟩)
        (fun _ h => h.2) (fun s' h => h.2.trans (sendReply_staysInFlight h.1 hne)) _ s ⟨hparts, .refl ref s⟩
      · exact .same rfl rfl (fun h => h) rfl (fun h => h) rfl
      · exact encodeOne_staysInFlight s' (h.1 id y hy) (stream?_id hy ▸ hne) r slot

theorem respond_staysInFlight (hparts : s.AllParts (·.Spares ref.stream)) (hne : id ≠ ref.stream)
    (r : Response) : StaysInFlight ref s (s.respond id r) := by
  unfold Session.respond
  split
  · exact .refl ref s
  · split
    · exact .refl ref s
    · have hset := hparts.modifyStream (g := (·.setResponse r)) (fun _ => rfl) (fun _ => rfl) id
      refine StaysInFlight.trans ?_ (continueEncoding_staysInFlight hset hne)
      exact .same rfl rfl (fun h => h) rfl (fun h => h) rfl

theorem localReply_staysInFlight (hparts : s.AllParts (·.Spares ref.stream)) (hne : id ≠ ref.stream)
    (status : Status) (update : Change) : StaysInFlight ref s (s.localReply id status update) := by
  rcases localReply_eq s id status update with heq | heq | ⟨-, r, -, -, heq⟩
  · rw [heq]
    exact .refl ref s
  · rw [heq]
    exact .same rfl rfl (fun h => h) rfl (fun h => h) rfl
  · rw [heq]
    refine StaysInFlight.trans ?_ (respond_staysInFlight (hparts.aboutToReply id) hne r)
    exact .same rfl rfl (fun h => h) rfl (fun h => h) rfl

theorem perform_staysInFlight (ho : Orderly plan .span s) (hplan : ∀ p ∈ plan.parts, p.Spares ref.stream)
    (hne : id ≠ ref.stream) (op : StreamOp) : StaysInFlight ref s (s.perform id op) := by
  have hparts := ho.allParts hplan
  cases op with
  | continueDecoding => exact continueDecoding_staysInFlight hparts hne
  | continueEncoding => exact continueEncoding_staysInFlight hparts hne
  | localReply status update => exact localReply_staysInFlight hparts hne status update
  | respond r => exact respond_staysInFlight hparts hne r
  | complete =>
    show StaysInFlight ref s (if s.isServed then s.finishStream id else s)
    split
    · exact finishStream_staysInFlight hparts hne
    · exact .refl ref s
  | reset => exact resetStream_staysInFlight hparts hne
  | resetConnection =>
    show StaysInFlight ref s (if s.isServed && (s.stream? id).isSome then s.closeConnection .noFlush else s)
    split
    · exact closeConnection_staysInFlight ho hplan .noFlush
    · exact .refl ref s

/-! ## Tasks

A task is for a router, a stream or the connection. Only one that is for this stream could end it,
and there is none while its router has asked for nothing. -/

/-- What a router is told posts nothing if the router is not there. -/
theorem onDelivery_touches_of_none (h : s.router? other = none) (d : Delivery) :
    Touches other [] s (s.onDelivery other d) := by
  rcases onDelivery_cases s other d with ⟨-, heq⟩ | ⟨r, e, hr, -⟩
  · rw [heq]
    cases d with
    | ready link host => exact giveBack_touches s other link
    | failure reason host => exact Touches.refl other s
    | data octets => exact Touches.refl other s
    | event event => exact Touches.refl other s
  · rw [h] at hr
    cases hr

/-- A task that suits a router leaves its stream in flight, unless the router has asked for it. The
stream has no other router. -/
theorem runTask_staysInFlight {t : Task} (ho : Orderly plan .span s)
    (hplan : ∀ p ∈ plan.parts, p.Spares ref.stream) (ht : t.suits ref = true)
    (hown : ∀ op, t ≠ .router ref (.ask op))
    (honly : ∀ other : RouterRef, other.stream = ref.stream → other ≠ ref → s.router? other = none) :
    StaysInFlight ref s (s.runTask t) := by
  -- The router is this one, one of another stream, or none.
  have hwho : ∀ other : RouterRef,
      (other = ref ∨ other.stream ≠ ref.stream) ∨ s.router? other = none := by
    intro other
    by_cases hstream : other.stream = ref.stream
    · by_cases hself : other = ref
      · exact Or.inl (Or.inl hself)
      · exact Or.inr (honly other hstream hself)
    · exact Or.inl (Or.inr hstream)
  cases t with
  | stream id op => exact perform_staysInFlight ho hplan (by simpa [Task.suits] using ht) op
  | router other op =>
    cases op with
    | write =>
      show StaysInFlight ref s (s.writeCall other)
      rcases hwho other with hother | hnone
      · exact (writeCall_works s other).leaves hother
      · rw [Session.writeCall, hnone]
        exact .refl ref s
    | ask op =>
      have hne : other ≠ ref := fun he => hown op (he ▸ rfl)
      have hstream : other.stream ≠ ref.stream := by simpa [Task.suits, hne] using ht
      exact perform_staysInFlight ho hplan hstream op
    | deliver d =>
      show StaysInFlight ref s (s.onDelivery other d)
      rcases hwho other with hother | hnone
      · exact (onDelivery_works s other d).leaves hother
      · exact (onDelivery_touches_of_none hnone d).leaves (by simp)
  | closed =>
    show StaysInFlight ref s (if s.isServed then s.onConnectionEvent .localClose else s)
    split
    · exact onConnectionEvent_staysInFlight ho hplan .localClose
    · exact .refl ref s

theorem dropUnneeded_staysInFlight (s : Session σ) (id : StreamId) :
    StaysInFlight ref s (s.dropUnneeded id) := by
  unfold Session.dropUnneeded
  split
  · exact .refl ref s
  · unfold Session.dropStream
    split
    · exact .refl ref s
    · next x _ =>
      refine StaysInFlight.trans (.foldl (l := x.routers) (fun slot _ s => ?_) s)
        (.same rfl rfl (fun h => h) rfl (fun h => h) rfl)
      exact (dropRouter_touches s (s.refTo id slot)).leaves (by simp)

theorem clearDeferred_staysInFlight (s : Session σ) : StaysInFlight ref s s.clearDeferred := by
  unfold Session.clearDeferred
  refine StaysInFlight.trans ?_ (.foldl (fun id _ s => dropUnneeded_staysInFlight s id) _)
  exact .same rfl rfl (fun h => h) rfl (fun h => h) rfl

/-! ## Beginnings

The stream itself begins: its request goes through filters that leave it to the router, which begins
a call or is refused. Either way the stream is in flight behind it. -/

end

end Session

/-- A filter asks nothing of a stream by itself when a request on some route meets it. -/
def Part.Defers (p : Part) (route : Option Route) : Prop :=
  ∀ b, p.kind = .plain b → ∀ view r, view.route = route → (b.onRequest view r).asks = []

/-- No filter of a plan answers a request by itself. -/
def Plan.Defers (plan : Plan) (request : Request) : Prop :=
  ∀ part ∈ plan.parts, part.Defers (plan.routes.find? request)

/-- A plan has no router but one. -/
def Plan.RoutesAt (plan : Plan) (slot : Nat) : Prop :=
  ∀ i part, plan.parts[i]? = some part → part.isRouter = true → i = slot

/-- Nothing is done with a stream from outside, neither with it alone nor with all streams. -/
def SessionOp.spares (id : StreamId) : SessionOp → Bool
  | .stream other _ | .ask other _ => other ≠ id
  | .resetAll => false
  | _ => true

namespace Session

variable {σ : Type} {ref : RouterRef} {s s' : Session σ} {id : StreamId}

/-- As long as the client's connection is up, the stream of a router is in flight once it has begun,
and nothing is going to be done with it but what the router has asked for. That is a property of one
state, kept by everything that `StaysInFlight` is shown for. -/
structure InFlightUntilAsked (ref : RouterRef) (s : Session σ) : Prop where
  active : s.isUp = true → ref.stream < s.nextId → ref.stream ∈ s.active
  posted : ∀ t ∈ s.queue.posted, t.suits ref = true

theorem StaysInFlight.inFlight (h : StaysInFlight ref s s') (hf : InFlightUntilAsked ref s) :
    InFlightUntilAsked ref s' where
  active hup hid := h.active hup (hf.active (h.up hup) (h.begun hid))
  posted t ht := (h.posted t ht).elim (hf.posted t) fun hs => hs

theorem decodeOne_number (s : Session σ) (x : Stream) (slot : Nat) :
    (s.decodeOne x slot).2.number = s.number := by
  unfold Session.decodeOne
  split
  · rfl
  · dsimp only
    rw [afterFilter_eq]
    rfl
  · rfl
  · exact (route_works s _ _ _ _).number

/-- A request meets filters that ask for nothing, up to its router. -/
theorem decodeThrough_staysInFlight_own (slots : List Nat) (s : Session σ) {x : Stream}
    (hx : s.stream? x.id = some x)
    (hquiet : ∀ slot part, (x.slots[slot]?).map (·.part) = some part →
      part.Defers x.route? ∧ (part.isRouter = true → s.refTo x.id slot = ref)) :
    StaysInFlight ref s (s.decodeThrough x.id slots) := by
  induction slots generalizing s x with
  | nil => exact .refl ref s
  | cons slot rest ih =>
    have hpass : StaysInFlight ref s (s.pass x.id) := .same rfl rfl (fun h => h) rfl (fun h => h) rfl
    have hfound : (s.pass x.id).stream? x.id = some { x with decoded := x.decoded + 1 } :=
      stream?_modifyStream_same (f := fun y => { y with decoded := y.decoded + 1 }) (fun _ => rfl) hx
    rw [decodeThrough_cons, hfound]
    dsimp only
    cases hslot : x.slots[slot]? with
    -- There is no such place in the chain, so the request passes it.
    | none =>
      have hone : (s.pass x.id).decodeOne { x with decoded := x.decoded + 1 } slot =
          (.continue, s.pass x.id) := by
        unfold Session.decodeOne
        dsimp only
        rw [hslot]
      rw [hone]
      exact hpass.trans (ih (x := { x with decoded := x.decoded + 1 }) _ hfound hquiet)
    | some y =>
      obtain ⟨hdefers, hrouter⟩ := hquiet slot y.part (by rw [hslot]; rfl)
      have hone : StaysInFlight ref (s.pass x.id)
          ((s.pass x.id).decodeOne { x with decoded := x.decoded + 1 } slot).2 := by
        obtain ⟨⟨side, kind⟩, memory⟩ := y
        unfold Session.decodeOne
        dsimp only
        rw [hslot]
        cases kind with
        | plain b =>
          dsimp only
          rw [afterFilter_eq, Asides.tasks, hdefers b rfl _ _ rfl, List.map_nil, List.append_nil]
          exact .same rfl rfl (fun h => h) rfl (fun h => h) rfl
        | accessLog sink => exact .same rfl rfl (fun h => h) rfl (fun h => h) rfl
        | router generation => exact (route_works (s.pass x.id) _ _ _ _).leaves (Or.inl (hrouter rfl))
      have hnumber := decodeOne_number (s.pass x.id) { x with decoded := x.decoded + 1 } slot
      have hpart : (({ x with decoded := x.decoded + 1 } : Stream).slots[slot]?).map (·.part) =
          some y.part := by
        show (x.slots[slot]?).map _ = _
        rw [hslot]
        rfl
      -- What filters keep in mind may have changed, but not which filters they are.
      obtain ⟨-, ms, hms, hmet⟩ := decodeOne_stream? hfound hpart
      generalize (s.pass x.id).decodeOne { x with decoded := x.decoded + 1 } slot = met at *
      obtain ⟨status, s'⟩ := met
      cases status with
      | stop => exact hpass.trans hone
      | «continue» =>
        refine (hpass.trans hone).trans (ih s'
          (x := { x with request := _, decoded := x.decoded + 1, slots := ms }) hmet fun i part hpart => ?_)
        have hsame : (ms[i]?).map (·.part) = (x.slots[i]?).map (·.part) := by
          rw [← List.getElem?_map, ← List.getElem?_map]
          exact congrArg (·[i]?) hms
        obtain ⟨hd, hr⟩ := hquiet i part (hsame.symm.trans hpart)
        refine ⟨hd, fun h => ?_⟩
        rw [← hr h]
        exact congrArg (RouterRef.mk · x.id i) hnumber

/-- A request that goes on meets filters that ask for nothing, up to its router. -/
theorem continueDecoding_staysInFlight_own (s : Session σ) {x : Stream} (hx : s.stream? x.id = some x)
    (hquiet : ∀ slot part, (x.slots[slot]?).map (·.part) = some part →
      part.Defers (x.resolve s.plan.routes).route? ∧
        (part.isRouter = true → s.refTo x.id slot = ref)) :
    StaysInFlight ref s (s.continueDecoding x.id) := by
  unfold Session.continueDecoding
  rw [hx]
  dsimp only
  cases x.isLive with
  | false => exact .refl ref s
  | true =>
    simp only [Bool.not_true, Bool.false_eq_true, if_false]
    have hid : (x.resolve s.plan.routes).id = x.id := resolve_id x _
    have hlook : StaysInFlight ref s (s.modifyStream x.id (·.resolve s.plan.routes)) :=
      .same rfl rfl (fun h => h) rfl (fun h => h) rfl
    have hnow : (s.modifyStream x.id (·.resolve s.plan.routes)).stream? x.id =
        some (x.resolve s.plan.routes) :=
      stream?_modifyStream_same (fun y => resolve_id y _) hx
    rw [← hid] at hlook hnow hquiet ⊢
    refine hlook.trans (decodeThrough_staysInFlight_own _ _ hnow fun slot part hpart => ?_)
    refine hquiet slot part (Eq.trans ?_ hpart)
    rw [← List.getElem?_map, ← List.getElem?_map, (Stream.Alike.resolve x s.plan.routes).parts]

theorem Orderly.numbered {plan : Plan} {f : EndNotice} (h : Orderly plan f s) : s.Numbered := by
  intro id hid
  cases hx : s.stream? id with
  | none => rfl
  | some x => exact absurd (h.known id x hx) (Nat.not_lt.mpr hid)

theorem beginStream_inFlight {plan : Plan} (ho : Orderly plan .span s) (hf : InFlightUntilAsked ref s)
    (hplan : ∀ p ∈ plan.parts, p.Spares ref.stream) (hnumber : ref.session = s.number)
    (honly : plan.RoutesAt ref.slot) (request : Request)
    (hbegun : ∀ request', (ref.stream, StreamEvent.began request') ∈
      (s.beginEvents request).map (s.nextId, ·) → plan.Defers request') :
    InFlightUntilAsked ref (s.beginStream request) := by
  obtain rfl := ho.settled
  unfold Session.beginStream
  unfold beginEvents at hbegun
  dsimp only at hbegun ⊢
  by_cases hused : s.nextId + 1 ≥ UInt64.size
  · rw [if_pos hused]
    exact ⟨hf.active, hf.posted⟩
  · rw [if_neg hused] at hbegun ⊢
    obtain ⟨info, span, log, -, hopen⟩ := openSpan_eq { s with nextId := s.nextId + 1 } request
    rw [hopen] at hbegun ⊢
    dsimp only at hbegun ⊢
    generalize hstuck : (decide (s.clock.wall < 0) && s.plan.parts.any (·.stamps)) = stuck at hbegun ⊢
    generalize hx : ({ id := s.nextId, request, info, span, inserted := true
                       slots := if stuck then [] else s.plan.parts.map (Slot.start s.nextId s.clock) } :
      Stream) = x at hbegun ⊢
    generalize hs₁ : { s with nextId := s.nextId + 1, log }.insertStream x = s₁ at hbegun ⊢
    have hid : x.id = s.nextId := by rw [← hx]
    -- The stream that begins is in flight; others are if they were.
    have hf₁ : InFlightUntilAsked ref s₁ := by
      subst hs₁
      refine ⟨fun hup hlt => ?_, hf.posted⟩
      show ref.stream ∈ s.active ++ [x.id]
      rw [List.mem_append, List.mem_singleton, hid]
      rcases Nat.lt_or_eq_of_le (Nat.le_of_lt_succ hlt) with hlt | heq
      · exact Or.inl (hf.active hup hlt)
      · exact Or.inr heq
    cases stuck with
    | true => exact ⟨hf₁.active, hf₁.posted⟩
    | false =>
      simp only [Bool.false_eq_true, if_false] at hbegun ⊢
      have hstreams : s₁.streams = s.streams ++ [x] := by rw [← hs₁]; rfl
      have hslots : x.slots = s.plan.parts.map (Slot.start s.nextId s.clock) := by rw [← hx]; rfl
      by_cases hown : s.nextId = ref.stream
      · -- Its own stream is new, so its filters meet the request that has just come.
        have hfound : s₁.stream? s.nextId = some x :=
          (modifyStream_append (f := fun y => y) ho.numbered hstreams hid).1
        have hdefers := hbegun request (by rw [List.map_cons, hown]; exact List.mem_cons_self)
        have hsession : s₁.number = ref.session := by rw [hnumber, ← hs₁]; rfl
        have hroute : (x.resolve s₁.plan.routes).route? = s.plan.routes.find? request := by
          subst hx hs₁
          rfl
        rw [← hid] at hfound ⊢
        refine (continueDecoding_staysInFlight_own s₁ hfound fun slot part hpart => ?_).inFlight hf₁
        have hget : s.plan.parts[slot]? = some part := by
          rwa [← List.getElem?_map, start_parts hslots] at hpart
        refine ⟨hroute ▸ hdefers part (List.mem_of_getElem? hget), fun hrouter => ?_⟩
        rw [hid, honly slot part hget hrouter, hown]
        exact congrArg (RouterRef.mk · ref.stream ref.slot) hsession
      · have hparts : s₁.AllParts (·.Spares ref.stream) :=
          (ho.allParts hplan).append hstreams fun p hp => hplan p (start_parts hslots ▸ hp)
        exact (continueDecoding_staysInFlight hparts hown).inFlight hf₁

theorem onWireEvents_inFlight {plan : Plan} (events : List Wire.Event) (ho : Orderly plan .span s)
    (hf : InFlightUntilAsked ref s) (hplan : ∀ p ∈ plan.parts, p.Spares ref.stream)
    (hnumber : ref.session = s.number) (honly : plan.RoutesAt ref.slot)
    (hbegun : ∀ request, (ref.stream, StreamEvent.began request) ∈ s.wireActs events →
      plan.Defers request) :
    InFlightUntilAsked ref (events.foldl onWireEvent s) := by
  -- The induction is on what was decoded; what is known of later requests holds of those that are
  -- left.
  induction events generalizing s with
  | nil => exact hf
  | cons e events ih =>
    have hfirst : InFlightUntilAsked ref (s.onWireEvent e) := by
      unfold Session.onWireEvent
      split
      · exact hf
      · next hpanic =>
        cases e with
        | request r =>
          refine beginStream_inFlight ho hf hplan hnumber honly r fun request hin => hbegun request ?_
          simp only [wireActs, hpanic, Bool.false_eq_true, if_false]
          exact List.mem_append_left _ hin
        | failure =>
          refine StaysInFlight.inFlight ?_ hf
          have hcounted : Orderly plan .span (s.measure fun m =>
              { m with decodingErrors := m.decodingErrors.inc }) :=
            ho.noEnds (fun p _ => withholds_span p) (measure_noEnds s _)
          have hends : OnlyEndsStreams _ (s.measure fun m =>
              { m with decodingErrors := m.decodingErrors.inc }).resetAll := resetAll_onlyEndsStreams _
          -- Octets that are no request take the connection down, and then nothing is said.
          exact .down (isUp_of_not_open (close_isOpen _ _)) hends.nextId
            (resetStreams_posted hcounted hplan _)
    refine ih (LifeSteps.orderly ho (fun p _ => withholds_span p) (onWireEvent_lifeSteps s e)).1 hfirst
      (hnumber.trans (onWireEvent_moves (D := True) s e).number.symm) fun request hin => hbegun request ?_
    simp only [wireActs]
    exact List.mem_append_right _ hin

/-- What happens from outside leaves a stream in flight, if nothing is done with it. -/
theorem step_inFlight {plan : Plan} {op : SessionOp} (ho : Orderly plan .span s) (hf : InFlightUntilAsked ref s)
    (hplan : ∀ p ∈ plan.parts, p.Spares ref.stream)
    (hnumber : ref.session = s.number) (honly : plan.RoutesAt ref.slot)
    (hop : op.spares ref.stream = true) (hrun : op ≠ .run)
    (hbegun : ∀ request, (ref.stream, StreamEvent.began request) ∈ s.begunIn op →
      plan.Defers request) :
    InFlightUntilAsked ref (s.step op) := by
  have hserved : ∀ {s' : Session σ}, StaysInFlight ref s s' →
      InFlightUntilAsked ref (if s.isServed then s' else s) := by
    intro s' h
    split
    · exact h.inFlight hf
    · exact hf
  have hquick : ∀ {s' : Session σ}, s'.isServed = s.isServed → s'.isClosed = s.isClosed →
      (s'.connection.isOpen = true → s.connection.isOpen = true) → s'.nextId = s.nextId →
      s'.active = s.active → s'.queue.posted = s.queue.posted → InFlightUntilAsked ref s' :=
    fun h₁ h₂ h₃ h₄ h₅ h₆ => StaysInFlight.inFlight (.same h₁ h₂ h₃ h₄ (fun h => h₅ ▸ h) h₆) hf
  cases op with
  | data octets =>
    show InFlightUntilAsked ref (if s.isServed then s.onClientData octets else _)
    split
    · next hs =>
      unfold Session.onClientData
      dsimp only
      split
      · exact hquick rfl rfl (fun h => h) rfl rfl rfl
      · next hc =>
        have hgo : (s.isServed && !s.isClosed) = true := by simp [hs, hc]
        simp only [begunIn, hgo, if_true] at hbegun
        refine onWireEvents_inFlight _ ?_ ⟨hf.active, hf.posted⟩ hplan hnumber honly hbegun
        exact ho.noEnds (fun p _ => withholds_span p) (.same rfl rfl rfl rfl (fun h => h) rfl rfl)
    · exact hquick rfl rfl (fun h => h) rfl rfl rfl
  | request r =>
    show InFlightUntilAsked ref (if s.isServed then s.beginStream r else s)
    split
    · next hs =>
      simp only [begunIn, hs, if_true] at hbegun
      exact beginStream_inFlight ho hf hplan hnumber honly r hbegun
    · exact hf
  | event e => exact hserved (onConnectionEvent_staysInFlight ho hplan e)
  | close how => exact hserved (closeConnection_staysInFlight ho hplan how)
  | closeQuietly how =>
    -- All streams end, but the connection is down: there is nothing to show.
    refine StaysInFlight.inFlight ?_ hf
    exact .down (isUp_of_not_open (close_isOpen _ _)) rfl fun _ ht => Or.inl ht
  | resetAll => cases hop
  | drain => exact hquick rfl rfl (fun h => h) rfl rfl rfl
  | drainCheck => exact hserved (closeIfDrained_staysInFlight s)
  | stream id op =>
    exact (perform_staysInFlight ho hplan (by simpa [SessionOp.spares] using hop) op).inFlight hf
  | ask id op =>
    refine StaysInFlight.inFlight (post_staysInFlight ?_) hf
    simpa [SessionOp.spares, Task.suits] using hop
  | deliver other d => exact StaysInFlight.inFlight (post_staysInFlight rfl) hf
  | hold id =>
    show InFlightUntilAsked ref (if _ then _ else s)
    split
    · exact hquick rfl rfl (fun h => h) rfl rfl rfl
    · exact hf
  | release id =>
    have hfree : InFlightUntilAsked ref { s with held := s.held.erase id } :=
      hquick rfl rfl (fun h => h) rfl rfl rfl
    exact (dropUnneeded_staysInFlight _ id).inFlight hfree
  | run => exact absurd rfl hrun
  | clearDeferred => exact (clearDeferred_staysInFlight s).inFlight hf
  | dismiss =>
    show InFlightUntilAsked ref s.dismiss
    unfold Session.dismiss
    split
    · exact hf
    · dsimp only
      refine StaysInFlight.inFlight (.foldl (fun id _ s => dropUnneeded_staysInFlight s id) _)
        (StaysInFlight.inFlight ?_ hf)
      exact .down (isUp_of_not_served rfl) rfl fun _ ht => Or.inl ht
  | advance nanos => exact hquick rfl rfl (fun h => h) rfl rfl rfl

/-! ## Runs

The history of a run in steps of one task, so that the moment is there at which the router has asked
for something. -/

/-- What holds of the tasks that were taken up, of what happened to messages and of the present of a
session holds after everything that happens, if it is kept by each task, by each thing that happens
from outside, and when streams are dropped. -/
theorem after_history {P : List (Session σ × Task) → List Act → Session σ → Prop} {ops : List SessionOp}
    (htask : ∀ h as (s : Session σ) t rest, s.queue.posted = t :: rest → P h as s →
      P (h ++ [(s.leave rest, t)]) (as ++ (s.leave rest).actsOf t) ((s.leave rest).runTask t))
    (hclear : ∀ h as (s : Session σ), P h as s → P h as s.clearDeferred)
    (hop : ∀ h as (s : Session σ), ∀ op ∈ ops, op ≠ .run → P h as s →
      P (h ++ s.takenIn op) (as ++ s.actsIn op) (s.step op))
    {h : List (Session σ × Task)} {as : List Act} {s : Session σ} (hp : P h as s) :
    P (h ++ s.history ops) (as ++ s.acts ops) (s.after ops) := by
  induction ops generalizing h as s with
  | nil => rwa [history, acts, List.append_nil, List.append_nil]
  | cons op ops ih =>
    have hstep : P (h ++ s.takenIn op) (as ++ s.actsIn op) (s.step op) := by
      by_cases hrun : op = .run
      · subst hrun
        refine runUntilIdle_history
          (P := fun h' s' => P (h ++ h') (as ++ h'.flatMap fun m => m.1.actsOf m.2) s') ?_ ?_ s.effort [] s
          (by simpa using hp)
        · intro h' s' t rest hq hp'
          have hnext := htask _ _ s' t rest hq hp'
          rw [List.flatMap_append, List.flatMap_singleton, ← List.append_assoc, ← List.append_assoc]
          exact hnext
        · exact fun h' s' hp' => hclear _ _ s' hp'
      · exact hop h as s op List.mem_cons_self hrun hp
    have hall := ih (fun h as s op hin => hop h as s op (List.mem_cons_of_mem _ hin)) hstep
    rwa [List.append_assoc, List.append_assoc] at hall

/-- What holds of a stream whose chain answers nothing by itself, `h` being the tasks that were
taken up and `as` what has happened to messages. Until its router has asked for something, the
stream is in flight while the client's connection is up, and so it was whenever a task was taken
up. -/
structure UnansweredInFlight (plan : Plan) (ref : RouterRef) (h : List (Session σ × Task)) (as : List Act)
    (s : Session σ) : Prop where
  /-- The streams are in order. -/
  orderly : Orderly plan .span s
  /-- The messages of the stream are what its events have made of them. -/
  traced : Traced plan ref.stream (own ref.stream as) s
  /-- The router belongs to this connection. -/
  number : ref.session = s.number
  /-- It is in flight now, if nothing was asked for. -/
  inFlight : (∀ op, RouterOp.ask op ∉ done ref h) → InFlightUntilAsked ref s
  /-- So it was at every task before which nothing was asked for. -/
  past : ∀ i m, h[i]? = some m → (∀ op, RouterOp.ask op ∉ done ref (h.take i)) →
    InFlightUntilAsked ref m.1 ∧ m.2.suits ref = true ∧ ∃ bs, bs <+: as ∧
      Traced plan ref.stream (own ref.stream bs) m.1

variable {plan : Plan} {h : List (Session σ × Task)} {as : List Act}

theorem UnansweredInFlight.only (ht : UnansweredInFlight plan ref h as s) (honly : plan.RoutesAt ref.slot)
    {other : RouterRef} (hstream : other.stream = ref.stream) (hne : other ≠ ref) :
    s.router? other = none := by
  cases hr : s.router? other with
  | none => rfl
  | some r =>
    refine absurd ?_ hne
    have hnumber := session_of_router? hr
    unfold Session.router? at hr
    rw [if_pos hnumber, hstream] at hr
    obtain ⟨x, hx, hxr⟩ := Option.bind_eq_some_iff.mp hr
    obtain ⟨parts, request, vs, c, d, hparts, -, hstands⟩ := ht.traced.begun (ht.orderly.known _ x hx)
    unfold Stream.router? at hxr
    split at hxr
    · next part r' hslot =>
      have hrouter : part.isRouter = true :=
        ((ht.orderly.sound _ x hx).memorySuits _ (List.mem_of_getElem? hslot)).router _ rfl
      have hget : parts[other.slot]? = some part := by
        rw [← (hstands x hx).filters, List.getElem?_map, hslot]
        rfl
      -- The chain of the stream is that of the plan, and has one router, or it is empty.
      have hslot' : other.slot = ref.slot := by
        rcases hparts with rfl | ⟨rfl, -⟩
        · exact honly _ _ hget hrouter
        · cases hget
      obtain ⟨a, b, c⟩ := other
      obtain ⟨a', b', c'⟩ := ref
      have hsession : a' = s.number := ht.number
      simp only at hstream hslot' hnumber
      rw [hstream, hslot', hnumber, hsession]
    · cases hxr

theorem done_append (ref : RouterRef) (h₁ h₂ : List (Session σ × Task)) :
    done ref (h₁ ++ h₂) = done ref h₁ ++ done ref h₂ := List.filterMap_append

theorem UnansweredInFlight.snoc {m : Session σ × Task} {bs : List Act}
    (ht : UnansweredInFlight plan ref h as s)
    (horderly : Orderly plan .span s')
    (htraced : Traced plan ref.stream (own ref.stream (as ++ bs)) s')
    (hnumber : ref.session = s'.number)
    (hflying : (∀ op, RouterOp.ask op ∉ done ref (h ++ [m])) → InFlightUntilAsked ref s')
    (hm : (∀ op, RouterOp.ask op ∉ done ref h) →
      InFlightUntilAsked ref m.1 ∧ m.2.suits ref = true ∧
        ∃ cs, cs <+: as ++ bs ∧ Traced plan ref.stream (own ref.stream cs) m.1) :
    UnansweredInFlight plan ref (h ++ [m]) (as ++ bs) s' := by
  refine ⟨horderly, htraced, hnumber, hflying, fun i m' hi hnone => ?_⟩
  by_cases hlt : i < h.length
  · rw [List.getElem?_append_left hlt] at hi
    rw [List.take_append_of_le_length (Nat.le_of_lt hlt)] at hnone
    obtain ⟨hfly, hsuits, cs, hcs, htr⟩ := ht.past i m' hi hnone
    exact ⟨hfly, hsuits, cs, hcs.trans (List.prefix_append as bs), htr⟩
  · have hle := Nat.le_of_not_lt hlt
    rw [List.getElem?_append_right hle, List.getElem?_singleton] at hi
    split at hi
    · next hzero =>
      cases hi
      rw [List.take_append_of_le_length (by omega), List.take_of_length_le hle] at hnone
      exact hm hnone
    · cases hi

theorem UnansweredInFlight.runTask {t : Task} {rest : List Task} (ht : UnansweredInFlight plan ref h as s)
    (hplan : ∀ p ∈ plan.parts, p.Spares ref.stream) (honly : plan.RoutesAt ref.slot)
      (hq : s.queue.posted = t :: rest) :
    UnansweredInFlight plan ref (h ++ [(s.leave rest, t)]) (as ++ (s.leave rest).actsOf t)
      ((s.leave rest).runTask t) := by
  have hwith : ∀ p ∈ plan.parts, p.Withholds .span := fun p _ => withholds_span p
  have hleft : Orderly plan .span (s.leave rest) := ht.orderly.noEnds hwith (leave_noEnds s rest)
  have htraced : Traced plan ref.stream (own ref.stream as) (s.leave rest) :=
    ⟨ht.traced.works, ht.traced.early, ht.traced.begun⟩
  have hfly : (∀ op, RouterOp.ask op ∉ done ref h) → InFlightUntilAsked ref (s.leave rest) := fun hnone =>
    ⟨(ht.inFlight hnone).active, fun u hu => (ht.inFlight hnone).posted u (hq ▸ List.mem_cons_of_mem t hu)⟩
  have hsuits : (∀ op, RouterOp.ask op ∉ done ref h) → t.suits ref = true := fun hnone =>
    (ht.inFlight hnone).posted t (hq ▸ List.mem_cons_self)
  refine ht.snoc (LifeSteps.orderly hleft hwith (runTask_lifeSteps _ t)).1 ?_ ?_ ?_ ?_
  · rw [own_append]
    exact htraced.messageSteps hleft.numbered (runTask_messageSteps (s.leave rest) t)
  · exact ht.number.trans (runTask_moves (D := True) hq).number.symm
  · intro hnone
    rw [done_append] at hnone
    have hbefore : ∀ op, RouterOp.ask op ∉ done ref h :=
      fun op hop => hnone op (List.mem_append_left _ hop)
    refine (runTask_staysInFlight hleft hplan (hsuits hbefore) (fun op he => ?_)
      fun other hstream hne => ?_).inFlight
      (hfly hbefore)
    · exact hnone op (List.mem_append_right _ (by simp [done, he, Task.opOf]))
    · exact (router?_congr rfl rfl other).trans (ht.only honly hstream hne)
  · exact fun hnone => ⟨hfly hnone, hsuits hnone, as, List.prefix_append _ _, htraced⟩

/-- What happens from outside keeps a stream in flight. -/
theorem UnansweredInFlight.step {op : SessionOp} (ht : UnansweredInFlight plan ref h as s)
    (hplan : ∀ p ∈ plan.parts, p.Spares ref.stream) (honly : plan.RoutesAt ref.slot)
    (hop : op.spares ref.stream = true) (hrun : op ≠ .run)
    (hbegun : ∀ request, (ref.stream, StreamEvent.began request) ∈ s.actsIn op → plan.Defers request) :
    UnansweredInFlight plan ref (h ++ s.takenIn op) (as ++ s.actsIn op) (s.step op) := by
  have hwith : ∀ p ∈ plan.parts, p.Withholds .span := fun p _ => withholds_span p
  have horderly := (ht.orderly.step hwith op).1
  have hnumber : (s.step op).number = s.number := by
    by_cases hdeliver : ∃ other d, op = .deliver other d
    · obtain ⟨other, d, rfl⟩ := hdeliver
      rfl
    · exact (step_moves s fun other d he => hdeliver ⟨other, d, he⟩).number
  have htraced : Traced plan ref.stream (own ref.stream (as ++ s.actsIn op)) (s.step op) := by
    have hall := after_messageSteps (P := fun as s => Traced plan ref.stream (own ref.stream as) s)
      (fun as bs s s' hn hs h => by rw [own_append]; exact h.messageSteps hn hs)
      (fun as s t h => ⟨h.works, h.early, h.begun⟩) [op] as s ht.orderly.numbered ht.traced
    rwa [acts, acts, List.append_nil] at hall
  have hflying : (∀ op, RouterOp.ask op ∉ done ref h) → InFlightUntilAsked ref (s.step op) := fun hnone =>
    step_inFlight ht.orderly (ht.inFlight hnone) hplan ht.number honly hop hrun fun request hin =>
      hbegun request (List.mem_append_left _ hin)
  by_cases hstream : ∃ id o, op = .stream id o
  · obtain ⟨id, o, rfl⟩ := hstream
    refine ht.snoc horderly htraced (ht.number.trans hnumber.symm) (fun hnone => hflying fun o ho => ?_)
      fun hnone => ⟨ht.inFlight hnone, ?_, as, List.prefix_append _ _, ht.traced⟩
    · exact hnone o (by rw [done_append]; exact List.mem_append_left _ ho)
    · simpa [SessionOp.spares, Task.suits] using hop
  -- Nothing is taken up by anything else that comes from outside.
  · have hnothing : s.takenIn op = [] := by
      cases op with
      | stream id o => exact absurd ⟨id, o, rfl⟩ hstream
      | run => exact absurd rfl hrun
      | data | request | event | close | closeQuietly | resetAll | drain | drainCheck | ask | deliver
      | hold | release | clearDeferred | dismiss | advance => rfl
    rw [hnothing, List.append_nil]
    refine ⟨horderly, htraced, ht.number.trans hnumber.symm, hflying, fun i m hi hnone => ?_⟩
    obtain ⟨hfly, hsuits, cs, hcs, htr⟩ := ht.past i m hi hnone
    exact ⟨hfly, hsuits, cs, hcs.trans (List.prefix_append as _), htr⟩

theorem UnansweredInFlight.clearDeferred (ht : UnansweredInFlight plan ref h as s) :
    UnansweredInFlight plan ref h as s.clearDeferred := by
  have hwith : ∀ p ∈ plan.parts, p.Withholds .span := fun p _ => withholds_span p
  refine ⟨(LifeSteps.orderly ht.orderly hwith (clearDeferred_lifeSteps s)).1, ?_, ?_, ?_, ht.past⟩
  · have htr := ht.traced.messageSteps ht.orderly.numbered (clearDeferred_messageSteps s)
    rwa [show own ref.stream [] = [] from rfl, List.append_nil] at htr
  · exact ht.number.trans (clearDeferred_moves (R := fun _ _ => True) s).number.symm
  · exact fun hnone => (clearDeferred_staysInFlight s).inFlight (ht.inFlight hnone)

/-- A stream whose chain answers nothing by itself, and with which nothing is done from outside. -/
theorem UnansweredInFlight.after {ops : List SessionOp} (ht : UnansweredInFlight plan ref [] [] s)
    (hplan : ∀ p ∈ plan.parts, p.Spares ref.stream) (honly : plan.RoutesAt ref.slot)
    (hops : ∀ op ∈ ops, op.spares ref.stream = true)
    (hbegun : ∀ request, (ref.stream, StreamEvent.began request) ∈ s.acts ops → plan.Defers request) :
    UnansweredInFlight plan ref (s.history ops) (s.acts ops) (s.after ops) := by
  -- All that has happened so far is part of what happens, so it is enough to look at that.
  have hall := after_history
    (P := fun h as s => (∀ request, (ref.stream, StreamEvent.began request) ∈ as →
      plan.Defers request) → UnansweredInFlight plan ref h as s)
    (fun h as s t rest hq hp hb =>
      (hp fun request hin => hb request (List.mem_append_left _ hin)).runTask hplan honly hq)
    (fun h as s hp hb => (hp hb).clearDeferred)
    (fun h as s op hin hrun hp hb =>
      (hp fun request hin => hb request (List.mem_append_left _ hin)).step hplan honly (hops op hin) hrun
        fun request hin => hb request (List.mem_append_right _ hin))
    fun _ => ht
  rw [List.nil_append, List.nil_append] at hall
  exact hall hbegun

theorem opened_unanswered (number : Nat) (plan : Plan) (flags : Flags) (source : PoolSource σ)
    (side : HostSide σ) (stats : ListenerStats) (clock : Clock) (id : StreamId) (slot : Nat) :
    UnansweredInFlight plan { session := number, stream := id, slot } [] []
      (opened number plan flags source side stats clock) where
  orderly := opened_orderly number plan flags source side stats clock .span
  traced := ⟨rfl, fun _ => rfl, fun h => absurd h (Nat.not_lt_zero id)⟩
  number := rfl
  inFlight _ := ⟨fun _ h => absurd h (Nat.not_lt_zero id), fun t ht => nomatch ht⟩
  past i m hi := by simp at hi

end Session

end RpcProxy

import RpcProxy.Proofs.Session.Ledger
import RpcProxy.Proofs.Session.RouterMoves
import RpcProxy.Pool.Tcp

/-!
# Every stream ends once

The ledger of a session follows what the session does. Most of it leaves the ledger alone (`Quiet`);
what is left are a stream that begins, one that is answered, reset or completed, and one that is
dropped, and each of these is one of the ledger's own steps. So a session that is served keeps its
ledger balanced (`LedgerBalanced`), through every task and through everything that happens from
outside.

The functions of a session call each other: a filter that resets the connection ends every stream
that is in flight, and a reply that cannot be written resets its own. Each function is therefore
shown to keep the balance whatever state it is called in, and no lemma has to know its caller. What
a function may do at most is said by its lemma being about `LedgerBalanced` with the same number of
direct ends; only completing a stream directly makes one more.

`opened_balance` puts this together for a connection with counters of its own: in whatever order
octets, events, tasks and runs come, each request that was decoded is in flight, or was answered, or
was reset, or was completed directly, and never two of these.
-/

set_option autoImplicit false

namespace RpcProxy

namespace Session

variable {σ : Type}

/-! ## What leaves the ledger alone

A step is quiet if the ledger reads the same behind it. Most steps are. -/

/-- Nothing that the ledger tells has changed, and the connection is served as before. Most
functions of a session are of this kind, and so is everything a router does. -/
def Quiet (s s' : Session σ) : Prop := s'.ledger = s.ledger ∧ s'.isServed = s.isServed

section

variable {s s₁ s₂ s₃ : Session σ} {ref : RouterRef} {id : StreamId}

theorem Quiet.refl (s : Session σ) : Quiet s s := ⟨rfl, rfl⟩

theorem Quiet.trans (h₁ : Quiet s₁ s₂) (h₂ : Quiet s₂ s₃) : Quiet s₁ s₃ :=
  ⟨h₂.1.trans h₁.1, h₂.2.trans h₁.2⟩

theorem Quiet.foldl {α : Type} {f : Session σ → α → Session σ} (hf : ∀ s a, Quiet s (f s a))
    (l : List α) (s : Session σ) : Quiet s (l.foldl f s) := by
  induction l generalizing s with
  | nil => exact Quiet.refl s
  | cons a rest ih => exact (hf s a).trans (ih (f s a))

theorem Works.quiet (h : Works ref s₁ s₂) : Quiet s₁ s₂ := by
  obtain ⟨ops, -, g, side, notes, panic, -, rfl⟩ := h
  have hmark : ∀ x : Stream, (x.recall ref g).mark = x.mark := by
    intro x
    rw [Stream.recall_eq]
    rfl
  refine ⟨?_, rfl⟩
  unfold Session.ledger
  simp only [List.map_map]
  congr 1
  exact List.map_congr_left fun x _ => hmark x

theorem modifyStream_quiet {f : Stream → Stream} (hf : ∀ x, (f x).mark = x.mark) :
    Quiet s (s.modifyStream id f) := by
  refine ⟨?_, rfl⟩
  unfold Session.ledger Session.modifyStream
  simp only [List.map_map]
  congr 1
  refine List.map_congr_left fun x _ => ?_
  simp only [Function.comp]
  split
  · exact hf x
  · rfl

theorem note_quiet (e : LogEvent) : Quiet s (s.note e) := ⟨rfl, rfl⟩

theorem stop_quiet (p : Panic) : Quiet s (s.stop p) := ⟨rfl, rfl⟩

theorem closeIfDrained_quiet (s : Session σ) : Quiet s s.closeIfDrained := by
  unfold Session.closeIfDrained
  split
  · exact ⟨rfl, rfl⟩
  · exact Quiet.refl s

theorem writeToClient_quiet (s : Session σ) (data : Bytes) (last : Bool) :
    Quiet s (s.writeToClient data last) := by
  unfold Session.writeToClient
  dsimp only
  split
  · exact ⟨rfl, rfl⟩
  · exact ⟨rfl, rfl⟩

theorem afterFilter_quiet (s : Session σ) (a : Asides) : Quiet s (s.afterFilter a) := by
  rw [afterFilter_eq]
  exact ⟨rfl, rfl⟩

theorem destroySlot_quiet (s : Session σ) (x : Stream) (slot : Nat) :
    Quiet s (s.destroySlot x slot) := by
  unfold Session.destroySlot
  split
  · exact Quiet.refl s
  · exact afterFilter_quiet s _
  · exact note_quiet _
  · exact Quiet.refl s
  · exact (destroyRouter_works s _).quiet

theorem decodeOne_quiet (s : Session σ) (x : Stream) (slot : Nat) :
    Quiet s (s.decodeOne x slot).2 := by
  unfold Session.decodeOne
  split
  · exact Quiet.refl s
  · refine Quiet.trans ?_ (afterFilter_quiet _ _)
    exact modifyStream_quiet fun _ => rfl
  · exact modifyStream_quiet fun _ => rfl
  · exact (route_works s _ _ _ _).quiet

theorem decodeThrough_quiet (slots : List Nat) (s : Session σ) (id : StreamId) :
    Quiet s (s.decodeThrough id slots) :=
  decodeThrough_invariant (P := Quiet s) (fun _ h => h.trans (modifyStream_quiet fun _ => rfl))
    (fun _ x slot h _ => h.trans (decodeOne_quiet _ x slot)) slots s (.refl s)

theorem resolve_mark (routes : RouteTable) (x : Stream) : (x.resolve routes).mark = x.mark := by
  unfold Stream.resolve
  split
  · rfl
  · rfl

theorem continueDecoding_quiet (s : Session σ) (id : StreamId) :
    Quiet s (s.continueDecoding id) := by
  unfold Session.continueDecoding
  split
  · exact Quiet.refl s
  · split
    · exact Quiet.refl s
    · refine Quiet.trans ?_ (decodeThrough_quiet _ _ id)
      exact modifyStream_quiet (resolve_mark s.plan.routes)

theorem encodeOne_quiet (s : Session σ) (x : Stream) (r : Response) (slot : Nat) :
    Quiet s (s.encodeOne x r slot).2 := by
  unfold Session.encodeOne
  split
  · refine Quiet.trans ?_ (afterFilter_quiet _ _)
    exact modifyStream_quiet fun _ => rfl
  · exact modifyStream_quiet fun _ => rfl
  · exact Quiet.refl s

end

/-! ## What the ledger follows

The other steps are done on the ledger as they are done on the session, so that the proof of the
balance does not need the session at all. -/

section

variable {s : Session σ} {id : StreamId} {direct : Nat}

theorem ledger_mark? (s : Session σ) (id : StreamId) :
    s.ledger.mark? id = (s.stream? id).map Stream.mark := by
  unfold Ledger.mark? Session.ledger Session.stream?
  rw [List.find?_map]
  rfl

theorem ledger_isOpen (s : Session σ) (id : StreamId) :
    s.ledger.isOpen id = (s.stream? id).any (!·.isCompleted) := by
  rw [Ledger.isOpen, ledger_mark?, Option.any_map]
  rfl

theorem modifyStream_ledger (s : Session σ) (id : StreamId) {f : Stream → Stream} {g : Mark → Mark}
    (hf : ∀ x, (f x).mark = g x.mark) : (s.modifyStream id f).ledger = s.ledger.edit id g := by
  unfold Session.ledger Session.modifyStream Ledger.edit
  simp only [List.map_map]
  congr 1
  refine List.map_congr_left fun x _ => ?_
  have hid : x.mark.id = x.id := rfl
  simp only [Function.comp, hid]
  split
  · exact hf x
  · rfl

theorem complete_status (i : StreamInfo) (now : Instant) : (i.complete now).status = i.status := by
  unfold StreamInfo.complete
  split
  · rfl
  · rfl

theorem recordEnd_ledger (s : Session σ) (x : Stream) :
    (s.recordEnd x).ledger =
      { s.ledger with
        timed := s.ledger.timed + 1
        byStatus := match x.mark.status with
          | some code => s.ledger.byStatus.inc code.name
          | none => s.ledger.byStatus } ∧
      (s.recordEnd x).isServed = s.isServed := by
  unfold Session.recordEnd
  simp only [Stream.mark, complete_status]
  cases x.span with
  | none => exact ⟨rfl, rfl⟩
  | some p => exact ⟨rfl, rfl⟩

theorem completeStream_ledger (s : Session σ) (id : StreamId) :
    (s.completeStream id).ledger = s.ledger.complete id ∧
      (s.completeStream id).isServed = s.isServed := by
  unfold Session.completeStream Ledger.complete
  rw [ledger_mark?]
  cases hx : s.stream? id with
  | none => exact ⟨rfl, rfl⟩
  | some x =>
    cases hc : x.isCompleted with
    | true => simp [Stream.mark, hc]
    | false =>
      obtain ⟨hl, hs⟩ := recordEnd_ledger s x
      have hopen : x.mark.completed = false := hc
      simp only [Option.map_some, hopen, hc, Bool.false_eq_true, if_false]
      -- The filters are told at the end, and that is quiet.
      have hquiet := fun s' : Session σ => Quiet.foldl (fun s i => destroySlot_quiet s x i)
        (x.decoders ++ x.encoders.filter fun i => !(x.slots[i]?).any (·.part.side.decodes)) s'
      refine ⟨(hquiet _).1.trans ?_, (hquiet _).2.trans hs⟩
      rw [modifyStream_ledger _ id (g := fun m => { m with completed := true })]
      · rw [hl]
        rfl
      · intro y
        simp only [Stream.mark, complete_status]

theorem finishStream_ledger (s : Session σ) (id : StreamId) :
    (s.finishStream id).ledger = s.ledger.finish id ∧
      (s.finishStream id).isServed = s.isServed := by
  obtain ⟨hl, hs⟩ := completeStream_ledger s id
  unfold Session.finishStream Ledger.finish Ledger.leave
  rw [← hl, ledger_mark?]
  dsimp only
  cases hx : (s.completeStream id).stream? id with
  | none => exact ⟨rfl, hs⟩
  | some x =>
    -- The session and its ledger both look whether the stream has left before.
    cases hi : x.inserted with
    | false => simp [Stream.mark, hi, hs]
    | true =>
      have hins : x.mark.inserted = true := hi
      have hedit := modifyStream_ledger (s.completeStream id) id
        (f := fun x => { x with inserted := false }) (g := fun m => { m with inserted := false })
        fun _ => rfl
      have hserved : ((s.completeStream id).modifyStream id fun x =>
          { x with inserted := false }).isServed = s.isServed := hs
      simp only [Option.map_some, hins, hi, Bool.not_true, Bool.false_eq_true, if_false]
      rw [← hedit]
      generalize (s.completeStream id).modifyStream id (fun x => { x with inserted := false }) = s₁
        at hserved
      refine ⟨(closeIfDrained_quiet _).1.trans ?_, (closeIfDrained_quiet _).2.trans ?_⟩
      · have hactive : s₁.ledger.active = s₁.active := rfl
        rw [hactive]
        split
        · rfl
        · rfl
      · split
        · exact hserved
        · exact hserved

theorem resetStream_ledger (hs : s.isServed = true) (id : StreamId) :
    (s.resetStream id).isServed = true ∧
      ((s.resetStream id).ledger = s.ledger ∨ (s.resetStream id).ledger = s.ledger.reset id) := by
  unfold Session.resetStream Ledger.reset
  rw [ledger_isOpen]
  cases hx : s.stream? id with
  | none => exact ⟨hs, Or.inl rfl⟩
  | some x =>
    dsimp only
    split
    · exact ⟨hs, Or.inl rfl⟩
    · obtain ⟨hflag, hserved⟩ : Quiet s (s.modifyStream id fun x => { x with isReset := true }) :=
        modifyStream_quiet fun _ => rfl
      generalize s.modifyStream id (fun x => { x with isReset := true }) = s₁ at hflag hserved
      rw [hs] at hserved
      -- The reset of a stream that is over is not counted, and neither is its end.
      cases hc : x.isCompleted with
      | true =>
        obtain ⟨hl, hs'⟩ := finishStream_ledger s₁ id
        simp only [if_true, hserved]
        refine ⟨hs'.trans hserved, Or.inr ?_⟩
        rw [hl, hflag]
        simp [hc]
      | false =>
        have hcount : (s₁.measure fun m => { m with resets := m.resets.inc }).ledger =
            s.ledger.countReset := by
          rw [← hflag]
          rfl
        have hserved' : (s₁.measure fun m => { m with resets := m.resets.inc }).isServed = true :=
          hserved
        obtain ⟨hl, hs'⟩ := finishStream_ledger
          (s₁.measure fun m => { m with resets := m.resets.inc }) id
        simp only [Bool.false_eq_true, if_false, hserved', if_true]
        refine ⟨hs'.trans hserved', Or.inr ?_⟩
        rw [hl, hcount]
        simp [hc]

end

/-! ## Sessions with a balanced ledger

From here on a function of the session needs the lemma about its parts, and nothing about
counters. -/

/-- A session that is served, with a balanced ledger. A session that was dismissed drops streams in
flight, and then nothing balances any more. -/
structure LedgerBalanced (b : Ledger) (direct : Nat) (s : Session σ) : Prop where
  served : s.isServed = true
  balanced : Ledger.Balanced b s.ledger direct

section

variable {s s' : Session σ} {b : Ledger} {direct : Nat}

theorem LedgerBalanced.quiet (he : LedgerBalanced b direct s) (h : Quiet s s') : LedgerBalanced b direct s' :=
  ⟨h.2.trans he.served, h.1.symm ▸ he.balanced⟩

theorem LedgerBalanced.foldl {α : Type} {f : Session σ → α → Session σ}
    (hf : ∀ s a, LedgerBalanced b direct s → LedgerBalanced b direct (f s a)) (l : List α)
      (he : LedgerBalanced b direct s) :
    LedgerBalanced b direct (l.foldl f s) := by
  induction l generalizing s with
  | nil => exact he
  | cons a rest ih => exact ih (hf s a he)

theorem LedgerBalanced.finishStream (he : LedgerBalanced b direct s) (id : StreamId) :
    LedgerBalanced b (direct + ((s.stream? id).any (!·.isCompleted)).toNat) (s.finishStream id) := by
  obtain ⟨hl, hs⟩ := finishStream_ledger s id
  refine ⟨hs.trans he.served, ?_⟩
  rw [hl, ← ledger_isOpen]
  exact he.balanced.finish

theorem LedgerBalanced.resetStream (he : LedgerBalanced b direct s) (id : StreamId) :
    LedgerBalanced b direct (s.resetStream id) := by
  obtain ⟨hs, hl | hl⟩ := resetStream_ledger he.served id
  · exact ⟨hs, hl.symm ▸ he.balanced⟩
  · exact ⟨hs, hl.symm ▸ he.balanced.reset⟩

theorem LedgerBalanced.resetAll (he : LedgerBalanced b direct s) : LedgerBalanced b direct s.resetAll :=
  LedgerBalanced.foldl (fun _ id he => he.resetStream id) _ he

theorem LedgerBalanced.onConnectionEvent (he : LedgerBalanced b direct s) (e : ConnectionEvent) :
    LedgerBalanced b direct (s.onConnectionEvent e) := by
  have hclosed : LedgerBalanced b direct { s with isClosed := true } := he.quiet ⟨rfl, rfl⟩
  cases e with
  | remoteClose => exact hclosed.resetAll
  | localClose => exact hclosed.resetAll
  | connected => exact he
  | connectedZeroRtt => exact he

theorem LedgerBalanced.closeConnection (he : LedgerBalanced b direct s) (how : CloseType) :
    LedgerBalanced b direct (s.closeConnection how) := by
  unfold Session.closeConnection
  split
  · exact he
  · refine LedgerBalanced.onConnectionEvent ?_ .localClose
    exact he.quiet ⟨rfl, rfl⟩

/-! ## Replies

A reply ends its stream, with the status that it had. -/

theorem LedgerBalanced.sendReply (he : LedgerBalanced b direct s) (id : StreamId) :
    LedgerBalanced b direct (s.sendReply id) := by
  unfold Session.sendReply
  split
  · exact he
  · split
    · exact he
    · next x _ r _ =>
      rw [he.served]
      simp only [Bool.not_true, Bool.false_eq_true, if_false]
      have hans := modifyStream_ledger s id
        (f := fun x => { x with info := { x.info with status := some r.status.code } })
        (g := fun m => { m with status := some r.status.code }) fun _ => rfl
      have hserved : (s.modifyStream id fun x =>
          { x with info := { x.info with status := some r.status.code } }).isServed = true :=
        he.served
      generalize s.modifyStream id
        (fun x => { x with info := { x.info with status := some r.status.code } }) = s₁
        at hans hserved
      have hwrite := writeToClient_quiet s₁ r.encode r.asksToClose
      obtain ⟨hl, hs⟩ := finishStream_ledger (s₁.writeToClient r.encode r.asksToClose) id
      refine ⟨hs.trans (hwrite.2.trans hserved), ?_⟩
      rw [hl, hwrite.1, hans]
      exact he.balanced.reply r.status.code

theorem LedgerBalanced.encodeThrough (slots : List Nat) (he : LedgerBalanced b direct s) (id : StreamId) :
    LedgerBalanced b direct (s.encodeThrough id slots) :=
  encodeThrough_invariant (P := LedgerBalanced b direct)
    (fun _ he => he.quiet (modifyStream_quiet fun _ => rfl))
    (fun _ x r slot he _ _ => he.quiet (encodeOne_quiet _ x r slot)) (fun _ he => he)
    (fun _ he => he.sendReply id) slots s he

theorem LedgerBalanced.continueEncoding (he : LedgerBalanced b direct s) (id : StreamId) :
    LedgerBalanced b direct (s.continueEncoding id) := by
  unfold Session.continueEncoding
  split
  · exact he
  · split
    · exact he
    · exact he.encodeThrough _ id

theorem LedgerBalanced.respond (he : LedgerBalanced b direct s) (id : StreamId) (r : Response) :
    LedgerBalanced b direct (s.respond id r) := by
  unfold Session.respond
  split
  · exact he
  · split
    · exact he
    · refine LedgerBalanced.continueEncoding ?_ id
      exact he.quiet (modifyStream_quiet fun _ => rfl)

theorem LedgerBalanced.localReply (he : LedgerBalanced b direct s) (id : StreamId) (status : Status)
    (update : Change) : LedgerBalanced b direct (s.localReply id status update) := by
  rcases localReply_eq s id status update with heq | heq | ⟨-, r, -, -, heq⟩
  · rw [heq]
    exact he
  · rw [heq]
    exact he.quiet (stop_quiet _)
  · rw [heq]
    refine LedgerBalanced.respond ?_ id r
    refine LedgerBalanced.quiet ?_ (modifyStream_quiet fun _ => rfl)
    exact he.quiet ⟨rfl, rfl⟩

/-! ## Requests

A stream begins and is counted as in flight. Whether it gets a number decides whether it is
counted. -/

theorem LedgerBalanced.insertStream {x : Stream} (he : LedgerBalanced b direct s)
    (hserved : s'.isServed = true)
    (hs : s'.ledger = { s.ledger with next := s.nextId + 1 }) (hid : x.id = s.nextId)
    (hnew : x.inserted = true ∧ x.isCompleted = false ∧ x.info.status = none)
    (hfits : s.nextId + 1 < 2 ^ 64) : LedgerBalanced b direct (s'.insertStream x) := by
  obtain ⟨hins, hcom, hst⟩ := hnew
  refine ⟨hserved, ?_⟩
  have hstart : (s'.insertStream x).ledger = s.ledger.start := by
    have hmark : x.mark = { id := s.nextId, inserted := true, completed := false, status := none } := by
      simp only [Stream.mark, hid, hins, hcom, hst]
    have hl : (s'.insertStream x).ledger =
        { s'.ledger with
          active := s'.ledger.active ++ [x.id]
          marks := s'.ledger.marks ++ [x.mark]
          requests := s'.ledger.requests + 1
          gauge := s'.ledger.gauge.inc } := by
      unfold Session.insertStream Session.ledger
      simp only [List.map_append, List.map_cons, List.map_nil]
      rfl
    rw [hl, hs, hmark, hid]
    rfl
  rw [hstart]
  exact he.balanced.start hfits

theorem LedgerBalanced.beginStream (he : LedgerBalanced b direct s) (request : Request) :
    LedgerBalanced b direct (s.beginStream request) := by
  unfold Session.beginStream
  dsimp only
  split
  · exact he.quiet (stop_quiet _)
  · next hfull =>
    have hfits : s.nextId + 1 < 2 ^ 64 := Nat.lt_of_not_le hfull
    obtain ⟨info, span, s₁, hopen⟩ : ∃ info span s₁,
        { s with nextId := s.nextId + 1 }.openSpan request = (info, span, s₁) := ⟨_, _, _, rfl⟩
    -- A span changes nothing that the ledger tells, and gives the stream no status.
    have hs₁ : s₁.isServed = true ∧ s₁.ledger = { s.ledger with next := s.nextId + 1 } ∧
        info.status = none := by
      unfold Session.openSpan at hopen
      dsimp only at hopen
      split at hopen
      · obtain ⟨rfl, -, rfl⟩ := hopen
        exact ⟨he.served, rfl, rfl⟩
      · obtain ⟨rfl, -, rfl⟩ := hopen
        refine ⟨he.served, rfl, ?_⟩
        split
        · rfl
        · rfl
    -- The stream counts as soon as it is there, whatever filters it gets.
    have hin := fun slots : List Slot => he.insertStream
      (x := { id := s.nextId, request, slots, info, span, inserted := true })
      hs₁.1 hs₁.2.1 rfl ⟨rfl, rfl, hs₁.2.2⟩ hfits
    rw [hopen]
    dsimp only
    split
    · exact (hin _).quiet (stop_quiet _)
    · exact (hin _).quiet (continueDecoding_quiet _ _)

theorem LedgerBalanced.onWireEvent (he : LedgerBalanced b direct s) (e : Wire.Event) :
    LedgerBalanced b direct (s.onWireEvent e) := by
  unfold Session.onWireEvent
  split
  · exact he
  · cases e with
    | request r => exact he.beginStream r
    | failure =>
      have hcounted : LedgerBalanced b direct
          (s.measure fun m => { m with decodingErrors := m.decodingErrors.inc }) :=
        he.quiet ⟨rfl, rfl⟩
      exact hcounted.resetAll.quiet ⟨rfl, rfl⟩

theorem LedgerBalanced.onClientData (he : LedgerBalanced b direct s) (data : Bytes) :
    LedgerBalanced b direct (s.onClientData data) := by
  unfold Session.onClientData
  dsimp only
  split
  · exact he.quiet ⟨rfl, rfl⟩
  · refine LedgerBalanced.foldl (fun _ e he => he.onWireEvent e) _ ?_
    exact he.quiet ⟨rfl, rfl⟩

/-! ## Streams that are dropped

A stream that is dropped was over before, and counts for nothing any more. -/

theorem LedgerBalanced.dropStream (he : LedgerBalanced b direct s) {id : StreamId} (hid : id ∉ s.active) :
    LedgerBalanced b direct (s.dropStream id) := by
  unfold Session.dropStream
  split
  · exact he
  · next x _ =>
    have hquiet := Quiet.foldl (fun s slot => (dropRouter_works s (s.refTo id slot)).quiet)
      x.routers s
    have hgone := he.quiet hquiet
    have hactive : (x.routers.foldl (fun s slot => s.dropRouter (s.refTo id slot)) s).active =
        s.active := congrArg Ledger.active hquiet.1
    dsimp only
    generalize x.routers.foldl (fun s slot => s.dropRouter (s.refTo id slot)) s = s₁
      at hgone hactive
    refine ⟨hgone.served, ?_⟩
    have hdrop : ({ s₁ with streams := s₁.streams.filter (·.id != id) } : Session σ).ledger =
        s₁.ledger.drop id := by
      unfold Session.ledger Ledger.drop
      simp only [List.filter_map]
      rfl
    rw [hdrop]
    refine hgone.balanced.drop fun hin => hid ?_
    rw [← hactive]
    exact hin

theorem LedgerBalanced.dropUnneeded (he : LedgerBalanced b direct s) (id : StreamId) :
    LedgerBalanced b direct (s.dropUnneeded id) := by
  unfold Session.dropUnneeded
  split
  · exact he
  · next hneeded =>
    refine he.dropStream fun hin => hneeded ?_
    simp [hin]

theorem LedgerBalanced.clearDeferred (he : LedgerBalanced b direct s) :
    LedgerBalanced b direct s.clearDeferred := by
  unfold Session.clearDeferred
  refine LedgerBalanced.foldl (fun _ id he => he.dropUnneeded id) _ ?_
  exact he.quiet ⟨rfl, rfl⟩

end

/-! ## Streams that are completed directly

A task may complete a stream without a reply. Such an end is neither a reply nor a reset, and has a
number of its own in the balance. -/

end Session

/-- The stream that a task completes without an answer, whether a filter asks for it or a router
does. -/
def Task.completes? : Task → Option StreamId
  | .stream id .complete => some id
  | .router ref (.ask .complete) => some ref.stream
  | _ => none

namespace Session

variable {σ : Type}

/-- Whether a stream is completed directly at a moment: it is there, and not over. -/
def endsDirectly (moment : Session σ × Task) : Bool :=
  moment.1.isServed && moment.2.completes?.any fun id => (moment.1.stream? id).any (!·.isCompleted)

/-- How many streams were completed directly while some things happened. -/
def directEnds (s : Session σ) (ops : List SessionOp) : Nat := (s.history ops).countP endsDirectly

section

variable {s : Session σ} {b : Ledger} {direct : Nat}

/-- Most tasks complete nothing. -/
theorem LedgerBalanced.undirected {s' : Session σ} {t : Task} (he : LedgerBalanced b direct s')
    (ht : t.completes? = none) : LedgerBalanced b (direct + (endsDirectly (s, t)).toNat) s' := by
  have hd : endsDirectly (s, t) = false := by
    rw [endsDirectly, ht, Option.any_none, Bool.and_false]
  rw [hd]
  exact he

theorem LedgerBalanced.perform (he : LedgerBalanced b direct s) (id : StreamId) (op : StreamOp) :
    LedgerBalanced b (direct + (endsDirectly (s, .stream id op)).toNat) (s.perform id op) := by
  cases op with
  | continueDecoding => exact (he.quiet (continueDecoding_quiet s id)).undirected rfl
  | continueEncoding => exact (he.continueEncoding id).undirected rfl
  | localReply status update => exact (he.localReply id status update).undirected rfl
  | respond r => exact (he.respond id r).undirected rfl
  | complete =>
    have h := he.finishStream id
    simpa [Session.perform, endsDirectly, Task.completes?, he.served] using h
  | reset => exact (he.resetStream id).undirected rfl
  | resetConnection =>
    refine LedgerBalanced.undirected ?_ rfl
    show LedgerBalanced b direct (if _ then _ else _)
    split
    · exact he.closeConnection .noFlush
    · exact he

theorem LedgerBalanced.runTask (he : LedgerBalanced b direct s) (t : Task) :
    LedgerBalanced b (direct + (endsDirectly (s, t)).toNat) (s.runTask t) := by
  cases t with
  | stream id op => exact he.perform id op
  | router ref op =>
    cases op with
    | write => exact (he.quiet (writeCall_works s ref).quiet).undirected rfl
    | ask op =>
      have h := he.perform ref.stream op
      have hsame : endsDirectly (s, .router ref (.ask op)) =
          endsDirectly (s, .stream ref.stream op) := by cases op <;> rfl
      rw [hsame]
      exact h
    | deliver d => exact (he.quiet (onDelivery_works s ref d).quiet).undirected rfl
  | closed =>
    refine LedgerBalanced.undirected ?_ rfl
    show LedgerBalanced b direct (if _ then _ else _)
    split
    · exact he.onConnectionEvent .localClose
    · exact he

theorem countP_moment (moment : Session σ × Task) :
    [moment].countP endsDirectly = (endsDirectly moment).toNat := by
  rw [List.countP_singleton]
  cases endsDirectly moment with
  | true => rfl
  | false => rfl

theorem LedgerBalanced.runUntilIdle (he : LedgerBalanced b direct s) (fuel : Nat) :
    LedgerBalanced b (direct + (taken fuel s).countP endsDirectly) (runUntilIdle fuel s) := by
  have h := runUntilIdle_history
    (P := fun h s => LedgerBalanced b (direct + h.countP endsDirectly) s) ?_ ?_ fuel [] s he
  · exact h
  · intro h s t rest hq he
    have hleft : LedgerBalanced b (direct + h.countP endsDirectly) (s.leave rest) := he.quiet ⟨rfl, rfl⟩
    rw [List.countP_append, countP_moment, ← Nat.add_assoc]
    exact hleft.runTask t
  · intro h s he
    exact he.clearDeferred

theorem LedgerBalanced.step (he : LedgerBalanced b direct s) {op : SessionOp} (hop : op ≠ .dismiss) :
    LedgerBalanced b (direct + (s.takenIn op).countP endsDirectly) (s.step op) := by
  have hserved := he.served
  cases op with
  | data octets => simpa [Session.step, takenIn, hserved] using he.onClientData octets
  | request r => simpa [Session.step, takenIn, hserved] using he.beginStream r
  | event e => simpa [Session.step, takenIn, hserved] using he.onConnectionEvent e
  | close how => simpa [Session.step, takenIn, hserved] using he.closeConnection how
  | resetAll => simpa [Session.step, takenIn, hserved] using he.resetAll
  | drainCheck => simpa [Session.step, takenIn, hserved] using he.quiet (closeIfDrained_quiet s)
  | stream id op =>
    rw [takenIn, countP_moment]
    exact he.perform id op
  | hold id =>
    show LedgerBalanced b direct (if _ then _ else _)
    split
    · exact he.quiet ⟨rfl, rfl⟩
    · exact he
  | release id =>
    have hleft : LedgerBalanced b direct { s with held := s.held.erase id } := he.quiet ⟨rfl, rfl⟩
    exact hleft.dropUnneeded id
  | run => exact he.runUntilIdle s.effort
  | clearDeferred => exact he.clearDeferred
  | dismiss => exact absurd rfl hop
  | closeQuietly | drain | ask | deliver | advance => exact he.quiet ⟨rfl, rfl⟩

theorem LedgerBalanced.after (he : LedgerBalanced b direct s) {ops : List SessionOp} (hops : .dismiss ∉ ops) :
    LedgerBalanced b (direct + s.directEnds ops) (s.after ops) := by
  induction ops generalizing s direct with
  | nil => exact he
  | cons op ops ih =>
    obtain ⟨hop, hops⟩ := not_or.mp (mt List.mem_cons.mpr hops)
    have h := ih (he.step fun h => hop h.symm) hops
    rw [directEnds, history, List.countP_append, ← Nat.add_assoc]
    exact h

/-- A connection that was just accepted; what its listener counted before does not matter. -/
theorem opened_ledgerBalanced (number : Nat) (plan : Plan) (flags : Flags) (source : PoolSource σ)
    (side : HostSide σ) (stats : ListenerStats) (clock : Clock) :
    let s := opened number plan flags source side stats clock
    LedgerBalanced s.ledger 0 s := by
  refine ⟨rfl, ⟨?_, ?_, ?_⟩⟩
  · constructor
    case ascending => exact List.Pairwise.nil
    case ordered => exact List.Pairwise.nil
    case fits => exact Nat.two_pow_pos 64
    case gauged => exact fun _ => rfl
    all_goals first | rfl | exact fun _ h => nomatch h
  · exact fun _ h => nomatch h
  · show 0 + stats.byStatus.total + stats.resets.total + 0 =
      stats.byStatus.total + stats.resets.total + 0
    omega

/-- Every stream ends once. A connection that has its counters for itself was opened, and things
have happened to it in any order; it is still served. Then the numbers of the streams in flight
ascend below the next number. A stream is among them exactly if it is marked so, and exactly if it
is not over. The gauge shows how many there are. Every request has a number, and every stream that
is not in flight any more was timed. And each request is in flight, or was answered, or was reset,
or was completed directly. -/
theorem opened_balance (number : Nat) (plan : Plan) (flags : Flags) (source : PoolSource σ)
    (side : HostSide σ) (label : String) (began : Instant) (clock : Clock) (ops : List SessionOp)
    (hops : .dismiss ∉ ops) :
    let s₀ := opened number plan flags source side (.start label began) clock
    let s := s₀.after ops
    (s.active.Pairwise (· < ·) ∧ ∀ id ∈ s.active, id < s.nextId) ∧
    (∀ id ∈ s.active, (s.stream? id).isSome) ∧
    (∀ x ∈ s.streams, (x.id ∈ s.active ↔ x.inserted) ∧ (x.inserted ↔ ¬x.isCompleted)) ∧
    s.stats.activeRequests.value.toNat = s.active.length ∧
    s.stats.requests.value = s.nextId ∧
    s.stats.duration.count = s.stats.requests.value - s.stats.activeRequests.value.toNat ∧
    s.stats.requests.value = s.stats.activeRequests.value.toNat + s.stats.byStatus.total +
      s.stats.resets.value + s₀.directEnds ops := by
  intro s₀ s
  have he : LedgerBalanced s₀.ledger (0 + s₀.directEnds ops) s :=
    (opened_ledgerBalanced number plan flags source side (.start label began) clock).after hops
  obtain ⟨hb, -, hcons⟩ := he.balanced
  -- The listener had counted nothing before.
  have hcounted : s.stats.requests.total = 0 + s.nextId := hb.counted
  have htimed : s.stats.duration.count + s.active.length = 0 + s.nextId := hb.timed_add
  have hroom : 0 + s.nextId < 2 ^ 64 := by
    rw [Nat.zero_add]
    exact hb.fits
  have hgauged : s.stats.activeRequests.value.toNat = 0 + s.active.length := hb.gauged hroom
  have hsum : s.active.length + s.stats.byStatus.total + s.stats.resets.total +
      (0 + s₀.directEnds ops) = 0 + 0 + s.nextId := hcons
  rw [Nat.zero_add] at hcounted htimed hgauged
  -- No counter has gone round: none is beyond the next number, which has 64 bits.
  have hfits : s.stats.requests.total < UInt64.size := hcounted ▸ hb.fits
  have hrequests : s.stats.requests.value = s.nextId := by
    rw [Counter.value, Nat.mod_eq_of_lt hfits, hcounted]
  have hresets : s.stats.resets.value = s.stats.resets.total :=
    Nat.mod_eq_of_lt (Nat.lt_of_le_of_lt (by omega) hfits)
  refine ⟨⟨hb.ascending, ?_⟩, ?_, ?_, hgauged, hrequests, by omega, by omega⟩
  · intro id hid
    obtain ⟨m, hm, rfl⟩ := hb.present id hid
    exact hb.below m hm
  · intro id hid
    obtain ⟨m, hm, rfl⟩ := hb.present id hid
    have hfound := hb.mark?_of_mem hm
    rw [ledger_mark?] at hfound
    obtain ⟨x, hx, -⟩ := Option.map_eq_some_iff.mp hfound
    rw [hx]
    rfl
  · intro x hx
    have hmem : x.mark ∈ s.ledger.marks := List.mem_map_of_mem hx
    have hflag : x.inserted = true ↔ x.id ∈ s.active := hb.flagged _ hmem
    have hopen : x.isCompleted = false ↔ x.id ∈ s.active := hb.open_iff _ hmem
    refine ⟨hflag.symm, hflag.trans ?_⟩
    rw [← hopen, Bool.not_eq_true]

/-- Two requests come on a connection without filters. One of them is completed directly. -/
theorem opened_balance_two_requests :
    let s₀ := opened 0 { label := "edge" } {} TcpPools.source { pools := {} } (.start "edge" 0) {}
    let call : SessionOp := .request { service := "users", method := "get" }
    let ops := [call, call, .stream 0 .complete, .run]
    let s := s₀.after ops
    .dismiss ∉ ops ∧ s.nextId = 2 ∧ s.active = [1] ∧ s₀.directEnds ops = 1 ∧
      s.stats.requests.value = s.stats.activeRequests.value.toNat + s.stats.byStatus.total +
        s.stats.resets.value + s₀.directEnds ops := by
  refine ⟨by simp, by decide +kernel, by decide +kernel, by decide +kernel, ?_⟩
  exact (opened_balance 0 { label := "edge" } {} TcpPools.source { pools := {} } "edge" 0 {} _
    (by simp)).2.2.2.2.2.2

end

end Session

end RpcProxy

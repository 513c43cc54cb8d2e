import RpcProxy.Proofs.Session.RouterFrame

/-!
# The course of an exchange

An exchange without an upgrade is in one of three states: it waits for its pool (`Waiting`), it
holds a connection whose response is not complete (`Holding`), or it has let go of both (`Over`). A
pool's answer, octets and events take it from one to the next and never back. The states are read
off its fields. An exchange has no field that names its state, and several of them could contradict
each other; so each state also says what the others are to be.

What the client is asked for on the way is counted by `Step.asks`: replies of the proxy and the end
of the client's connection. Every step that ends an exchange for a failure asks once. One that ends
it with a whole reply, or with octets that are none, asks for nothing itself, and leaves a decoder
that has exactly one thing to say. It is the router that looks at the decoder then and asks, so the
two must not both ask, nor both leave it to the other.
-/

set_option autoImplicit false

namespace RpcProxy

/-- Whether something that is asked of a stream decides what the client gets: a reply, or the end of
its connection. -/
def StreamOp.isOutcome : StreamOp → Bool
  | .localReply _ _ | .respond _ | .resetConnection => true
  | .continueDecoding | .continueEncoding | .complete | .reset => false

/-- Whether a router asks for what the client gets. -/
def RouterOp.isOutcome : RouterOp → Bool
  | .ask op => op.isOutcome
  | .write | .deliver _ => false

/-- Whether an effect asks for what the client gets. -/
def Effect.isOutcome (e : Effect) : Bool := e.later?.any RouterOp.isOutcome

/-- Whether an effect only notes something: an outcome for a host, or one more of what is counted. A
time that was measured is more than a note, as it is recorded once at most. -/
def Effect.isNote : Effect → Bool
  | .report _ _ => true
  | .count (.responseTime _ _) => false
  | .count _ => true
  | _ => false

/-- Whoever reads nothing from a note reads nothing from many. -/
theorem Effect.filterMap_notes {α : Type} {read : Effect → Option α}
    (hread : ∀ x : Effect, x.isNote = true → read x = none) {effects : List Effect}
    (h : ∀ x ∈ effects, x.isNote = true) : effects.filterMap read = [] :=
  List.filterMap_eq_nil_iff.mpr fun x hx => hread x (h x hx)

theorem Effect.later?_of_isNote (x : Effect) (h : x.isNote = true) : x.later? = none := by
  cases x <;> first | rfl | cases h

theorem Effect.countP_notes {effects : List Effect} (h : ∀ x ∈ effects, x.isNote = true) :
    effects.countP Effect.isOutcome = 0 := by
  refine List.countP_eq_zero.mpr fun x hx => ?_
  rw [isOutcome, later?_of_isNote x (h x hx)]
  exact Bool.false_ne_true

namespace Exchange

/-- How often a step asks for what the client gets. -/
def Step.asks (t : Step) : Nat := t.effects.countP Effect.isOutcome

theorem Step.asks_andThen (t : Step) (f : Exchange → Step) :
    (t.andThen f).asks = t.asks + (f t.exchange).asks := by
  simp only [Step.asks, Step.andThen, List.countP_append]

theorem Step.asks_later (t : Step) :
    (t.effects.filterMap Effect.later?).countP RouterOp.isOutcome = t.asks := by
  unfold Step.asks
  rw [List.countP_filterMap]
  refine congrArg (List.countP · t.effects) (funext fun e => ?_)
  unfold Effect.isOutcome
  cases e.later? with
  | none => rfl
  | some op => rfl

/-- No upgrade is under way or possible, and nothing has gone wrong with the response. -/
structure Plain (e : Exchange) : Prop where
  /-- No upgrade is under way. -/
  upgrading : e.upgrading = none
  protocol : ∀ state, e.protocol.attempt state = none
  /-- The host did not ask to leave. -/
  draining : e.draining = false
  /-- The response has not ended too early. -/
  underflow : e.underflow = false
  incomplete : e.responseComplete = false

/-- The exchange waits for its pool. -/
structure Waiting (e : Exchange) : Prop extends Plain e where
  /-- A request to the pool is not answered. -/
  pending : e.pending.isSome
  link : e.link = none
  /-- Nothing of a response has come. -/
  fresh : e.responseStarted = false

/-- The exchange holds a connection whose response is not complete. -/
structure Holding (e : Exchange) : Prop extends Plain e where
  /-- The pool has answered. -/
  pending : e.pending = none
  link : e.link.isSome

/-- The exchange has let go of its pool and of its connection. -/
structure Over (e : Exchange) : Prop where
  /-- No request to the pool is left. -/
  pending : e.pending = none
  link : e.link = none

variable {e : Exchange}

/-- Octets and events go to an exchange that has a connection. -/
theorem link_isSome {isOver : Bool} (h : ¬(e.link.isNone || isOver) = true) : e.link.isSome := by
  rw [Bool.or_eq_true, not_or] at h
  exact Option.isSome_iff_ne_none.mpr fun hnone => h.1 (by rw [hnone]; rfl)

theorem Holding.not_over (h : Holding e) : ¬Over e := by
  intro ho
  have hlink := h.link
  rw [ho.link] at hlink
  cases hlink

/-! ## Small steps

Steps that do not change the phase, or end it. -/

theorem report_notes (e : Exchange) (r : HostResult) : ∀ x ∈ e.report r, x.isNote = true := by
  unfold report
  cases e.host with
  | none => simp
  | some h => simp [Effect.isNote]

/-- Only the time of the response is noted. -/
theorem charge_exchange (now : Instant) (e : Exchange) :
    ∃ timed, (e.charge now).exchange = { e with timed } := by
  unfold charge
  split
  · exact ⟨e.timed, rfl⟩
  · exact ⟨true, rfl⟩

theorem charge_asks (now : Instant) (e : Exchange) : (e.charge now).asks = 0 := by
  unfold charge
  split
  · rfl
  · cases e.requestCompleteAt with
    | none => rfl
    | some t => rfl

theorem dropHandle_exchange (e : Exchange) : e.dropHandle.exchange = { e with pending := none } := by
  unfold dropHandle
  cases h : e.pending with
  | none => simp [← h]
  | some handle => rfl

theorem dropHandle_asks (e : Exchange) : e.dropHandle.asks = 0 := by
  unfold dropHandle
  cases e.pending with
  | none => rfl
  | some handle => rfl

theorem dropLink_exchange (how : Option CloseType) (e : Exchange) :
    (e.dropLink how).exchange = { e with link := none, linkState := none } := by
  unfold dropLink
  cases h : e.link with
  | none => simp [← h]
  | some link => rfl

theorem dropLink_asks (how : Option CloseType) (e : Exchange) : (e.dropLink how).asks = 0 := by
  unfold dropLink
  cases e.link with
  | none => rfl
  | some link =>
    cases e.host with
    | none => cases how <;> rfl
    | some h => cases how <;> rfl

theorem releaseLink_exchange (close : Bool) (e : Exchange) :
    (e.releaseLink close).exchange = { e with pending := none, link := none, linkState := none } := by
  unfold releaseLink
  simp only [Step.andThen, dropLink_exchange, dropHandle_exchange]

theorem releaseLink_asks (close : Bool) (e : Exchange) : (e.releaseLink close).asks = 0 := by
  unfold releaseLink
  rw [Step.asks_andThen, dropHandle_asks, dropLink_asks]

theorem releaseLink_over (close : Bool) (e : Exchange) : Over (e.releaseLink close).exchange := by
  rw [releaseLink_exchange]
  exact ⟨rfl, rfl⟩

/-- Letting go of everything leaves no work behind. -/
theorem releaseLink_later (close : Bool) (e : Exchange) :
    (e.releaseLink close).effects.filterMap Effect.later? = [] := by
  unfold releaseLink Step.andThen dropHandle dropLink
  cases e.pending with
  | none =>
    cases e.link with
    | none => rfl
    | some link =>
      cases e.host with
      | none => cases close <;> rfl
      | some h => cases close <;> rfl
  | some handle =>
    cases e.link with
    | none => rfl
    | some link =>
      cases e.host with
      | none => cases close <;> rfl
      | some h => cases close <;> rfl

/-! ## Failures

A failure asks for one outcome. It leaves the exchange as it is, but that its time may be recorded;
whoever makes it fail lets go of the rest. -/

/-- What is done about a failure: something is noted, and the client may be told. -/
theorem failureEffects_eq (reason : FailureReason) (e : Exchange) :
    ∃ notes : List Effect, (∀ x ∈ notes, x.isNote = true) ∧ e.failureEffects reason = notes ++
      match (e.failureDecision reason).action with
      | .localReply close => [.localReply ⟨.internalError, reason.replyMessage e.host⟩ close]
      | .resetConnection => [.resetConnection]
      | .nothing => [] := by
  have hreport : ∀ r : Option HostResult, ∀ x ∈ (r.map e.report).getD [], x.isNote = true := by
    intro r
    cases r with
    | none => simp
    | some r => exact report_notes e r
  unfold failureEffects
  dsimp only
  cases (e.failureDecision reason).action with
  | localReply close =>
    refine ⟨((e.failureDecision reason).hostResult.map e.report).getD [] ++
      [.count (.localException e.cluster)], fun x hx => ?_, by rw [List.append_assoc]; rfl⟩
    rcases List.mem_append.mp hx with hx | hx
    · exact hreport _ x hx
    · rw [List.mem_singleton.mp hx]
      rfl
  | resetConnection | nothing => exact ⟨_, hreport _, rfl⟩

/-- A failure before the response is complete asks for one thing: a reply, or the end of the
client's connection if part of the response went there. -/
theorem failureEffects_asks (reason : FailureReason) (he : Plain e) :
    (e.failureEffects reason).countP Effect.isOutcome = 1 := by
  obtain ⟨notes, hnotes, heq⟩ := failureEffects_eq reason e
  rw [heq, List.countP_append, Effect.countP_notes hnotes, Nat.zero_add]
  simp only [failureDecision, ResetDecision.decide, progress, he.draining, he.underflow,
    he.incomplete]
  by_cases hr : reason = .overflow
  · rw [if_pos hr]
    rfl
  · rw [if_neg hr]
    cases e.responseStarted with
    | true => rfl
    | false => rfl

theorem fail_exchange (reason : FailureReason) (now : Instant) (e : Exchange) :
    ∃ timed, (e.fail reason now).2.exchange = { e with timed } := by
  obtain ⟨timed, h⟩ := charge_exchange now e
  refine ⟨timed, ?_⟩
  unfold fail
  simp only [Step.andThen, emit]
  exact h

theorem Plain.timed (he : Plain e) (timed : Bool) : Plain { e with timed } := { he with }

theorem fail_asks (reason : FailureReason) (now : Instant) (he : Plain e) :
    (e.fail reason now).2.asks = 1 := by
  obtain ⟨timed, h⟩ := charge_exchange now e
  unfold fail
  rw [Step.asks_andThen, charge_asks, h, Nat.zero_add]
  exact failureEffects_asks reason (he.timed timed)

theorem emit_asks (effects : List Effect) (e : Exchange) :
    (e.emit effects).asks = effects.countP Effect.isOutcome := rfl

/-! ## The pool answers

With a connection the call can begin; with a failure the exchange is over. -/

theorem startCall_eq (resume : Bool) (e : Exchange) :
    ∃ envelope linkState, (e.startCall resume).exchange = { e with envelope, linkState } ∧
      (e.startCall resume).asks = 0 := by
  unfold startCall
  cases hl : e.link with
  | none => exact ⟨e.envelope, e.linkState, by simp [← hl], by cases resume <;> rfl⟩
  | some link =>
    cases hs : e.linkState with
    | none => exact ⟨e.envelope, e.linkState, by simp [← hl], by cases resume <;> rfl⟩
    | some state =>
      refine ⟨{ e.envelope with sequence := some state.take.1 }, some state.take.2, ?_, ?_⟩
      · simp [← hl]
      · cases resume <;> rfl

/-- A connection that comes while there is none is held. -/
theorem poolReady_holding (link : LinkId) (host : HostRef) (shared : Option LinkState)
    (he : Plain e) (hlink : e.link = none) (hfresh : e.responseStarted = false) :
    Holding (e.poolReady link host shared).exchange ∧
      (e.poolReady link host shared).exchange.responseStarted = false ∧
      (e.poolReady link host shared).asks = 0 := by
  unfold poolReady
  dsimp only
  rw [he.protocol, hlink]
  dsimp only
  generalize hs : shared.getD {} = state
  obtain ⟨envelope, linkState, hx, ha⟩ := startCall_eq e.pending.isSome
    { e with host := some host, pending := none, link := some link, linkState := some state }
  rw [Step.asks_andThen]
  simp only [Step.andThen]
  rw [hx, ha]
  refine ⟨?_, hfresh, ?_⟩
  · exact { upgrading := he.upgrading, protocol := he.protocol, draining := he.draining,
            underflow := he.underflow, incomplete := he.incomplete, pending := rfl, link := rfl }
  · cases shared with
    | none => rfl
    | some s => rfl

/-- No connection comes: the exchange is over, and the client gets a reply. -/
theorem poolFailure_over (reason : FailureReason) (host : Option HostRef) (now : Instant)
    (he : Plain e) (hlink : e.link = none) :
    Over (e.poolFailure reason host now).exchange ∧ (e.poolFailure reason host now).asks = 1 := by
  have hplain : Plain { e with pending := none, host } := { he with }
  obtain ⟨timed, hx⟩ := fail_exchange reason now { e with pending := none, host }
  have ha := fail_asks reason now hplain
  unfold poolFailure
  dsimp only
  rw [Step.asks_andThen, ha, emit_asks]
  refine ⟨?_, ?_⟩
  · simp only [Step.andThen, emit, hx]
    exact ⟨rfl, hlink⟩
  · split
    · rfl
    · rfl

/-! ## Octets

Octets leave the exchange where it is, or end it. The decoder is loaded just when it ended. -/

theorem completeResponse_exchange (now : Instant) (e : Exchange) :
    ∃ timed, (e.completeResponse now).exchange =
      { e with timed, responseComplete := true, link := none, linkState := none } := by
  obtain ⟨timed, h⟩ := charge_exchange now e
  refine ⟨timed, ?_⟩
  unfold completeResponse
  simp only [Step.andThen, dropLink_exchange, h]

theorem completeResponse_asks (now : Instant) (e : Exchange) :
    (e.completeResponse now).asks = 0 := by
  unfold completeResponse
  rw [Step.asks_andThen, Step.asks_andThen, charge_asks, dropLink_asks]
  rfl

/-- What a whole reply says about its host is only noted. -/
theorem replyEffects_notes (e : Exchange) (kind : Option MessageType) (success : Bool) :
    ∀ x ∈ e.replyEffects kind success, x.isNote = true := by
  have hnoted : ∀ (r : HostResult) (event : RouterEvent), (Effect.count event).isNote = true →
      ∀ x ∈ e.report r ++ [.count event], x.isNote = true := by
    intro r event hevent x hx
    rcases List.mem_append.mp hx with hx | hx
    · exact report_notes e r x hx
    · rw [List.mem_singleton.mp hx]
      exact hevent
  unfold replyEffects
  split
  · split
    · exact hnoted _ _ rfl
    · exact hnoted _ _ rfl
  · exact hnoted _ _ rfl
  · simp [Effect.isNote]

/-- A whole reply, or octets that are none, end an exchange that holds a connection; fewer octets
leave it as it is. Nothing is asked for here. -/
theorem onReply_course (status : ReplyStatus) (kind : Option MessageType) (success draining : Bool)
    (now : Instant) (he : Holding e) :
    (if status = .moreData then (e.onReply status kind success draining now).exchange = e
      else Over (e.onReply status kind success draining now).exchange) ∧
      (e.onReply status kind success draining now).asks = 0 := by
  unfold onReply
  cases status with
  | moreData => exact ⟨rfl, rfl⟩
  | complete =>
    rw [if_neg (by decide)]
    have hbase : (e.emit ([.count (.responseSize e.cluster e.responseSize)] ++
        e.replyEffects kind success)).asks = 0 := by
      rw [emit_asks, List.countP_append, Effect.countP_notes (replyEffects_notes e kind success)]
      rfl
    cases draining with
    | true =>
      simp only [if_true]
      rw [Step.asks_andThen, Step.asks_andThen, Step.asks_andThen, hbase, completeResponse_asks]
      obtain ⟨timed, hx⟩ := completeResponse_exchange now (reset { e with draining := true }).exchange
      refine ⟨?_, ?_⟩
      · simp only [Step.andThen, emit, hx]
        exact ⟨(releaseLink_over true _).pending, rfl⟩
      · rw [reset, releaseLink_asks]
        rfl
    | false =>
      simp only [Bool.false_eq_true, if_false]
      rw [Step.asks_andThen, hbase, completeResponse_asks]
      obtain ⟨timed, hx⟩ := completeResponse_exchange now e
      refine ⟨?_, rfl⟩
      simp only [Step.andThen, emit, hx]
      exact ⟨he.pending, rfl⟩
  | reset =>
    rw [if_neg (by decide), Step.asks_andThen, emit_asks, List.countP_append,
      Effect.countP_notes (report_notes e _), reset, releaseLink_asks]
    exact ⟨releaseLink_over true _, rfl⟩

end Exchange

namespace ReplyDecoder

/-- The decoder has one thing to say: a response, or why there is none. -/
def isLoaded (d : ReplyDecoder) : Bool := d.error.isSome || d.response.isSome

/-- Everything that octets can come to: no whole frame yet, something that is no reply, or a whole
reply with what is behind it left in the buffer. -/
theorem feed_cases (d : ReplyDecoder) (data : Bytes) :
    (nextFrame d.transport (d.buffer ++ data) = .ok none ∧
      d.feed data = (.moreData, { d with buffer := d.buffer ++ data })) ∨
    (∃ buffer err, nextFrame d.transport (d.buffer ++ data) ≠ .ok none ∧
      (∀ frame rest, nextFrame d.transport (d.buffer ++ data) = .ok (some (frame, rest)) →
        readReply frame = .error err) ∧
      d.feed data = (.reset, refuse { d with buffer } err)) ∨
    ∃ frame rest kind r, nextFrame d.transport (d.buffer ++ data) = .ok (some (frame, rest)) ∧
      readReply frame = .ok (kind, r) ∧
      d.feed data = (.complete, accept { d with buffer := rest } kind r) := by
  unfold feed
  dsimp only
  cases nextFrame d.transport (d.buffer ++ data) with
  | error err => exact Or.inr (Or.inl ⟨_, err, nofun, nofun, rfl⟩)
  | ok found =>
    cases found with
    | none => exact Or.inl ⟨rfl, rfl⟩
    | some split =>
      obtain ⟨frame, rest⟩ := split
      dsimp only
      cases hr : readReply frame with
      | error err =>
        refine Or.inr (Or.inl ⟨_, err, nofun, fun frame' rest' hsame => ?_, rfl⟩)
        cases hsame
        exact hr
      | ok reply => exact Or.inr (Or.inr ⟨frame, rest, reply.1, reply.2, rfl, hr, rfl⟩)

/-- Octets that make a whole reply leave a response and no error; octets that are none leave an
error; fewer octets leave neither. -/
theorem feed_course {d d' : ReplyDecoder} {data : Bytes} {status : ReplyStatus}
    (hd : d.error = none) (h : d.feed data = (status, d')) :
    (status = .moreData ∧ d'.error = none) ∨ (status ≠ .moreData ∧ d'.isLoaded = true) := by
  obtain ⟨-, hf⟩ | ⟨buffer, err, -, -, hf⟩ | ⟨frame, rest, kind, r, -, -, hf⟩ := d.feed_cases data
  · obtain ⟨rfl, rfl⟩ := Prod.mk.inj (h.symm.trans hf)
    exact Or.inl ⟨rfl, hd⟩
  · obtain ⟨rfl, rfl⟩ := Prod.mk.inj (h.symm.trans hf)
    exact Or.inr ⟨by decide, rfl⟩
  · obtain ⟨rfl, rfl⟩ := Prod.mk.inj (h.symm.trans hf)
    exact Or.inr ⟨by decide, by simp [isLoaded, accept]⟩

end ReplyDecoder

namespace Exchange

variable {e : Exchange}

/-- What is known about the decoder of an exchange that holds a connection: once octets have come,
it has found no fault. -/
def DecoderSound (e : Exchange) (d : ReplyDecoder) : Prop := e.responseStarted = true → d.error = none

/-- Octets for an exchange that holds a connection are octets of its response. -/
theorem Holding.onData_eq (he : Holding e) (d : ReplyDecoder) (data : Bytes) (now : Instant) :
    e.onData lineReplies d data false now =
      match { e with responseSize := e.responseSize + data.length }.onResponseData lineReplies d data
        now with
      | (status, d, t) => .ok (status ≠ .moreData, d, t) := by
  simp only [onData, he.incomplete, he.upgrading, Bool.false_eq_true, if_false]
  generalize onResponseData lineReplies d data now _ = r
  obtain ⟨status, d', t⟩ := r
  by_cases h : status = .moreData
  · simp [h]
  · simp [h]

/-- Octets for an exchange that holds a connection. Either it goes on holding the connection, or it
is over and its decoder has something to say. -/
theorem onData_course (d : ReplyDecoder) (data : Bytes) (now : Instant) (he : Holding e)
    (hd : DecoderSound e d) :
    ∃ isOver d' t, e.onData lineReplies d data false now = .ok (isOver, d', t) ∧ t.asks = 0 ∧
      (if isOver then Over t.exchange ∧ d'.isLoaded = true
        else Holding t.exchange ∧ DecoderSound t.exchange d') := by
  rw [he.onData_eq]
  simp only [onResponseData, lineReplies]
  generalize hstart : (if (!e.responseStarted) = true then
    ReplyDecoder.start e.transport e.protocol.kind else d) = d₀
  -- A decoder that has not failed: a new one, or the one that has been reading.
  have hclean : d₀.error = none := by
    rw [← hstart]
    cases hs : e.responseStarted with
    | true => exact hd hs
    | false => rfl
  obtain ⟨status, d', hfed⟩ : ∃ status d', d₀.feed data = (status, d') := ⟨_, _, rfl⟩
  have hfeed := ReplyDecoder.feed_course hclean hfed
  rw [hfed]
  dsimp only
  have hhold : Holding { e with responseSize := e.responseSize + data.length, responseStarted := true } :=
    { he with }
  obtain ⟨hcourse, hasks⟩ := onReply_course status d'.envelope.kind d'.success d'.envelope.draining
    now hhold
  refine ⟨_, d', _, rfl, ?_, ?_⟩
  · rw [Step.asks_andThen, hasks]
    cases e.responseStarted with
    | true => rfl
    | false => rfl
  · rcases hfeed with ⟨rfl, hclean'⟩ | ⟨hmore, hloaded⟩
    · rw [if_pos rfl] at hcourse
      simp only [Step.andThen, hcourse]
      exact ⟨hhold, fun _ => hclean'⟩
    · rw [if_neg hmore] at hcourse
      simp only [hmore, ne_eq, not_false_eq_true, decide_true, if_true, Step.andThen]
      exact ⟨hcourse, hloaded⟩

/-! ## Events

The end of the connection ends the exchange. -/

/-- Only the end of a connection is ever taken in, before the response is complete: the exchange
fails for it, lets go of the connection, and has its stream reset if the failure left the client
alone and the call was written. -/
theorem onEvent_cases {event : ConnectionEvent} {now : Instant} {t : Step}
    (h : e.onEvent event now = .ok t) : e.responseComplete = false ∧ ∃ reason : FailureReason,
      (event = .remoteClose ∧ reason = .remoteFailure ∨
        event = .localClose ∧ reason = .localFailure) ∧
      t = ((e.fail reason now).2.andThen (releaseLink false)).andThen fun x =>
        x.emit (if !(e.fail reason now).1 && x.requestComplete then [.resetStream] else []) := by
  unfold onEvent at h
  split at h
  · cases h
  · next hincomplete =>
    refine ⟨Bool.eq_false_iff.mpr hincomplete, ?_⟩
    cases event with
    | remoteClose => exact ⟨_, Or.inl ⟨rfl, rfl⟩, (Except.ok.inj h).symm⟩
    | localClose => exact ⟨_, Or.inr ⟨rfl, rfl⟩, (Except.ok.inj h).symm⟩
    | connected | connectedZeroRtt => cases h

/-- The connection of an exchange goes down: the exchange is over, and one thing is asked for. -/
theorem onEvent_course {event : ConnectionEvent} {now : Instant} {t : Step} (he : Holding e)
    (h : e.onEvent event now = .ok t) : Over t.exchange ∧ t.asks = 1 := by
  obtain ⟨-, reason, -, rfl⟩ := onEvent_cases h
  rw [Step.asks_andThen, Step.asks_andThen, fail_asks reason now he.toPlain, releaseLink_asks,
    emit_asks]
  refine ⟨releaseLink_over false _, ?_⟩
  split
  · rfl
  · rfl

/-! ## The call

Writing the call changes no phase. -/

theorem write_exchange (message : Bytes) (e : Exchange) :
    ∃ envelope, (e.write message).2.exchange = { e with envelope } := ⟨_, rfl⟩

theorem write_later (message : Bytes) (e : Exchange) :
    (e.write message).2.effects.filterMap Effect.later? = [] := by
  unfold write
  cases e.link with
  | none => rfl
  | some link => rfl

theorem exchangeFor_plain (cluster : Config.Cluster) (method : String) :
    Plain (Session.exchangeFor cluster method) where
  upgrading := rfl
  protocol := fun _ => rfl
  draining := rfl
  underflow := rfl
  incomplete := rfl

/-- Whatever a pool answers at once, the exchange waits, or holds a connection, or is over and the
client gets a reply. -/
theorem start_course (cluster : Config.Cluster) (method : String) (answer : PoolAnswer)
    (shared : Option LinkState) (now : Instant) :
    let t := ((Session.exchangeFor cluster method).start answer shared now).2
    (Waiting t.exchange ∧ t.asks = 0) ∨
      (Holding t.exchange ∧ t.exchange.responseStarted = false ∧ t.asks = 0) ∨
      (Over t.exchange ∧ t.asks = 1) := by
  have hplain := exchangeFor_plain cluster method
  cases answer with
  | pending handle =>
    refine Or.inl ⟨?_, rfl⟩
    exact { hplain with pending := rfl, link := rfl, fresh := rfl }
  | ready link host => exact Or.inr (Or.inl (poolReady_holding link host shared hplain rfl rfl))
  | failure reason host => exact Or.inr (Or.inr (poolFailure_over reason host now hplain rfl))

end Exchange

end RpcProxy

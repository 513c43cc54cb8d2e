import RpcProxy.Proofs.Exchange.ConnectionCommands

/-!
# The call of an exchange, step by step

What a step of an exchange does is known to the last effect where the call is concerned. A pool that
gives a connection makes the exchange take the next number of that connection and put the call
behind it (`poolReady_eq`); octets that make no whole reply do nothing at all (`onData_more`); those
that make one let go of the connection, closing it before unless the reply is complete and the host
wants to stay (`onData_commands`). Nothing is asked of the stream but an outcome (`AsksForOutcome`).

Elsewhere it is enough to know that a step lets go of its connection, or holds it. Here the commands
are given one by one, since the calls on a connection are numbered by its state, and a state that is
read, changed and written back in another order would give two calls one number.
-/

set_option autoImplicit false

namespace RpcProxy

/-- Whether a router asks something of its stream. -/
def RouterOp.isAsk : RouterOp → Bool
  | .ask _ => true
  | .write | .deliver _ => false

/-- Who asks for anything here asks for an outcome, too. -/
def AsksForOutcome (ops : List RouterOp) : Prop :=
  ops.any RouterOp.isAsk = true → ops.any RouterOp.isOutcome = true

theorem AsksForOutcome.nil : AsksForOutcome [] := fun h => h

theorem AsksForOutcome.append {ops more : List RouterOp} (h₁ : AsksForOutcome ops)
    (h₂ : AsksForOutcome more) :
    AsksForOutcome (ops ++ more) := by
  intro h
  rw [List.any_append, Bool.or_eq_true] at h ⊢
  exact h.imp h₁ h₂

theorem AsksForOutcome.of_outcome {op : StreamOp} (h : op.isOutcome = true) (ops : List RouterOp) :
    AsksForOutcome (.ask op :: ops) := by
  intro _
  rw [List.any_cons, Bool.or_eq_true]
  exact Or.inl h

theorem AsksForOutcome.of_own {ops : List RouterOp} (h : ops.any RouterOp.isAsk = false) :
    AsksForOutcome ops := by
  intro h'
  rw [h] at h'
  cases h'

/-- The commands by which a call begins on a connection that has a state already or has none: the
connection is taken, and so is its next number. -/
def LinkCommand.begin (link : LinkId) (shared : Option LinkState) : List LinkCommand :=
  [.attach link] ++ (if shared.isNone then [.initState link {}] else []) ++
    [.updateState link (shared.getD {}).take.2]

namespace Exchange

variable {e : Exchange} {t : Step}

theorem charge_later_commands (now : Instant) (e : Exchange) :
    (e.charge now).effects.filterMap Effect.later? = [] ∧ (e.charge now).commands = [] := by
  unfold charge
  split
  · exact ⟨rfl, rfl⟩
  · show ((e.requestCompleteAt.map _).getD []).filterMap Effect.later? = [] ∧
      ((e.requestCompleteAt.map _).getD []).filterMap Effect.command? = []
    cases e.requestCompleteAt with
    | none => exact ⟨rfl, rfl⟩
    | some at? => exact ⟨rfl, rfl⟩

/-! ## Letting go

Commands that give up a connection or a request to connect. -/

/-- Nothing is left to do behind a step and the next one if nothing is behind either. -/
theorem Step.later_andThen {f : Exchange → Step} (h₁ : t.effects.filterMap Effect.later? = [])
    (h₂ : (f t.exchange).effects.filterMap Effect.later? = []) :
    (t.andThen f).effects.filterMap Effect.later? = [] := by
  rw [Step.andThen, List.filterMap_append, h₁, h₂, List.append_nil]

theorem dropLink_later (how : Option CloseType) (e : Exchange) :
    (e.dropLink how).effects.filterMap Effect.later? = [] := by
  unfold dropLink
  cases e.link with
  | none => rfl
  | some link => cases e.host <;> cases how <;> rfl

theorem completeResponse_later (now : Instant) (e : Exchange) :
    (e.completeResponse now).effects.filterMap Effect.later? = [] :=
  Step.later_andThen (Step.later_andThen (charge_later_commands now e).1 rfl) (dropLink_later none _)

/-- The commands by which an exchange lets go of everything, closing its connection before or
not. -/
def leave (how : Option CloseType) (e : Exchange) : List LinkCommand :=
  (e.pending.map fun handle => LinkCommand.cancel handle .keep).toList ++ LinkCommand.letGo how e.link

theorem dropLink_commands (how : Option CloseType) (e : Exchange) :
    (e.dropLink how).commands = LinkCommand.letGo how e.link := by
  unfold dropLink Step.commands LinkCommand.letGo
  cases e.link with
  | none => rfl
  | some link => cases e.host <;> cases how <;> rfl

theorem releaseLink_commands (close : Bool) (e : Exchange) :
    (e.releaseLink close).commands = e.leave (if close then some .noFlush else none) := by
  have hlink : e.dropHandle.exchange.link = e.link := by
    unfold dropHandle
    cases e.pending with
    | none => rfl
    | some handle => rfl
  have hhandle : e.dropHandle.commands =
      (e.pending.map fun handle => LinkCommand.cancel handle .keep).toList := by
    unfold dropHandle
    cases e.pending with
    | none => rfl
    | some handle => rfl
  unfold releaseLink leave
  rw [Step.commands_andThen, dropLink_commands, hlink, hhandle]

theorem completeResponse_commands (now : Instant) (e : Exchange) :
    (e.completeResponse now).commands = LinkCommand.letGo none e.link := by
  have hlink : (e.charge now).exchange.link = e.link := (charge_holds now e).link
  unfold completeResponse
  rw [Step.commands_andThen, Step.commands_andThen, (charge_later_commands now e).2, dropLink_commands]
  dsimp only [Step.andThen]
  rw [hlink]
  rfl

/-! ## Failures

A failure asks for one outcome, and lets go of what there is. -/

/-- A failure asks for an outcome, or for nothing, and then the client's connection goes down. -/
theorem failureEffects_later (reason : FailureReason) (e : Exchange) :
    (∃ op : StreamOp, op.isOutcome = true ∧
      (e.failureEffects reason).filterMap Effect.later? = [.ask op]) ∨
    ((e.failureEffects reason).filterMap Effect.later? = [] ∧
      (e.failureDecision reason).closesClient = true) := by
  obtain ⟨notes, hnotes, heq⟩ := failureEffects_eq reason e
  rw [heq, List.filterMap_append, Effect.filterMap_notes Effect.later?_of_isNote hnotes,
    List.nil_append]
  cases haction : (e.failureDecision reason).action with
  | localReply close => exact Or.inl ⟨_, rfl, rfl⟩
  | resetConnection => exact Or.inl ⟨_, rfl, rfl⟩
  | nothing =>
    refine Or.inr ⟨rfl, ?_⟩
    revert haction
    unfold failureDecision ResetDecision.decide
    dsimp only
    split
    · exact fun h => nomatch h
    · split
      · exact fun h => nomatch h
      · split
        · exact fun h => nomatch h
        · exact fun _ => rfl

theorem fail_later (reason : FailureReason) (now : Instant) (e : Exchange) :
    (∃ op : StreamOp, op.isOutcome = true ∧
      (e.fail reason now).2.effects.filterMap Effect.later? = [.ask op]) ∨
    ((e.fail reason now).2.effects.filterMap Effect.later? = [] ∧ (e.fail reason now).1 = true) := by
  unfold fail
  dsimp only [Step.andThen, emit]
  rw [List.filterMap_append, (charge_later_commands now e).1, List.nil_append]
  exact failureEffects_later reason _

theorem fail_commands (reason : FailureReason) (now : Instant) (e : Exchange) :
    (e.fail reason now).2.commands = [] := by
  unfold fail
  rw [Step.commands_andThen, (charge_later_commands now e).2]
  exact failureEffects_commands reason _

/-- A pool that gives no connection makes the exchange ask for an outcome, and the router may try to
write its call in vain. -/
theorem poolFailure_later_commands (reason : FailureReason) (host : Option HostRef) (now : Instant)
    (e : Exchange) :
    AsksForOutcome ((e.poolFailure reason host now).effects.filterMap Effect.later?) ∧
      (e.poolFailure reason host now).commands = [] := by
  have hlater := fail_later reason now { e with pending := none, host }
  have hcommands := fail_commands reason now { e with pending := none, host }
  unfold poolFailure
  generalize { e with pending := none, host }.fail reason now = failed at hlater hcommands
  obtain ⟨closes, s⟩ := failed
  dsimp only at hlater hcommands ⊢
  constructor
  · simp only [Step.andThen, emit, List.filterMap_append]
    refine AsksForOutcome.append ?_ (AsksForOutcome.of_own ?_)
    · obtain ⟨op, hop, heq⟩ | ⟨heq, -⟩ := hlater
      · rw [heq]
        exact AsksForOutcome.of_outcome hop []
      · rw [heq]
        exact AsksForOutcome.nil
    · cases closes <;> rfl
  · rw [Step.commands_andThen, hcommands]
    cases closes <;> rfl

/-- The end of a connection. The reset of the stream is asked for only behind an outcome. -/
theorem onEvent_asksForOutcome {event : ConnectionEvent} {now : Instant} (h : e.onEvent event now = .ok t) :
    AsksForOutcome (t.effects.filterMap Effect.later?) := by
  obtain ⟨-, reason, -, rfl⟩ := onEvent_cases h
  simp only [Step.andThen, emit, List.filterMap_append, releaseLink_later, List.append_nil]
  obtain ⟨op, hop, heq⟩ | ⟨heq, hcloses⟩ := fail_later reason now e
  · rw [heq]
    exact AsksForOutcome.of_outcome hop _
  · rw [heq, hcloses]
    exact AsksForOutcome.nil

/-! ## Octets

A reply that is complete asks for its outcome and gives the connection back, or closes it if the
host drains or could not be understood. -/

theorem replyEffects_later (e : Exchange) (kind : Option MessageType) (success : Bool) :
    (e.replyEffects kind success).filterMap Effect.later? = [] :=
  Effect.filterMap_notes Effect.later?_of_isNote (replyEffects_notes e kind success)

theorem onReply_later (status : ReplyStatus) (kind : Option MessageType) (success draining : Bool)
    (now : Instant) (e : Exchange) :
    (e.onReply status kind success draining now).effects.filterMap Effect.later? = [] := by
  unfold onReply
  cases status with
  | moreData => rfl
  | complete =>
    have hreply : (e.emit ([.count (.responseSize e.cluster e.responseSize)] ++
        e.replyEffects kind success)).effects.filterMap Effect.later? = [] :=
      replyEffects_later e kind success
    refine Step.later_andThen ?_ (completeResponse_later now _)
    split
    · exact Step.later_andThen hreply (Step.later_andThen rfl (releaseLink_later true _))
    · exact hreply
  | reset =>
    refine Step.later_andThen ?_ (releaseLink_later true _)
    show (e.report .requestFailed ++ _).filterMap Effect.later? = []
    rw [List.filterMap_append, Effect.filterMap_notes Effect.later?_of_isNote (report_notes e _)]
    rfl

/-- What octets come to for an exchange that holds a connection: the decoder takes them, from its
start if they are the first, and the exchange takes up what the decoder makes of them. -/
theorem Holding.onData_feed (he : Holding e) {d d' : ReplyDecoder} {data : Bytes} {now : Instant}
    {status : ReplyStatus}
    (hfeed : (if e.responseStarted then d else .start e.transport e.protocol.kind).feed data =
      (status, d')) :
    e.onData lineReplies d data false now = .ok (decide (status ≠ .moreData), d',
      Step.andThen
        { exchange := { e with responseSize := e.responseSize + data.length, responseStarted := true }
          effects := if e.responseStarted then []
            else [.startResponse e.transport e.protocol.name] }
        (onReply status d'.envelope.kind d'.success d'.envelope.draining now)) := by
  rw [he.onData_eq]
  simp only [onResponseData, lineReplies]
  cases hs : e.responseStarted with
  | true =>
    rw [hs, if_pos rfl] at hfeed
    simp only [Bool.not_true, Bool.false_eq_true, if_false, if_true, hfeed]
  | false =>
    rw [hs, if_neg Bool.false_ne_true] at hfeed
    simp only [Bool.not_false, Bool.false_eq_true, if_false, if_true, hfeed]

/-- Octets leave nothing to do. -/
theorem onData_later {d d' : ReplyDecoder} {data : Bytes} {now : Instant} {isOver : Bool}
    (he : Holding e) (h : e.onData lineReplies d data false now = .ok (isOver, d', t)) :
    t.effects.filterMap Effect.later? = [] := by
  rw [he.onData_feed rfl] at h
  cases h
  refine Step.later_andThen ?_ (onReply_later ..)
  cases e.responseStarted with
  | true => rfl
  | false => rfl

/-- Once the decoder has come to something, the connection is let go of. -/
theorem onReply_commands (he : Holding e) {status : ReplyStatus} (hs : status ≠ .moreData)
    (kind : Option MessageType) (success draining : Bool) (now : Instant) :
    (e.onReply status kind success draining now).commands =
      LinkCommand.letGo (closing status draining) e.link := by
  cases status with
  | moreData => exact absurd rfl hs
  | complete =>
    have hbase : (e.emit ([.count (.responseSize e.cluster e.responseSize)] ++
        e.replyEffects kind success)).commands = [] := replyEffects_commands e kind success
    cases draining with
    | false =>
      show (Step.andThen (e.emit _) _).commands = _
      rw [Step.commands_andThen, hbase]
      exact completeResponse_commands now e
    | true =>
      let leaving : Exchange → Step := fun e => Step.andThen
        { exchange := { e with draining := true }, effects := [.count (.drainClose e.cluster)] } reset
      have hleaving : (leaving e).commands = LinkCommand.letGo (some .noFlush) e.link := by
        show (Exchange.releaseLink true { e with draining := true }).commands = _
        rw [releaseLink_commands]
        simp [leave, he.pending]
      -- The connection is closed before the reply completes, which has none left to give back.
      have hgone : (leaving e).exchange.link = none := (releaseLink_over true _).link
      show (Step.andThen (Step.andThen (e.emit _) leaving) (completeResponse now)).commands = _
      rw [Step.commands_andThen, Step.commands_andThen, hbase, completeResponse_commands]
      show [] ++ (leaving e).commands ++ LinkCommand.letGo none (leaving e).exchange.link = _
      rw [hgone, hleaving]
      simp [LinkCommand.letGo, closing]
  | reset =>
    have hbase : (e.emit (e.report .requestFailed ++ [.count (.decodingError e.label)])).commands =
        [] := by
      show (e.report .requestFailed ++ _).filterMap Effect.command? = []
      rw [List.filterMap_append, Effect.filterMap_notes Effect.command?_of_isNote (report_notes e _)]
      rfl
    show (Step.andThen (e.emit _) _).commands = _
    rw [Step.commands_andThen, hbase, List.nil_append]
    show (Exchange.releaseLink true e).commands = _
    rw [releaseLink_commands]
    simp [leave, he.pending, closing]

theorem dropLink_response (how : Option CloseType) (e : Exchange) :
    (e.dropLink how).exchange.draining = e.draining ∧
      (e.dropLink how).exchange.responseComplete = e.responseComplete := by
  unfold dropLink
  cases e.link with
  | none => exact ⟨rfl, rfl⟩
  | some link => exact ⟨rfl, rfl⟩

theorem completeResponse_response (now : Instant) (e : Exchange) :
    (e.completeResponse now).exchange.draining = e.draining ∧
      (e.completeResponse now).exchange.responseComplete = true := by
  unfold completeResponse
  dsimp only [Step.andThen]
  rw [(dropLink_response _ _).1, (dropLink_response _ _).2]
  refine ⟨?_, rfl⟩
  unfold charge
  dsimp only
  split
  · rfl
  · rfl

theorem reset_response (e : Exchange) :
    e.reset.exchange.draining = e.draining ∧
      e.reset.exchange.responseComplete = e.responseComplete := by
  unfold reset releaseLink dropHandle
  dsimp only [Step.andThen]
  rw [(dropLink_response _ _).1, (dropLink_response _ _).2]
  cases e.pending with
  | none => exact ⟨rfl, rfl⟩
  | some handle => exact ⟨rfl, rfl⟩

/-- A connection is given back as it is exactly if the response is complete and the host wants to
stay. -/
theorem closing_eq_none_iff (he : Holding e) {status : ReplyStatus} (hs : status ≠ .moreData)
    (kind : Option MessageType) (success draining : Bool) (now : Instant) :
    let t := e.onReply status kind success draining now
    closing status draining = none ↔
      t.exchange.responseComplete = true ∧ t.exchange.draining = false := by
  intro t
  cases status with
  | moreData => exact absurd rfl hs
  | complete =>
    cases draining with
    | false =>
      obtain ⟨hdraining, hcomplete⟩ := completeResponse_response now e
      exact iff_of_true rfl ⟨hcomplete, hdraining.trans he.draining⟩
    | true =>
      refine iff_of_false nofun fun hstays => ?_
      have hmark : t.exchange.draining = true :=
        (completeResponse_response now _).1.trans (reset_response _).1
      rw [hmark] at hstays
      cases hstays.2
  | reset =>
    refine iff_of_false nofun fun hdone => ?_
    have hsame : t.exchange.responseComplete = false := (reset_response e).2.trans he.incomplete
    rw [hsame] at hdone
    cases hdone.1

/-- Octets that end a response, see `onReply_commands`. -/
theorem onData_commands {d d' : ReplyDecoder} {data : Bytes} {now : Instant} (he : Holding e)
    (h : e.onData lineReplies d data false now = .ok (true, d', t)) :
    ∃ how, t.commands = LinkCommand.letGo how e.link ∧
      (how = none ↔ t.exchange.responseComplete = true ∧ t.exchange.draining = false) := by
  obtain ⟨status, d₁, hfeed⟩ : ∃ status d₁,
      (if e.responseStarted then d else .start e.transport e.protocol.kind).feed data = (status, d₁) :=
    ⟨_, _, rfl⟩
  rw [he.onData_feed hfeed] at h
  have hover : status ≠ .moreData := by
    have hstatus := congrArg (fun r => (Except.toOption r).map (·.1)) h
    simpa [Except.toOption] using hstatus
  simp only [Except.ok.injEq, Prod.mk.injEq] at h
  obtain ⟨-, rfl, rfl⟩ := h
  have hheld : Holding { e with
      responseSize := e.responseSize + data.length, responseStarted := true } := { he with }
  refine ⟨_, ?_, closing_eq_none_iff hheld hover d₁.envelope.kind d₁.success d₁.envelope.draining now⟩
  rw [Step.commands_andThen, onReply_commands hheld hover]
  cases e.responseStarted with
  | true => rfl
  | false => rfl

/-- The connection that ends is given back. -/
theorem onEvent_commands {event : ConnectionEvent} {now : Instant} (he : Holding e)
    (h : e.onEvent event now = .ok t) : t.commands = LinkCommand.letGo none e.link := by
  obtain ⟨-, reason, -, rfl⟩ := onEvent_cases h
  have hsilent : ∀ e' : Exchange, (e'.emit (if !(e.fail reason now).1 && e'.requestComplete then
      [.resetStream] else [])).commands = [] := by
    intro e'
    unfold emit Step.commands
    dsimp only
    split
    · rfl
    · rfl
  obtain ⟨timed, hfailed⟩ := fail_exchange reason now e
  rw [Step.commands_andThen, Step.commands_andThen, fail_commands, hsilent, releaseLink_commands,
    leave, hfailed]
  simp [he.pending]

/-- Octets that make no whole reply are only noted. -/
theorem onData_more {d d' : ReplyDecoder} {data : Bytes} {now : Instant} (he : Holding e)
    (h : e.onData lineReplies d data false now = .ok (false, d', t)) :
    t.commands = [] ∧ t.exchange = { e with
      responseSize := e.responseSize + data.length, responseStarted := true } := by
  obtain ⟨status, d₁, hfeed⟩ : ∃ status d₁,
      (if e.responseStarted then d else .start e.transport e.protocol.kind).feed data = (status, d₁) :=
    ⟨_, _, rfl⟩
  rw [he.onData_feed hfeed] at h
  have hmore : status = .moreData := by
    have hstatus := congrArg (fun r => (Except.toOption r).map (·.1)) h
    simpa [Except.toOption] using hstatus
  subst hmore
  cases h
  constructor
  · rw [Step.commands_andThen]
    cases e.responseStarted with
    | true => rfl
    | false => rfl
  · rfl

/-! ## The call

A call is begun with the number that its connection gives out, and is written once. -/

/-- A pool gives a connection to an exchange that has none: the exchange takes the connection and
its next number, and puts the call behind it. If it had to wait, the call is written later. -/
theorem poolReady_eq (link : LinkId) (host : HostRef) (shared : Option LinkState) (he : Plain e)
    (hlink : e.link = none) :
    e.poolReady link host shared =
      { exchange := { e with
          host := some host
          pending := none
          link := some link
          linkState := some (shared.getD {}).take.2
          envelope := { e.envelope with sequence := some (shared.getD {}).next } }
        effects := [.report host .connectSuccess, .hold host, .link (.attach link)] ++
          (if shared.isNone then [.link (.initState link {})] else []) ++
          [.startCall e.protocol.name, .link (.updateState link (shared.getD {}).take.2),
            .beginCall { e.envelope with sequence := some (shared.getD {}).next }] ++
          (if e.pending.isSome then [.resume] else []) } := by
  unfold poolReady
  dsimp only
  rw [he.protocol]
  cases shared with
  | none => simp [Step.andThen, startCall, LinkState.take, hlink]
  | some state => simp [Step.andThen, startCall, LinkState.take, hlink]

theorem poolReady_commands (link : LinkId) (host : HostRef) (shared : Option LinkState)
    (he : Plain e) (hlink : e.link = none) :
    (e.poolReady link host shared).commands = LinkCommand.begin link shared := by
  rw [poolReady_eq link host shared he hlink]
  unfold Step.commands LinkCommand.begin
  cases shared <;> cases e.pending.isSome <;> rfl

theorem poolReady_later (link : LinkId) (host : HostRef) (shared : Option LinkState) (he : Plain e)
    (hlink : e.link = none) :
    (e.poolReady link host shared).effects.filterMap Effect.later? =
      if e.pending.isSome then [.write] else [] := by
  rw [poolReady_eq link host shared he hlink]
  cases shared <;> cases e.pending.isSome <;> rfl

theorem write_commands {link : LinkId} (hlink : e.link = some link) (message : Bytes) :
    (e.write message).2.commands = [.write link (e.transport.frame message)] := by
  unfold write Step.commands
  dsimp only
  rw [hlink]
  rfl

end Exchange

end RpcProxy

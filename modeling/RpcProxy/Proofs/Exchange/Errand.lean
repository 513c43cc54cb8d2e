import RpcProxy.Proofs.Exchange.ConnectionCommands
import RpcProxy.Proofs.Host.Ejection

/-!
# The errand of an exchange

A router asks a pool for an exchange, once, and hands on the answer, once, if it did not come at
once. It writes the request and says that it is complete, it hands on octets and the end of the
connection as long as there is a connection, it gives the exchange up, and it drops it.
`Errand.leads_sound` says what holds whatever the router does, in any order.

What an exchange notes of its course is collected in its `Marks`. Nearly all of its steps leave them
alone (`Step.Quiet`). The others never take one back, and record the time of the response when they
say that it is recorded (`Step.Advances`). What the exchange holds follows how it stands with its
pool (`StandsAs`). An exchange that holds a connection is `Live`, and its response is not complete,
so nobody has to look before octets are handed on.

That the time is recorded once is not visible in the exchange, which has only a mark. So an errand
keeps what was done with the exchange, the latest first, and the mark is compared with what is
recorded there. The time itself is counted from the moment at which the request was said to be
complete, and that moment is found in the past as well; it can be said again, and then the later one
counts.

A step can fail, when octets come behind a complete response. That it never does is proved with the
rest (`Sound.takes`), and not assumed: what may be done is described by `Allows`, in terms of what a
router can see.
-/

set_option autoImplicit false

namespace RpcProxy

/-- The time of a response that an effect records, in milliseconds. -/
def Effect.millis? : Effect → Option Nat
  | .count (.responseTime _ millis) => some millis
  | _ => none

theorem Effect.millis?_of_isNote (x : Effect) (h : x.isNote = true) : x.millis? = none := by
  cases x with
  | count event => cases event <;> first | rfl | cases h
  | _ => rfl

namespace Exchange

/-! ## What a router does

The operations on an exchange that are allowed at a time, and the record of what was done. An order
of calls that no router makes is excluded here, and nothing else is. -/

/-- How an exchange stands with its pool. -/
inductive Ask where
  | unasked
  /-- It was asked, and its answer is still to come. -/
  | waiting
  | answered
deriving DecidableEq, Repr

/-- How an exchange stands with its pool after something is done with it. -/
def Ask.after (ask : Ask) : ExchangeOp → Ask
  | .start (.pending _) => .waiting
  | .start (.ready _ _) | .start (.failure _ _) | .ready _ _ | .failure _ _ => .answered
  | _ => ask

/-- Something that was done with an exchange. -/
structure Moment where
  time : Instant
  op : ExchangeOp
  effects : List Effect

/-- The times of responses that were recorded, in milliseconds. -/
def Moment.millis (m : Moment) : List Nat := m.effects.filterMap Effect.millis?

/-- When it was said that the request is complete, for the last time, the latest moment being
first. -/
def requestEnd (past : List Moment) : Option Instant :=
  (past.find? fun m => m.op == .completeRequest).map Moment.time

structure Errand where
  exchange : Exchange
  ask : Ask := .unasked
  /-- What was done, the latest first. -/
  past : List Moment := []

namespace Errand

/-- What a router may do with an exchange, going by how it stands with its pool and whether it has a
connection. What an exchange does by itself is not for a router to do. -/
def Allows (v : Errand) : ExchangeOp → Prop
  | .start _ => v.ask = .unasked
  | .ready _ _ | .failure _ _ => v.ask = .waiting
  | .write _ | .completeRequest | .reset | .drop => True
  | .data _ _ | .event .remoteClose | .event .localClose => v.exchange.link.isSome
  | .event .connected | .event .connectedZeroRtt => False
  | .completeResponse | .charge | .fail _ | .release _ => False

/-- The errand after something is done with the exchange. -/
def next (v : Errand) (now : Instant) (op : ExchangeOp) (t : Step) : Errand where
  exchange := t.exchange
  ask := v.ask.after op
  past := { time := now, op, effects := t.effects } :: v.past

/-- The errand of a new exchange. -/
def new (cluster : String) (transport : Config.Transport) (protocol : Protocol) (closeOnError : Bool)
    (envelope : Envelope) : Errand :=
  { exchange := { cluster, transport, protocol, closeOnError, envelope } }

/-- What may become of an errand. Decoder, states of connections and the time are as they may be
each time; the time need not even go forward. So nothing that is proved of it depends on what octets
mean. -/
inductive Leads {δ : Type} (dec : Decoding δ) (v : Errand) : Errand → Prop
  | refl : Leads dec v v
  | step {w : Errand} (h : Leads dec v w) (op : ExchangeOp) (d : δ)
      (shared : LinkId → Option LinkState) (now : Instant) {answer : ExchangeAnswer} {d' : δ}
      {t : Step} (hallows : w.Allows op)
      (hstep : w.exchange.step dec d shared now op = .ok (answer, d', t)) :
      Leads dec v (w.next now op t)

end Errand

/-! ## Marks

Some marks are set once and stay; others belong to the request. A step either leaves the time of the
response alone or records it, together with its mark. -/

/-- What an exchange notes of its course. -/
structure Marks where
  requestComplete : Bool
  requestCompleteAt : Option Instant
  responseStarted : Bool
  responseComplete : Bool
  draining : Bool
  underflow : Bool
  timed : Bool

/-- What an exchange has noted of its course. -/
def marks (e : Exchange) : Marks where
  requestComplete := e.requestComplete
  requestCompleteAt := e.requestCompleteAt
  responseStarted := e.responseStarted
  responseComplete := e.responseComplete
  draining := e.draining
  underflow := e.underflow
  timed := e.timed

/-- No mark is taken back. -/
structure Marks.Kept (m m' : Marks) : Prop where
  requestComplete : m.requestComplete = true → m'.requestComplete = true
  responseStarted : m.responseStarted = true → m'.responseStarted = true
  responseComplete : m.responseComplete = true → m'.responseComplete = true
  draining : m.draining = true → m'.draining = true
  underflow : m.underflow = true → m'.underflow = true
  timed : m.timed = true → m'.timed = true

theorem Marks.Kept.refl (m : Marks) : m.Kept m := ⟨id, id, id, id, id, id⟩

theorem Marks.Kept.trans {m₁ m₂ m₃ : Marks} (h₁ : m₁.Kept m₂) (h₂ : m₂.Kept m₃) : m₁.Kept m₃ where
  requestComplete h := h₂.requestComplete (h₁.requestComplete h)
  responseStarted h := h₂.responseStarted (h₁.responseStarted h)
  responseComplete h := h₂.responseComplete (h₁.responseComplete h)
  draining h := h₂.draining (h₁.draining h)
  underflow h := h₂.underflow (h₁.underflow h)
  timed h := h₂.timed (h₁.timed h)

/-- The times of responses that a step records, in milliseconds. -/
def Step.millis (t : Step) : List Nat := t.effects.filterMap Effect.millis?

/-- A step that leaves all marks alone, and records nothing. -/
structure Step.Quiet (e : Exchange) (t : Step) : Prop where
  marks : t.exchange.marks = e.marks
  millis : t.millis = []

/-- What a step records at a time: nothing, or the time of the response, which is marked then and
was not before. Nothing is recorded of a response that comes before its request is complete. -/
inductive Step.Clocks (now : Instant) (m m' : Marks) : List Nat → Prop
  | nothing (timed : m'.timed = m.timed) : Clocks now m m' []
  | once (before : m.timed = false) (after : m'.timed = true) (complete : m.requestComplete = true) :
      Clocks now m m' (m.requestCompleteAt.map fun since => (now - since) / milli).toList

/-- A step that takes no mark back, leaves those of the request alone, and records the time of the
response when it is marked. -/
structure Step.Advances (now : Instant) (e : Exchange) (t : Step) : Prop where
  /-- No mark is taken back. -/
  kept : e.marks.Kept t.exchange.marks
  /-- The request is complete if it was. -/
  requestComplete : t.exchange.requestComplete = e.requestComplete
  /-- It was completed when it was. -/
  requestCompleteAt : t.exchange.requestCompleteAt = e.requestCompleteAt
  /-- The time of the response is recorded with its mark, and only then. -/
  clock : Step.Clocks now e.marks t.exchange.marks t.millis

variable {e : Exchange} {t : Step} {now : Instant}

theorem Step.millis_andThen (t : Step) (f : Exchange → Step) :
    (t.andThen f).millis = t.millis ++ (f t.exchange).millis := by
  simp only [Step.millis, Step.andThen, List.filterMap_append]

theorem Step.Quiet.andThen {f : Exchange → Step} (h₁ : t.Quiet e)
    (h₂ : (f t.exchange).Quiet t.exchange) : (t.andThen f).Quiet e where
  marks := h₂.marks.trans h₁.marks
  millis := by rw [Step.millis_andThen, h₁.millis, h₂.millis, List.append_nil]

theorem Step.Quiet.advances (h : t.Quiet e) : t.Advances now e where
  kept := h.marks ▸ .refl _
  requestComplete := congrArg Marks.requestComplete h.marks
  requestCompleteAt := congrArg Marks.requestCompleteAt h.marks
  clock := h.millis ▸ .nothing (congrArg Marks.timed h.marks)

theorem Step.Advances.andThen {f : Exchange → Step} (h₁ : t.Advances now e)
    (h₂ : (f t.exchange).Advances now t.exchange) : (t.andThen f).Advances now e where
  kept := h₁.kept.trans h₂.kept
  requestComplete := h₂.requestComplete.trans h₁.requestComplete
  requestCompleteAt := h₂.requestCompleteAt.trans h₁.requestCompleteAt
  clock := by
    have hc₁ := h₁.clock
    have hc₂ := h₂.clock
    have hat : t.exchange.marks.requestCompleteAt = e.marks.requestCompleteAt := h₁.requestCompleteAt
    have hcomplete : t.exchange.marks.requestComplete = e.marks.requestComplete := h₁.requestComplete
    rw [Step.millis_andThen]
    generalize t.millis = first at hc₁
    generalize (f t.exchange).millis = second at hc₂
    -- The time of a request is recorded by the first step or by the second, and never by both.
    cases hc₁ with
    | nothing same =>
      cases hc₂ with
      | nothing same' => exact .nothing (same'.trans same)
      | once before after complete =>
        rw [hat]
        exact .once (same.symm.trans before) after (hcomplete.symm.trans complete)
    | once before after complete =>
      cases hc₂ with
      | nothing same =>
        rw [List.append_nil]
        exact .once before (same.trans after) complete
      | once before' => cases after.symm.trans before'

theorem Step.Advances.congr {e' : Exchange} (h : t.Advances now e') (he : e'.marks = e.marks) :
    t.Advances now e where
  kept := he ▸ h.kept
  requestComplete := h.requestComplete.trans (congrArg Marks.requestComplete he)
  requestCompleteAt := h.requestCompleteAt.trans (congrArg Marks.requestCompleteAt he)
  clock := he ▸ h.clock

/-! ## Quiet steps

Steps that set no mark of the response. -/

theorem emit_quiet {effects : List Effect} (h : effects.filterMap Effect.millis? = []) :
    (e.emit effects).Quiet e := ⟨rfl, h⟩

theorem dropHandle_quiet (e : Exchange) : e.dropHandle.Quiet e := by
  refine ⟨by rw [dropHandle_exchange]; rfl, ?_⟩
  unfold dropHandle
  cases e.pending <;> rfl

theorem dropLink_quiet (how : Option CloseType) (e : Exchange) : (e.dropLink how).Quiet e := by
  refine ⟨by rw [dropLink_exchange]; rfl, ?_⟩
  unfold dropLink
  cases e.link with
  | none => rfl
  | some link => cases e.host <;> cases how <;> rfl

theorem releaseLink_quiet (close : Bool) (e : Exchange) : (e.releaseLink close).Quiet e :=
  (dropHandle_quiet e).andThen (dropLink_quiet _ _)

theorem startCall_quiet (resume : Bool) (e : Exchange) : (e.startCall resume).Quiet e := by
  unfold startCall
  cases e.link with
  | none => cases resume <;> exact ⟨rfl, rfl⟩
  | some link => cases e.linkState <;> cases resume <;> exact ⟨rfl, rfl⟩

theorem write_quiet (message : Bytes) (e : Exchange) : (e.write message).2.Quiet e := by
  refine ⟨rfl, ?_⟩
  unfold write
  cases e.link <;> rfl

theorem poolReady_quiet (link : LinkId) (host : HostRef) (shared : Option LinkState) (e : Exchange) :
    (e.poolReady link host shared).Quiet e := by
  unfold poolReady
  dsimp only
  cases e.protocol.attempt (shared.getD {}) with
  | none =>
    refine Step.Quiet.andThen ⟨rfl, ?_⟩ (startCall_quiet _ _)
    cases shared <;> cases e.link <;> rfl
  | some upgrade =>
    refine Step.Quiet.andThen ⟨rfl, ?_⟩ ⟨rfl, rfl⟩
    cases shared <;> cases e.link <;> rfl

/-! ## Steps that make a mark

A response that is complete is marked, and so is a failure; the time goes with the mark, unless it
was recorded before or the request was not complete. -/

theorem charge_advances (now : Instant) (e : Exchange) : (e.charge now).Advances now e := by
  unfold charge
  split
  · exact Step.Quiet.advances ⟨rfl, rfl⟩
  · next hopen =>
    obtain ⟨htimed, hcomplete⟩ : e.timed = false ∧ e.requestComplete = true := by simpa using hopen
    have hmillis : Step.millis
        { exchange := { e with timed := true }
          effects := (e.requestCompleteAt.map fun since =>
            [Effect.count (.responseTime e.label ((now - since) / milli))]).getD [] } =
          (e.marks.requestCompleteAt.map fun since => (now - since) / milli).toList := by
      unfold Step.millis marks
      cases e.requestCompleteAt <;> rfl
    exact ⟨{ Marks.Kept.refl _ with timed := fun _ => rfl }, rfl, rfl,
      hmillis ▸ .once htimed rfl hcomplete⟩

theorem failureEffects_millis (reason : FailureReason) (e : Exchange) :
    (e.failureEffects reason).filterMap Effect.millis? = [] := by
  obtain ⟨notes, hnotes, heq⟩ := failureEffects_eq reason e
  rw [heq, List.filterMap_append, Effect.filterMap_notes Effect.millis?_of_isNote hnotes]
  cases (e.failureDecision reason).action <;> rfl

theorem fail_advances (reason : FailureReason) (now : Instant) (e : Exchange) :
    (e.fail reason now).2.Advances now e :=
  (charge_advances now e).andThen (emit_quiet (failureEffects_millis reason _)).advances

theorem poolFailure_advances (reason : FailureReason) (host : Option HostRef) (now : Instant)
    (e : Exchange) : (e.poolFailure reason host now).Advances now e := by
  have hfailed := fail_advances reason now { e with pending := none, host }
  refine Step.Advances.congr (hfailed.andThen (emit_quiet ?_).advances) rfl
  split <;> rfl

theorem completeResponse_advances (now : Instant) (e : Exchange) :
    (e.completeResponse now).Advances now e := by
  refine ((charge_advances now e).andThen ?_).andThen (dropLink_quiet none _).advances
  exact ⟨{ Marks.Kept.refl _ with responseComplete := fun _ => rfl }, rfl, rfl, .nothing rfl⟩

/-! ## What an exchange holds

An exchange holds a request to the pool, a connection, or neither. As soon as it is settled it waits
for nothing any more. -/

/-- The response has not ended. -/
structure Going (e : Exchange) : Prop where
  responseComplete : e.responseComplete = false
  draining : e.draining = false
  underflow : e.underflow = false

/-- The pool has not answered, and the response has not ended. -/
structure Fresh (e : Exchange) : Prop extends Going e where
  link : e.link = none

/-- The pool has answered, and the response has not ended. -/
structure Live (e : Exchange) : Prop extends Going e where
  pending : e.pending = none

/-- Behind a complete response nothing of the connection is kept, and a response is complete if the
host asked to leave with it or ended it too early. This fails in the middle of a step, where one is
said before the other. -/
structure Coherent (e : Exchange) : Prop where
  complete : e.responseComplete = true → e.link = none ∧ e.linkState = none
  draining : e.draining = true → e.responseStarted = true ∧ e.responseComplete = true
  underflow : e.underflow = true → e.responseComplete = true

/-- The pool has answered, whether the response has ended or not. -/
structure Settled (e : Exchange) : Prop extends Coherent e where
  pending : e.pending = none

theorem Going.congr {e' : Exchange} (h : Going e) (he : e'.marks = e.marks) : Going e' where
  responseComplete := (congrArg Marks.responseComplete he).trans h.responseComplete
  draining := (congrArg Marks.draining he).trans h.draining
  underflow := (congrArg Marks.underflow he).trans h.underflow

theorem Going.coherent (h : Going e) : Coherent e where
  complete hcomplete := absurd (h.responseComplete.symm.trans hcomplete) Bool.false_ne_true
  draining hdraining := absurd (h.draining.symm.trans hdraining) Bool.false_ne_true
  underflow hunderflow := absurd (h.underflow.symm.trans hunderflow) Bool.false_ne_true

theorem Live.settled (h : Live e) : Settled e := { h.coherent with pending := h.pending }

/-- Who holds a connection has a response that is not complete, and so is live. -/
theorem Settled.live (h : Settled e) (hlink : e.link.isSome) : Live e := by
  have hcomplete : e.responseComplete = false := by
    refine Bool.eq_false_iff.mpr fun hcomplete => ?_
    rw [(h.complete hcomplete).1] at hlink
    cases hlink
  exact {
    pending := h.pending
    responseComplete := hcomplete
    draining := Bool.eq_false_iff.mpr fun hdraining =>
      absurd (hcomplete.symm.trans (h.draining hdraining).2) Bool.false_ne_true
    underflow := Bool.eq_false_iff.mpr fun hunderflow =>
      absurd (hcomplete.symm.trans (h.underflow hunderflow)) Bool.false_ne_true }

theorem Settled.fail (h : Settled e) (reason : FailureReason) (now : Instant) :
    Settled (e.fail reason now).2.exchange := by
  obtain ⟨timed, hx⟩ := fail_exchange reason now e
  rw [hx]
  exact { h with }

theorem Settled.releaseLink (h : Settled e) (close : Bool) :
    Settled (e.releaseLink close).exchange := by
  rw [releaseLink_exchange]
  exact { h with pending := rfl, complete := fun _ => ⟨rfl, rfl⟩ }

theorem completeResponse_complete (now : Instant) (e : Exchange) :
    (e.completeResponse now).exchange.responseComplete = true := by
  obtain ⟨timed, hx⟩ := completeResponse_exchange now e
  rw [hx]

/-- A response that is complete: the host asked to leave only if it answered. -/
theorem completeResponse_settled (now : Instant) (hpending : e.pending = none)
    (hdraining : e.draining = true → e.responseStarted = true) :
    Settled (e.completeResponse now).exchange := by
  obtain ⟨timed, hx⟩ := completeResponse_exchange now e
  rw [hx]
  exact {
    pending := hpending
    complete := fun _ => ⟨rfl, rfl⟩
    draining := fun h => ⟨hdraining h, rfl⟩
    underflow := fun _ => rfl }

/-! ## Octets and events

What is read ends the exchange or leaves it going. Octets can be the last of their connection, which
ends an exchange that is not complete. -/

/-- A step on the way of a live exchange. -/
structure Step.Goes (now : Instant) (e : Exchange) (t : Step) : Prop extends t.Advances now e where
  live : Live e → Live t.exchange

/-- A step by which a live exchange may end. -/
structure Step.Ends (now : Instant) (e : Exchange) (t : Step) : Prop extends t.Advances now e where
  settled : Live e → Settled t.exchange

theorem Step.Goes.ends (h : t.Goes now e) : t.Ends now e :=
  { h with settled := fun he => (h.live he).settled }

theorem Step.Goes.andThen {f : Exchange → Step} (h₁ : t.Goes now e)
    (h₂ : (f t.exchange).Goes now t.exchange) : (t.andThen f).Goes now e :=
  { h₁.toAdvances.andThen h₂.toAdvances with live := fun he => h₂.live (h₁.live he) }

theorem Step.Goes.andEnds {f : Exchange → Step} (h₁ : t.Goes now e)
    (h₂ : (f t.exchange).Ends now t.exchange) : (t.andThen f).Ends now e :=
  { h₁.toAdvances.andThen h₂.toAdvances with settled := fun he => h₂.settled (h₁.live he) }

theorem onUpgradeData_goes (upgrade : Upgrade) (sofar data : Bytes) (now : Instant) (e : Exchange) :
    (e.onUpgradeData upgrade sofar data).Goes now e := by
  unfold onUpgradeData
  dsimp only
  split
  · refine ⟨(Step.Quiet.andThen ?_ (startCall_quiet true _)).advances, fun he => ?_⟩
    · refine ⟨rfl, ?_⟩
      cases e.link <;> cases e.linkState <;> rfl
    · obtain ⟨envelope, linkState, hx, -⟩ := startCall_eq true
        { e with
          upgrading := none, linkState := e.linkState.map fun s => { s with upgraded := true } }
      show Live (startCall true _).exchange
      rw [hx]
      exact { he with }
  · exact { Step.Quiet.advances ⟨rfl, rfl⟩ with live := fun he => { he with } }

theorem replyEffects_millis (e : Exchange) (kind : Option MessageType) (success : Bool) :
    (e.replyEffects kind success).filterMap Effect.millis? = [] :=
  Effect.filterMap_notes Effect.millis?_of_isNote (replyEffects_notes e kind success)

/-- The reply of a host that asks to leave: the connection is closed before the response is
complete. -/
theorem drain_advances (now : Instant) (e : Exchange) :
    (Step.andThen { exchange := { e with draining := true }, effects := [.count (.drainClose e.cluster)] }
      reset).Advances now e := by
  refine Step.Advances.andThen ?_ (releaseLink_quiet true _).advances
  exact ⟨{ Marks.Kept.refl _ with draining := fun _ => rfl }, rfl, rfl, .nothing rfl⟩

/-- What the decoder has come to may end a response that has begun. -/
theorem onReply_ends (status : ReplyStatus) (kind : Option MessageType) (success draining : Bool)
    (now : Instant) (hstarted : e.responseStarted = true) :
    (e.onReply status kind success draining now).Ends now e := by
  unfold onReply
  cases status with
  | moreData => exact { Step.Quiet.advances ⟨rfl, rfl⟩ with settled := Live.settled }
  | complete =>
    -- Counting and reporting come first and settle nothing.
    have hbase : (e.emit ([.count (.responseSize e.cluster e.responseSize)] ++
        e.replyEffects kind success)).Quiet e :=
      emit_quiet (by rw [List.filterMap_append, replyEffects_millis]; rfl)
    cases draining with
    | false =>
      refine { hbase.advances.andThen (completeResponse_advances now _) with settled := fun he => ?_ }
      exact completeResponse_settled now he.pending fun _ => hstarted
    | true =>
      simp only [if_true]
      refine ⟨(hbase.advances.andThen (drain_advances now e)).andThen
        (completeResponse_advances now _), fun _ => ?_⟩
      refine completeResponse_settled now (releaseLink_over true _).pending fun _ => ?_
      simp only [Step.andThen, reset, releaseLink_exchange]
      exact hstarted
  | reset =>
    have hbase : (e.emit (e.report .requestFailed ++ [.count (.decodingError e.label)])).Quiet e :=
      emit_quiet (by rw [List.filterMap_append, Effect.filterMap_notes Effect.millis?_of_isNote
        (report_notes e _)]; rfl)
    refine { (hbase.andThen (releaseLink_quiet true _)).advances with settled := fun he => ?_ }
    exact he.settled.releaseLink true

theorem underflow_advances (reason : FailureReason) (now : Instant) (e : Exchange) :
    ({ e with underflow := true }.fail reason now).2.Advances now e := by
  have hmark : Step.Advances now e { exchange := { e with underflow := true } } :=
    ⟨{ Marks.Kept.refl _ with underflow := fun _ => rfl }, rfl, rfl, .nothing rfl⟩
  exact hmark.andThen (f := fun e => (e.fail reason now).2) (fail_advances reason now _)

/-- A connection that ends in the middle of a response completes it first. -/
theorem onUnderflow_ends (now : Instant) (e : Exchange) : (e.onUnderflow now).Ends now e := by
  unfold onUnderflow
  refine ⟨(completeResponse_advances now e).andThen (underflow_advances _ now _), fun he => ?_⟩
  have hsettled : Settled (e.completeResponse now).exchange :=
    completeResponse_settled now he.pending fun hdraining =>
      absurd (he.draining.symm.trans hdraining) Bool.false_ne_true
  have hmarked : Settled { (e.completeResponse now).exchange with underflow := true } :=
    { hsettled with underflow := fun _ => completeResponse_complete now e }
  exact hmarked.fail .remoteFailure now

theorem startResponse_goes (now : Instant) (e : Exchange) :
    Step.Goes now e
      { exchange := { e with responseStarted := true }
        effects := if !e.responseStarted then [.startResponse e.transport e.protocol.name] else [] } := by
  refine ⟨⟨{ Marks.Kept.refl _ with responseStarted := fun _ => rfl }, rfl, rfl, ?_⟩,
    fun he => { he with }⟩
  cases e.responseStarted <;> exact .nothing rfl

/-- Octets of a response may end it, unless more are awaited. -/
theorem onResponseData_ends {δ : Type} (dec : Decoding δ) (d : δ) (data : Bytes) (now : Instant)
    (e : Exchange) :
    let (status, _, t) := e.onResponseData dec d data now
    t.Ends now e ∧ (status = .moreData → t.Goes now e) := by
  unfold onResponseData
  dsimp only
  refine ⟨(startResponse_goes now e).andEnds (onReply_ends _ _ _ _ now rfl), fun hmore => ?_⟩
  rw [hmore]
  exact (startResponse_goes now e).andThen ⟨Step.Quiet.advances ⟨rfl, rfl⟩, id⟩

/-- The last octets end a response that awaits more. -/
theorem last_ends {δ : Type} {d d' : δ} {last isOver : Bool} {status : ReplyStatus} {s : Step}
    (hends : s.Ends now e) (hgoes : status = .moreData → s.Goes now e)
    (h : (if status ≠ .moreData then .ok (true, d, s)
      else if last then .ok (true, d, s.andThen (onUnderflow now))
      else .ok (false, d, s) : Except Panic (Bool × δ × Step)) = .ok (isOver, d', t)) :
    t.Ends now e := by
  split at h
  · cases h
    exact hends
  · next hmore =>
    have hgoes := hgoes (Decidable.not_not.mp hmore)
    split at h
    · cases h
      exact hgoes.andEnds (onUnderflow_ends now _)
    · cases h
      exact hgoes.ends

/-- Octets may end a live exchange. -/
theorem onData_ends {δ : Type} {dec : Decoding δ} {d d' : δ} {data : Bytes} {last isOver : Bool}
    (h : e.onData dec d data last now = .ok (isOver, d', t)) : t.Ends now e := by
  unfold onData at h
  split at h
  · cases h
  · have hends : t.Ends now { e with responseSize := e.responseSize + data.length } := by
      generalize ({ e with responseSize := e.responseSize + data.length } : Exchange) = x at h ⊢
      dsimp only at h
      split at h
      · next upgrade sofar _ =>
        have hgoes := onUpgradeData_goes upgrade sofar data now x
        exact last_ends hgoes.ends (fun _ => hgoes) h
      · obtain ⟨hends, hgoes⟩ := onResponseData_ends dec d data now x
        exact last_ends hends hgoes h
    exact ⟨hends.toAdvances.congr rfl, fun he => hends.settled { he with }⟩

/-- The end of the connection ends a live exchange. -/
theorem onEvent_ends {event : ConnectionEvent} (h : e.onEvent event now = .ok t) : t.Ends now e := by
  obtain ⟨-, reason, -, rfl⟩ := onEvent_cases h
  refine ⟨((fail_advances reason now e).andThen (releaseLink_quiet false _).advances).andThen
    (emit_quiet ?_).advances, fun he => (he.settled.fail reason now).releaseLink false⟩
  split <;> rfl

/-! ## The pool answers

A connection, or a failure. -/

theorem poolReady_live (link : LinkId) (host : HostRef) (shared : Option LinkState) (he : Going e) :
    Live (e.poolReady link host shared).exchange := by
  refine ⟨he.congr (poolReady_quiet link host shared e).marks, ?_⟩
  unfold poolReady
  dsimp only
  cases e.protocol.attempt (shared.getD {}) with
  | none =>
    simp only [Step.andThen]
    obtain ⟨envelope, linkState, hx, -⟩ := startCall_eq e.pending.isSome
      { e with
        host := some host, pending := none, link := some link, linkState := some (shared.getD {}) }
    rw [hx]
  | some upgrade => rfl

theorem poolFailure_live (reason : FailureReason) (host : Option HostRef) (now : Instant)
    (he : Going e) : Live (e.poolFailure reason host now).exchange := by
  obtain ⟨timed, hx⟩ := poolFailure_exchange reason host now e
  rw [hx]
  exact { he with pending := rfl }

/-! ## One step

All operations together. -/

section

variable {δ : Type} {dec : Decoding δ} {d d' : δ} {shared : LinkId → Option LinkState} {op : ExchangeOp}
  {answer : ExchangeAnswer}

theorem step_event {event : ConnectionEvent}
    (h : e.step dec d shared now (.event event) = .ok (answer, d', t)) :
    e.onEvent event now = .ok t := by
  simp only [step] at h
  cases he : e.onEvent event now with
  | error p =>
    rw [he] at h
    cases h
  | ok t₁ =>
    rw [he] at h
    cases h
    rfl

/-- The end of a connection is taken as long as the response is not complete. -/
theorem exists_step_event (dec : Decoding δ) (d : δ) (shared : LinkId → Option LinkState)
    (now : Instant) {event : ConnectionEvent} (hevent : event = .remoteClose ∨ event = .localClose)
    (h : e.responseComplete = false) : ∃ r, e.step dec d shared now (.event event) = .ok r := by
  rcases hevent with rfl | rfl <;> simp [step, onEvent, h, Except.map]

theorem start_advances (answer : PoolAnswer) (shared : Option LinkState) (now : Instant)
    (e : Exchange) : (e.start answer shared now).2.Advances now e := by
  cases answer with
  | pending handle => exact Step.Quiet.advances ⟨rfl, rfl⟩
  | ready link host => exact (poolReady_quiet link host shared e).advances
  | failure reason host => exact poolFailure_advances reason host now e

/-- Whatever is done with an exchange, but that the request is said to be complete. -/
theorem step_advances (hop : op ≠ .completeRequest)
    (h : e.step dec d shared now op = .ok (answer, d', t)) : t.Advances now e := by
  cases op with
  | start answer =>
    cases h
    exact start_advances answer _ now e
  | ready link host =>
    cases h
    exact (poolReady_quiet link host _ e).advances
  | failure reason host =>
    cases h
    exact poolFailure_advances reason host now e
  | write message =>
    cases h
    exact (write_quiet message e).advances
  | completeRequest => exact absurd rfl hop
  | completeResponse =>
    cases h
    exact completeResponse_advances now e
  | charge =>
    cases h
    exact charge_advances now e
  | data octets last =>
    obtain ⟨isOver, -, hdata⟩ := step_data h
    exact (onData_ends hdata).toAdvances
  | event event => exact (onEvent_ends (step_event h)).toAdvances
  | fail reason =>
    cases h
    exact fail_advances reason now e
  | release close =>
    cases h
    exact (releaseLink_quiet close e).advances
  | reset =>
    cases h
    exact (releaseLink_quiet true e).advances
  | drop =>
    cases h
    exact (releaseLink_quiet false e).advances

theorem step_kept (h : e.step dec d shared now op = .ok (answer, d', t)) :
    e.marks.Kept t.exchange.marks := by
  by_cases hop : op = .completeRequest
  · subst hop
    cases h
    exact { Marks.Kept.refl _ with requestComplete := fun _ => rfl }
  · exact (step_advances hop h).kept

end

/-! ## What an exchange holds, by how it stands with its pool

The invariant follows what was asked of the pool: nothing, an answer that is awaited, an answer that
came. -/

/-- What an exchange holds, by how it stands with its pool. Before the answer it holds nothing, so
the answer is all that can bring it a connection. -/
inductive StandsAs : Ask → Exchange → Prop
  | unasked {e : Exchange} (fresh : Fresh e) (pending : e.pending = none) : StandsAs .unasked e
  | waiting {e : Exchange} (fresh : Fresh e) : StandsAs .waiting e
  | answered {e : Exchange} (settled : Settled e) : StandsAs .answered e

variable {ask : Ask}

/-- Who holds a connection has got it from the pool, and is live. -/
theorem StandsAs.live (h : StandsAs ask e) (hlink : e.link.isSome) : ask = .answered ∧ Live e := by
  cases h with
  | unasked fresh | waiting fresh =>
    rw [fresh.link] at hlink
    cases hlink
  | answered settled => exact ⟨rfl, settled.live hlink⟩

theorem StandsAs.coherent (h : StandsAs ask e) : Coherent e := by
  cases h with
  | unasked fresh | waiting fresh => exact fresh.coherent
  | answered settled => exact settled.toCoherent

/-- Nobody who holds a connection waits for one. -/
theorem StandsAs.single (h : StandsAs ask e) : e.pending = none ∨ e.link = none := by
  cases h with
  | unasked fresh | waiting fresh => exact .inr fresh.link
  | answered settled => exact .inl settled.pending

/-- What is written and said of the request makes no difference. -/
theorem StandsAs.request (h : StandsAs ask e) (envelope : Envelope) (requestComplete : Bool)
    (requestCompleteAt : Option Instant) :
    StandsAs ask { e with envelope, requestComplete, requestCompleteAt } := by
  cases h with
  | unasked fresh pending => exact .unasked { fresh with } pending
  | waiting fresh => exact .waiting { fresh with }
  | answered settled => exact .answered { settled with }

theorem StandsAs.releaseLink (h : StandsAs ask e) (close : Bool) :
    StandsAs ask (e.releaseLink close).exchange := by
  cases h with
  | unasked fresh =>
    rw [releaseLink_exchange]
    exact .unasked { fresh with link := rfl } rfl
  | waiting fresh =>
    rw [releaseLink_exchange]
    exact .waiting { fresh with link := rfl }
  | answered settled => exact .answered (settled.releaseLink close)

theorem StandsAs.step {δ : Type} {dec : Decoding δ} {d d' : δ} {shared : LinkId → Option LinkState}
    {op : ExchangeOp} {answer : ExchangeAnswer} {v : Errand} (hfits : StandsAs v.ask v.exchange)
    (hallows : v.Allows op) (h : v.exchange.step dec d shared now op = .ok (answer, d', t)) :
    StandsAs (v.ask.after op) t.exchange := by
  obtain ⟨e, ask, past⟩ := v
  cases op with
  | start answer =>
    cases h
    obtain rfl : ask = .unasked := hallows
    cases hfits with
    | unasked fresh pending =>
      cases answer with
      | pending handle => exact .waiting { fresh with }
      | ready link host => exact .answered (poolReady_live link host _ fresh.toGoing).settled
      | failure reason host => exact .answered (poolFailure_live reason host now fresh.toGoing).settled
  | ready link host =>
    cases h
    obtain rfl : ask = .waiting := hallows
    cases hfits with
    | waiting fresh => exact .answered (poolReady_live link host _ fresh.toGoing).settled
  | failure reason host =>
    cases h
    obtain rfl : ask = .waiting := hallows
    cases hfits with
    | waiting fresh => exact .answered (poolFailure_live reason host now fresh.toGoing).settled
  | write message =>
    cases h
    exact hfits.request _ e.requestComplete e.requestCompleteAt
  | completeRequest =>
    cases h
    exact hfits.request e.envelope true (some now)
  | data octets last =>
    obtain ⟨rfl, hlive⟩ := hfits.live hallows
    obtain ⟨isOver, -, hdata⟩ := step_data h
    exact .answered ((onData_ends hdata).settled hlive)
  | event event =>
    -- Only an end can be told of a connection, and the call must hold it for that.
    have hlink : e.link.isSome := by
      cases event with
      | remoteClose | localClose => exact hallows
      | connected | connectedZeroRtt => exact hallows.elim
    obtain ⟨rfl, hlive⟩ := hfits.live hlink
    exact .answered ((onEvent_ends (step_event h)).settled hlive)
  | reset =>
    cases h
    exact hfits.releaseLink true
  | drop =>
    cases h
    exact hfits.releaseLink false
  | completeResponse | charge | fail | release => exact hallows.elim

/-! ## Everything that is done

The invariant over all that is done, and what can be read off it. -/

/-- Each time of a response was recorded after the request was said to be complete, and tells the
milliseconds since then. -/
def Timely (past : List Moment) : Prop :=
  ∀ later m earlier, past = later ++ m :: earlier → ∀ millis ∈ m.millis,
    ∃ since, requestEnd earlier = some since ∧ millis = (m.time - since) / milli

theorem Timely.cons {m : Moment} {past : List Moment} (h : Timely past)
    (hm : ∀ millis ∈ m.millis,
      ∃ since, requestEnd past = some since ∧ millis = (m.time - since) / milli) :
    Timely (m :: past) := by
  intro later n earlier hpast
  cases later with
  | nil =>
    obtain ⟨rfl, rfl⟩ := List.cons.inj hpast
    exact hm
  | cons latest later => exact h later n earlier (List.cons.inj hpast).2

theorem requestEnd_cons {m : Moment} {past : List Moment} (h : m.op ≠ .completeRequest) :
    requestEnd (m :: past) = requestEnd past := by
  simp [requestEnd, h]

/-- When the response is marked as timed, one time is recorded, counted from the end of the
request. -/
theorem Step.Clocks.recorded {m m' : Marks} {all : List Nat} (h : Step.Clocks now m m' all)
    (hm : m.requestComplete = m.requestCompleteAt.isSome) :
    m'.timed.toNat = all.length + m.timed.toNat ∧ ∀ millis ∈ all,
      ∃ since, m.requestCompleteAt = some since ∧ millis = (now - since) / milli := by
  cases h with
  | nothing same => simp [same]
  | once before after complete =>
    obtain ⟨since, hsince⟩ := Option.isSome_iff_exists.mp (hm.symm.trans complete)
    simp [before, after, hsince]

namespace Errand

/-- What holds of an exchange, whatever a router has done with it. -/
structure Sound {δ : Type} (dec : Decoding δ) (v : Errand) : Prop where
  /-- Behind a complete response nothing of the connection is kept. -/
  complete : v.exchange.responseComplete = true → v.exchange.link = none ∧ v.exchange.linkState = none
  /-- A host asks to leave with a whole response only. -/
  draining : v.exchange.draining = true →
    v.exchange.responseStarted = true ∧ v.exchange.responseComplete = true
  /-- A response that ended too early counts as complete. -/
  underflow : v.exchange.underflow = true → v.exchange.responseComplete = true
  /-- Who holds a connection does not wait for one. -/
  single : v.exchange.pending = none ∨ v.exchange.link = none
  /-- The time of the response is recorded once at most. -/
  once : (v.past.flatMap Moment.millis).length ≤ 1
  timely : Timely v.past
  /-- Whatever may be done can be done: octets and events never come behind a complete response. -/
  takes : ∀ op, v.Allows op → ∀ d shared now, ∃ r, v.exchange.step dec d shared now op = .ok r

/-- What keeps an errand sound. -/
structure Kept (v : Errand) : Prop where
  /-- The exchange stands as the errand has gone. -/
  fits : StandsAs v.ask v.exchange
  /-- The request is complete if its time was noted. -/
  requestComplete : v.exchange.requestComplete = v.exchange.requestCompleteAt.isSome
  /-- That is the time when it was completed. -/
  requestCompleteAt : v.exchange.requestCompleteAt = requestEnd v.past
  /-- The time of the response was recorded as often as the exchange says. -/
  recorded : v.exchange.timed.toNat = (v.past.flatMap Moment.millis).length
  /-- What was recorded is the time from the request to the response. -/
  timely : Timely v.past

variable {v w : Errand} {δ : Type} {dec : Decoding δ}

theorem Kept.new (cluster : String) (transport : Config.Transport) (protocol : Protocol)
    (closeOnError : Bool) (envelope : Envelope) :
    Kept (.new cluster transport protocol closeOnError envelope) where
  fits := .unasked ⟨⟨rfl, rfl, rfl⟩, rfl⟩ rfl
  requestComplete := rfl
  requestCompleteAt := rfl
  recorded := rfl
  timely := fun later _ _ h => absurd h (by cases later <;> exact nofun)

theorem Kept.step (h : v.Kept) {op : ExchangeOp} {d d' : δ} {shared : LinkId → Option LinkState}
    {answer : ExchangeAnswer} (hallows : v.Allows op)
    (hstep : v.exchange.step dec d shared now op = .ok (answer, d', t)) : Kept (v.next now op t) := by
  have hfits := h.fits.step hallows hstep
  by_cases hop : op = .completeRequest
  · subst hop
    cases hstep
    exact {
      fits := hfits
      requestComplete := rfl
      requestCompleteAt := rfl
      recorded := h.recorded
      timely := h.timely.cons fun _ hmillis => nomatch hmillis }
  -- Every other operation leaves the end of the request where it is.
  · have hadvances := step_advances hop hstep
    obtain ⟨hrecorded, hmillis⟩ := hadvances.clock.recorded h.requestComplete
    have hend : requestEnd (v.next now op t).past = requestEnd v.past := requestEnd_cons hop
    exact {
      fits := hfits
      requestComplete := by
        show t.exchange.requestComplete = t.exchange.requestCompleteAt.isSome
        rw [hadvances.requestComplete, hadvances.requestCompleteAt, h.requestComplete]
      requestCompleteAt := by
        rw [hend, ← h.requestCompleteAt]
        exact hadvances.requestCompleteAt
      recorded := by
        show t.exchange.timed.toNat = (t.millis ++ v.past.flatMap Moment.millis).length
        rw [List.length_append, ← h.recorded]
        exact hrecorded
      timely := h.timely.cons (h.requestCompleteAt ▸ hmillis) }

theorem Leads.kept (h : Leads dec v w) (hv : v.Kept) : w.Kept := by
  induction h with
  | refl => exact hv
  | step _ _ _ _ _ hallows hstep ih => exact ih.step hallows hstep

/-- No mark is ever taken back. -/
theorem Leads.marks_kept (h : Leads dec v w) : v.exchange.marks.Kept w.exchange.marks := by
  induction h with
  | refl => exact .refl _
  | step _ _ _ _ _ _ hstep ih => exact ih.trans (step_kept hstep)

theorem Kept.takes (h : v.Kept) {op : ExchangeOp} (hallows : v.Allows op) (d : δ)
    (shared : LinkId → Option LinkState) (now : Instant) :
    ∃ r, v.exchange.step dec d shared now op = .ok r := by
  cases op with
  | data octets last =>
    obtain ⟨-, hlive⟩ := h.fits.live hallows
    obtain ⟨answer, d', t, hstep⟩ := exists_step_data dec d shared now octets last hlive.responseComplete
    exact ⟨_, hstep⟩
  | event event =>
    have hevent : v.exchange.link.isSome ∧ (event = .remoteClose ∨ event = .localClose) := by
      cases event with
      | remoteClose => exact ⟨hallows, .inl rfl⟩
      | localClose => exact ⟨hallows, .inr rfl⟩
      | connected | connectedZeroRtt => exact hallows.elim
    obtain ⟨-, hlive⟩ := h.fits.live hevent.1
    exact exists_step_event dec d shared now hevent.2 hlive.responseComplete
  | _ => exact ⟨_, rfl⟩

theorem Kept.sound (h : v.Kept) : v.Sound dec where
  complete := h.fits.coherent.complete
  draining := h.fits.coherent.draining
  underflow := h.fits.coherent.underflow
  single := h.fits.single
  once := h.recorded ▸ Bool.toNat_le _
  timely := h.timely
  takes _ hallows d shared now := h.takes hallows d shared now

/-- Whatever a router does with a new exchange keeps it sound, and no mark is ever taken back. -/
theorem leads_sound {cluster : String} {transport : Config.Transport} {protocol : Protocol}
    {closeOnError : Bool} {envelope : Envelope}
    (h : Leads dec (.new cluster transport protocol closeOnError envelope) v) :
    v.Sound dec ∧ ∀ w, Leads dec v w → v.exchange.marks.Kept w.exchange.marks :=
  ⟨(h.kept (.new cluster transport protocol closeOnError envelope)).sound, fun _ hw => hw.marks_kept⟩

/-- A host that sends half a length and goes away, three milliseconds after the request. -/
theorem leads_sound_half_length :
    ∃ v, Leads lineReplies (.new "users" .framed (.ofConfig .binary) true {}) v ∧
      v.exchange.underflow = true ∧ v.past.flatMap Moment.millis = [3] ∧ v.Sound lineReplies := by
  have hnew : Leads lineReplies (.new "users" .framed (.ofConfig .binary) true {}) _ := .refl
  have hasked := hnew.step (.start (.pending 0)) {} (fun _ => none) 0 rfl rfl
  have hready := hasked.step (.ready 1 (Solo.host "users")) {} (fun _ => none) milli rfl rfl
  have hwritten := hready.step (.write [1]) {} (fun _ => none) milli trivial rfl
  have hsent := hwritten.step .completeRequest {} (fun _ => none) milli trivial rfl
  have hcut := hsent.step (.data [0, 0] true) {} (fun _ => none) (4 * milli) rfl rfl
  exact ⟨_, hcut, rfl, by decide, (leads_sound hcut).1⟩

end Errand

end Exchange

end RpcProxy

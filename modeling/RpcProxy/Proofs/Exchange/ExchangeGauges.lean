import RpcProxy.Proofs.Exchange.Calls
import RpcProxy.Proofs.Host.Gauges

/-!
# What an exchange does to the gauge of its host

An exchange that holds a connection counts among the requests of the host that the connection was
got for. Every step of an exchange either leaves its connection and all gauges alone
(`KeepsConnection`), or lets go of the connection and moves the gauge of that host down
(`FreesConnection`). The one exception takes a connection, and moves the gauge of its host up
(`poolReady_hold`).

Both relations compare the exchange before and after the step and name the moves in between, so they
compose: keeping after freeing is freeing, and freeing after freeing is freeing, as there is nothing
left to free. Steps are put together in the same way from smaller ones, and each proof here follows
the way its step is put together.

The host is kept beside the connection, and a gauge is moved for the host that stands there. A pool
that fails names another host, but only to an exchange that holds nothing. Otherwise the gauge of
the wrong host would go down later.
-/

set_option autoImplicit false

namespace RpcProxy

theorem Effect.gaugeMove?_of_isNote (x : Effect) (h : x.isNote = true) : x.gaugeMove? = none := by
  cases x <;> first | rfl | cases h

namespace Exchange

/-- The connection that an exchange holds, and the host that it was got for. -/
def hold? (e : Exchange) : Option (LinkId × HostRef) := e.link.bind fun link => e.host.map (link, ·)

/-- What a step does to gauges of hosts. -/
def Step.gaugeMoves (t : Step) : List GaugeMove := t.effects.filterMap Effect.gaugeMove?

/-- A step that leaves the connection where it is, and gauges alone. -/
structure Step.KeepsConnection (e : Exchange) (t : Step) : Prop where
  hold : t.exchange.hold? = e.hold?
  moves : t.gaugeMoves = []

/-- A step that lets go of the connection, if there is one. -/
structure Step.FreesConnection (e : Exchange) (t : Step) : Prop where
  hold : t.exchange.hold? = none
  moves : t.gaugeMoves = (e.hold?.map fun x => GaugeMove.down x.2).toList

variable {e : Exchange} {t : Step}

theorem hold?_of_none (h : e.link = none) : e.hold? = none := by
  unfold hold?
  rw [h]
  rfl

theorem hold?_congr {e' : Exchange} (hlink : e'.link = e.link) (hhost : e'.host = e.host) :
    e'.hold? = e.hold? := by
  unfold hold?
  rw [hlink, hhost]

theorem Step.gaugeMoves_andThen (t : Step) (f : Exchange → Step) :
    (t.andThen f).gaugeMoves = t.gaugeMoves ++ (f t.exchange).gaugeMoves := by
  simp only [Step.gaugeMoves, Step.andThen, List.filterMap_append]

theorem Step.KeepsConnection.andThen {f : Exchange → Step} (h₁ : t.KeepsConnection e)
    (h₂ : (f t.exchange).KeepsConnection t.exchange) : (t.andThen f).KeepsConnection e where
  hold := h₂.hold.trans h₁.hold
  moves := by rw [Step.gaugeMoves_andThen, h₁.moves, h₂.moves, List.append_nil]

theorem Step.KeepsConnection.freesConnection {f : Exchange → Step} (h₁ : t.KeepsConnection e)
    (h₂ : (f t.exchange).FreesConnection t.exchange) : (t.andThen f).FreesConnection e where
  hold := h₂.hold
  moves := by rw [Step.gaugeMoves_andThen, h₁.moves, h₂.moves, h₁.hold, List.nil_append]

theorem Step.FreesConnection.keepsConnection {f : Exchange → Step} (h₁ : t.FreesConnection e)
    (h₂ : (f t.exchange).KeepsConnection t.exchange) : (t.andThen f).FreesConnection e where
  hold := h₂.hold.trans h₁.hold
  moves := by rw [Step.gaugeMoves_andThen, h₁.moves, h₂.moves, List.append_nil]

/-- Letting go of nothing leaves everything as it is. -/
theorem Step.FreesConnection.keepsConnection_of_none (h : t.FreesConnection e) (he : e.hold? = none) :
    t.KeepsConnection e where
  hold := h.hold.trans he.symm
  moves := by
    rw [h.moves, he]
    rfl

theorem Step.FreesConnection.andThen {f : Exchange → Step} (h₁ : t.FreesConnection e)
    (h₂ : (f t.exchange).FreesConnection t.exchange) : (t.andThen f).FreesConnection e :=
  h₁.keepsConnection (h₂.keepsConnection_of_none h₁.hold)

/-! ## Steps that leave the connection where it is -/

theorem emit_keepsConnection {effects : List Effect} (h : effects.filterMap Effect.gaugeMove? = []) :
    (e.emit effects).KeepsConnection e := ⟨rfl, h⟩

theorem charge_keepsConnection (now : Instant) (e : Exchange) : (e.charge now).KeepsConnection e := by
  unfold charge
  split
  · exact ⟨rfl, rfl⟩
  · cases e.requestCompleteAt with
    | none => exact ⟨rfl, rfl⟩
    | some t => exact ⟨rfl, rfl⟩

theorem failureEffects_gaugeMoves (reason : FailureReason) (e : Exchange) :
    (e.failureEffects reason).filterMap Effect.gaugeMove? = [] := by
  obtain ⟨notes, hnotes, heq⟩ := failureEffects_eq reason e
  rw [heq, List.filterMap_append, Effect.filterMap_notes Effect.gaugeMove?_of_isNote hnotes]
  cases (e.failureDecision reason).action <;> rfl

theorem fail_keepsConnection (reason : FailureReason) (now : Instant) (e : Exchange) :
    (e.fail reason now).2.KeepsConnection e :=
  (charge_keepsConnection now e).andThen (emit_keepsConnection (failureEffects_gaugeMoves reason _))

theorem write_keepsConnection (message : Bytes) (e : Exchange) : (e.write message).2.KeepsConnection e := by
  refine ⟨rfl, ?_⟩
  unfold write Step.gaugeMoves
  cases e.link with
  | none => rfl
  | some link => rfl

theorem dropHandle_keepsConnection (e : Exchange) : e.dropHandle.KeepsConnection e := by
  unfold dropHandle
  cases e.pending with
  | none => exact ⟨rfl, rfl⟩
  | some handle => exact ⟨rfl, rfl⟩

/-- Nobody holds a connection behind the answer that there is none. -/
theorem poolFailure_keepsConnection (reason : FailureReason) (host : Option HostRef) (now : Instant)
    (he : e.link = none) : (e.poolFailure reason host now).KeepsConnection e := by
  have hfailed := fail_keepsConnection reason now { e with pending := none, host }
  have hsilent : (e.poolFailure reason host now).KeepsConnection { e with pending := none, host } := by
    refine hfailed.andThen (emit_keepsConnection ?_)
    split
    · rfl
    · rfl
  refine ⟨hsilent.hold.trans ?_, hsilent.moves⟩
  rw [hold?_of_none he, hold?_of_none]
  exact he

/-! ## Steps that let go of it -/

theorem dropLink_freesConnection (how : Option CloseType) (e : Exchange) :
    (e.dropLink how).FreesConnection e := by
  unfold dropLink
  split
  · next hlink => exact ⟨hold?_of_none hlink, by rw [hold?_of_none hlink]; rfl⟩
  · next link hlink =>
    refine ⟨rfl, ?_⟩
    unfold hold? Step.gaugeMoves
    rw [hlink]
    cases e.host with
    | none => cases how <;> rfl
    | some h => cases how <;> rfl

theorem releaseLink_freesConnection (close : Bool) (e : Exchange) : (e.releaseLink close).FreesConnection e :=
  (dropHandle_keepsConnection e).freesConnection (dropLink_freesConnection _ _)

theorem completeResponse_freesConnection (now : Instant) (e : Exchange) :
    (e.completeResponse now).FreesConnection e :=
  ((charge_keepsConnection now e).andThen ⟨rfl, rfl⟩).freesConnection (dropLink_freesConnection none _)

theorem replyEffects_gaugeMoves (e : Exchange) (kind : Option MessageType) (success : Bool) :
    (e.replyEffects kind success).filterMap Effect.gaugeMove? = [] :=
  Effect.filterMap_notes Effect.gaugeMove?_of_isNote (replyEffects_notes e kind success)

theorem onReply_hold (status : ReplyStatus) (kind : Option MessageType) (success draining : Bool)
    (now : Instant) (e : Exchange) :
    if status = .moreData then (e.onReply status kind success draining now).KeepsConnection e
      else (e.onReply status kind success draining now).FreesConnection e := by
  unfold onReply
  cases status with
  | moreData => exact ⟨rfl, rfl⟩
  | complete =>
    rw [if_neg (by decide)]
    have hbase : (e.emit ([.count (.responseSize e.cluster e.responseSize)] ++
        e.replyEffects kind success)).KeepsConnection e :=
      emit_keepsConnection (by rw [List.filterMap_append, replyEffects_gaugeMoves]; rfl)
    cases draining with
    | false => exact hbase.freesConnection (completeResponse_freesConnection now _)
    | true =>
      simp only [if_true]
      refine Step.FreesConnection.andThen (hbase.freesConnection ?_) (completeResponse_freesConnection now _)
      -- Noting that the peer drains moves no gauge.
      have hmark : Step.KeepsConnection e
          { exchange := { e with draining := true }, effects := [.count (.drainClose e.cluster)] } :=
        ⟨rfl, rfl⟩
      exact hmark.freesConnection (releaseLink_freesConnection true _)
  | reset =>
    rw [if_neg (by decide)]
    have hbase : (e.emit (e.report .requestFailed ++ [.count (.decodingError e.label)])).KeepsConnection e :=
      emit_keepsConnection (by
        rw [List.filterMap_append, Effect.filterMap_notes Effect.gaugeMove?_of_isNote (report_notes e _)]
        rfl)
    exact hbase.freesConnection (releaseLink_freesConnection true _)

/-- Octets leave the connection where it is until the response is over; then it is let go of. -/
theorem onData_hold {d d' : ReplyDecoder} {data : Bytes} {now : Instant} {isOver : Bool}
    (he : Holding e) (h : e.onData lineReplies d data false now = .ok (isOver, d', t)) :
    if isOver then t.FreesConnection e else t.KeepsConnection e := by
  obtain ⟨status, d₁, hfeed⟩ : ∃ status d₁,
      (if e.responseStarted then d else .start e.transport e.protocol.kind).feed data = (status, d₁) :=
    ⟨_, _, rfl⟩
  rw [he.onData_feed hfeed] at h
  obtain ⟨rfl, rfl, rfl⟩ : decide (status ≠ .moreData) = isOver ∧ d₁ = d' ∧ _ = t := by
    simpa only [Except.ok.injEq, Prod.mk.injEq] using h
  -- The first octets start the reply, and move no gauge.
  have hfirst : Step.KeepsConnection e
      { exchange := { e with
          responseSize := e.responseSize + data.length, responseStarted := true }
        effects := if e.responseStarted then []
          else [.startResponse e.transport e.protocol.name] } := by
    refine ⟨rfl, ?_⟩
    cases e.responseStarted with
    | true => rfl
    | false => rfl
  have hreply := onReply_hold status d₁.envelope.kind d₁.success d₁.envelope.draining now
    { e with responseSize := e.responseSize + data.length, responseStarted := true }
  by_cases hs : status = .moreData
  · rw [if_pos hs] at hreply
    rw [if_neg (by simpa using hs)]
    exact hfirst.andThen hreply
  · rw [if_neg hs] at hreply
    rw [if_pos (by simpa using hs)]
    exact hfirst.freesConnection hreply

/-- The end of the connection is a reason to let go of it. -/
theorem onEvent_freesConnection {event : ConnectionEvent} {now : Instant} (h : e.onEvent event now = .ok t) :
    t.FreesConnection e := by
  obtain ⟨-, reason, -, rfl⟩ := onEvent_cases h
  refine ((fail_keepsConnection reason now e).freesConnection (releaseLink_freesConnection false _)).keepsConnection
    (emit_keepsConnection ?_)
  split
  · rfl
  · rfl

/-- The end of the stream is another one, whether the response is complete or not. -/
theorem destroy_freesConnection (e : Exchange) :
    ((if e.responseComplete then { exchange := e } else e.reset : Step).andThen drop).FreesConnection e := by
  split
  · exact Step.KeepsConnection.freesConnection ⟨rfl, rfl⟩ (releaseLink_freesConnection false e)
  · exact Step.FreesConnection.andThen (releaseLink_freesConnection true e)
      (releaseLink_freesConnection false _)

/-! ## Taking a connection -/

/-- An exchange that has none takes the connection, for the host that is named with it. -/
theorem poolReady_hold (link : LinkId) (host : HostRef) (shared : Option LinkState) (he : Plain e)
    (hlink : e.link = none) :
    (e.poolReady link host shared).exchange.hold? = some (link, host) ∧
      (e.poolReady link host shared).gaugeMoves = [.up host] := by
  rw [poolReady_eq link host shared he hlink]
  refine ⟨rfl, ?_⟩
  unfold Step.gaugeMoves
  cases shared with
  | none => cases e.pending.isSome <;> rfl
  | some state => cases e.pending.isSome <;> rfl

end Exchange

end RpcProxy

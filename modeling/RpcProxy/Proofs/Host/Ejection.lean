import RpcProxy.Exchange.Solo

/-!
# Calls that fail and the ejection of their host

A detector by itself ejects a host after the set number of failed requests. Through whole calls it
hears more: every call that gets a connection first reports that connecting succeeded, and to a
healthy detector any success ends both runs of failures. So of any number of calls in a row that all
get a connection and all fail, the detector counts one, and the host is ejected only where one
failure is enough.

What a call reports is read off the effects of its exchange, `Exchange.Step.reports`. What the
detector of a host makes of them is the same list put to it one by one. So the module has three
parts that know little of each other: what the detector makes of a success and a failure, what the
steps of an exchange report, and which steps make up a call.

A call that fails is described by what is done with its exchange (`FailedCall`), in any way in which
it can come about: the connection comes at once or later, the request is written in any number of
pieces, and octets come that make no whole reply, before those that make one. None of these changes
what is reported.
-/

set_option autoImplicit false

namespace RpcProxy

/-! ## The detector

What a single failed call means for a detector: a success of the connection first, then a failure of
the request. -/

namespace Detector

variable {d : Detector}

theorem look_healthy (h : d.health = .healthy) (now : Instant) : d.look now = d := by
  simp [look, h]

theorem look_settings (d : Detector) (now : Instant) : (d.look now).settings = d.settings := by
  unfold look
  split <;> rfl

theorem succeed_settings (d : Detector) : d.succeed.settings = d.settings := by
  unfold succeed
  cases d.health with
  | healthy => rfl
  | probing =>
    dsimp only
    split <;> rfl
  | ejected => rfl

theorem put_connectSuccess (d : Detector) (now : Instant) :
    d.put .connectSuccess now = (d.look now).succeed := rfl

theorem put_requestFailed (d : Detector) (now : Instant) :
    d.put .requestFailed now = (d.look now).fail false now := rfl

/-- Where one failure is enough, a failed request ejects the host, or keeps it out from now on. -/
theorem fail_ejects (h : d.settings.consecutiveFailures ≤ 1) (now : Instant) :
    (d.fail false now).health = .ejected ∧ (d.fail false now).ejectedAt = some now ∧
      (d.fail false now).settings = d.settings := by
  unfold fail
  cases hd : d.health with
  | healthy =>
    have hreached : d.requestFailures + 1 ≥ d.settings.consecutiveFailures := by omega
    simp [hreached, eject]
  | probing => exact ⟨rfl, rfl, rfl⟩
  | ejected => simp

/-- A host that is ejected now is seen to be ejected now, unless it sits out for no time at all. -/
theorem isEjected_of_ejectedAt {now : Instant} (h : d.health = .ejected)
    (hat : d.ejectedAt = some now) : d.isEjected now = true ↔ 0 < d.settings.baseEjectionMillis := by
  have hpast : d.expired now = true ↔ d.settings.baseEjectionMillis = 0 := by
    have hsentence : d.expired now = decide (now - now ≥ d.sentence) := by rw [expired, hat]
    rw [hsentence, decide_eq_true_eq, Nat.sub_self]
    exact Nat.le_zero.trans (Nat.mul_eq_zero.trans (or_iff_left (by decide)))
  unfold isEjected look
  by_cases hzero : d.settings.baseEjectionMillis = 0
  · simp [h, hpast.mpr hzero, hzero]
  · have hout : d.expired now = false := by simpa [hzero] using hpast
    simp [h, hout]
    omega

/-- The outcomes of one call that gets a connection and fails: connecting succeeds, and then the
request fails. -/
def putFailedCall (d : Detector) (connected failed : Instant) : Detector :=
  (d.put .connectSuccess connected).put .requestFailed failed

/-- Where more than one failure is needed, the success of connecting wipes out what was counted
before, and the failure of the call is the first again. -/
theorem putFailedCall_healthy (h : d.health = .healthy) (hmore : 1 < d.settings.consecutiveFailures)
    (connected failed : Instant) :
    d.putFailedCall connected failed = { d with requestFailures := 1, connectFailures := 0 } := by
  have hshort : ¬1 ≥ d.settings.consecutiveFailures := by omega
  rw [putFailedCall, put_requestFailed, put_connectSuccess, look_healthy h]
  simp [succeed, h, look, fail, hshort]

theorem putFailedCall_ejects (h : d.settings.consecutiveFailures ≤ 1) (connected failed : Instant) :
    (d.putFailedCall connected failed).health = .ejected ∧
      (d.putFailedCall connected failed).ejectedAt = some failed ∧
      (d.putFailedCall connected failed).settings = d.settings := by
  have hsettings : (((d.look connected).succeed).look failed).settings = d.settings := by
    rw [look_settings, succeed_settings, look_settings]
  rw [putFailedCall, put_requestFailed, put_connectSuccess, ← hsettings]
  exact fail_ejects (hsettings ▸ h) failed

end Detector

/-! ## What an exchange reports

An exchange reports a success when it gets its connection, and a failure when a reply tells of one.
Nothing else is reported in between. -/

def Effect.report? : Effect → Option (HostRef × HostResult)
  | .report host result => some (host, result)
  | _ => none

/-- Whether a reply tells of a failed request: it cannot be read, it is an exception, or it is a
reply with an error. One of a type that nobody expects is not held against the host here. -/
def ReplyStatus.tellsFailure (status : ReplyStatus) (kind : Option MessageType) (success : Bool) :
    Bool :=
  match status, kind with
  | .reset, _ => true
  | .complete, some .exception => true
  | .complete, some .reply => !success
  | _, _ => false

namespace Exchange

/-- The outcomes that a step reports, in order. -/
def Step.reports (t : Step) : List (HostRef × HostResult) := t.effects.filterMap Effect.report?

variable {host : HostRef} {e : Exchange}

@[simp] theorem Step.reports_andThen (t : Step) (f : Exchange → Step) :
    (t.andThen f).reports = t.reports ++ (f t.exchange).reports := by
  simp [Step.reports, Step.andThen, List.filterMap_append]

@[simp] theorem emit_reports (effects : List Effect) (e : Exchange) :
    (e.emit effects).reports = effects.filterMap Effect.report? := rfl

@[simp] theorem filterMap_count (event : RouterEvent) (effects : List Effect) :
    (Effect.count event :: effects).filterMap Effect.report? = effects.filterMap Effect.report? := rfl

@[simp] theorem filterMap_report (he : e.host = some host) (r : HostResult) :
    (e.report r).filterMap Effect.report? = [(host, r)] := by
  simp [report, he, Effect.report?]

@[simp] theorem dropHandle_reports (e : Exchange) : e.dropHandle.reports = [] := by
  unfold dropHandle
  cases e.pending <;> rfl

@[simp] theorem dropLink_reports (how : Option CloseType) (e : Exchange) :
    (e.dropLink how).reports = [] := by
  unfold dropLink
  cases e.link with
  | none => rfl
  | some link => cases e.host <;> cases how <;> rfl

@[simp] theorem releaseLink_reports (close : Bool) (e : Exchange) :
    (e.releaseLink close).reports = [] := by
  simp [releaseLink]

@[simp] theorem charge_reports (now : Instant) (e : Exchange) : (e.charge now).reports = [] := by
  unfold charge
  split
  · rfl
  · cases e.requestCompleteAt <;> rfl

@[simp] theorem completeResponse_reports (now : Instant) (e : Exchange) :
    (e.completeResponse now).reports = [] := by
  simp [completeResponse, Step.reports_andThen]
  rfl

@[simp] theorem startCall_reports (resume : Bool) (e : Exchange) :
    (e.startCall resume).reports = [] := by
  unfold startCall
  cases e.link with
  | none => cases resume <;> rfl
  | some link => cases e.linkState <;> cases resume <;> rfl

@[simp] theorem write_reports (message : Bytes) (e : Exchange) :
    (e.write message).2.reports = [] := by
  unfold write
  cases e.link <;> rfl

/-- A connection that comes is a success for its host, whether it came at once or later, and whether
an upgrade is tried on it or not. -/
theorem poolReady_reports (link : LinkId) (host : HostRef) (shared : Option LinkState)
    (e : Exchange) : (e.poolReady link host shared).reports = [(host, .connectSuccess)] := by
  unfold poolReady
  dsimp only
  cases e.protocol.attempt (shared.getD {}) with
  | none =>
    rw [Step.reports_andThen, startCall_reports]
    cases shared <;> cases e.link <;> rfl
  | some upgrade => cases shared <;> cases e.link <;> rfl

/-- A reply that tells of a failure is reported as one failed request, whatever else is done. -/
theorem onReply_reports_failure (he : e.host = some host) {status : ReplyStatus}
    {kind : Option MessageType} {success : Bool} (h : status.tellsFailure kind success = true)
    (draining : Bool) (now : Instant) :
    (e.onReply status kind success draining now).reports = [(host, .requestFailed)] := by
  -- A complete reply is reported once, by its kind and by whether it tells of success.
  have hreply : status = .complete →
      (e.replyEffects kind success).filterMap Effect.report? = [(host, .requestFailed)] := by
    rintro rfl
    unfold replyEffects
    split
    · cases success with
      | true => cases h
      | false => simp [he]
    · simp [he]
    · simp_all [ReplyStatus.tellsFailure]
  unfold onReply
  cases status with
  | moreData => cases h
  | reset =>
    rw [Step.reports_andThen, emit_reports, List.filterMap_append, filterMap_report he, reset,
      releaseLink_reports]
    rfl
  | complete =>
    have hread : (e.emit ([.count (.responseSize e.cluster e.responseSize)] ++
        e.replyEffects kind success)).reports = [(host, .requestFailed)] := by
      rw [emit_reports, List.cons_append, filterMap_count, List.nil_append, hreply rfl]
    cases draining with
    | true =>
      simp only [if_true, Step.reports_andThen, hread, reset, releaseLink_reports,
        completeResponse_reports]
      rfl
    | false =>
      simp only [Bool.false_eq_true, if_false, Step.reports_andThen, hread,
        completeResponse_reports, List.append_nil]

variable {δ : Type}

/-- What octets come to, when no upgrade is under way. -/
def read (dec : Decoding δ) (d : δ) (data : Bytes) (e : Exchange) : ReplyStatus × δ :=
  dec.feed data (if !e.responseStarted then dec.start e.transport e.protocol.kind d else d)

theorem read_responseSize (dec : Decoding δ) (d : δ) (data : Bytes) (e : Exchange) (n : Nat) :
    ({ e with responseSize := n } : Exchange).read dec d data = e.read dec d data := rfl

/-- Whether octets end the call with a failure. -/
def readsFailure (dec : Decoding δ) (d : δ) (data : Bytes) (e : Exchange) : Bool :=
  let (status, d') := e.read dec d data
  e.upgrading.isNone && status.tellsFailure (dec.envelope d').kind (dec.success d')

theorem startResponse_reports (first : Bool) (t : Config.Transport) (protocol : String)
    (e : Exchange) : Step.reports
      { exchange := e, effects := if first then [.startResponse t protocol] else [] } = [] := by
  cases first <;> rfl

theorem onResponseData_eq (dec : Decoding δ) (d : δ) (data : Bytes) (now : Instant) (e : Exchange) :
    ∃ t u, e.onResponseData dec d data now = ((e.read dec d data).1, (e.read dec d data).2, t) ∧
      onReply (e.read dec d data).1 (dec.envelope (e.read dec d data).2).kind
        (dec.success (e.read dec d data).2) (dec.envelope (e.read dec d data).2).draining now
        { e with responseStarted := true } = u ∧
      t.reports = u.reports ∧ t.exchange = u.exchange := by
  refine ⟨_, _, rfl, rfl, ?_, rfl⟩
  rw [Step.reports_andThen, startResponse_reports]
  rfl

/-- Octets that end a call with a failure are reported as one failed request. -/
theorem onData_reports_failure {dec : Decoding δ} {d d' : δ} {data : Bytes} {last isOver : Bool}
    {now : Instant} {t : Step} (he : e.host = some host) (hfails : e.readsFailure dec d data = true)
    (h : e.onData dec d data last now = .ok (isOver, d', t)) :
    t.reports = [(host, .requestFailed)] := by
  simp only [readsFailure, Bool.and_eq_true, Option.isNone_iff_eq_none] at hfails
  obtain ⟨hplain, hstatus⟩ := hfails
  obtain ⟨t₁, u, hgot, hreply, hreports, -⟩ := onResponseData_eq dec d data now
    { e with responseSize := e.responseSize + data.length }
  rw [read_responseSize] at hgot hreply
  generalize e.read dec d data = r at hgot hreply hstatus
  obtain ⟨status, d₁⟩ := r
  -- A reply that tells of failure has been read to its end.
  have hover : status ≠ .moreData := by
    rintro rfl
    cases hstatus
  have htells : t₁.reports = [(host, .requestFailed)] := by
    rw [hreports, ← hreply]
    exact onReply_reports_failure (by exact he) hstatus _ now
  unfold onData at h
  split at h
  · cases h
  · dsimp only at h
    rw [hplain] at h hgot
    dsimp only at h
    rw [hgot] at h
    dsimp only at h
    rw [if_pos hover] at h
    cases h
    exact htells

theorem startCall_host (resume : Bool) (e : Exchange) :
    (e.startCall resume).exchange.host = e.host := by
  unfold startCall
  cases e.link with
  | none => rfl
  | some link => cases e.linkState <;> rfl

theorem charge_host (now : Instant) (e : Exchange) : (e.charge now).exchange.host = e.host := by
  unfold charge
  split <;> rfl

theorem poolReady_host (link : LinkId) (host : HostRef) (shared : Option LinkState) (e : Exchange) :
    (e.poolReady link host shared).exchange.host = some host := by
  unfold poolReady
  dsimp only
  cases e.protocol.attempt (shared.getD {}) with
  | none =>
    dsimp only [Step.andThen]
    rw [startCall_host]
  | some upgrade => rfl

theorem onUpgradeData_quiet (upgrade : Upgrade) (sofar data : Bytes) (e : Exchange) :
    (e.onUpgradeData upgrade sofar data).reports = [] ∧
      (e.onUpgradeData upgrade sofar data).exchange.host = e.host := by
  unfold onUpgradeData
  dsimp only
  split
  · rw [Step.reports_andThen, startCall_reports]
    dsimp only [Step.andThen]
    rw [startCall_host]
    cases e.link <;> cases e.linkState <;> exact ⟨rfl, rfl⟩
  · exact ⟨rfl, rfl⟩

/-- Octets after which more are awaited are not reported, be they of an upgrade or of a reply. -/
theorem onData_quiet {dec : Decoding δ} {d d' : δ} {data : Bytes} {last : Bool} {now : Instant}
    {t : Step} (h : e.onData dec d data last now = .ok (false, d', t)) :
    t.reports = [] ∧ t.exchange.host = e.host := by
  unfold onData at h
  split at h
  · cases h
  · dsimp only at h
    -- Octets of an upgrade are no reply; octets of a reply that goes on report nothing.
    cases hu : e.upgrading with
    | some under =>
      obtain ⟨upgrade, sofar⟩ := under
      rw [hu] at h
      cases last with
      | true => cases h
      | false =>
        cases h
        exact onUpgradeData_quiet upgrade sofar data _
    | none =>
      obtain ⟨t₁, u, hgot, hreply, hreports, hexchange⟩ := onResponseData_eq dec d data now
        { e with responseSize := e.responseSize + data.length }
      rw [read_responseSize] at hgot hreply
      rw [hu] at h hgot
      dsimp only at h
      rw [hgot] at h
      generalize e.read dec d data = r at h hreply
      obtain ⟨status, d₁⟩ := r
      cases status with
      | moreData =>
        cases last with
        | true => cases h
        | false =>
          cases h
          rw [hreports, hexchange, ← hreply]
          exact ⟨rfl, rfl⟩
      | complete => cases h
      | reset => cases h

theorem step_data {dec : Decoding δ} {d d' : δ} {shared : LinkId → Option LinkState} {now : Instant}
    {octets : Bytes} {last : Bool} {answer : ExchangeAnswer} {t : Step}
    (h : e.step dec d shared now (.data octets last) = .ok (answer, d', t)) :
    ∃ isOver, answer = .flag isOver ∧ e.onData dec d octets last now = .ok (isOver, d', t) := by
  simp only [step] at h
  cases hd : e.onData dec d octets last now with
  | error p =>
    rw [hd] at h
    cases h
  | ok r =>
    rw [hd] at h
    cases h
    exact ⟨_, rfl, rfl⟩

/-- Octets are taken as long as the response is not complete. -/
theorem exists_step_data (dec : Decoding δ) (d : δ) (shared : LinkId → Option LinkState)
    (now : Instant) (octets : Bytes) (last : Bool) (h : e.responseComplete = false) :
    ∃ answer d' t, e.step dec d shared now (.data octets last) = .ok (answer, d', t) := by
  have hdata : ∃ r, e.onData dec d octets last now = .ok r := by
    unfold onData
    rw [if_neg (by simp [h])]
    dsimp only
    split
    · exact ⟨_, rfl⟩
    · split <;> exact ⟨_, rfl⟩
  obtain ⟨⟨isOver, d', t⟩, hr⟩ := hdata
  exact ⟨.flag isOver, d', t, by simp [step, hr, Except.map]⟩

end Exchange

/-! ## What a host hears

Reports go to the detector of the host that the exchange holds, and to no other. -/

namespace HostSide

variable {σ : Type}

def detector? (h : HostSide σ) (host : HostRef) : Option Detector := (h.host? host).map (·.detector)

theorem host?_modifyHost (h : HostSide σ) (host : HostRef) (f : Host → Host) :
    (h.modifyHost host f).host? host = (h.host? host).map f := by
  unfold host? modifyHost clusters Clusters.modifyHost Clusters.modify Cluster.modifyHost
  cases hg : h.generations[host.generation]? with
  | none => simp [List.getD_eq_getElem?_getD, hg]
  | some cs =>
    cases hc : cs.list[host.clusterIndex]? with
    | none => simp [List.getD_eq_getElem?_getD, hg, hc]
    | some c => simp [List.getD_eq_getElem?_getD, hg, hc]

/-- A change of a host that leaves its detector alone leaves all detectors alone. -/
theorem detector?_modifyHost (h : HostSide σ) (host other : HostRef) {f : Host → Host}
    (hf : ∀ x, (f x).detector = x.detector) :
    (h.modifyHost other f).detector? host = h.detector? host := by
  unfold detector? host? modifyHost clusters Clusters.modifyHost Clusters.modify Cluster.modifyHost
  simp only [List.getD_eq_getElem?_getD, List.getElem?_modify]
  cases h.generations[host.generation]? with
  | none => rfl
  | some cs =>
    by_cases hgeneration : other.generation = host.generation
    · simp only [hgeneration, Option.map_eq_map, Option.map_some, if_true, Option.getD_some,
        List.getElem?_modify]
      cases cs.list[host.clusterIndex]? with
      | none => rfl
      | some c =>
        by_cases hcluster : other.clusterIndex = host.clusterIndex
        · simp only [hcluster, Option.map_some, if_true, Option.bind_some, List.getElem?_modify]
          cases c.hosts[host.hostIndex]? with
          | none => rfl
          | some x =>
            by_cases hhost : other.hostIndex = host.hostIndex
            · simp [hhost, hf]
            · simp [hhost]
        · simp [hcluster]
    · simp [hgeneration]

/-- An effect that reports nothing leaves all detectors alone. -/
theorem apply_detector?_of_none {source : PoolSource σ} {ref : RouterRef} {now : Instant} {e : Effect}
    (he : e.report? = none) (h : HostSide σ) (host : HostRef) :
    (h.apply source ref now e).2.detector? host = h.detector? host := by
  cases e with
  | report other result => cases he
  | hold other => exact detector?_modifyHost h host other fun _ => rfl
  | unhold other => exact detector?_modifyHost h host other fun _ => rfl
  | count event => rfl
  | link command => rfl
  | _ => rfl

theorem apply_report_detector? (source : PoolSource σ) (ref : RouterRef) (now : Instant)
    (host : HostRef) (result : HostResult) (h : HostSide σ) :
    (h.apply source ref now (.report host result)).2.detector? host =
      (h.detector? host).map (·.put result now) := by
  unfold detector? apply
  dsimp only
  rw [host?_modifyHost]
  cases h.host? host <;> rfl

end HostSide

/-- Whether something is done for the request rather than heard about it. -/
def ExchangeOp.isWriting : ExchangeOp → Bool
  | .write _ | .completeRequest | .charge => true
  | _ => false

namespace Solo

variable {host : HostRef}

theorem effect_now (s : Solo) (e : Effect) : (s.effect e).now = s.now := rfl

theorem effect_exchange (s : Solo) (e : Effect) : (s.effect e).exchange = s.exchange := rfl

theorem effect_side (s : Solo) (e : Effect) :
    (s.effect e).side = (s.side.apply ScriptedPools.source { stream := 0 } s.now e).2 := rfl

theorem foldl_effect (es : List Effect) (s : Solo) :
    (es.foldl effect s).now = s.now ∧ (es.foldl effect s).exchange = s.exchange := by
  induction es generalizing s with
  | nil => exact ⟨rfl, rfl⟩
  | cons e es ih => exact ⟨(ih _).1.trans (effect_now s e), (ih _).2.trans (effect_exchange s e)⟩

/-- A host hears what is reported for it, in order. -/
theorem foldl_effect_detector? {es : List Effect} {results : List HostResult}
    (h : es.filterMap Effect.report? = results.map (host, ·)) (s : Solo) :
    (es.foldl effect s).side.detector? host =
      (s.side.detector? host).map fun d => results.foldl (fun d r => d.put r s.now) d := by
  induction es generalizing s results with
  | nil =>
    obtain rfl := List.map_eq_nil_iff.mp h.symm
    cases hd : s.side.detector? host <;> simp [hd]
  | cons e es ih =>
    cases hr : e.report? with
    | none =>
      rw [List.filterMap_cons_none hr] at h
      rw [List.foldl_cons, ih h, effect_now]
      rw [effect_side, HostSide.apply_detector?_of_none hr]
    | some told =>
      rw [List.filterMap_cons_some hr] at h
      obtain ⟨r, rest, rfl, rfl, hrest⟩ := List.map_eq_cons_iff.mp h.symm
      have he : e = .report host r := by
        cases e with
        | report other result => cases hr; rfl
        | _ => cases hr
      subst he
      rw [List.foldl_cons, ih hrest.symm, effect_now]
      rw [effect_side, HostSide.apply_report_detector?, Option.map_map]
      rfl

/-- Something is done with the exchange at a time. -/
def act (s : Solo) (now : Instant) (dec : Exchange.Decoding ReplyDecoder) (op : ExchangeOp) :
    Except Panic (ExchangeAnswer × Solo) :=
  Solo.step { s with now } dec op

/-- What is done to an exchange and its host, by what the step reports. -/
theorem act_eq {s s' : Solo} {now : Instant} {dec : Exchange.Decoding ReplyDecoder} {op : ExchangeOp}
    {answer : ExchangeAnswer} (h : s.act now dec op = .ok (answer, s')) :
    ∃ shared d t, s.exchange.step dec s.decoder shared now op = .ok (answer, d, t) ∧ s'.now = now ∧
      s'.exchange = t.exchange ∧
      ∀ (host : HostRef) (results : List HostResult), t.reports = results.map (host, ·) →
        s'.side.detector? host =
        (s.side.detector? host).map fun d => results.foldl (fun d r => d.put r now) d := by
  unfold act Solo.step at h
  dsimp only at h
  cases hstep : s.exchange.step dec s.decoder
      (fun link => ScriptedPools.source.state? link s.side.pools) now op with
  | error p =>
    rw [hstep] at h
    cases h
  | ok r =>
    obtain ⟨a, d, t⟩ := r
    rw [hstep] at h
    cases h
    refine ⟨_, d, t, hstep, ?_, ?_, fun host results hr => ?_⟩
    · exact (foldl_effect _ _).1
    · exact (foldl_effect _ _).2
    · exact foldl_effect_detector? hr _

/-- Whatever an exchange does not refuse can be done. -/
theorem exists_act (s : Solo) (now : Instant) (dec : Exchange.Decoding ReplyDecoder) (op : ExchangeOp)
    {answer : ExchangeAnswer} {d : ReplyDecoder} {t : Exchange.Step}
    (h : s.exchange.step dec s.decoder (fun l => ScriptedPools.source.state? l s.side.pools) now op =
      .ok (answer, d, t)) :
    ∃ s', s.act now dec op = .ok (answer, s') ∧ s'.exchange = t.exchange := by
  refine ⟨t.effects.foldl effect { s with now, exchange := t.exchange, decoder := d }, ?_,
    (foldl_effect _ _).2⟩
  unfold act Solo.step
  dsimp only
  rw [h]
  rfl

/-! ## Calls that fail

A call that fails gets a connection, at once or later, is written while parts of a reply may come, and
ends with octets that tell of a failure. -/

/-- An exchange gets its connection to the host. -/
inductive Connects (host : HostRef) : Solo → Solo → Prop
  | atOnce {s s' : Solo} (now : Instant) (dec : Exchange.Decoding ReplyDecoder) (link : LinkId)
      (answer : ExchangeAnswer) (h : s.act now dec (.start (.ready link host)) = .ok (answer, s')) :
      Connects host s s'
  | later {s s₁ s' : Solo} (asked now : Instant) (dec : Exchange.Decoding ReplyDecoder)
      (handle : HandleId) (link : LinkId) (answer answer' : ExchangeAnswer)
      (hasked : s.act asked dec (.start (.pending handle)) = .ok (answer, s₁))
      (h : s₁.act now dec (.ready link host) = .ok (answer', s')) : Connects host s s'

/-- The call is written, and parts of a reply come. -/
inductive Waits : Solo → Solo → Prop
  | done (s : Solo) : Waits s s
  | writes {s s₁ s' : Solo} (now : Instant) (dec : Exchange.Decoding ReplyDecoder) (op : ExchangeOp)
      (answer : ExchangeAnswer) (hop : op.isWriting = true) (h : s.act now dec op = .ok (answer, s₁))
      (rest : Waits s₁ s') : Waits s s'
  | reads {s s₁ s' : Solo} (now : Instant) (dec : Exchange.Decoding ReplyDecoder) (octets : Bytes)
      (h : s.act now dec (.data octets false) = .ok (.flag false, s₁)) (rest : Waits s₁ s') :
      Waits s s'

/-- A call that gets a connection to the host and fails. -/
inductive FailedCall (host : HostRef) : Solo → Solo → Prop
  | mk {s s₁ s₂ s' : Solo} (connects : Connects host s s₁) (waits : Waits s₁ s₂) (now : Instant)
      (dec : Exchange.Decoding ReplyDecoder) (octets : Bytes) (last : Bool) (answer : ExchangeAnswer)
      (fails : s₂.exchange.readsFailure dec s₂.decoder octets = true)
      (h : s₂.act now dec (.data octets last) = .ok (answer, s')) : FailedCall host s s'

/-- Calls that fail, one after another, each with an exchange of its own. -/
inductive FailedCalls (host : HostRef) : Nat → Solo → Solo → Prop
  | zero (s : Solo) : FailedCalls host 0 s s
  | succ {n : Nat} {s s₁ s' : Solo} (before : FailedCalls host n s s₁) (e : Exchange)
      (call : FailedCall host { s₁ with exchange := e } s') : FailedCalls host (n + 1) s s'

theorem Connects.hears {s s' : Solo} (h : Connects host s s') :
    s'.exchange.host = some host ∧ ∃ connected, s'.side.detector? host =
      (s.side.detector? host).map (·.put .connectSuccess connected) := by
  cases h with
  | atOnce now dec link answer h =>
    obtain ⟨shared, d, t, hstep, -, hx, hear⟩ := act_eq h
    cases hstep
    refine ⟨hx ▸ Exchange.poolReady_host _ _ _ _, now, hear host [.connectSuccess] ?_⟩
    exact Exchange.poolReady_reports _ _ _ _
  | later asked now dec handle link answer answer' hasked h =>
    obtain ⟨shared₁, d₁, t₁, hstep₁, -, -, hear₁⟩ := act_eq hasked
    cases hstep₁
    obtain ⟨shared, d, t, hstep, -, hx, hear⟩ := act_eq h
    cases hstep
    refine ⟨hx ▸ Exchange.poolReady_host _ _ _ _, now, ?_⟩
    rw [hear host [.connectSuccess] (Exchange.poolReady_reports _ _ _ _), hear₁ host [] rfl,
      Option.map_map]
    rfl

/-- Until its last octets come nothing is reported of a call. -/
theorem Waits.hears {s s' : Solo} (h : Waits s s') (hhost : s.exchange.host = some host) :
    s'.exchange.host = some host ∧ s'.side.detector? host = s.side.detector? host := by
  -- Whatever the call does here, it keeps its host.
  have hstays : ∀ {s s₁ : Solo} {t : Exchange.Step}, s.exchange.host = some host →
      s₁.exchange = t.exchange → t.exchange.host = s.exchange.host → s₁.exchange.host = some host := by
    intro s s₁ t hhost hx ht
    rw [hx, ht, hhost]
  induction h with
  | done s => exact ⟨hhost, rfl⟩
  | @writes s s₁ s' now dec op answer hop h rest ih =>
    obtain ⟨shared, d, t, hstep, -, hx, hear⟩ := act_eq h
    have hquiet : t.reports = [] ∧ t.exchange.host = s.exchange.host := by
      cases op with
      | write message =>
        cases hstep
        exact ⟨Exchange.write_reports _ _, rfl⟩
      | completeRequest =>
        cases hstep
        exact ⟨rfl, rfl⟩
      | charge =>
        cases hstep
        exact ⟨Exchange.charge_reports _ _, Exchange.charge_host _ _⟩
      | _ => cases hop
    obtain ⟨hhost', hsame⟩ := ih (hstays hhost hx hquiet.2)
    refine ⟨hhost', hsame.trans ?_⟩
    rw [hear host [] hquiet.1]
    exact Option.map_id'
  | @reads s s₁ s' now dec octets h rest ih =>
    obtain ⟨shared, d, t, hstep, -, hx, hear⟩ := act_eq h
    obtain ⟨isOver, hflag, hdata⟩ := Exchange.step_data hstep
    obtain rfl : false = isOver := by simpa using hflag
    have hquiet := Exchange.onData_quiet hdata
    obtain ⟨hhost', hsame⟩ := ih (hstays hhost hx hquiet.2)
    refine ⟨hhost', hsame.trans ?_⟩
    rw [hear host [] hquiet.1]
    exact Option.map_id'

/-- What a host hears of a call that fails: a success, then a failure. -/
theorem FailedCall.hears {s s' : Solo} (h : FailedCall host s s') :
    ∃ connected, s'.side.detector? host =
      (s.side.detector? host).map (·.putFailedCall connected s'.now) := by
  obtain ⟨connects, waits, now, dec, octets, last, answer, fails, h⟩ := h
  obtain ⟨hhost, connected, hconnected⟩ := connects.hears
  obtain ⟨hhost', hsame⟩ := waits.hears hhost
  obtain ⟨shared, d, t, hstep, hnow, -, hear⟩ := act_eq h
  obtain ⟨isOver, -, hdata⟩ := Exchange.step_data hstep
  refine ⟨connected, ?_⟩
  have htells := Exchange.onData_reports_failure hhost' fails hdata
  rw [hear host [.requestFailed] htells, hsame, hconnected, Option.map_map, hnow]
  rfl

/-- Where one failure is enough, any number of such calls leaves the host ejected. -/
theorem FailedCalls.ejects {n : Nat} {s s' : Solo} {d : Detector} (h : FailedCalls host n s s')
    (hd : s.side.detector? host = some d) (hone : d.settings.consecutiveFailures ≤ 1) :
    ∃ d', s'.side.detector? host = some d' ∧ d'.settings = d.settings ∧
      (n ≠ 0 → d'.health = .ejected ∧ d'.ejectedAt = some s'.now) := by
  induction h with
  | zero s => exact ⟨d, hd, rfl, fun h => absurd rfl h⟩
  | succ before e call ih =>
    obtain ⟨d₁, hd₁, hsettings, -⟩ := ih hd
    obtain ⟨connected, hcall⟩ := call.hears
    obtain ⟨hejected, hat, hkept⟩ := Detector.putFailedCall_ejects (hsettings ▸ hone) connected _
    have hd₂ := hcall.trans (congrArg (Option.map _) hd₁)
    exact ⟨_, hd₂, hkept.trans hsettings, fun _ => ⟨hejected, hat⟩⟩

/-- Where more than one failure is needed, any number of such calls leaves the host healthy, with
one failure counted. -/
theorem FailedCalls.spares {n : Nat} {s s' : Solo} {d : Detector} (h : FailedCalls host n s s')
    (hd : s.side.detector? host = some d) (hhealthy : d.health = .healthy)
    (hmore : 1 < d.settings.consecutiveFailures) :
    ∃ d', s'.side.detector? host = some d' ∧ d'.settings = d.settings ∧ d'.health = .healthy ∧
      (n ≠ 0 → d'.requestFailures = 1) := by
  induction h with
  | zero s => exact ⟨d, hd, rfl, hhealthy, fun h => absurd rfl h⟩
  | succ before e call ih =>
    obtain ⟨d₁, hd₁, hsettings, hhealth, -⟩ := ih hd
    obtain ⟨connected, hcall⟩ := call.hears
    have hd₂ := hcall.trans (congrArg (Option.map _) hd₁)
    rw [Option.map_some, Detector.putFailedCall_healthy hhealth (hsettings ▸ hmore)] at hd₂
    exact ⟨_, hd₂, hsettings, hhealth, fun _ => rfl⟩

/-- After calls in a row that all got a connection to a healthy host and all failed, however many,
the host is ejected exactly where a single failure is enough. -/
theorem FailedCalls.isEjected_iff {n : Nat} {s s' : Solo} {d : Detector}
    (h : FailedCalls host n s s') (hn : n ≠ 0) (hd : s.side.detector? host = some d)
    (hhealthy : d.health = .healthy) :
    ∃ d', s'.side.detector? host = some d' ∧
      (d'.isEjected s'.now = true ↔
        d.settings.consecutiveFailures ≤ 1 ∧ 0 < d.settings.baseEjectionMillis) := by
  by_cases hone : d.settings.consecutiveFailures ≤ 1
  · obtain ⟨d', hd', hsettings, hejected⟩ := h.ejects hd hone
    obtain ⟨hhealth, hat⟩ := hejected hn
    refine ⟨d', hd', ?_⟩
    rw [Detector.isEjected_of_ejectedAt hhealth hat, hsettings]
    exact ⟨fun h => ⟨hone, h⟩, And.right⟩
  · obtain ⟨d', hd', -, hhealth, -⟩ := h.spares hd hhealthy (Nat.lt_of_not_le hone)
    refine ⟨d', hd', fun h => ?_, fun h => absurd h.1 hone⟩
    rw [Detector.isEjected, Detector.look_healthy hhealth, hhealth] at h
    cases h

/-- Two calls in a row, each answered with an octet that is no text, do not eject a host that is to
be ejected after two failures. -/
theorem FailedCalls.isEjected_iff_two_calls :
    let e : Exchange := { cluster := "users", transport := .framed, protocol := .ofConfig .binary,
                          closeOnError := true }
    let s := Solo.start e { consecutiveFailures := 2 }
    ∃ s' d d', FailedCalls (Solo.host "users") 2 s s' ∧
      s.side.detector? (Solo.host "users") = some d ∧ d.health = .healthy ∧
      s'.side.detector? (Solo.host "users") = some d' ∧ d'.isEjected s'.now = false := by
  intro e s
  -- A call that gets its connection, sends its request and reads a frame that is no reply.
  have hcall : ∀ (s : Solo) (now : Instant), ∃ s', FailedCall (Solo.host "users")
      { s with exchange := e } s' := by
    intro s now
    obtain ⟨s₁, h₁, hx₁⟩ := exists_act { s with exchange := e } now Exchange.lineReplies
      (.start (.ready 0 (Solo.host "users"))) rfl
    obtain ⟨s₂, h₂, hx₂⟩ := exists_act s₁ now Exchange.lineReplies (.write [1]) rfl
    obtain ⟨s₃, h₃, hx₃⟩ := exists_act s₂ now Exchange.lineReplies .completeRequest rfl
    have hread : ∀ d, s₃.exchange.readsFailure Exchange.lineReplies d [0, 0, 0, 1, 255] = true ∧
        s₃.exchange.responseComplete = false := by
      intro d
      rw [hx₃, hx₂, hx₁]
      dsimp only
      generalize ScriptedPools.source.state? 0 s.side.pools = shared
      cases shared <;> exact ⟨by rfl, rfl⟩
    obtain ⟨answer, d, t, hstep⟩ := Exchange.exists_step_data Exchange.lineReplies s₃.decoder
      (fun l => ScriptedPools.source.state? l s₃.side.pools) (now + 1) [0, 0, 0, 1, 255] false
      (hread s₃.decoder).2
    obtain ⟨s', h, -⟩ := exists_act s₃ (now + 1) Exchange.lineReplies _ hstep
    exact ⟨s', .mk (.atOnce now _ 0 _ h₁) (.writes now _ (.write [1]) _ rfl h₂
      (.writes now _ .completeRequest _ rfl h₃ (.done s₃))) (now + 1) _ _ false _
      (hread s₃.decoder).1 h⟩
  obtain ⟨s₁, h₁⟩ := hcall s 0
  obtain ⟨s', h₂⟩ := hcall s₁ 2
  have hcalls := FailedCalls.succ (.succ (.zero s) e h₁) e h₂
  obtain ⟨d', hd', hiff⟩ := FailedCalls.isEjected_iff hcalls (by decide) rfl rfl
  refine ⟨s', _, d', hcalls, rfl, rfl, hd', ?_⟩
  rw [Bool.eq_false_iff]
  intro hejected
  exact absurd (hiff.mp hejected).1 (by decide)

end Solo

end RpcProxy

import RpcProxy.Proofs.Exchange.ExchangePhases
import RpcProxy.Proofs.Pool.ConnectionHands

/-!
# How an exchange holds its connection

Of all that an exchange does, only commands concern its connection. A step either leaves the
connection in the hands of the exchange (`Holds`) or lets go of it (`LetsGo`), perhaps closing it
before. Only `poolReady` takes one, and lets go of the one before if there was any.

Commands are carried out in order, and letting go is two of them, so a step is not described by a
set of commands. `LetsGo` says that they stand together, with nothing before or behind them that
could close or give back the connection once more. Most proofs here put a step together from two, of
which one leaves the connection alone.

The second half says what these steps do to pools. It turns lists of commands into the relations
between pools that the rest of the development uses, so that nobody else has to read a list.
-/

set_option autoImplicit false

namespace RpcProxy

/-- What an effect does to a connection or to a request for one. -/
def Effect.command? : Effect → Option LinkCommand
  | .link c => some c
  | _ => none

/-- The commands by which a connection is let go of, closed before or not. -/
def LinkCommand.letGo (how : Option CloseType) : Option LinkId → List LinkCommand
  | none => []
  | some link => (how.map (LinkCommand.close link)).toList ++ [.release link]

theorem Effect.command?_of_isNote (x : Effect) (h : x.isNote = true) : x.command? = none := by
  cases x <;> first | rfl | cases h

namespace Exchange

def Step.commands (t : Step) : List LinkCommand := t.effects.filterMap Effect.command?

/-- A step that leaves the connection where it is. Commands that use it are allowed, such as those
that write. -/
structure Step.Holds (e : Exchange) (t : Step) : Prop where
  link : t.exchange.link = e.link
  uses : ∀ c ∈ t.commands, c.isUse = true

/-- A step that lets go of the connection, closing it before in a certain way or not. -/
structure Step.LetsGo (how : Option CloseType) (e : Exchange) (t : Step) : Prop where
  link : t.exchange.link = none
  parts : ∃ us vs, (∀ c ∈ us, LinkCommand.isUse c = true) ∧ (∀ c ∈ vs, LinkCommand.isUse c = true) ∧
    t.commands = us ++ LinkCommand.letGo how e.link ++ vs

variable {e : Exchange} {t : Step} {how : Option CloseType}

theorem Step.commands_andThen (t : Step) (f : Exchange → Step) :
    (t.andThen f).commands = t.commands ++ (f t.exchange).commands := by
  simp only [Step.commands, Step.andThen, List.filterMap_append]

theorem Step.Holds.andThen {f : Exchange → Step} (h₁ : t.Holds e) (h₂ : (f t.exchange).Holds t.exchange) :
    (t.andThen f).Holds e where
  link := h₂.link.trans h₁.link
  uses := by
    intro c hc
    rw [Step.commands_andThen] at hc
    rcases List.mem_append.mp hc with hc | hc
    · exact h₁.uses c hc
    · exact h₂.uses c hc

theorem Step.Holds.letsGo {f : Exchange → Step} (h₁ : t.Holds e)
    (h₂ : (f t.exchange).LetsGo how t.exchange) : (t.andThen f).LetsGo how e := by
  obtain ⟨us, vs, hus, hvs, hc⟩ := h₂.parts
  refine ⟨h₂.link, t.commands ++ us, vs, ?_, hvs, ?_⟩
  · intro c hc
    rcases List.mem_append.mp hc with hc | hc
    · exact h₁.uses c hc
    · exact hus c hc
  · rw [Step.commands_andThen, hc, h₁.link]
    simp only [List.append_assoc]

theorem Step.LetsGo.holds {f : Exchange → Step} (h₁ : t.LetsGo how e)
    (h₂ : (f t.exchange).Holds t.exchange) : (t.andThen f).LetsGo how e := by
  obtain ⟨us, vs, hus, hvs, hc⟩ := h₁.parts
  refine ⟨h₂.link.trans h₁.link, us, vs ++ (f t.exchange).commands, hus, ?_, ?_⟩
  · intro c hc
    rcases List.mem_append.mp hc with hc | hc
    · exact hvs c hc
    · exact h₂.uses c hc
  · rw [Step.commands_andThen, hc]
    simp only [List.append_assoc]

/-- Letting go without a connection is to leave everything where it is. -/
theorem Step.LetsGo.holds_of_none (h : t.LetsGo how e) (he : e.link = none) : t.Holds e := by
  obtain ⟨us, vs, hus, hvs, hc⟩ := h.parts
  refine ⟨h.link.trans he.symm, ?_⟩
  intro c hmem
  rw [hc, he, LinkCommand.letGo, List.append_nil] at hmem
  rcases List.mem_append.mp hmem with hmem | hmem
  · exact hus c hmem
  · exact hvs c hmem

/-! ## Steps that leave the connection where it is -/

theorem emit_holds {effects : List Effect} (h : effects.filterMap Effect.command? = []) :
    (e.emit effects).Holds e := by
  refine ⟨rfl, ?_⟩
  show ∀ c ∈ effects.filterMap Effect.command?, _
  rw [h]
  exact fun c hc => nomatch hc

theorem charge_holds (now : Instant) (e : Exchange) : (e.charge now).Holds e := by
  unfold charge
  split
  · exact ⟨rfl, fun c hc => nomatch hc⟩
  · cases e.requestCompleteAt with
    | none => exact ⟨rfl, fun c hc => nomatch hc⟩
    | some t => exact ⟨rfl, fun c hc => nomatch hc⟩

theorem failureEffects_commands (reason : FailureReason) (e : Exchange) :
    (e.failureEffects reason).filterMap Effect.command? = [] := by
  obtain ⟨notes, hnotes, heq⟩ := failureEffects_eq reason e
  rw [heq, List.filterMap_append, Effect.filterMap_notes Effect.command?_of_isNote hnotes]
  cases (e.failureDecision reason).action <;> rfl

theorem fail_holds (reason : FailureReason) (now : Instant) (e : Exchange) :
    (e.fail reason now).2.Holds e :=
  (charge_holds now e).andThen (emit_holds (failureEffects_commands reason _))

theorem startCall_holds (resume : Bool) (e : Exchange) : (e.startCall resume).Holds e := by
  unfold startCall
  cases hl : e.link with
  | none => cases resume <;> exact ⟨rfl, fun c hc => nomatch hc⟩
  | some link =>
    cases e.linkState with
    | none => cases resume <;> exact ⟨rfl, fun c hc => nomatch hc⟩
    | some state =>
      refine ⟨hl.symm, ?_⟩
      cases resume with
      | true => simp [Step.commands, Effect.command?, LinkCommand.isUse]
      | false => simp [Step.commands, Effect.command?, LinkCommand.isUse]

theorem poolFailure_holds (reason : FailureReason) (host : Option HostRef) (now : Instant)
    (e : Exchange) : (e.poolFailure reason host now).Holds e := by
  have h := fail_holds reason now { e with pending := none, host }
  unfold poolFailure
  dsimp only
  have hfailed : ({ e with pending := none, host }.fail reason now).2.Holds e := ⟨h.link, h.uses⟩
  refine hfailed.andThen (emit_holds ?_)
  split
  · rfl
  · rfl

theorem poolFailure_exchange (reason : FailureReason) (host : Option HostRef) (now : Instant)
    (e : Exchange) : ∃ timed,
      (e.poolFailure reason host now).exchange = { e with pending := none, host, timed } := by
  obtain ⟨timed, h⟩ := fail_exchange reason now { e with pending := none, host }
  refine ⟨timed, ?_⟩
  unfold poolFailure
  simp only [Step.andThen, emit]
  exact h

theorem write_holds (message : Bytes) (e : Exchange) : (e.write message).2.Holds e := by
  refine ⟨rfl, ?_⟩
  unfold write Step.commands
  cases e.link with
  | none => exact fun c hc => nomatch hc
  | some link => simp [Effect.command?, LinkCommand.isUse]

theorem dropHandle_holds (e : Exchange) : e.dropHandle.Holds e := by
  refine ⟨by rw [dropHandle_exchange], ?_⟩
  unfold dropHandle
  cases e.pending with
  | none => exact fun c hc => nomatch hc
  | some handle => simp [Step.commands, Effect.command?, LinkCommand.isUse]

/-! ## Steps that let go of it -/

theorem dropLink_letsGo (how : Option CloseType) (e : Exchange) : (e.dropLink how).LetsGo how e := by
  refine ⟨by rw [dropLink_exchange], [], [], fun c hc => (nomatch hc), fun c hc => (nomatch hc), ?_⟩
  unfold dropLink
  cases e.link with
  | none => rfl
  | some link =>
    cases e.host with
    | none => cases how <;> rfl
    | some h => cases how <;> rfl

theorem releaseLink_letsGo (close : Bool) (e : Exchange) :
    (e.releaseLink close).LetsGo (if close then some .noFlush else none) e :=
  (dropHandle_holds e).letsGo (dropLink_letsGo _ _)

theorem completeResponse_letsGo (now : Instant) (e : Exchange) :
    (e.completeResponse now).LetsGo none e := by
  unfold completeResponse
  have hdone : ((e.charge now).andThen fun e => { exchange := { e with responseComplete := true } }).Holds
      e := (charge_holds now e).andThen ⟨rfl, fun c hc => nomatch hc⟩
  exact hdone.letsGo (dropLink_letsGo none _)

theorem replyEffects_commands (e : Exchange) (kind : Option MessageType) (success : Bool) :
    (e.replyEffects kind success).filterMap Effect.command? = [] :=
  Effect.filterMap_notes Effect.command?_of_isNote (replyEffects_notes e kind success)

/-- How the connection is closed when the decoder has come to something. -/
def closing (status : ReplyStatus) (draining : Bool) : Option CloseType :=
  if status = .complete ∧ draining = false then none else some .noFlush

theorem onReply_holdsOrLetsGo (status : ReplyStatus) (kind : Option MessageType) (success draining : Bool)
    (now : Instant) (e : Exchange) :
    if status = .moreData then (e.onReply status kind success draining now).Holds e
      else (e.onReply status kind success draining now).LetsGo (closing status draining) e := by
  unfold onReply
  cases status with
  | moreData => exact ⟨rfl, fun c hc => nomatch hc⟩
  | complete =>
    rw [if_neg (by decide)]
    have hbase : (e.emit ([.count (.responseSize e.cluster e.responseSize)] ++
        e.replyEffects kind success)).Holds e :=
      emit_holds (by rw [List.filterMap_append, replyEffects_commands]; rfl)
    cases draining with
    | false => exact hbase.letsGo (completeResponse_letsGo now _)
    | true =>
      simp only [if_true]
      refine Step.LetsGo.holds (hbase.letsGo ?_) ((completeResponse_letsGo now _).holds_of_none ?_)
      -- A peer that drains: the exchange notes it before it closes the connection.
      · have hmark : Step.Holds e
            { exchange := { e with draining := true }, effects := [.count (.drainClose e.cluster)] } :=
          ⟨rfl, fun c hc => nomatch hc⟩
        exact hmark.letsGo (releaseLink_letsGo true _)
      · exact (releaseLink_over true _).link
  | reset =>
    rw [if_neg (by decide)]
    have hbase : (e.emit (e.report .requestFailed ++ [.count (.decodingError e.label)])).Holds e :=
      emit_holds (by rw [List.filterMap_append, Effect.filterMap_notes Effect.command?_of_isNote
        (report_notes e _)]; rfl)
    exact hbase.letsGo (releaseLink_letsGo true _)

theorem onUpgradeData_holds (upgrade : Upgrade) (sofar data : Bytes) (e : Exchange) :
    (e.onUpgradeData upgrade sofar data).Holds e := by
  unfold onUpgradeData
  dsimp only
  split
  · refine Step.Holds.andThen ?_ (startCall_holds true _)
    refine ⟨rfl, ?_⟩
    cases e.link with
    | none => exact fun c hc => nomatch hc
    | some link =>
      cases e.linkState with
      | none => exact fun c hc => nomatch hc
      | some state => simp [Step.commands, Effect.command?, LinkCommand.isUse]
  · exact ⟨rfl, fun c hc => nomatch hc⟩

/-- Octets of a response: how the connection is let go of depends on what the decoder has come
to. -/
theorem onResponseData_holdsOrLetsGo {d d' : ReplyDecoder} {data : Bytes} {now : Instant}
    {status : ReplyStatus} (h : e.onResponseData lineReplies d data now = (status, d', t)) :
    if status = .moreData then t.Holds e
      else t.LetsGo (closing status d'.envelope.draining) e := by
  simp only [onResponseData, lineReplies] at h
  generalize (if (!e.responseStarted) = true then
    ReplyDecoder.start e.transport e.protocol.kind else d) = d₀ at h
  obtain ⟨status₁, d₁, hfed⟩ : ∃ status₁ d₁, d₀.feed data = (status₁, d₁) := ⟨_, _, rfl⟩
  rw [hfed] at h
  cases h
  have hfirst : Step.Holds e
      { exchange := { e with responseStarted := true }
        effects := if !e.responseStarted then
            [.startResponse e.transport e.protocol.name] else [] } := by
    refine ⟨rfl, ?_⟩
    cases e.responseStarted with
    | true => exact fun c hc => absurd hc List.not_mem_nil
    | false => exact fun c hc => absurd hc List.not_mem_nil
  have hreply := onReply_holdsOrLetsGo status₁ d₁.envelope.kind d₁.success d₁.envelope.draining now
    { e with responseStarted := true }
  by_cases hs : status₁ = .moreData
  · rw [if_pos hs] at hreply ⊢
    exact hfirst.andThen hreply
  · rw [if_neg hs] at hreply ⊢
    exact hfirst.letsGo hreply

/-- Octets leave the connection where it is until the response is over; then it is let go of. -/
theorem onData_holdsOrLetsGo {d d' : ReplyDecoder} {data : Bytes} {now : Instant} {isOver : Bool}
    (h : e.onData lineReplies d data false now = .ok (isOver, d', t)) :
    if isOver then ∃ how, t.LetsGo how e else t.Holds e := by
  unfold onData at h
  split at h
  · cases h
  · dsimp only at h
    cases hu : e.upgrading with
    | some under =>
      obtain ⟨upgrade, sofar⟩ := under
      rw [hu] at h
      cases h
      exact ⟨(onUpgradeData_holds upgrade sofar data _).link,
        (onUpgradeData_holds upgrade sofar data _).uses⟩
    | none =>
      rw [hu] at h
      dsimp only at h
      generalize hgot : onResponseData lineReplies d data now _ = got at h
      obtain ⟨status, d₁, t₁⟩ := got
      have hcommands := onResponseData_holdsOrLetsGo hgot
      -- Whether the reply is over is what decides whether the connection is let go.
      by_cases hs : status = .moreData
      · rw [if_pos hs] at hcommands
        simp only [ne_eq, hs, not_true_eq_false, if_false, Bool.false_eq_true] at h
        cases h
        exact ⟨hcommands.link, hcommands.uses⟩
      · rw [if_neg hs] at hcommands
        simp only [ne_eq, hs, not_false_eq_true, if_true] at h
        cases h
        exact ⟨_, hcommands.link, hcommands.parts⟩

/-- The end of the connection is a reason to let go of it. -/
theorem onEvent_letsGo {event : ConnectionEvent} {now : Instant} (h : e.onEvent event now = .ok t) :
    t.LetsGo none e := by
  obtain ⟨-, reason, -, rfl⟩ := onEvent_cases h
  refine ((fail_holds reason now e).letsGo (releaseLink_letsGo false _)).holds (emit_holds ?_)
  split
  · rfl
  · rfl

/-! ## Taking a connection -/

/-- The exchange attaches itself to a connection and lets go of the one that it had. -/
theorem poolReady_attaches (link : LinkId) (host : HostRef) (shared : Option LinkState) (e : Exchange) :
    (e.poolReady link host shared).exchange.link = some link ∧
      ∃ us vs, (∀ c ∈ us, LinkCommand.isUse c = true) ∧ (∀ c ∈ vs, LinkCommand.isUse c = true) ∧
        (e.poolReady link host shared).commands =
          .attach link :: us ++ LinkCommand.letGo none e.link ++ vs := by
  -- The connection is taken first; what follows uses it, whether it is upgraded or not.
  have htaken : ∀ (e' : Exchange) (rest : Step), rest.Holds e' → e'.link = some link →
      rest.exchange.link = some link ∧ ∃ us vs, (∀ c ∈ us, LinkCommand.isUse c = true) ∧
        (∀ c ∈ vs, LinkCommand.isUse c = true) ∧
        ([Effect.report host .connectSuccess, .hold host, .link (.attach link)] ++
          (if shared.isNone then [Effect.link (.initState link (shared.getD {}))] else []) ++
          (e.link.map fun old => [Effect.link (.release old)]).getD []).filterMap Effect.command? ++
            rest.commands = .attach link :: us ++ LinkCommand.letGo none e.link ++ vs := by
    intro e' rest hrest hlink
    refine ⟨hrest.link.trans hlink,
      (if shared.isNone then [.initState link (shared.getD {})] else []), rest.commands, ?_,
      hrest.uses, ?_⟩
    · split
      · simp [LinkCommand.isUse]
      · exact fun c hc => nomatch hc
    · cases shared with
      | none => cases e.link <;> rfl
      | some state => cases e.link <;> rfl
  unfold poolReady
  dsimp only
  split
  · next upgrade state _ =>
    have hheld : Step.Holds { e with host := some host, pending := none, link := some link,
                                     linkState := some (shared.getD {}) }
        { exchange := { e with host := some host, pending := none, link := some link,
                               linkState := some state, upgrading := some (upgrade, []) }
          effects := [.link (.updateState link state), .addSize upgrade.request.length,
            .link (.write link upgrade.request)] } :=
      ⟨rfl, by simp [Step.commands, Effect.command?, LinkCommand.isUse]⟩
    rw [Step.commands_andThen]
    exact htaken _ _ hheld rfl
  · rw [Step.commands_andThen]
    exact htaken { e with host := some host, pending := none, link := some link,
                          linkState := some (shared.getD {}) } _ (startCall_holds _ _) rfl

end Exchange

/-- A router does several things to connections, one after another. -/
def PoolSource.performAll {σ : Type} (source : PoolSource σ) (ref : RouterRef)
    (cs : List LinkCommand) (p : σ) : σ :=
  cs.foldl (fun p c => (source.perform ref c p).2) p

/-- What pools tell while commands are carried out, the latest first. -/
def PoolSource.notesAll {σ : Type} (source : PoolSource σ) (ref : RouterRef) :
    List LinkCommand → σ → List PoolNote
  | [], _ => []
  | c :: rest, p =>
    source.notesAll ref rest (source.perform ref c p).2 ++ (source.perform ref c p).1.reverse

theorem PoolSource.performAll_append {σ : Type} (source : PoolSource σ) (ref : RouterRef)
    (cs ds : List LinkCommand) (p : σ) :
    source.performAll ref (cs ++ ds) p = source.performAll ref ds (source.performAll ref cs p) :=
  List.foldl_append

theorem PoolSource.notesAll_append {σ : Type} (source : PoolSource σ) (ref : RouterRef)
    (cs ds : List LinkCommand) (p : σ) : source.notesAll ref (cs ++ ds) p =
      source.notesAll ref ds (source.performAll ref cs p) ++ source.notesAll ref cs p := by
  induction cs generalizing p with
  | nil => exact (List.append_nil _).symm
  | cons c rest ih =>
    show source.notesAll ref (rest ++ ds) _ ++ _ = _ ++ (source.notesAll ref rest _ ++ _)
    rw [ih, List.append_assoc]
    rfl

namespace TcpPools

open Exchange

variable {ref : RouterRef} {e : Exchange} {t : Step} {how : Option CloseType} {link : LinkId}

theorem performAll_keeps {cs : List LinkCommand} (h : ∀ c ∈ cs, LinkCommand.isUse c = true)
    (p : TcpPools) : Keeps p (source.performAll ref cs p) := by
  induction cs generalizing p with
  | nil => exact Keeps.refl p
  | cons c rest ih =>
    have hc := perform_keeps ref (h c List.mem_cons_self) p
    exact hc.trans (ih (fun c hc => h c (List.mem_cons_of_mem _ hc)) _)

theorem letGo_givesBack (how : Option CloseType) (link : LinkId) (p : TcpPools) :
    GivesBack link p (source.performAll ref (LinkCommand.letGo how (some link)) p) := by
  cases how with
  | none => exact release_givesBack p link
  | some kind => exact shut_givesBack (release_givesBack _ link) kind rfl

theorem holds_keeps (h : t.Holds e) (p : TcpPools) : Keeps p (source.performAll ref t.commands p) :=
  performAll_keeps h.uses p

theorem letsGo_givesBack (h : t.LetsGo how e) (he : e.link = some link) (p : TcpPools) :
    GivesBack link p (source.performAll ref t.commands p) := by
  obtain ⟨us, vs, hus, hvs, hc⟩ := h.parts
  rw [hc, he, PoolSource.performAll_append, PoolSource.performAll_append]
  exact ((performAll_keeps hus p).givesBack (letGo_givesBack how link _)).keeps (performAll_keeps hvs _)

theorem performAll_isLodged {cs : List LinkCommand} (h : ∀ c ∈ cs, LinkCommand.isUse c = true)
    (p : TcpPools) (link : LinkId) :
    (source.performAll ref cs p).isLodged link = p.isLodged link := by
  induction cs generalizing p with
  | nil => rfl
  | cons c rest ih =>
    rw [← perform_isLodged ref (h c List.mem_cons_self) p link]
    exact ih (fun c hc => h c (List.mem_cons_of_mem _ hc)) _

/-- What becomes of a connection that is let go of: it is closed or kept as it was asked. -/
theorem letsGo_kept (ref : RouterRef) (h : t.LetsGo how e) (he : e.link = some link) (p : TcpPools) :
    (source.performAll ref t.commands p).isOpen link =
        (how.isNone && p.isOpen link && p.isLodged link) ∧
      (source.performAll ref t.commands p).idleCount link =
        p.idleCount link + (how.isNone && p.isOpen link && p.isLodged link).toNat := by
  obtain ⟨us, vs, hus, hvs, hc⟩ := h.parts
  rw [hc, he, PoolSource.performAll_append, PoolSource.performAll_append]
  have hkeeps : p.Keeps (source.performAll ref us p) := performAll_keeps hus p
  have hlodged : (source.performAll ref us p).isLodged link = _ := performAll_isLodged hus p link
  generalize source.performAll ref us p = p₁ at hkeeps hlodged
  rw [(performAll_keeps hvs _).state, (performAll_keeps hvs _).idle, ← hkeeps.state, ← hkeeps.idle,
    ← hlodged]
  cases how with
  | none =>
    obtain ⟨hstate, hidle⟩ := release_kept p₁ link
    exact ⟨hstate, hidle⟩
  | some kind =>
    obtain ⟨hstate, hidle⟩ := release_kept (p₁.shut link kind) link
    rw [shut_isOpen, bne_self_eq_false, Bool.and_false, Bool.false_and] at hstate hidle
    rw [shut_idleCount] at hidle
    exact ⟨hstate, hidle⟩

/-- The connection is taken first; then the one before is given back, if there was any. -/
theorem poolReady_takes (ref : RouterRef) (link : LinkId) (host : HostRef)
    (shared : Option LinkState) (e : Exchange) (p : TcpPools) :
    ∃ p₁, Takes ref link p p₁ ∧
      match e.link with
      | none => Keeps p₁ (source.performAll ref (e.poolReady link host shared).commands p)
      | some old => GivesBack old p₁ (source.performAll ref (e.poolReady link host shared).commands p) := by
  obtain ⟨-, us, vs, hus, hvs, hc⟩ := poolReady_attaches link host shared e
  have htakes : Takes ref link p (source.performAll ref (.attach link :: us) p) :=
    (attach_takes ref link p).keeps (performAll_keeps hus _)
  refine ⟨_, htakes, ?_⟩
  rw [hc, PoolSource.performAll_append, PoolSource.performAll_append]
  cases e.link with
  | none => exact performAll_keeps hvs _
  | some old => exact (letGo_givesBack none old _).keeps (performAll_keeps hvs _)

end TcpPools

end RpcProxy


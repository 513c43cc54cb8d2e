import RpcProxy.Proofs.Exchange.ConnectionCommands
import RpcProxy.Proofs.Session.RouterMoves

/-!
# Routers at work

What each function of a router leaves behind: the tasks that it has put behind other work, what the
router then has in mind, and what it has done to the pools. The latter is said as the list of
commands that were carried out, one after another, whatever the pools are; a session knows its pools
as a source of connections only, and a proof that reads a list of commands can be made before it is
known what a command does to a real pool.

Each function has one lemma, and a caller's lemma is put together from those of what it calls. Where
a function does one of several things, its lemma is a disjunction with a part for each, and its name
ends in `cases`. The shares of routers are read from these lemmas (`Share`), and the functions
themselves are not opened again.
-/

set_option autoImplicit false

namespace RpcProxy

namespace Session

variable {σ : Type} {ref other : RouterRef} {s s' : Session σ}

/-! ## Looking streams up

Which stream is found behind the small changes that routers make. -/

theorem stream?_pass (s : Session σ) (id id' : StreamId) :
    (s.pass id).stream? id' =
      (s.stream? id').map fun x => if x.id = id then { x with decoded := x.decoded + 1 } else x :=
  stream?_modifyStream (f := fun x => { x with decoded := x.decoded + 1 }) (fun _ => rfl) id'

theorem stream?_append {x : Stream} (hs : s'.streams = s.streams ++ [x]) (id : StreamId) :
    s'.stream? id = (s.stream? id).or (if x.id = id then some x else none) := by
  unfold Session.stream?
  rw [hs, List.find?_append, List.find?_singleton]
  simp only [beq_iff_eq]

theorem stream?_filter_same (s : Session σ) (id : StreamId) :
    ({ s with streams := s.streams.filter (·.id != id) } : Session σ).stream? id = none := by
  unfold Session.stream?
  rw [List.find?_eq_none]
  intro x hx
  simpa using (List.mem_filter.mp hx).2

theorem stream?_filter_ne {id id' : StreamId} (h : id' ≠ id) :
    ({ s with streams := s.streams.filter (·.id != id) } : Session σ).stream? id' = s.stream? id' := by
  unfold Session.stream?
  rw [List.find?_filter]
  refine congrFun (congrArg List.find? (funext fun x => ?_)) _
  by_cases hx : x.id = id'
  · simp [hx, h]
  · simp [hx]

/-! ## Pools

The commands that a piece of work gives to the pools, in their order. -/

theorem modifyRouter_side (s : Session σ) (ref : RouterRef) (f : Router → Router) :
    (s.modifyRouter ref f).side = s.side ∧ (s.modifyRouter ref f).source = s.source ∧
      (s.modifyRouter ref f).now = s.now := by
  unfold Session.modifyRouter
  split
  · exact ⟨rfl, rfl, rfl⟩
  · exact ⟨rfl, rfl, rfl⟩

theorem apply_pools (source : PoolSource σ) (ref : RouterRef) (now : Instant) (e : Effect)
    (h : HostSide σ) :
    (h.apply source ref now e).2.pools = source.performAll ref e.command?.toList h.pools := by
  cases e <;> rfl

theorem effect_pools (ref : RouterRef) (s : Session σ) (e : Effect) :
    (s.effect ref e).side.pools = s.source.performAll ref e.command?.toList s.side.pools ∧
      (s.effect ref e).source = s.source := by
  rw [effect_eq, ← apply_pools s.source ref s.now]
  cases e with
  | startCall p =>
    obtain ⟨hside, hsource, -⟩ := modifyRouter_side _ ref _
    exact ⟨congrArg HostSide.pools hside, hsource⟩
  | beginCall envelope =>
    obtain ⟨hside, hsource, -⟩ := modifyRouter_side _ ref _
    exact ⟨congrArg HostSide.pools hside, hsource⟩
  | _ => exact ⟨rfl, rfl⟩

theorem effects_pools (ref : RouterRef) (es : List Effect) (s : Session σ) :
    (es.foldl (effect ref) s).side.pools =
      s.source.performAll ref (es.filterMap Effect.command?) s.side.pools := by
  induction es generalizing s with
  | nil => rfl
  | cons e rest ih =>
    obtain ⟨hpools, hsource⟩ := effect_pools ref s e
    rw [List.foldl_cons, ih, hpools, hsource, ← PoolSource.performAll_append]
    cases he : e.command? with
    | none => simp [he]
    | some c => simp [he]

theorem takeStep_pools (s : Session σ) (ref : RouterRef) (t : Exchange.Step) :
    (s.takeStep ref t).side.pools = s.source.performAll ref t.commands s.side.pools := by
  obtain ⟨hside, hsource, -⟩ := modifyRouter_side s ref fun r => { r with exchange := some t.exchange }
  unfold Session.takeStep
  rw [effects_pools, hside, hsource]
  rfl

theorem endRouter_pools (s : Session σ) (ref : RouterRef) (t : Exchange.Step) :
    (s.endRouter ref t).side.pools = s.source.performAll ref t.commands s.side.pools :=
  effects_pools ref t.effects _

theorem giveBack_pools (s : Session σ) (ref : RouterRef) (link : LinkId) :
    (s.giveBack ref link).side.pools = s.source.performAll ref [.release link] s.side.pools :=
  (effect_pools ref s _).1

theorem giveBack_router? (s : Session σ) (ref : RouterRef) (link : LinkId) (other : RouterRef) :
    (s.giveBack ref link).router? other = s.router? other := by
  rw [Session.giveBack, effect_eq]
  exact applied_router? ref s _ other

theorem forwardReply_pools (s : Session σ) (ref : RouterRef) :
    (s.forwardReply ref).side.pools = s.side.pools := by
  unfold Session.forwardReply
  split
  · rfl
  · dsimp only
    split
    · exact (effect_pools ref _ _).1
    · rfl
    · rfl

theorem ask_pools (source : PoolSource σ) (cluster : Config.Cluster) (host : HostRef)
    (ref : RouterRef) (h : HostSide σ) :
    (h.ask source cluster host ref).2.pools = (source.ask cluster host ref h.pools).2.2 ∧
      (h.ask source cluster host ref).1 = (source.ask cluster host ref h.pools).1 := by
  have hcount : ∀ (events : List RouterEvent) (h : HostSide σ),
      (events.foldl HostSide.count h).pools = h.pools := by
    intro events
    induction events with
    | nil => exact fun _ => rfl
    | cons e rest ih => exact fun h => ih (h.count e)
  exact ⟨hcount _ _, rfl⟩

/-! ## What pools tell

What was noted of pools by a piece of work. -/

theorem modifyRouter_notes (s : Session σ) (ref : RouterRef) (f : Router → Router) :
    (s.modifyRouter ref f).poolNotes = s.poolNotes := by
  unfold Session.modifyRouter
  split
  · rfl
  · rfl

theorem apply_notes (source : PoolSource σ) (ref : RouterRef) (now : Instant) (e : Effect)
    (h : HostSide σ) : (h.apply source ref now e).1.reverse =
      source.notesAll ref e.command?.toList h.pools := by
  cases e <;> rfl

theorem effect_notes (ref : RouterRef) (s : Session σ) (e : Effect) :
    (s.effect ref e).poolNotes =
      s.source.notesAll ref e.command?.toList s.side.pools ++ s.poolNotes := by
  rw [← apply_notes s.source ref s.now, effect_eq]
  have hlogged : ∀ notes : List PoolNote,
      (notes.map LogEvent.pool).reverse.filterMap LogEvent.poolNote? = notes.reverse := by
    intro notes
    rw [List.filterMap_reverse, List.filterMap_map]
    exact congrArg List.reverse List.filterMap_some
  have hbase : (s.applied ref e).poolNotes =
      (s.side.apply s.source ref s.now e).1.reverse ++ s.poolNotes := by
    rw [Session.poolNotes, applied, List.filterMap_append, hlogged]
    rfl
  cases e with
  | startCall | beginCall => exact (modifyRouter_notes _ ref _).trans hbase
  | _ => exact hbase

theorem effects_notes (ref : RouterRef) (es : List Effect) (s : Session σ) :
    (es.foldl (effect ref) s).poolNotes =
      s.source.notesAll ref (es.filterMap Effect.command?) s.side.pools ++ s.poolNotes := by
  induction es generalizing s with
  | nil => rfl
  | cons e rest ih =>
    obtain ⟨hpools, hsource⟩ := effect_pools ref s e
    rw [List.foldl_cons, ih, effect_notes, hpools, hsource, ← List.append_assoc,
      ← PoolSource.notesAll_append]
    cases he : e.command? with
    | none => simp [he]
    | some c => simp [he]

theorem takeStep_notes (s : Session σ) (ref : RouterRef) (t : Exchange.Step) :
    (s.takeStep ref t).poolNotes = s.source.notesAll ref t.commands s.side.pools ++ s.poolNotes := by
  obtain ⟨hside, hsource, -⟩ := modifyRouter_side s ref fun r => { r with exchange := some t.exchange }
  unfold Session.takeStep
  rw [effects_notes, hside, hsource, modifyRouter_notes]
  rfl

theorem endRouter_notes (s : Session σ) (ref : RouterRef) (t : Exchange.Step) :
    (s.endRouter ref t).poolNotes = s.source.notesAll ref t.commands s.side.pools ++ s.poolNotes :=
  effects_notes ref t.effects _

theorem giveBack_notes (s : Session σ) (ref : RouterRef) (link : LinkId) :
    (s.giveBack ref link).poolNotes =
      s.source.notesAll ref [.release link] s.side.pools ++ s.poolNotes := effect_notes ref s _

theorem forwardReply_notes (s : Session σ) (ref : RouterRef) :
    (s.forwardReply ref).poolNotes = s.poolNotes := by
  unfold Session.forwardReply
  split
  · rfl
  · dsimp only
    split
    · exact effect_notes ref _ _
    · rfl
    · rfl

/-! ## What routers do

One lemma for each thing that a router does, with all that others ask about it: what is posted, what
the pools see, and what the router has in mind behind it. -/

/-- A router writes its call if it has a connection and has not written it yet. -/
theorem writeCall_cases (s : Session σ) (ref : RouterRef) :
    s.writeCall ref = s ∨ ∃ r e, s.router? ref = some r ∧ r.exchange = some e ∧
      ¬(e.link.isNone || e.requestComplete) = true := by
  cases hr : s.router? ref with
  | none => exact Or.inl (by rw [writeCall, hr])
  | some r =>
    cases he : r.exchange with
    | none =>
      refine Or.inl ?_
      rw [writeCall, hr]
      dsimp only
      rw [he]
    | some e =>
      by_cases hgo : (e.link.isNone || e.requestComplete) = true
      · refine Or.inl ?_
        rw [writeCall, hr]
        dsimp only
        rw [he]
        dsimp only
        rw [if_pos hgo]
      · exact Or.inr ⟨r, e, rfl, he, hgo⟩

theorem writeCall_touches {r : Router} {e : Exchange} (hr : s.router? ref = some r)
    (he : r.exchange = some e) (hgo : ¬(e.link.isNone || e.requestComplete) = true) :
    Touches ref [] s (s.writeCall ref) ∧
      (s.writeCall ref).side.pools =
        s.source.performAll ref (e.write r.pendingWrite).2.commands s.side.pools ∧ ∃ r' envelope,
      (s.writeCall ref).router? ref = some r' ∧ r'.decoder = r.decoder ∧
      r'.exchange = some ({ e with envelope }.completeRequest s.now) := by
  obtain ⟨cluster, line, pendingWrite, exchange, decoder⟩ := r
  obtain rfl : exchange = some e := he
  unfold Session.writeCall
  rw [hr]
  dsimp only
  rw [if_neg hgo]
  obtain ⟨n, t, hw⟩ : ∃ n t, e.write pendingWrite = (n, t) := ⟨_, _, rfl⟩
  rw [hw]
  dsimp only
  have ht : (e.write pendingWrite).2 = t := by rw [hw]
  -- Writing asks the stream for nothing: the step of the exchange has no effect that is done later.
  have hlater : t.effects.filterMap Effect.later? = [] := ht ▸ Exchange.write_later _ e
  obtain ⟨envelope, hex⟩ := Exchange.write_exchange pendingWrite e
  rw [ht] at hex
  obtain ⟨r₂, hr₂, hex₂, hdec₂⟩ := takeStep_router?
    (router?_setRouter hr { cluster, line, exchange := some e, decoder }) t
  have hr₃ := effect_router?_eq hr₂ (.addSize n)
  have h₁ := takeStep_touches (s.setRouter ref { cluster, line, exchange := some e, decoder }) ref t
  rw [hlater] at h₁
  have h₂ : Touches ref [] s
      (((s.setRouter ref { cluster, line, exchange := some e, decoder }).takeStep ref t).effect
      ref (.addSize n)) := ((Touches.setRouter hr _).before h₁).before (effect_touches ref _ _)
  have hnow : (((s.setRouter ref { cluster, line, exchange := some e, decoder }).takeStep ref t).effect ref
      (.addSize n)).now = s.now := by
    obtain ⟨g, side, notes, panic, -, heq⟩ := h₂
    rw [heq]
    rfl
  refine ⟨h₂.before (Touches.modifyRouter _), ?_, _, envelope, router?_modifyRouter hr₃ _, ?_, ?_⟩
  · rw [(modifyRouter_side _ ref _).1, (effect_pools ref _ _).1, takeStep_pools]
    rfl
  · exact hdec₂
  · simp only [Router.note, hex₂, hex, Option.map_some, hnow]

theorem writeCall_notes {r : Router} {e : Exchange} (hr : s.router? ref = some r)
    (he : r.exchange = some e) (hgo : ¬(e.link.isNone || e.requestComplete) = true) :
    (s.writeCall ref).poolNotes =
      s.source.notesAll ref (e.write r.pendingWrite).2.commands s.side.pools ++ s.poolNotes := by
  unfold Session.writeCall
  rw [hr]
  dsimp only
  rw [he]
  dsimp only
  rw [if_neg hgo, modifyRouter_notes, effect_notes, takeStep_notes]
  rfl

/-- A router that asks a pool starts its exchange with the answer. One that is gone asks as well,
but does not keep what it gets. -/
theorem engage_touches (s : Session σ) (ref : RouterRef) (cluster : Config.Cluster) (host : HostRef)
    (request : Request) :
    ∃ shared now t,
      t = ((exchangeFor cluster request.method).start
        (s.source.ask cluster host ref s.side.pools).1 shared now).2 ∧
      Touches ref (t.effects.filterMap Effect.later?) s (s.engage ref cluster host request).2 ∧
      (s.engage ref cluster host request).2.side.pools = s.source.performAll ref t.commands
        (s.source.ask cluster host ref s.side.pools).2.2 ∧
      (s.router? ref = none → (s.engage ref cluster host request).2.router? ref = none) ∧
      ∀ r, s.router? ref = some r → ∃ r', (s.engage ref cluster host request).2.router? ref = some r' ∧
        r'.exchange = some t.exchange ∧ r'.decoder = r.decoder := by
  obtain ⟨hpools, hanswer⟩ := ask_pools s.source cluster host ref s.side
  unfold Session.engage
  dsimp only
  rw [← hpools, ← hanswer]
  generalize (s.side.ask s.source cluster host ref).2 = side
  -- Asking the pools changes the host side only, so the router is still there with what it had.
  have hsame : ({ s with side } : Session σ).router? ref = s.router? ref := router?_congr rfl rfl ref
  generalize hf : (fun r : Router =>
    { r with
      cluster := cluster.name
      line := some (.ofRequest request)
      exchange := some (exchangeFor cluster request.method) }) = f
  have hdecoder : ∀ r, (f r).decoder = r.decoder := by
    intro r
    rw [← hf]
  have ht : Touches ref [] s ({ s with side }.modifyRouter ref f) :=
    (Touches.withSide side).before (Touches.modifyRouter _)
  obtain ⟨hside, hsource, -⟩ := modifyRouter_side { s with side } ref f
  refine ⟨_, _, _, rfl, ht.before (takeStep_touches _ ref _), ?_, ?_, ?_⟩
  · rw [takeStep_pools, hside, hsource]
  · intro hr
    have hr₁ : ({ s with side } : Session σ).router? ref = none := hsame.trans hr
    unfold Session.takeStep
    rw [modifyRouter_of_none hr₁, modifyRouter_of_none hr₁]
    exact effects_router?_of_none _ hr₁
  · intro r hr
    obtain ⟨r', hr', hex, hdec⟩ := takeStep_router? (router?_modifyRouter (hsame.trans hr) f)
      ((exchangeFor cluster request.method).start (s.side.ask s.source cluster host ref).1
        (({ s with side }.modifyRouter ref f).side.answerState
          ({ s with side }.modifyRouter ref f).source (s.side.ask s.source cluster host ref).1)
        ({ s with side }.modifyRouter ref f).now).2
    exact ⟨r', hr', hex, hdec.trans (hdecoder r)⟩

/-- The call is written at once if the connection is there. -/
theorem startExchange_cases (s : Session σ) (ref : RouterRef) (cluster : Config.Cluster)
    (host : HostRef) (request : Request) :
    let answered := s.engage ref cluster host request
    (answered.1 = .stop ∧ s.startExchange ref cluster host request = answered.2) ∨
      (answered.1 = .continue ∧
        s.startExchange ref cluster host request = answered.2.writeCall ref) := by
  unfold Session.startExchange
  generalize s.engage ref cluster host request = answered
  obtain ⟨status, s'⟩ := answered
  cases status with
  | «continue» => exact Or.inr ⟨rfl, rfl⟩
  | stop => exact Or.inl ⟨rfl, rfl⟩

/-- The reply that a decoder has read is asked for. -/
theorem forwardReply_touches {r : Router} (hr : s.router? ref = some r)
    (hloaded : r.decoder.isLoaded = true) :
    ∃ op, Touches ref [.ask op] s (s.forwardReply ref) ∧ op.isOutcome = true ∧
      ∃ r', (s.forwardReply ref).router? ref = some r' ∧ r'.exchange = r.exchange := by
  obtain ⟨response, decoder, htake⟩ : ∃ response decoder, r.decoder.take = (response, decoder) :=
    ⟨_, _, rfl⟩
  -- A decoder that is loaded holds a reply or an error, and either is told to the stream.
  have hsays : decoder.error.isSome || response.isSome := by
    obtain ⟨rfl, rfl⟩ := Prod.mk.inj htake
    exact hloaded
  have hset := router?_setRouter hr { r with decoder }
  have htouch : Touches ref [] s (s.setRouter ref { r with decoder }) := Touches.setRouter hr _
  unfold Session.forwardReply
  rw [hr]
  dsimp only
  rw [htake]
  dsimp only
  generalize s.setRouter ref { r with decoder } = s₁ at hset htouch
  cases herr : decoder.error with
  | some err =>
    exact ⟨_, htouch.before (effect_touches ref s₁ _), rfl, _, effect_router?_eq hset _, rfl⟩
  | none =>
    cases response with
    | none =>
      rw [herr] at hsays
      cases hsays
    | some response =>
      refine ⟨_, htouch.before (Touches.post _), rfl, { r with decoder }, ?_, rfl⟩
      exact (router?_congr (s := s₁) rfl rfl ref).trans hset

/-- Only the decoder gives something up when the reply is asked for. -/
theorem forwardReply_router? {r : Router} (hr : s.router? ref = some r) :
    (s.forwardReply ref).router? ref = some { r with decoder := r.decoder.take.2 } := by
  have hset := router?_setRouter hr { r with decoder := r.decoder.take.2 }
  unfold Session.forwardReply
  rw [hr]
  dsimp only
  generalize s.setRouter ref { r with decoder := r.decoder.take.2 } = s₁ at hset
  split
  · exact effect_router?_eq hset _
  · exact hset
  · exact (router?_congr rfl rfl ref).trans hset

/-- Octets that a router does not ignore go to its decoder, and what its exchange makes of them is
done. -/
theorem onHostData_work {r : Router} {e : Exchange} {octets : Bytes} {isOver : Bool}
    {d : ReplyDecoder} {t : Exchange.Step} (hr : s.router? ref = some r)
    (hgo : ¬(e.link.isNone || e.responseComplete) = true)
    (ht : e.onData Exchange.lineReplies r.decoder octets false s.now = .ok (isOver, d, t)) :
    (s.onHostData ref r e octets).side.pools = s.source.performAll ref t.commands s.side.pools ∧
      ∃ r', (s.onHostData ref r e octets).router? ref = some r' ∧ r'.exchange = some t.exchange ∧
        (isOver = false → r'.decoder = d) := by
  have hset := router?_setRouter hr { r with decoder := d }
  obtain ⟨r₂, hr₂, hex₂, hdec₂⟩ := takeStep_router? hset t
  have hpools : ((s.setRouter ref { r with decoder := d }).takeStep ref t).side.pools =
      s.source.performAll ref t.commands s.side.pools := by
    rw [takeStep_pools]
    rfl
  unfold Session.onHostData
  rw [if_neg hgo, ht]
  dsimp only
  cases isOver with
  | false => exact ⟨hpools, r₂, hr₂, hex₂, fun _ => hdec₂⟩
  | true =>
    exact ⟨(forwardReply_pools _ ref).trans hpools, _, forwardReply_router? hr₂, hex₂, nofun⟩

theorem forget_router? (s : Session σ) (ref : RouterRef) :
    (s.modifyStream ref.stream (·.remember ref.slot .nothing)).router? ref = none := by
  unfold Session.router?
  split
  · rw [stream?_modifyStream (f := fun x => x.remember ref.slot .nothing) fun _ => rfl]
    cases hx : s.stream? ref.stream with
    | none => rfl
    | some x =>
      rw [Option.map_some, if_pos (stream?_id hx)]
      show (x.remember ref.slot .nothing).router? ref.slot = none
      unfold Stream.router? Stream.remember
      rw [List.getElem?_modify_eq]
      cases x.slots[ref.slot]? with
      | none => rfl
      | some y => rfl
  · rfl

theorem endRouter_router? (s : Session σ) (ref : RouterRef) (t : Exchange.Step) :
    (s.endRouter ref t).router? ref = none :=
  effects_router?_of_none _ (forget_router? s ref)

/-! ## Commands

What a router does with something it is told, by what it has in mind. -/

/-- What a router is told comes to nothing before it has asked for a connection and when it is gone,
but a connection is given back. -/
theorem onDelivery_cases (s : Session σ) (ref : RouterRef) (d : Delivery) :
    ((∀ r e, s.router? ref = some r → r.exchange ≠ some e) ∧
      s.onDelivery ref d = match d with
        | .ready link _ => s.giveBack ref link
        | .failure _ _ | .data _ | .event _ => s) ∨
    ∃ r e, s.router? ref = some r ∧ r.exchange = some e ∧
      s.onDelivery ref d = match d with
        | .ready link host => s.takeStep ref (e.poolReady link host (s.source.state? link s.side.pools))
        | .failure reason host => s.takeStep ref (e.poolFailure reason host s.now)
        | .data octets => s.onHostData ref r e octets
        | .event event => s.onHostEvent ref e event := by
  unfold Session.onDelivery
  cases hfound : (s.router? ref).bind fun r => r.exchange.map (r, ·) with
  | none =>
    refine Or.inl ⟨fun r e hr he => ?_, ?_⟩
    · rw [hr, Option.bind_some, he] at hfound
      cases hfound
    · cases d <;> rfl
  | some found =>
    obtain ⟨r, hr, hmap⟩ := Option.bind_eq_some_iff.mp hfound
    obtain ⟨e, he, rfl⟩ := Option.map_eq_some_iff.mp hmap
    exact Or.inr ⟨r, e, hr, he, by cases d <;> rfl⟩

/-! ## Routers that go

A router that goes leaves its pools as it would by a reset. -/

/-- A router that is destroyed is gone and leaves no work behind. -/
theorem destroyRouter_touches (s : Session σ) (ref : RouterRef) :
    Touches ref [] s (s.destroyRouter ref) ∧ (s.destroyRouter ref).router? ref = none := by
  unfold Session.destroyRouter
  cases hr : s.router? ref with
  | none => exact ⟨Touches.refl ref s, hr⟩
  | some r =>
    dsimp only
    cases he : r.exchange with
    | none => exact ⟨Touches.remember hr .nothing, forget_router? s ref⟩
    | some e =>
      dsimp only
      have hlater : ((if e.responseComplete then { exchange := e } else e.reset : Exchange.Step).andThen
          Exchange.drop).effects.filterMap Effect.later? = [] := by
        simp only [Exchange.Step.andThen, List.filterMap_append, Exchange.drop,
          Exchange.releaseLink_later, List.append_nil]
        split
        · rfl
        · exact Exchange.releaseLink_later true e
      unfold Session.endRouter
      have htouch := effects_touches ref
        ((if e.responseComplete then { exchange := e } else e.reset : Exchange.Step).andThen
          Exchange.drop).effects (s.modifyStream ref.stream (·.remember ref.slot .nothing))
      rw [hlater] at htouch
      exact ⟨(Touches.remember hr .nothing).before htouch,
        effects_router?_of_none _ (forget_router? s ref)⟩

theorem dropRouter_touches (s : Session σ) (ref : RouterRef) :
    Touches ref [] s (s.dropRouter ref) := by
  unfold Session.dropRouter
  split
  · exact Touches.refl ref s
  · next e he =>
    obtain ⟨r, hr, -⟩ := Option.bind_eq_some_iff.mp he
    have htouch := effects_touches ref e.drop.effects
      (s.modifyStream ref.stream (·.remember ref.slot .nothing))
    rw [show e.drop.effects.filterMap Effect.later? = [] from Exchange.releaseLink_later false e]
      at htouch
    exact (Touches.remember hr .nothing).before htouch

end Session

end RpcProxy

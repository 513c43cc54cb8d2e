import RpcProxy.Proofs.Exchange.Calls
import RpcProxy.Proofs.Session.RouterGauges
import RpcProxy.Proofs.Session.SurplusOctets

/-!
# The share of one router in a move

A move of a session is made for many routers at once, and most of them have no part in it. `Share`
says what a move can be for one router: the tasks of its own that it takes up, what it does to the
pools, what it puts behind other work, and what it has in mind before and after. All that is done to
pools in a move is one router's doing (`Move.oneRouterActs`), unless a stream is dropped. So a fact
about one router's call, or about what all routers do to a connection, is proved from the shares
alone.

A share mentions neither sessions nor streams. It is a relation between what a router has in mind
before and after and what it does to pools, and that is why it can be used where the sessions of
several clients are looked at together: what matters of them there is only which routers they have,
and in what order these act on pools that all of them share.

The cases are those of a router's life, and not those of `Move`: several moves come to the same
share, and one move, that a router is told something, comes to seven different ones, depending on
what it has in mind.
-/

set_option autoImplicit false

namespace RpcProxy

/-- Something that a router does to the pools. Asking is apart from the commands since it has an
answer. -/
inductive PoolAction where
  /-- It asks for a connection to a host of a cluster. -/
  | asked (cluster : Config.Cluster) (host : HostRef)
  /-- It does something to a connection or to a request for one. -/
  | did (command : LinkCommand)

namespace PoolSource

variable {σ : Type}

/-- The pools after a router did something to them. -/
def play (source : PoolSource σ) (ref : RouterRef) (p : σ) : PoolAction → σ
  | .asked cluster host => (source.ask cluster host ref p).2.2
  | .did command => (source.perform ref command p).2

/-- The pools after a router did some things to them, one after another. -/
def playAll (source : PoolSource σ) (ref : RouterRef) (ds : List PoolAction) (p : σ) : σ :=
  ds.foldl (source.play ref) p

/-- What pools tell while a router does some things to them, the latest first, as in the log. What
asking tells is in the answer, which the router has taken up already. -/
def tellAll (source : PoolSource σ) (ref : RouterRef) : List PoolAction → σ → List PoolNote
  | [], _ => []
  | d :: rest, p =>
    source.tellAll ref rest (source.play ref p d) ++
      match d with
      | .asked _ _ => []
      | .did command => (source.perform ref command p).1.reverse

variable (source : PoolSource σ) (ref : RouterRef) (cs : List LinkCommand) (p : σ)

/-- What a router does to pools by commands alone. -/
theorem playAll_commands : source.playAll ref (cs.map .did) p = source.performAll ref cs p := by
  unfold playAll performAll
  rw [List.foldl_map]
  rfl

theorem tellAll_commands : source.tellAll ref (cs.map .did) p = source.notesAll ref cs p := by
  induction cs generalizing p with
  | nil => rfl
  | cons c rest ih =>
    rw [List.map_cons, tellAll, notesAll, ih]
    rfl

theorem playAll_asked (cluster : Config.Cluster) (host : HostRef) :
    source.playAll ref (.asked cluster host :: cs.map .did) p =
      source.performAll ref cs (source.ask cluster host ref p).2.2 :=
  source.playAll_commands ref cs _

theorem tellAll_asked (cluster : Config.Cluster) (host : HostRef) :
    source.tellAll ref (.asked cluster host :: cs.map .did) p =
      source.notesAll ref cs (source.ask cluster host ref p).2.2 :=
  (List.append_nil _).trans (source.tellAll_commands ref cs _)

end PoolSource

/-! ## What a router has in mind

What becomes of a router in the few functions that change it, with the commands that its exchange
gives to the pools. -/

/-- A call that begins is put together anew: its line, with the number of its connection. -/
theorem Router.note_poolReady {e : Exchange} (link : LinkId) (host : HostRef)
    (shared : Option LinkState) (he : e.Plain) (hlink : e.link = none) (r : Router) :
    (e.poolReady link host shared).effects.foldl Router.note r =
      { r with pendingWrite := (r.line.map (·.encode (some (shared.getD {}).next))).getD [] } := by
  rw [Exchange.poolReady_eq link host shared he hlink]
  cases shared <;> cases e.pending.isSome <;> rfl

/-- Everything that a router lets go of when its stream is over: its connection, which is closed
unless the response is complete, and its request, which is taken back. -/
def Router.leaves (r : Router) : List LinkCommand :=
  (r.exchange.map (Exchange.leave (some .noFlush))).getD []

/-- An exchange is given up if its response is not complete, and is let go of then. -/
theorem Exchange.destroy_commands {e : Exchange} {d : ReplyDecoder} {n : Nat} (h : e.Stands d n) :
    ((if e.responseComplete then { exchange := e } else e.reset : Exchange.Step).andThen
      Exchange.drop).commands = e.leave (some .noFlush) := by
  -- What is over waits for no pool and has no connection, and leaving it does nothing.
  have hover : ∀ {e : Exchange}, e.Over → ∀ how, e.leave how = [] := by
    intro e h how
    unfold Exchange.leave
    rw [h.pending, h.link]
    rfl
  -- A reset has given everything back, so that dropping the exchange behind it does nothing.
  have hreset : (e.reset.andThen Exchange.drop).commands = e.leave (some .noFlush) := by
    have hgone : e.reset.exchange.Over := releaseLink_over true e
    rw [Step.commands_andThen]
    show (e.releaseLink true).commands ++ (e.reset.exchange.releaseLink false).commands = _
    rw [releaseLink_commands, releaseLink_commands, hover hgone, List.append_nil]
    rfl
  cases hc : e.responseComplete with
  | false =>
    rw [if_neg Bool.false_ne_true]
    exact hreset
  | true =>
    obtain ⟨hw, -⟩ | ⟨hh, -⟩ | ⟨ho, -⟩ := h
    · rw [hw.incomplete] at hc
      cases hc
    · rw [hh.incomplete] at hc
      cases hc
    · rw [if_pos rfl, Step.commands_andThen]
      show [] ++ (e.releaseLink false).commands = _
      rw [releaseLink_commands, hover ho, hover ho]
      rfl

namespace Session

variable {σ : Type} {ref other : RouterRef} {s s' : Session σ} {r : Router}

/-- Nobody but `engage` changes the line of a call. -/
theorem writeCall_line (hr : s.router? ref = some r) :
    ∃ r', (s.writeCall ref).router? ref = some r' ∧ r'.line = r.line := by
  unfold Session.writeCall
  rw [hr]
  dsimp only
  split
  · exact ⟨r, hr, rfl⟩
  · next e he =>
    split
    · exact ⟨r, hr, rfl⟩
    · have hset := router?_setRouter hr { r with pendingWrite := [] }
      have hstep := takeStep_router?_eq hset (e.write r.pendingWrite).2
      have hsize := effect_router?_eq hstep (.addSize (e.write r.pendingWrite).1)
      refine ⟨_, router?_modifyRouter hsize _, ?_⟩
      exact Router.foldl_note_line (e.write r.pendingWrite).2.effects _

/-- The call is written if there is a connection and it was not written before. -/
theorem writeCall_router? {e : Exchange} {link : LinkId} (hr : s.router? ref = some r)
    (he : r.exchange = some e) (hlink : e.link = some link) (hunsent : e.requestComplete = false) :
    (s.writeCall ref).side.pools = s.source.performAll ref
        [.write link (e.transport.frame r.pendingWrite)] s.side.pools ∧
      (s.writeCall ref).poolNotes = s.source.notesAll ref
        [.write link (e.transport.frame r.pendingWrite)] s.side.pools ++ s.poolNotes ∧
      ∃ r' envelope, (s.writeCall ref).router? ref = some r' ∧ r'.line = r.line ∧
        r'.exchange = some ({ e with envelope }.completeRequest s.now) := by
  have hgo : ¬(e.link.isNone || e.requestComplete) = true := by simp [hlink, hunsent]
  obtain ⟨-, hpools, r', envelope, hr', -, hex⟩ := writeCall_touches hr he hgo
  obtain ⟨r₁, hr₁, hline⟩ := writeCall_line hr
  obtain rfl := Option.some.inj (hr'.symm.trans hr₁)
  have hnotes := writeCall_notes hr he hgo
  rw [Exchange.write_commands hlink] at hpools hnotes
  exact ⟨hpools, hnotes, r', envelope, hr', hline, hex⟩

/-- The state that an answer's connection has. -/
def stateFor (source : PoolSource σ) (p : σ) : PoolAnswer → Option LinkState
  | .ready link _ => source.state? link p
  | .pending _ | .failure _ _ => none

/-- What a router has in mind, and has done, once it has taken the answer of a pool up. -/
theorem engage_router? (hr : s.router? ref = some r) (cluster : Config.Cluster) (host : HostRef)
    (request : Request) :
    let asked := s.source.ask cluster host ref s.side.pools
    ∃ status t, (exchangeFor cluster request.method).start asked.1
        (stateFor s.source asked.2.2 asked.1) s.now = (status, t) ∧
      (s.engage ref cluster host request).1 = status ∧
      (s.engage ref cluster host request).2.router? ref = some (t.effects.foldl Router.note
        { r with
          cluster := cluster.name
          line := some (.ofRequest request)
          exchange := some t.exchange }) ∧
      (s.engage ref cluster host request).2.side.pools =
        s.source.performAll ref t.commands asked.2.2 ∧
      (s.engage ref cluster host request).2.poolNotes =
        s.source.notesAll ref t.commands asked.2.2 ++ s.poolNotes ∧
      s.side.Shifts t.gaugeMoves (s.engage ref cluster host request).2.side ∧
      Touches ref (t.effects.filterMap Effect.later?) s (s.engage ref cluster host request).2 := by
  intro asked
  obtain ⟨hpools, hanswer⟩ := ask_pools s.source cluster host ref s.side
  unfold Session.engage
  dsimp only
  rw [hanswer]
  generalize hf : (fun r : Router =>
    { r with
      cluster := cluster.name
      line := some (.ofRequest request)
      exchange := some (exchangeFor cluster request.method) }) = f
  generalize hs₁ : ({ s with side := (s.side.ask s.source cluster host ref).2 } : Session σ) = s₁
  have hr₁ : s₁.router? ref = some r := by
    rw [← hr, ← hs₁]
    exact router?_congr rfl rfl ref
  have ht : Touches ref [] s (s₁.modifyRouter ref f) :=
    hs₁ ▸ (Touches.withSide _).before (Touches.modifyRouter _)
  obtain ⟨hside, hsource, hnow⟩ := modifyRouter_side s₁ ref f
  -- The state of the connection is read behind the answer of the pool, which has not changed it.
  have hstate : (s₁.modifyRouter ref f).side.answerState (s₁.modifyRouter ref f).source asked.1 =
      stateFor s.source asked.2.2 asked.1 := by
    rw [hside, hsource, ← hs₁]
    unfold HostSide.answerState stateFor
    cases asked.1 with
    | ready link h => exact congrArg _ hpools
    | pending handle => rfl
    | failure reason h => rfl
  have hnow' : (s₁.modifyRouter ref f).now = s.now := hnow.trans (by rw [← hs₁]; rfl)
  rw [show (s.source.ask cluster host ref s.side.pools).1 = asked.1 from rfl, hstate, hnow']
  refine ⟨_, _, rfl, rfl, ?_, ?_, ?_, ?_, ht.before (takeStep_touches _ ref _)⟩
  · have hmind := takeStep_router?_eq (router?_modifyRouter hr₁ f)
      ((exchangeFor cluster request.method).start asked.1 (stateFor s.source asked.2.2 asked.1)
        s.now).2
    rw [← hf] at hmind ⊢
    exact hmind
  · rw [takeStep_pools, hside, hsource, ← hs₁]
    exact congrArg _ hpools
  · rw [takeStep_notes, hside, hsource, modifyRouter_notes, ← hs₁]
    exact congrArg (s.source.notesAll ref _ · ++ s.poolNotes) hpools
  · have hasked : s.side.Shifts [] (s₁.modifyRouter ref f).side := by
      rw [hside, ← hs₁]
      exact HostSide.ask_shifts s.source cluster host ref s.side
    exact hasked.trans (takeStep_shifts _ ref _)

/-! ## Shares

The relation, and that what a router does when it begins a call or writes it is one of its forms. -/

/-- The share of the router `ref` in a move: the tasks of its own that it takes up, what it does to
the pools `p`, what it leaves for later, and what it has in mind before and after. Requests come to
it as `R` allows.

The rules are those of `Move` as one router sees them. They ask for nothing but what the router has
in mind and what the pools answer, so that the shares of many routers, of one session or of several,
can be put next to each other without their sessions. -/
inductive Share (R : Request → Prop) (source : PoolSource σ) (p : σ) (ref : RouterRef) :
    List RouterOp → List PoolAction → List RouterOp → Option Router → Option Router → Prop
  /-- It has no part in the move. -/
  | rest (m : Option Router) : Share R source p ref [] [] [] m m
  /-- A task of its own is for its stream to do, or comes to nothing. -/
  | took {op : RouterOp} {m : Option Router} (hready : ∀ link host, op ≠ .deliver (.ready link host))
    (h : op = .write → ∀ r e, m = some r → r.exchange = some e →
      e.link = none ∨ e.requestComplete = true) : Share R source p ref [op] [] [] m m
  /-- A connection comes that it has no use for. -/
  | gaveBack {m : Option Router} (link : LinkId) (host : HostRef)
    (h : ∀ r e, m = some r → r.exchange ≠ some e) :
    Share R source p ref [.deliver (.ready link host)] [.did (.release link)] [] m m
  /-- Its stream begins. -/
  | born : Share R source p ref [] [] [] none (some {})
  /-- It goes, and lets go of all it has. -/
  | gone (r : Router) : Share R source p ref [] (r.leaves.map .did) [] (some r) none
  /-- A request comes to it for which there is no host. -/
  | refused {r : Router} (status : Status) (hnone : r.exchange = none) :
    Share R source p ref [] [] [.ask (.localReply status .nothing)] (some r) (some r)
  /-- A request comes to it, and the connection will come later. -/
  | waits {r : Router} {request : Request} {cluster : Config.Cluster} {host : HostRef}
    {handle : HandleId} (hnone : r.exchange = none) (hrouted : R request)
    (hask : (source.ask cluster host ref p).1 = .pending handle) :
    Share R source p ref [] [.asked cluster host] [] (some r) (some { r with
      cluster := cluster.name
      line := some (.ofRequest request)
      exchange := some { exchangeFor cluster request.method with pending := some handle } })
  /-- A request comes to it, the connection is there, and the call is written at once. -/
  | sent {r r' : Router} {request : Request} {cluster : Config.Cluster} {host found : HostRef}
    {link : LinkId} {shared : Option LinkState} {e' : Exchange} (hnone : r.exchange = none)
    (hrouted : R request) (hask : (source.ask cluster host ref p).1 = .ready link found)
    (hshared : shared = source.state? link (source.ask cluster host ref p).2.2)
    (hline : r'.line = some (.ofRequest request)) (hex : r'.exchange = some e') (hh : e'.Holding)
    (hlink : e'.link = some link) (hsent : e'.requestComplete = true)
    (htransport : e'.transport = cluster.transport) :
    Share R source p ref []
      (.asked cluster host :: (LinkCommand.begin link shared ++ [LinkCommand.write link
        (cluster.transport.frame ((RequestLine.ofRequest request).encode
          (some (shared.getD {}).next)))]).map .did) []
      (some r) (some r')
  /-- A request comes to it, and there is no connection. -/
  | failed {r r' : Router} {request : Request} {cluster : Config.Cluster} {host : HostRef}
    {reason : FailureReason} {found : Option HostRef} {e' : Exchange} {ops : List RouterOp}
    (hnone : r.exchange = none) (hrouted : R request)
    (hask : (source.ask cluster host ref p).1 = .failure reason found)
    (hline : r'.line = some (.ofRequest request)) (hex : r'.exchange = some e') (hover : e'.Over)
    (hops : AsksForOutcome ops) : Share R source p ref [] [.asked cluster host] ops (some r) (some r')
  /-- The connection comes that it has waited for. -/
  | begun {r r' : Router} {e e' : Exchange} {link : LinkId} {host : HostRef}
    {shared : Option LinkState} (he : r.exchange = some e) (hw : e.Waiting)
    (hshared : shared = source.state? link p) (hline : r'.line = r.line)
    (hpending : r'.pendingWrite = (r.line.map (·.encode (some (shared.getD {}).next))).getD [])
    (hex : r'.exchange = some e') (hh : e'.Holding) (hlink : e'.link = some link)
    (hsent : e'.requestComplete = e.requestComplete) (htransport : e'.transport = e.transport) :
    Share R source p ref [.deliver (.ready link host)] ((LinkCommand.begin link shared).map .did)
      [.write] (some r) (some r')
  /-- It is told that there will be no connection. -/
  | denied {r r' : Router} {e e' : Exchange} {reason : FailureReason} {host : Option HostRef}
    {ops : List RouterOp} (he : r.exchange = some e) (hw : e.Waiting) (hline : r'.line = r.line)
    (hex : r'.exchange = some e') (hover : e'.Over) (hops : AsksForOutcome ops) :
    Share R source p ref [.deliver (.failure reason host)] [] ops (some r) (some r')
  /-- It writes its call. -/
  | wrote {r r' : Router} {e e' : Exchange} {link : LinkId} (he : r.exchange = some e)
    (hh : e.Holding) (hlink : e.link = some link) (hunsent : e.requestComplete = false)
    (hline : r'.line = r.line) (hex : r'.exchange = some e') (hh' : e'.Holding)
    (hlink' : e'.link = some link) (hsent : e'.requestComplete = true)
    (htransport : e'.transport = e.transport) :
    Share R source p ref [.write] [.did (.write link (e.transport.frame r.pendingWrite))] []
      (some r) (some r')
  | read {r r' : Router} {e e' : Exchange} {octets : Bytes} (he : r.exchange = some e)
    (hh : e.Holding) (hline : r'.line = r.line) (hex : r'.exchange = some e') (hh' : e'.Holding)
    (hlink : e'.link = e.link) (hsent : e'.requestComplete = e.requestComplete)
    (htransport : e'.transport = e.transport) :
    Share R source p ref [.deliver (.data octets)] [] [] (some r) (some r')
  /-- It reads the end of the reply, or its connection ends. The connection stays open if the reply
  is complete and the host wants to stay, or if it has ended anyway. -/
  | ended {r r' : Router} {e e' : Exchange} {d : Delivery} {how : Option CloseType}
    {ops : List RouterOp} (he : r.exchange = some e) (hh : e.Holding) (hd : d.isAnswer = false)
    (hevent : ∀ event, d = .event event → how = none)
    (hdata : ∀ octets, d = .data octets →
      (how = none ↔ e'.responseComplete = true ∧ e'.draining = false))
    (hline : r'.line = r.line) (hex : r'.exchange = some e') (hover : e'.Over) (hops : AsksForOutcome ops) :
    Share R source p ref [.deliver d] ((LinkCommand.letGo how e.link).map .did) ops (some r)
      (some r')

variable {R : Request → Prop} {past : List RouterOp}

/-- All that was done to pools is what one router did, and what they told was told to it. The actions
are the witness that nothing else happened to them meanwhile. -/
structure PoolsChangedBy (ref : RouterRef) (ds : List PoolAction) (s s' : Session σ) : Prop where
  pools : s'.side.pools = s.source.playAll ref ds s.side.pools
  notes : s'.poolNotes = s.source.tellAll ref ds s.side.pools ++ s.poolNotes

theorem PoolsChangedBy.none (hpools : s'.side.pools = s.side.pools)
    (hnotes : s'.poolNotes = s.poolNotes) : PoolsChangedBy ref [] s s' := ⟨hpools, hnotes⟩

theorem PoolsChangedBy.refl (ref : RouterRef) (s : Session σ) : PoolsChangedBy ref [] s s :=
  .none rfl rfl

theorem PoolsChangedBy.commands {cs : List LinkCommand}
    (hpools : s'.side.pools = s.source.performAll ref cs s.side.pools)
    (hnotes : s'.poolNotes = s.source.notesAll ref cs s.side.pools ++ s.poolNotes) :
    PoolsChangedBy ref (cs.map .did) s s' where
  pools := hpools.trans (PoolSource.playAll_commands ..).symm
  notes := hnotes.trans (congrArg (· ++ _) (PoolSource.tellAll_commands ..).symm)

theorem PoolsChangedBy.asked {cs : List LinkCommand} (cluster : Config.Cluster) (host : HostRef)
    (hpools : s'.side.pools =
      s.source.performAll ref cs (s.source.ask cluster host ref s.side.pools).2.2)
    (hnotes : s'.poolNotes =
      s.source.notesAll ref cs (s.source.ask cluster host ref s.side.pools).2.2 ++ s.poolNotes) :
    PoolsChangedBy ref (.asked cluster host :: cs.map .did) s s' where
  pools := hpools.trans (PoolSource.playAll_asked ..).symm
  notes := hnotes.trans (congrArg (· ++ _) (PoolSource.tellAll_asked ..).symm)

/-- A router has its share, and nobody else has one: others have in mind what they had, and the
gauges of hosts move along with what the router holds. -/
def HasShare (R : Request → Prop) (ref : RouterRef) (taken : List RouterOp) (s s' : Session σ) : Prop :=
  ∃ ds ops, PoolsChangedBy ref ds s s' ∧ Touches ref ops s s' ∧
    Share R s.source s.side.pools ref taken ds ops (s.router? ref) (s'.router? ref) ∧
    MovesGauges ref taken s s'

/-- A task that brings no connection and writes no call may come to nothing. -/
theorem HasShare.idle {op : RouterOp} (hready : ∀ link host, op ≠ .deliver (.ready link host))
    (hw : op = .write → ∀ r e, s.router? ref = some r → r.exchange = some e →
      e.link = none ∨ e.requestComplete = true) (R : Request → Prop) : HasShare R ref [op] s s :=
  ⟨[], [], .refl ref s, Touches.refl ref s, .took hready hw, .refl ref [op] s⟩

theorem writeCall_hasShare (hr : s.router? ref = some r) {e : Exchange} (he : r.exchange = some e)
    (hh : e.Holding) {link : LinkId} (hlink : e.link = some link) (hunsent : e.requestComplete = false) :
    HasShare R ref [.write] s (s.writeCall ref) := by
  have hgo : ¬(e.link.isNone || e.requestComplete) = true := by simp [hlink, hunsent]
  obtain ⟨htouch, -, -⟩ := writeCall_touches hr he hgo
  obtain ⟨hpools, hnotes, r', envelope, hr', hline, hex⟩ := writeCall_router? hr he hlink hunsent
  refine ⟨[.did (.write link (e.transport.frame r.pendingWrite))], [], .commands hpools hnotes, htouch, ?_⟩
  · rw [hr, hr']
    refine ⟨.wrote he hh hlink hunsent hline hex { hh with } hlink rfl rfl, ?_⟩
    refine .unmoved ?_ (writeCall_shifts s ref)
    rw [hold?_eq hr he, hold?_eq hr' hex]
    exact Exchange.hold?_congr rfl rfl

/-- A call that is not to be written, or was, leaves the session as it is. -/
theorem writeCall_of_done (h : ∀ r e, s.router? ref = some r → r.exchange = some e →
    e.link = none ∨ e.requestComplete = true) : s.writeCall ref = s := by
  obtain heq | ⟨r, e, hr, he, hgo⟩ := writeCall_cases s ref
  · exact heq
  · rcases h r e hr he with hnone | hdone
    · exact absurd (by rw [hnone]; rfl) hgo
    · exact absurd (by rw [hdone, Bool.or_true]) hgo

section

variable {R : Request → Prop} {cluster : Config.Cluster} {host : HostRef} {request : Request}

/-- A request comes to a router, which has to wait for its connection. -/
theorem startExchange_waits {handle : HandleId} (hr : s.router? ref = some r)
    (hnone : r.exchange = none) (hrouted : R request)
    (hanswer : (s.source.ask cluster host ref s.side.pools).1 = .pending handle) :
    HasShare R ref [] s (s.startExchange ref cluster host request) := by
  obtain ⟨status, t, hstart, hstatus, hmind, hpools, hnotes, hshifts, htouch⟩ :=
    engage_router? hr cluster host request
  have hcases := startExchange_cases s ref cluster host request
  dsimp only at hcases
  rw [hanswer] at hstart
  obtain ⟨rfl, rfl⟩ := Prod.mk.inj hstart.symm
  rw [hstatus] at hcases
  obtain ⟨-, heq⟩ := hcases.resolve_right fun h => nomatch h.1
  rw [heq]
  refine ⟨[.asked cluster host], [], .asked cluster host hpools hnotes, htouch, ?_⟩
  rw [hr, hmind]
  refine ⟨.waits hnone hrouted hanswer, .unmoved ?_ hshifts⟩
  rw [hold?_of_blank hr hnone, hold?_eq hmind rfl]
  rfl

/-- A request comes to a router, which gets its connection at once and writes the call. -/
theorem startExchange_sends {link : LinkId} {found : HostRef} (hr : s.router? ref = some r)
    (hnone : r.exchange = none) (hrouted : R request)
    (hanswer : (s.source.ask cluster host ref s.side.pools).1 = .ready link found) :
    HasShare R ref [] s (s.startExchange ref cluster host request) := by
  obtain ⟨status, t, hstart, hstatus, hmind, hpools, hnotes, hshifts, htouch⟩ :=
    engage_router? hr cluster host request
  have hcases := startExchange_cases s ref cluster host request
  have hplain := Exchange.exchangeFor_plain cluster request.method
  dsimp only at hcases
  rw [hanswer] at hstart
  generalize hshared : stateFor s.source (s.source.ask cluster host ref s.side.pools).2.2
    (.ready link found) = shared at hstart
  have hready : (exchangeFor cluster request.method).start (.ready link found) shared s.now =
      (.continue, (exchangeFor cluster request.method).poolReady link found shared) := by
    unfold Exchange.start
    dsimp only
    rw [Exchange.poolReady_eq link found shared hplain rfl]
    rfl
  obtain ⟨rfl, rfl⟩ := Prod.mk.inj (hstart.symm.trans hready)
  rw [hstatus] at hcases
  obtain ⟨-, heq⟩ := hcases.resolve_left fun h => nomatch h.1
  obtain ⟨hh, -, -⟩ := Exchange.poolReady_holding link found shared hplain rfl rfl
  rw [Exchange.poolReady_commands link found shared hplain rfl] at hpools hnotes
  rw [Exchange.poolReady_later link found shared hplain rfl] at htouch
  obtain ⟨hhold, hmoves⟩ := Exchange.poolReady_hold link found shared hplain rfl
  rw [hmoves] at hshifts
  rw [Router.note_poolReady link found shared hplain rfl] at hmind
  rw [Exchange.poolReady_eq link found shared hplain rfl] at hmind hh
  have hsource := (engage_works s ref cluster host request).source
  -- The router that has got its connection goes on to write.
  obtain ⟨hwritten, htold, r', envelope, hr', hline, hex⟩ := writeCall_router? hmind rfl rfl rfl
  obtain ⟨hagain, -, -⟩ := writeCall_touches hmind rfl (by simp [exchangeFor])
  rw [heq]
  refine ⟨.asked cluster host :: (LinkCommand.begin link shared ++ [LinkCommand.write link
    (cluster.transport.frame ((RequestLine.ofRequest request).encode
      (some (shared.getD {}).next)))]).map .did, [], .asked cluster host ?_ ?_,
    htouch.trans hagain, ?_⟩
  · rw [PoolSource.performAll_append, hwritten, hsource, hpools]
    rfl
  · rw [hsource, hpools, hnotes] at htold
    rw [PoolSource.notesAll_append, List.append_assoc]
    exact htold
  · rw [hr, hr']
    refine ⟨.sent hnone hrouted hanswer hshared.symm hline hex { hh with } rfl rfl rfl,
      .got link found (hold?_of_blank hr hnone) ?_
        (hshifts.trans (writeCall_shifts _ ref)) (Or.inr ⟨_, _, _, hanswer⟩)⟩
    rw [hold?_eq hr' hex]
    rfl

/-- A request comes to a router, which gets no connection. -/
theorem startExchange_fails {reason : FailureReason} {found : Option HostRef}
    (hr : s.router? ref = some r) (hnone : r.exchange = none) (hrouted : R request)
    (hanswer : (s.source.ask cluster host ref s.side.pools).1 = .failure reason found) :
    HasShare R ref [] s (s.startExchange ref cluster host request) := by
  obtain ⟨status, t, hstart, -, hmind, hpools, hnotes, hshifts, htouch⟩ :=
    engage_router? hr cluster host request
  have hplain := Exchange.exchangeFor_plain cluster request.method
  rw [hanswer] at hstart
  obtain ⟨hover, -⟩ := Exchange.poolFailure_over reason found s.now hplain rfl
  obtain ⟨hops, hcommands⟩ := Exchange.poolFailure_later_commands reason found s.now
    (exchangeFor cluster request.method)
  have ht : t = (exchangeFor cluster request.method).poolFailure reason found s.now :=
    (congrArg Prod.snd hstart).symm
  subst ht
  -- Without a connection there is nothing to write, whether the router tries to or not.
  have hidle : (s.engage ref cluster host request).2.writeCall ref =
      (s.engage ref cluster host request).2 := by
    refine writeCall_of_done fun r₁ e₁ hr₁ he₁ => Or.inl ?_
    obtain rfl := Option.some.inj (hmind.symm.trans hr₁)
    rw [Router.foldl_note_exchange] at he₁
    exact Option.some.inj he₁ ▸ hover.link
  have heq : s.startExchange ref cluster host request = (s.engage ref cluster host request).2 := by
    rcases startExchange_cases s ref cluster host request with ⟨-, heq⟩ | ⟨-, heq⟩
    · exact heq
    · exact heq.trans hidle
  rw [heq]
  rw [hcommands] at hpools hnotes
  refine ⟨[.asked cluster host], _, .asked cluster host hpools hnotes, htouch, ?_⟩
  rw [hr, hmind]
  have hex := Router.foldl_note_exchange
  refine ⟨.failed hnone hrouted hanswer (Router.foldl_note_line _ _) (hex _ _) hover hops,
    .unmoved ?_ ?_⟩
  · rw [hold?_of_blank hr hnone, hold?_eq hmind (hex _ _), Exchange.hold?_of_none hover.link]
  · rw [(Exchange.poolFailure_keepsConnection reason found s.now rfl).moves] at hshifts
    exact hshifts

/-- A request comes to a router, which starts its exchange with a host. -/
theorem startExchange_hasShare (hr : s.router? ref = some r) (hnone : r.exchange = none)
    (cluster : Config.Cluster) (host : HostRef) (hrouted : R request) :
    HasShare R ref [] s (s.startExchange ref cluster host request) := by
  cases hanswer : (s.source.ask cluster host ref s.side.pools).1 with
  | pending handle => exact startExchange_waits hr hnone hrouted hanswer
  | ready link found => exact startExchange_sends hr hnone hrouted hanswer
  | failure reason found => exact startExchange_fails hr hnone hrouted hanswer

end

/-! ## What a router is told

A delivery is taken up. Which form of share it is depends on where the exchange stands, and
`OnCourse` excludes those that could not be answered for, such as a second connection. -/

theorem onHostData_hasShare (hr : s.router? ref = some r) {e : Exchange} (he : r.exchange = some e)
    (hh : e.Holding) (hsane : e.DecoderSound r.decoder) (octets : Bytes) :
    HasShare R ref [.deliver (.data octets)] s (s.onHostData ref r e octets) := by
  have hgo : ¬(e.link.isNone || e.responseComplete) = true := by
    rw [hh.incomplete, Bool.or_false]
    exact fun hnone => Option.isSome_iff_ne_none.mp hh.link (Option.isNone_iff_eq_none.mp hnone)
  obtain ⟨isOver, d, t, ht, -, hcourse⟩ := Exchange.onData_course r.decoder octets s.now hh hsane
  obtain ⟨hpools, r', hr', hex, -⟩ := onHostData_work hr hgo ht
  have hset := router?_setRouter hr { r with decoder := d }
  have hstep := takeStep_router?_eq hset t
  have htouch := (Touches.setRouter hr { r with decoder := d }).before (takeStep_touches _ ref t)
  have hshifts := takeStep_shifts (s.setRouter ref { r with decoder := d }) ref t
  have hnotes : ((s.setRouter ref { r with decoder := d }).takeStep ref t).poolNotes =
      s.source.notesAll ref t.commands s.side.pools ++ s.poolNotes := takeStep_notes _ ref t
  rw [Exchange.onData_later hh ht] at htouch
  have hdata : s.onHostData ref r e octets =
      if isOver then ((s.setRouter ref { r with decoder := d }).takeStep ref t).forwardReply ref
      else (s.setRouter ref { r with decoder := d }).takeStep ref t := by
    unfold Session.onHostData
    rw [if_neg hgo, ht]
  generalize (s.setRouter ref { r with decoder := d }).takeStep ref t = s₁
    at hstep htouch hdata hshifts hnotes
  -- As long as the reply is not complete, reading is all that the router does. When it is, it hands
  -- the reply on and lets go of the connection in the same step.
  cases isOver with
  | false =>
    obtain ⟨hcommands, hsame⟩ := Exchange.onData_more hh ht
    rw [if_neg Bool.false_ne_true] at hdata hcourse
    rw [hcommands] at hpools hnotes
    refine ⟨[], [], .commands hpools (hdata ▸ hnotes), hdata ▸ htouch, ?_⟩
    · rw [hdata, hstep] at hr'
      rw [hr, hdata, hstep]
      have hholds : t.KeepsConnection e := Exchange.onData_hold hh ht
      refine ⟨.read he hh (Router.foldl_note_line _ _) (Router.foldl_note_exchange _ _) hcourse.1 ?_ ?_
        ?_, .of_keepsConnection hr he hholds hstep (Router.foldl_note_exchange _ _) hshifts⟩
      · rw [hsame]
      · rw [hsame]
      · rw [hsame]
  | true =>
    rw [if_pos rfl] at hdata hcourse
    obtain ⟨pendingWrite, hnoted⟩ := Router.foldl_note t.effects
      { r with decoder := d, exchange := some t.exchange }
    rw [hnoted] at hstep
    obtain ⟨op, hask, hop, -⟩ := forwardReply_touches hstep hcourse.2
    have hr₂ := forwardReply_router? hstep
    refine ⟨t.commands.map .did, [.ask op], .commands hpools ?_, hdata ▸ htouch.before hask, ?_⟩
    · rw [hdata, forwardReply_notes, hnotes]
    · rw [hdata] at hr' ⊢
      obtain rfl := Option.some.inj (hr'.symm.trans hr₂)
      rw [hr, hr']
      obtain ⟨how, hcommands, hhow⟩ := Exchange.onData_commands hh ht
      rw [hcommands]
      have hfreed : t.FreesConnection e := Exchange.onData_hold hh ht
      refine ⟨.ended he hh rfl nofun (fun _ _ => hhow) rfl hex hcourse.1 (AsksForOutcome.of_outcome hop []),
        .of_freesConnection hr he hfreed ?_ ?_⟩
      · rw [hold?_eq hr' hex, Exchange.hold?_of_none hcourse.1.link]
      · rw [← List.append_nil t.gaugeMoves]
        exact hshifts.trans (forwardReply_shifts s₁ ref)

theorem onHostEvent_hasShare (hr : s.router? ref = some r) {e : Exchange} (he : r.exchange = some e)
    (hh : e.Holding) (event : ConnectionEvent) :
    HasShare R ref [.deliver (.event event)] s (s.onHostEvent ref e event) := by
  unfold Session.onHostEvent
  split
  · exact .idle (by simp) (by simp) R
  · split
    · exact ⟨[], [], .none rfl rfl, Touches.stop _, .took nofun nofun, .unmoved rfl (.refl _)⟩
    · next t ht =>
      have hops := Exchange.onEvent_asksForOutcome ht
      obtain ⟨hover, -⟩ := Exchange.onEvent_course hh ht
      refine ⟨t.commands.map .did, _, .commands (takeStep_pools s ref t) (takeStep_notes s ref t),
        takeStep_touches s ref t, ?_⟩
      · rw [takeStep_router?_eq hr, hr, Exchange.onEvent_commands hh ht]
        have hex := Router.foldl_note_exchange
        refine ⟨.ended he hh rfl (fun _ _ => rfl) nofun (Router.foldl_note_line _ _) (hex _ _) hover hops,
          .of_freesConnection hr he (Exchange.onEvent_freesConnection ht) ?_ (takeStep_shifts s ref t)⟩
        rw [hold?_eq (takeStep_router?_eq hr t) (hex _ _), Exchange.hold?_of_none hover.link]

/-- A router that is not there, or has no exchange yet, gives back what it is told of. -/
theorem onDelivery_hasShare_of_idle (R : Request → Prop) (d : Delivery)
    (hidle : ∀ r e, s.router? ref = some r → r.exchange ≠ some e)
    (heq : s.onDelivery ref d = match d with
      | .ready link _ => s.giveBack ref link
      | .failure _ _ | .data _ | .event _ => s) : HasShare R ref [.deliver d] s (s.onDelivery ref d) := by
  rw [heq]
  cases d with
  | ready link host =>
    refine ⟨[.did (.release link)], [], .commands (giveBack_pools _ ref link) (giveBack_notes _ ref link),
      giveBack_touches _ ref link, ?_⟩
    refine ⟨?_, .unmoved (hold?_congr (giveBack_router? _ ref link ref)) (giveBack_shifts _ ref link)⟩
    rw [giveBack_router?]
    exact .gaveBack link host hidle
  | failure | data | event => exact .idle (by simp) (by simp) R

/-- The connection comes that a router has waited for. -/
theorem poolReady_hasShare (hr : s.router? ref = some r) {e : Exchange} (he : r.exchange = some e)
    (hw : e.Waiting) (R : Request → Prop) (link : LinkId) (host : HostRef) :
    HasShare R ref [.deliver (.ready link host)] s
      (s.takeStep ref (e.poolReady link host (s.source.state? link s.side.pools))) := by
  generalize hshared : s.source.state? link s.side.pools = shared
  obtain ⟨hh, -, -⟩ := Exchange.poolReady_holding link host shared hw.toPlain hw.link hw.fresh
  have htouch := takeStep_touches s ref (e.poolReady link host shared)
  rw [Exchange.poolReady_later link host shared hw.toPlain hw.link, if_pos hw.pending] at htouch
  refine ⟨(LinkCommand.begin link shared).map .did, [.write], ?_, htouch, ?_⟩
  · rw [← Exchange.poolReady_commands link host shared hw.toPlain hw.link]
    exact .commands (takeStep_pools _ ref _) (takeStep_notes _ ref _)
  · obtain ⟨hhold, hmoves⟩ := Exchange.poolReady_hold link host shared hw.toPlain hw.link
    have hregrips : MovesGauges ref [.deliver (.ready link host)] s
        (s.takeStep ref (e.poolReady link host shared)) := by
      refine .got link host ?_ ?_ (hmoves ▸ takeStep_shifts _ ref _) (Or.inl List.mem_cons_self)
      · rw [hold?_eq hr he, Exchange.hold?_of_none hw.link]
      · rw [hold?_eq (takeStep_router?_eq hr _) (Router.foldl_note_exchange _ _), hhold]
    refine ⟨?_, hregrips⟩
    rw [takeStep_router?_eq hr, hr, Router.note_poolReady link host shared hw.toPlain hw.link]
    rw [Exchange.poolReady_eq link host shared hw.toPlain hw.link] at hh ⊢
    exact .begun he hw hshared.symm rfl rfl rfl hh rfl rfl rfl

/-- There is no connection for a router that has waited. -/
theorem poolFailure_hasShare (hr : s.router? ref = some r) {e : Exchange} (he : r.exchange = some e)
    (hw : e.Waiting) (R : Request → Prop) (reason : FailureReason) (host : Option HostRef) :
    HasShare R ref [.deliver (.failure reason host)] s
      (s.takeStep ref (e.poolFailure reason host s.now)) := by
  obtain ⟨hover, -⟩ := Exchange.poolFailure_over reason host s.now hw.toPlain hw.link
  obtain ⟨hops, hcommands⟩ := Exchange.poolFailure_later_commands reason host s.now e
  refine ⟨[], _, ?_, takeStep_touches _ ref _, ?_⟩
  · show PoolsChangedBy ref (([] : List LinkCommand).map .did) _ _
    rw [← hcommands]
    exact .commands (takeStep_pools _ ref _) (takeStep_notes _ ref _)
  · have hex := Router.foldl_note_exchange
    have hholds := Exchange.poolFailure_keepsConnection reason host s.now hw.link
    refine ⟨?_, .of_keepsConnection hr he hholds (takeStep_router?_eq hr _) (hex _ _)
      (takeStep_shifts _ ref _)⟩
    rw [takeStep_router?_eq hr, hr]
    exact .denied he hw (Router.foldl_note_line _ _) (hex _ _) hover hops

/-- A router that is on course is told something. -/
theorem OnCourse.delivered_hasShare {R : Request → Prop} {d : Delivery} {rest : List Task}
    (h : OnCourse ref past s) (hq : s.queue.posted = .router ref (.deliver d) :: rest) :
    HasShare R ref [.deliver d] (s.leave rest) ((s.leave rest).onDelivery ref d) := by
  obtain ⟨hidle, heq⟩ | ⟨r, e, hr, he, heq⟩ := onDelivery_cases (s.leave rest) ref d
  · exact onDelivery_hasShare_of_idle R d hidle heq
  · have hr₀ : s.router? ref = some r := (router?_congr rfl rfl ref).trans hr
    obtain ⟨x, hx, hxr⟩ := h.router?_cases hr₀
    rw [heq]
    cases d with
    | ready link host =>
      -- An answer comes to a router that waits, since it is told one at most and only if it has
      -- asked.
      obtain ⟨-, hw, -, -⟩ := h.answered hq rfl hx hxr he
      exact poolReady_hasShare hr he hw R link host
    | failure reason host =>
      obtain ⟨-, hw, -, -⟩ := h.answered hq rfl hx hxr he
      exact poolFailure_hasShare hr he hw R reason host
    | data octets =>
      dsimp only
      by_cases hlink : e.link = none
      -- Octets come too late for an exchange that has let go of its connection.
      · have hdeaf : (s.leave rest).onHostData ref r e octets = s.leave rest := by
          unfold Session.onHostData
          rw [hlink]
          rfl
        rw [hdeaf]
        exact .idle (by simp) (by simp) R
      · obtain ⟨-, hh, hsane, -, -⟩ := h.holding hx hxr he (Option.isSome_iff_ne_none.mpr hlink)
        exact onHostData_hasShare hr he hh hsane octets
    | event event =>
      dsimp only
      by_cases hlink : e.link = none
      · have hdeaf : (s.leave rest).onHostEvent ref e event = s.leave rest := by
          unfold Session.onHostEvent
          rw [hlink]
          rfl
        rw [hdeaf]
        exact .idle (by simp) (by simp) R
      · obtain ⟨-, hh, -, -, -⟩ := h.holding hx hxr he (Option.isSome_iff_ne_none.mpr hlink)
        exact onHostEvent_hasShare hr he hh event

theorem OnCourse.wrote_hasShare {rest : List Task} (h : OnCourse ref past s) :
    HasShare R ref [.write] (s.leave rest) ((s.leave rest).writeCall ref) := by
  by_cases hdone : ∀ r e, (s.leave rest).router? ref = some r → r.exchange = some e →
      e.link = none ∨ e.requestComplete = true
  · rw [writeCall_of_done hdone]
    exact .idle (by simp) (fun _ => hdone) _
  · simp only [Classical.not_forall, not_or] at hdone
    obtain ⟨r, e, hr, he, hlink, hunsent⟩ := hdone
    have hr₀ : s.router? ref = some r := (router?_congr rfl rfl ref).trans hr
    obtain ⟨x, hx, hxr⟩ := h.router?_cases hr₀
    obtain ⟨-, hh, -, -, -⟩ := h.holding hx hxr he (Option.isSome_iff_ne_none.mpr hlink)
    obtain ⟨link, hlink⟩ := Option.ne_none_iff_exists'.mp hlink
    exact writeCall_hasShare hr he hh hlink (Bool.eq_false_iff.mpr hunsent)

/-! ## Everybody's share

In a move at most one router has a share, unless a stream begins or is dropped with all its routers.
The frame comes with it: the tasks, the minds and the gauges of the others stay. -/

/-- One router has a share in a move that takes up the tasks `m`, and others have none. What the
share is depends on the course of the router, which is why it is asked for only then; all else holds
of any router. -/
structure Acts (R : RouterRef → Request → Prop) (m : List (Session σ × Task)) (other : RouterRef)
    (s s' : Session σ) : Prop where
  number : s'.number = s.number
  source : s'.source = s.source
  nextId : s'.nextId = s.nextId
  taken : (m = [] ∧ other.session = s.number) ∨ ∃ s₀ op, m = [(s₀, .router other op)] ∧
    (∀ ref, s₀.router? ref = s.router? ref) ∧ s.toDo other = op :: s₀.toDo other ∧
    s' = s₀.runTask (.router other op)
  toDo : ∀ ref, other ≠ ref → s'.toDo ref = s.toDo ref
  minds : ∀ ref, other ≠ ref → s'.router? ref = s.router? ref
  gone : s.router? other = none → s'.router? other = none
  stranger : other.session ≠ s.number → s.side.Shifts [] s'.side
  share : ∀ past, OnCourse other past s → ∃ ds ops,
    PoolsChangedBy other ds s s' ∧ (∀ op ∈ ops, op.isOwn) ∧
    done other m ++ s'.toDo other = s.toDo other ++ ops ∧
    Share (R other) s.source s.side.pools other (done other m) ds ops (s.router? other)
      (s'.router? other) ∧ MovesGauges other (done other m) s s'

/-- What a move is to routers: one of them has a share in it, streams begin or go, or nothing
happens. -/
inductive OneRouterActs (R : RouterRef → Request → Prop) (D : Prop) (m : List (Session σ × Task))
    (s s' : Session σ) : Prop
  /-- Nothing happens, but that a router's task may be for its stream to do. -/
  | unmoved (hnumber : s'.number = s.number) (hsource : s'.source = s.source)
    (hnext : s'.nextId = s.nextId) (hside : s.side.Alike s'.side)
    (hnotes : s'.poolNotes = s.poolNotes) (hminds : ∀ ref, s'.router? ref = s.router? ref)
    (htoDo : ∀ ref, done ref m ++ s'.toDo ref = s.toDo ref)
    (htaken : ∀ ref, done ref m = [] ∨ ∃ op, done ref m = [.ask op])
  | began {x : Stream} (hm : m = []) (h : Begins s x s')
  | dropped (hd : D) (hm : m = []) (id : StreamId) (h : s' = s.dropStream id)
  | acted (other : RouterRef) (h : Acts R m other s s')

theorem Works.toDo_of_ne (h : Works other s s') (hne : other ≠ ref) : s'.toDo ref = s.toDo ref := by
  obtain ⟨ops, -, g, side, notes, panic, -, rfl⟩ := h
  show (s.queue.posted ++ ops.map (Task.router other)).filterMap (Task.opOf ref) = _
  rw [toDo_post, if_neg hne, List.append_nil]

/-- Who is not there does not come by being at work. -/
theorem Works.router?_of_none (h : Works ref s s') (hnone : s.router? ref = none) :
    s'.router? ref = none := by
  obtain ⟨ops, -, g, side, notes, panic, hg, rfl⟩ := h
  refine Eq.trans ?_ hnone
  apply router?_congr
  · exact recall_streams_same (hg hnone) ref s.streams
  · rfl

theorem done_singleton (ref : RouterRef) (s : Session σ) (t : Task) :
    done ref [(s, t)] = (t.opOf ref).toList := by
  unfold done
  rw [List.filterMap_cons, List.filterMap_nil]
  cases t.opOf ref with
  | none => rfl
  | some op => rfl

theorem opOf_router (ref other : RouterRef) (op : RouterOp) :
    (Task.router other op).opOf ref = if other = ref then some op else none := rfl

section

variable {R : RouterRef → Request → Prop} {D : Prop} {m : List (Session σ × Task)}

theorem Acts.done_of_ne (h : Acts R m other s s') (hne : other ≠ ref) : done ref m = [] := by
  obtain ⟨rfl, -⟩ | ⟨s₀, op, rfl, -⟩ := h.taken
  · rfl
  · rw [done_singleton, opOf_router, if_neg hne]
    rfl

/-- A router is at work behind `s₀`, which is `s` but for a task that it has taken up. -/
theorem Acts.of_works (s₀ : Session σ) (hnumber : s₀.number = s.number)
    (hsource : s₀.source = s.source) (hnext : s₀.nextId = s.nextId)
    (hside : s₀.side = s.side) (hnotes : s₀.poolNotes = s.poolNotes)
    (hminds : ∀ ref, s₀.router? ref = s.router? ref)
    (htaken : (m = [] ∧ other.session = s.number ∧ ∀ ref, s₀.toDo ref = s.toDo ref) ∨
      ∃ op rest, s.queue.posted = .router other op :: rest ∧ s₀ = s.leave rest ∧
        m = [(s₀, .router other op)] ∧ s' = s₀.runTask (.router other op))
    (hworks : Works other s₀ s') (hrouter : ∀ ref, other ≠ ref → s'.router? ref = s₀.router? ref)
    (hstranger : other.session ≠ s.number → s₀.side.Shifts [] s'.side)
    (hacts : ∀ past, OnCourse other past s → HasShare (R other) other (done other m) s₀ s') :
    Acts R m other s s' := by
  -- Taking a task up moves it from what is left to do to what was done, for whichever router.
  have hdone : ∀ ref, done ref m ++ s₀.toDo ref = s.toDo ref := by
    intro ref
    obtain ⟨rfl, -, htoDo⟩ | ⟨op, rest, hq, rfl, rfl, -⟩ := htaken
    · exact htoDo ref
    · rw [done_singleton]
      exact (toDo_leave hq).symm
  have hothers : ∀ ref, other ≠ ref → done ref m = [] := by
    intro ref hne
    obtain ⟨rfl, -, -⟩ | ⟨op, rest, -, rfl, rfl, -⟩ := htaken
    · rfl
    · rw [done_singleton, opOf_router, if_neg hne]
      rfl
  refine ⟨hworks.number.trans hnumber, hworks.source.trans hsource, hworks.nextId.trans hnext, ?_, ?_,
    fun ref hne => (hrouter ref hne).trans (hminds ref),
    fun hnone => hworks.router?_of_none ((hminds other).trans hnone), hside ▸ hstranger, ?_⟩
  · obtain ⟨rfl, hnative, -⟩ | ⟨op, rest, hq, rfl, rfl, hrun⟩ := htaken
    · exact Or.inl ⟨rfl, hnative⟩
    · refine Or.inr ⟨_, op, rfl, hminds, ?_, hrun⟩
      have htoDo := hdone other
      rw [done_singleton, opOf_router, if_pos rfl] at htoDo
      exact htoDo.symm
  · intro ref hne
    rw [hworks.toDo_of_ne hne, ← hdone ref, hothers ref hne]
    rfl
  · intro past hc
    obtain ⟨ds, ops, hdeals, htouch, hshare, hregrips⟩ := hacts past hc
    have hown : ∀ op ∈ ops, op.isOwn := by
      obtain ⟨ops', hown, g, side, notes, panic, -, rfl⟩ := hworks
      have htoDo := htouch.toDo
      have hposted : _ = s₀.toDo other ++ if other = other then ops' else [] :=
        toDo_post s₀ other other ops'
      rw [if_pos rfl] at hposted
      obtain rfl : ops' = ops := List.append_cancel_left (hposted.symm.trans htoDo)
      exact hown
    rw [hsource, hside, hminds] at hshare
    have hhold : s₀.hold? other = s.hold? other := hold?_congr (hminds other)
    refine ⟨ds, ops, ⟨?_, ?_⟩, hown, ?_, hshare, ?_, ?_⟩
    · rw [hdeals.pools, hsource, hside]
    · rw [hdeals.notes, hsource, hside, hnotes]
    · rw [htouch.toDo, ← List.append_assoc, hdone]
    · have hgauges := hregrips.gauges
      rw [hside, heldHost, hhold] at hgauges
      exact hgauges
    · intro link host hx
      rw [← hhold, ← hsource]
      exact hregrips.given link host hx

theorem OnCourse.destroyed_hasShare {R : Request → Prop} (h : OnCourse ref past s) :
    HasShare R ref [] s (s.destroyRouter ref) := by
  obtain ⟨htouch, hnone⟩ := destroyRouter_touches s ref
  cases hr : s.router? ref with
  | none =>
    have hsame : s.destroyRouter ref = s := by
      unfold Session.destroyRouter
      rw [hr]
    rw [hsame]
    exact ⟨[], [], .refl ref s, Touches.refl ref s, .rest _, .refl ref _ s⟩
  | some r =>
    refine ⟨r.leaves.map .did, [], ?_, htouch, ?_, destroyRouter_movesGauges s ref⟩
    · unfold Session.destroyRouter Router.leaves
      rw [hr]
      dsimp only
      cases he : r.exchange with
      | none => exact .none rfl rfl
      | some e =>
        obtain ⟨x, hx, hxr⟩ := h.router?_cases hr
        have hfollows := (Router.follows_of_some he).mp (h.follows x r hx hxr)
        show PoolsChangedBy ref ((e.leave (some .noFlush)).map .did) _ _
        rw [← Exchange.destroy_commands hfollows.2]
        exact .commands (endRouter_pools s ref _) (endRouter_notes s ref _)
    · rw [hr, hnone]
      exact .gone r

theorem refuse_hasShare {R : Request → Prop} (hr : s.router? ref = some r) (hnone : r.exchange = none)
    (event : RouterEvent) (status : Status) : HasShare R ref [] s (s.refuse ref event status) := by
  have hr' : (s.refuse ref event status).router? ref = some r := (router?_congr rfl rfl _).trans hr
  refine ⟨[], _, .none rfl rfl, (Touches.count event).before (Touches.post _), ?_⟩
  refine ⟨?_, .unmoved (hold?_congr (hr'.trans hr.symm)) (.same fun _ => rfl)⟩
  rw [hr, hr']
  exact .refused status hnone

/-- A request comes to the router whose turn it is, which has had no request before. -/
theorem Next.acts {x : Stream} {slot : Nat} (hn : Next s x slot) (hrouter : x.hasRouter slot = true)
    (hworks : Works (s.refTo x.id slot) (s.pass x.id) s')
    (hacts : ∀ r, (s.pass x.id).router? (s.refTo x.id slot) = some r → r.exchange = none →
      HasShare (R (s.refTo x.id slot)) (s.refTo x.id slot) [] (s.pass x.id) s') :
    Acts R [] (s.refTo x.id slot) s s' := by
  refine .of_works (s.pass x.id) rfl rfl rfl rfl rfl (fun ref => pass_router? _)
    (Or.inl ⟨rfl, rfl, fun _ => rfl⟩) hworks
    (fun ref hne => hworks.router?_of_ne rfl (Ne.symm hne)) (fun hne => absurd rfl hne)
    fun past hc => ?_
  obtain ⟨r, hr, hnone, -, -⟩ := hc.reached hn rfl hrouter
  refine hacts r ((pass_router? _).trans ?_) hnone
  rw [hc.router?_eq]
  exact (congrArg (Option.bind · _) hn.found).trans hr

/-- Every move is something that one router does, or leaves routers alone. -/
theorem Move.oneRouterActs (hm : Move R D m s s') : OneRouterActs R D m s s' := by
  have hleft : ∀ {t : Task} {rest : List Task}, s.queue.posted = t :: rest → ∀ ref,
      done ref [(s.leave rest, t)] ++ (s.leave rest).toDo ref = s.toDo ref := by
    intro t rest hq ref
    rw [done_singleton]
    exact (toDo_leave hq).symm
  have hown : ∀ {other : RouterRef} {op : RouterOp} {rest : List Task},
      done other [(s.leave rest, Task.router other op)] = [op] := by
    intro other op rest
    rw [done_singleton, opOf_router, if_pos rfl]
    rfl
  -- Many moves are nothing at all to routers.
  have hquiet : (∀ ref, done ref m = []) → s'.number = s.number → s'.source = s.source →
      s'.nextId = s.nextId → s.side.Alike s'.side → s'.poolNotes = s.poolNotes →
      (∀ ref, s'.router? ref = s.router? ref) → (∀ ref, s'.toDo ref = s.toDo ref) →
      OneRouterActs R D m s s' := by
    intro hdone hnumber hsource hnext hside hnotes hminds htoDo
    refine .unmoved hnumber hsource hnext hside hnotes hminds (fun ref => ?_) fun ref =>
      Or.inl (hdone ref)
    rw [hdone, htoDo]
    rfl
  cases hm with
  | aside ha =>
    exact hquiet (fun _ => rfl) ha.number ha.source ha.nextId ha.side ha.notes ha.router?
      fun _ => ha.elsewhere.toDo
  | began hb => exact .began rfl hb
  | passed hn hfree =>
    exact hquiet (fun _ => rfl) rfl rfl rfl (.refl _) rfl (fun ref => pass_router? _) fun _ => rfl
  | refused hn hrouter event status =>
    exact .acted _ (hn.acts hrouter (refuse_works _ _ event status) fun r hr hnone =>
      refuse_hasShare hr hnone event status)
  | engaged hn hrouter cluster host hrouted =>
    exact .acted _ (hn.acts hrouter (startExchange_works _ _ cluster host _) fun r hr hnone =>
      startExchange_hasShare hr hnone cluster host hrouted)
  | @wrote _ other rest hq =>
    have hworks := writeCall_works (s.leave rest) other
    refine .acted other (.of_works (s.leave rest) rfl rfl rfl rfl rfl
      (fun ref => router?_congr rfl rfl ref) (Or.inr ⟨.write, rest, hq, rfl, rfl, rfl⟩) hworks ?_
      (fun _ => writeCall_shifts _ other) fun past hc => hown ▸ hc.wrote_hasShare)
    intro ref hne
    by_cases hn : other.session = s.number
    · exact hworks.router?_of_ne hn (Ne.symm hne)
    · rw [writeCall_of_done (s := s.leave rest) fun r e hr => absurd (session_of_router? hr) hn]
  | @popped _ t rest hq ht hw =>
    refine .unmoved rfl rfl rfl (.refl _) rfl (fun ref => router?_congr rfl rfl ref) (hleft hq)
      fun ref => ?_
    rw [done_singleton]
    cases t with
    | stream id op => exact Or.inl rfl
    | closed => exact Or.inl rfl
    | router other op =>
      rw [opOf_router]
      split
      · cases op with
        | ask op => exact Or.inr ⟨op, rfl⟩
        | write => exact absurd rfl (hw other)
        | deliver d => exact absurd rfl (ht other d)
      · exact Or.inl rfl
  | @delivered _ other d rest hq =>
    exact .acted other (.of_works (s.leave rest) rfl rfl rfl rfl rfl
      (fun ref => router?_congr rfl rfl ref) (Or.inr ⟨.deliver d, rest, hq, rfl, rfl, rfl⟩)
      (onDelivery_works _ other d) (fun ref hne => onDelivery_router?_of_ne d (Ne.symm hne))
      (fun hne => onDelivery_shifts (s := s.leave rest) hne d) fun past hc => hown ▸ hc.delivered_hasShare hq)
  | noted _ id op =>
    exact hquiet (fun _ => rfl) rfl rfl rfl (.refl _) rfl (fun _ => rfl) fun _ => rfl
  | completed _ id =>
    refine hquiet (fun _ => rfl) rfl rfl rfl (.refl _) rfl (fun ref => ?_) fun _ => rfl
    exact modifyStream_router? (f := fun x => { x with isCompleted := true }) (fun _ => rfl)
      (fun _ _ => rfl) ref
  | @destroyed _ other hnumber hover =>
    have hworks := destroyRouter_works s other
    exact .acted other (.of_works s rfl rfl rfl rfl rfl (fun _ => rfl)
      (Or.inl ⟨rfl, hnumber, fun _ => rfl⟩) hworks
      (fun ref hne => hworks.router?_of_ne hnumber (Ne.symm hne)) (fun hne => absurd hnumber hne)
      fun past hc => hc.destroyed_hasShare)
  | dropped _ id hd => exact .dropped hd rfl id rfl

/-! ## One router's share

The same, looked at from one router: a move of its session gives it a share, whether it was its own
move or not. -/

theorem dropRouters_router?_of_ne (slots : List Nat) (s : Session σ) (id : StreamId)
    (hnumber : ref.session = s.number) (hid : id ≠ ref.stream) :
    (slots.foldl (fun s slot => s.dropRouter (s.refTo id slot)) s).router? ref = s.router? ref := by
  induction slots generalizing s with
  | nil => rfl
  | cons slot rest ih =>
    have hworks := dropRouter_works s (s.refTo id slot)
    refine (ih _ (hnumber.trans hworks.number.symm)).trans (hworks.router?_of_ne rfl fun he => hid ?_)
    exact (congrArg RouterRef.stream he).symm

/-- A router that is dropped with its stream is gone; others are what they were. -/
theorem OnCourse.dropped_router? (h : OnCourse ref past s) (id : StreamId) :
    (s.dropStream id).toDo ref = s.toDo ref ∧
      ((s.dropStream id).router? ref = s.router? ref ∨ (s.dropStream id).router? ref = none) := by
  unfold Session.dropStream
  split
  · exact ⟨rfl, Or.inl rfl⟩
  · next x _ =>
    dsimp only
    have htoDo := (dropRouters_frame x.routers s id ref).2.2.1
    have hrouter := dropRouters_router?_of_ne x.routers s id h.number
    generalize x.routers.foldl (fun s slot => s.dropRouter (s.refTo id slot)) s = s₁ at htoDo hrouter
    refine ⟨htoDo, ?_⟩
    by_cases hid : id = ref.stream
    · refine Or.inr ?_
      unfold Session.router?
      rw [← hid, stream?_filter_same]
      split <;> rfl
    · refine Or.inl (Eq.trans ?_ (hrouter hid))
      unfold Session.router?
      rw [stream?_filter_ne fun he => hid he.symm]

/-- A router that is there stays what it is when a stream begins. -/
theorem Begins.kept {x : Stream} {r : Router} (hb : Begins s x s') (hr : s.router? ref = some r) :
    s'.router? ref = some r := by
  unfold Session.router? at hr ⊢
  rw [hb.number, stream?_append hb.streams]
  split at hr
  · next href =>
    obtain ⟨y, hy, hyr⟩ := Option.bind_eq_some_iff.mp hr
    rw [if_pos href, hy]
    exact hyr
  · cases hr

theorem began_share {x : Stream} (hb : Begins s x s')
    {R : Request → Prop} {source : PoolSource σ} {p : σ} :
    Share R source p ref [] [] [] (s.router? ref) (s'.router? ref) := by
  cases hr : s.router? ref with
  | some r =>
    rw [hb.kept hr]
    exact .rest _
  | none =>
    cases hr' : s'.router? ref with
    | none => exact .rest _
    | some r' =>
      obtain hr' | ⟨rfl, -⟩ := hb.router? hr'
      · rw [hr] at hr'
        cases hr'
      · exact .born

/-- A router has its share of every move, unless it is dropped with its stream. -/
theorem Move.share (hm : Move R D m s s') (hc : OnCourse ref past s) :
    ∃ ops, done ref m ++ s'.toDo ref = s.toDo ref ++ ops ∧
      ((∃ ds, Share (R ref) s.source s.side.pools ref (done ref m) ds ops (s.router? ref)
        (s'.router? ref)) ∨ (done ref m = [] ∧ ops = [] ∧ s'.router? ref = none)) := by
  cases hm.oneRouterActs with
  | unmoved _ _ _ _ _ hminds htoDo htaken =>
    refine ⟨[], by rw [htoDo, List.append_nil], Or.inl ⟨[], ?_⟩⟩
    rw [hminds]
    obtain hnone | ⟨op, hop⟩ := htaken ref
    · rw [hnone]
      exact .rest _
    · rw [hop]
      exact .took nofun nofun
  | began hm hb =>
    subst hm
    refine ⟨[], ?_, Or.inl ⟨[], began_share hb⟩⟩
    rw [List.append_nil]
    unfold Session.toDo
    rw [hb.posted]
    rfl
  | dropped _ hm id h =>
    subst hm h
    obtain ⟨htoDo, hrouter⟩ := hc.dropped_router? id
    refine ⟨[], by rw [htoDo, List.append_nil]; rfl, ?_⟩
    rcases hrouter with hsame | hgone
    · rw [hsame]
      exact Or.inl ⟨[], .rest _⟩
    · exact Or.inr ⟨rfl, rfl, hgone⟩
  | acted other ha =>
    -- Another router has a share in the move, which leaves this one with a rest.
    by_cases hne : other = ref
    · subst hne
      obtain ⟨ds, ops, -, -, htoDo, hshare, -⟩ := ha.share past hc
      exact ⟨ops, htoDo, Or.inl ⟨ds, hshare⟩⟩
    · refine ⟨[], ?_, Or.inl ⟨[], ?_⟩⟩
      · rw [ha.done_of_ne hne, ha.toDo ref hne, List.append_nil]
        rfl
      · rw [ha.done_of_ne hne, ha.minds ref hne]
        exact .rest _

end

end Session

end RpcProxy

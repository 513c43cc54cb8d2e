import RpcProxy.Proofs.Exchange.ExchangeGauges
import RpcProxy.Proofs.Session.RouterWork

/-!
# What routers do to the gauges of hosts

What a router holds is a connection, with the host that a pool gave the connection for. Whatever a
router does, it moves the gauge of a host up if it has got a connection to it, down if it has let go
of one, and otherwise not at all. That is `MovesGauges`. It compares what the router holds before
and after, so it can be proved for every function by itself, and a function that lets go of one
connection and gets another has its two moves in one statement.

It also says where a connection comes from: the pool that was asked, or a pool's answer that was
waited for. Without this the host would be any host, and a gauge could go up at one and down at
another.
-/

set_option autoImplicit false

namespace RpcProxy

/-- The connection that a router holds, and the host that it was got for. -/
def Router.hold? (r : Router) : Option (LinkId × HostRef) := r.exchange.bind Exchange.hold?

/-- A connection is given to a router for a host: it is told so, or the pool that it asks has
one. -/
def PoolSource.Gives {σ : Type} (source : PoolSource σ) (ref : RouterRef) (taken : List RouterOp)
    (link : LinkId) (host : HostRef) : Prop :=
  .deliver (.ready link host) ∈ taken ∨
    ∃ cluster asked p, (source.ask cluster asked ref p).1 = .ready link host

namespace Session

variable {σ : Type} {ref : RouterRef} {taken : List RouterOp} {s s' s₁ s₂ s₃ : Session σ} {r r' : Router}
  {e e' : Exchange}

/-- The connection that a router holds, and the host that it was got for. -/
def hold? (s : Session σ) (ref : RouterRef) : Option (LinkId × HostRef) :=
  (s.router? ref).bind Router.hold?

def heldHost (s : Session σ) (ref : RouterRef) : Option HostRef := (s.hold? ref).map (·.2)

theorem hold?_eq (hr : s.router? ref = some r) (he : r.exchange = some e) : s.hold? ref = e.hold? := by
  unfold hold? Router.hold?
  rw [hr, Option.bind_some, he, Option.bind_some]

theorem hold?_of_blank (hr : s.router? ref = some r) (hnone : r.exchange = none) :
    s.hold? ref = none := by
  unfold hold? Router.hold?
  rw [hr, Option.bind_some, hnone]
  rfl

theorem hold?_of_gone (hr : s.router? ref = none) : s.hold? ref = none := by
  unfold hold?
  rw [hr]
  rfl

theorem hold?_congr (h : s'.router? ref = s.router? ref) : s'.hold? ref = s.hold? ref := by
  unfold hold?
  rw [h]

/-- What a router has done to gauges fits what it held and what it holds, and what it holds was
given to it for that host. -/
structure MovesGauges (ref : RouterRef) (taken : List RouterOp) (s s' : Session σ) : Prop where
  gauges : s.side.Shifts (GaugeMove.between (s.heldHost ref) (s'.heldHost ref)) s'.side
  given : ∀ link host, s'.hold? ref = some (link, host) →
    s.hold? ref = some (link, host) ∨ s.source.Gives ref taken link host

theorem MovesGauges.unmoved (hheld : s'.hold? ref = s.hold? ref) (h : s.side.Shifts [] s'.side) :
    MovesGauges ref taken s s' where
  gauges := by
    unfold heldHost
    rw [hheld, GaugeMove.between_self]
    exact h
  given link host hx := Or.inl (hheld ▸ hx)

theorem MovesGauges.refl (ref : RouterRef) (taken : List RouterOp) (s : Session σ) :
    MovesGauges ref taken s s := .unmoved rfl (.refl _)

theorem MovesGauges.freed (hheld : s'.hold? ref = none)
    (h : s.side.Shifts ((s.hold? ref).map fun x => GaugeMove.down x.2).toList s'.side) :
    MovesGauges ref taken s s' where
  gauges := by
    unfold heldHost
    rw [hheld, Option.map_none, GaugeMove.between_none_right, Option.map_map]
    exact h
  given link host hx := by
    rw [hheld] at hx
    cases hx

theorem MovesGauges.got (link : LinkId) (host : HostRef) (hnone : s.hold? ref = none)
    (hheld : s'.hold? ref = some (link, host)) (h : s.side.Shifts [.up host] s'.side)
    (hgiven : s.source.Gives ref taken link host) : MovesGauges ref taken s s' where
  gauges := by
    unfold heldHost
    rw [hnone, hheld, Option.map_none, GaugeMove.between_none_left]
    exact h
  given link' host' hx := by
    obtain ⟨rfl, rfl⟩ := Prod.mk.inj (Option.some.inj (hheld.symm.trans hx))
    exact Or.inr hgiven

/-! ## Gauges -/

theorem modifyRouter_shifts (s : Session σ) (ref : RouterRef) (f : Router → Router) :
    s.side.Shifts [] (s.modifyRouter ref f).side := by
  rw [(modifyRouter_side s ref f).1]
  exact .refl _

theorem effect_shifts (ref : RouterRef) (s : Session σ) (e : Effect) :
    s.side.Shifts e.gaugeMove?.toList (s.effect ref e).side := by
  have happly : s.side.Shifts e.gaugeMove?.toList (s.applied ref e).side :=
    HostSide.apply_shifts s.source ref s.now e s.side
  rw [effect_eq]
  cases e with
  | startCall | beginCall => exact happly.trans (modifyRouter_shifts _ ref _)
  | addSize n => exact happly.trans (.same fun _ => rfl)
  | report | hold | unhold | link | count | startResponse | resume | localReply | resetConnection
  | resetStream => exact happly

theorem effects_shifts (ref : RouterRef) (es : List Effect) (s : Session σ) :
    s.side.Shifts (es.filterMap Effect.gaugeMove?) (es.foldl (effect ref) s).side := by
  induction es generalizing s with
  | nil => exact .refl _
  | cons e rest ih =>
    have hall := (effect_shifts ref s e).trans (ih (s.effect ref e))
    rw [List.foldl_cons]
    cases he : e.gaugeMove? with
    | none =>
      rw [he] at hall
      rw [List.filterMap_cons_none he]
      exact hall
    | some m =>
      rw [he] at hall
      rw [List.filterMap_cons_some he]
      exact hall

theorem takeStep_shifts (s : Session σ) (ref : RouterRef) (t : Exchange.Step) :
    s.side.Shifts t.gaugeMoves (s.takeStep ref t).side :=
  (modifyRouter_shifts s ref _).trans (effects_shifts ref t.effects _)

theorem endRouter_shifts (s : Session σ) (ref : RouterRef) (t : Exchange.Step) :
    s.side.Shifts t.gaugeMoves (s.endRouter ref t).side := effects_shifts ref t.effects _

theorem giveBack_shifts (s : Session σ) (ref : RouterRef) (link : LinkId) :
    s.side.Shifts [] (s.giveBack ref link).side := effect_shifts ref s _

theorem forwardReply_shifts (s : Session σ) (ref : RouterRef) :
    s.side.Shifts [] (s.forwardReply ref).side := by
  unfold Session.forwardReply
  split
  · exact .refl _
  · next r _ =>
    dsimp only
    split
    · exact effect_shifts ref _ _
    · exact .refl _
    · exact .refl _

theorem writeCall_shifts (s : Session σ) (ref : RouterRef) :
    s.side.Shifts [] (s.writeCall ref).side := by
  unfold Session.writeCall
  split
  · exact .refl _
  · next r _ =>
    split
    · exact .refl _
    · next e _ =>
      split
      · exact .refl _
      · have hstep := takeStep_shifts (s.setRouter ref { r with pendingWrite := [] }) ref
          (e.write r.pendingWrite).2
        rw [(Exchange.write_keepsConnection r.pendingWrite e).moves] at hstep
        exact (hstep.trans (effect_shifts ref _ (.addSize _))).trans (modifyRouter_shifts _ ref _)

/-- What routers of other sessions are told comes to nothing. -/
theorem onDelivery_shifts (hstranger : ref.session ≠ s.number) (d : Delivery) :
    s.side.Shifts [] (s.onDelivery ref d).side := by
  have hnone : s.router? ref = none := if_neg hstranger
  unfold Session.onDelivery
  rw [hnone]
  cases d with
  | ready link host => exact giveBack_shifts s ref link
  | failure | data | event => exact .refl _

/-! ## Routers -/

theorem MovesGauges.of_keepsConnection {t : Exchange.Step} (hr : s.router? ref = some r)
    (he : r.exchange = some e)
    (ht : t.KeepsConnection e) (hr' : s'.router? ref = some r') (he' : r'.exchange = some t.exchange)
    (h : s.side.Shifts t.gaugeMoves s'.side) : MovesGauges ref taken s s' := by
  refine .unmoved ?_ (ht.moves ▸ h)
  rw [hold?_eq hr he, hold?_eq hr' he', ht.hold]

theorem MovesGauges.of_freesConnection {t : Exchange.Step} (hr : s.router? ref = some r)
    (he : r.exchange = some e)
    (ht : t.FreesConnection e) (hheld : s'.hold? ref = none) (h : s.side.Shifts t.gaugeMoves s'.side) :
    MovesGauges ref taken s s' := by
  refine .freed hheld ?_
  rw [hold?_eq hr he, ← ht.moves]
  exact h

theorem dropRouter_movesGauges (s : Session σ) (ref : RouterRef) :
    MovesGauges ref taken s (s.dropRouter ref) := by
  unfold Session.dropRouter
  cases hex : (s.router? ref).bind (·.exchange) with
  | none => exact .refl ref taken s
  | some e =>
    obtain ⟨r, hr, he⟩ := Option.bind_eq_some_iff.mp hex
    refine .of_freesConnection hr he (Exchange.releaseLink_freesConnection false e) ?_
      (endRouter_shifts s ref e.drop)
    exact hold?_of_gone (endRouter_router? s ref e.drop)

/-- A router that is destroyed holds nothing any more. -/
theorem destroyRouter_movesGauges (s : Session σ) (ref : RouterRef) :
    MovesGauges ref taken s (s.destroyRouter ref) := by
  unfold Session.destroyRouter
  split
  · exact .refl ref taken s
  · next r hr =>
    split
    · next hnone =>
      refine .unmoved ?_ (.refl _)
      rw [hold?_of_blank hr hnone, hold?_of_gone (forget_router? s ref)]
    · next e he =>
      refine .of_freesConnection hr he (Exchange.destroy_freesConnection e) ?_ (endRouter_shifts s ref _)
      exact hold?_of_gone (endRouter_router? s ref _)

end Session

end RpcProxy

import Mathlib.Algebra.GroupWithZero.Nat
import RpcProxy.Proofs.Session.ConnectionOwnership
import RpcProxy.Server.Traffic

/-!
# Connections to hosts in the traffic of a server

All sessions share the pools, so who owns what is a matter of the whole server: a connection that is
on its way to a router of one session must not be touched by another. `Traffic.Ownership` puts the
ownership of the sessions together. It is kept by everything that can happen, whoever is woken and
whatever sockets do.

A session speaks of connections that are on their way to its own routers, and needs to know how many
others there are. So its own statement has the ways to all others as a parameter, and here that
parameter is the sum over all clients without the one in question. The sum changes in two ways only:
a session that is woken takes up what was on its way to it, and a socket puts one connection on its
way.

What can go wrong is told by `Lost`: a connection was on its way to a router and was not open any
more. Nobody is told then. The invariant cannot exclude that, since it does happen; it says that a
connection is open, or was lost at some moment before, and it is carried along with all moments that
have passed.
-/

set_option autoImplicit false

namespace RpcProxy

namespace Session

/-- While another session is woken or a socket does something, a session can only be told more. -/
theorem Ownership.besides {lost lost' : RouterRef → LinkId → Prop} {others others' : LinkId → Nat}
    {s s' : Session TcpPools} {new : List (RouterRef × Delivery)} (h : Ownership lost others s)
    (hsource : s'.source = s.source) (hrouters : ∀ ref, s'.router? ref = s.router? ref)
    (hnew : s'.deliveries = s.deliveries ++ new)
    (hcloses : ∀ ref e, (ref, .event e) ∈ new → e.isClose = true)
    (hsettled : Settled (fun l => s'.onWay l + others' l) s'.side.pools)
    (howned : ∀ ref l, s.link? ref = some l → s'.side.pools.owner? l = s.side.pools.owner? l)
    (hlive : ∀ ref l, s.awaits ref l = true →
      s'.side.pools.isOpen l = s.side.pools.isOpen l ∨ s'.hears ref = true)
    (hlost : ∀ ref l, lost ref l → lost' ref l)
    (hway : ∀ ref l host, (ref, .ready l host) ∈ s'.deliveries →
      s'.side.pools.isOpen l = true ∨ lost' ref l) : Ownership lost' others' s' where
  source := hsource.trans h.source
  once l := Nat.add_assoc _ _ _ ▸ hsettled.once l
  unowned l hpos := hsettled.unowned l (Nat.add_assoc _ _ _ ▸ hpos)
  owned ref l hl := by
    have hl' : s.link? ref = some l := link?_congr (hrouters ref) ▸ hl
    rw [howned ref l hl']
    exact h.owned ref l hl'
  live ref l ha := by
    have ha' : s.awaits ref l = true := awaits_congr (hrouters ref) l ▸ ha
    rcases hlive ref l ha' with hsame | hears
    · rw [hsame]
      refine (h.live ref l ha').imp_right (Or.imp ?_ (hlost ref l))
      intro hears
      unfold Session.hears at hears ⊢
      rw [hnew, List.any_append, hears, Bool.true_or]
    · exact Or.inr (Or.inl hears)
  way := hway
  closes ref e hmem := by
    rw [hnew] at hmem
    rcases List.mem_append.mp hmem with hmem | hmem
    · exact h.closes ref e hmem
    · exact hcloses ref e hmem

/-- A session that has done nothing yet. -/
theorem Settled.fresh {lost : RouterRef → LinkId → Prop} {others : LinkId → Nat}
    {s : Session TcpPools} (h : Settled others s.side.pools) (hsource : s.source = TcpPools.source)
    (hstreams : s.streams = []) (hquiet : s.deliveries = []) : Ownership lost others s := by
  -- A session without streams has no routers, and nothing is on the way to them.
  have hway : ∀ l, s.onWay l = 0 := by
    intro l
    rw [onWay, hquiet]
    rfl
  have hrouter : ∀ ref, s.router? ref = none := by
    intro ref
    unfold Session.router? Session.stream?
    rw [hstreams]
    split
    · rfl
    · rfl
  refine ⟨hsource, fun l => ?_, fun l hpos => h.unowned l ?_, fun ref l hl => ?_, fun ref l ha => ?_,
    fun ref l host hmem => ?_, fun ref e hmem => ?_⟩
  · rw [hway]
    exact h.once l
  · rw [hway] at hpos
    exact hpos
  · rw [link?_of_router?_none (hrouter ref)] at hl
    cases hl
  · rw [awaits_of_link?_none (link?_of_router?_none (hrouter ref))] at ha
    cases ha
  · rw [hquiet] at hmem
    cases hmem
  · rw [hquiet] at hmem
    cases hmem

end Session

/-- A session that is a client's, as it stands on the side of the hosts. Its own copy of what is
shared is as old as its last work. -/
def Client.facing (c : Client) (side : HostSide TcpPools) : Session TcpPools :=
  { c.session with side }

/-- A session that is a client's, with what is shared put in. -/
structure Client.Shows (c : Client) (side : HostSide TcpPools) (s : Session TcpPools) : Prop where
  number : s.number = c.session.number
  source : s.source = c.session.source
  streams : s.streams = c.session.streams
  queue : s.queue = c.session.queue
  side : s.side = side

/-- How often a connection is on its way to a router of a client who is still there. What is on its
way to one who is gone is taken up by nobody. -/
def Client.onWay (c : Client) (link : LinkId) : Nat := if c.isOver then 0 else c.session.onWay link

namespace Traffic

def pools (t : Traffic) : TcpPools := t.server.side.pools

/-- How often a connection is on its way to some router. -/
def onWay (t : Traffic) (link : LinkId) : Nat := (t.clients.map (·.onWay link)).sum

/-- Whether a connection is on its way to a router. -/
def IsOnWay (t : Traffic) (ref : RouterRef) (link : LinkId) : Prop :=
  ∃ c ∈ t.clients, c.isOver = false ∧ ∃ host, (ref, .ready link host) ∈ c.session.deliveries

/-- What holds of the session of a client who is still there. The ways to all others are those to
everybody without its own. -/
structure ClientOwnership (lost : RouterRef → LinkId → Prop) (t : Traffic) (i : Nat) (c : Client) : Prop where
  number : c.session.number = i
  listener : c.listener < t.server.listeners.length
  owned : (c.facing t.server.side).Ownership lost fun l => t.onWay l - c.session.onWay l

/-- What holds of connections at every moment, whoever they are for. -/
structure Ownership (lost : RouterRef → LinkId → Prop) (t : Traffic) : Prop where
  settled : Session.Settled t.onWay t.pools
  clients : ∀ i c, t.clients[i]? = some c → c.isOver = false → t.ClientOwnership lost i c

variable {lost lost' : RouterRef → LinkId → Prop} {t t' : Traffic} {i : Nat} {c : Client}

/-! ## Looking clients up

A client is found by the number of its session. -/

theorem session?_eq (hc : t.clients[i]? = some c) (hover : c.isOver = false)
    (hl : c.listener < t.server.listeners.length) :
    ∃ s, t.session? i = some s ∧ c.Shows t.server.side s := by
  obtain ⟨h, hh⟩ : ∃ h, t.server.listeners[c.listener]? = some h :=
    ⟨_, List.getElem?_eq_getElem hl⟩
  have hs : t.session? i = some { c.session with
      side := t.server.side, stats := h.stats, clock := t.clock, roll := t.roll,
      draining := t.server.draining && h.drainClose, log := [] } := by
    unfold Traffic.session?
    simp [hc, hh, hover]
  exact ⟨_, hs, rfl, rfl, rfl, rfl, rfl⟩

theorem client_of_session? {s : Session TcpPools} (h : t.session? i = some s) :
    ∃ c, t.clients[i]? = some c ∧ c.isOver = false ∧ c.Shows t.server.side s ∧
      c.listener < t.server.listeners.length := by
  unfold Traffic.session? at h
  cases hc : t.clients[i]? with
  | none => simp [hc] at h
  | some c =>
    cases hh : t.server.listeners[c.listener]? with
    | none => simp [hc, hh] at h
    | some l =>
      cases ho : c.isOver with
      | true => simp [hc, hh, ho] at h
      | false =>
        simp [hc, hh, ho] at h
        subst h
        exact ⟨c, rfl, ho, ⟨rfl, rfl, rfl, rfl, rfl⟩, (List.getElem?_eq_some_iff.mp hh).1⟩

/-- The router of a client who is still there is told what concerns it. -/
theorem ClientOwnership.alive {ref : RouterRef} (h : t.ClientOwnership lost i c) (hc : t.clients[i]? = some c)
    (hover : c.isOver = false) (hr : (c.session.router? ref).isSome) : t.alive ref = true := by
  obtain ⟨s, hs, hshows⟩ := session?_eq hc hover h.listener
  obtain ⟨r, hr⟩ := Option.isSome_iff_exists.mp hr
  have hn : ref.session = i := (Session.session_of_router? hr).trans h.number
  unfold Traffic.alive
  rw [hn, hs, Option.any_some, Session.router?_congr hshows.streams hshows.number, hr]
  rfl

theorem onWay_le (hc : t.clients[i]? = some c) (hover : c.isOver = false) (l : LinkId) :
    c.session.onWay l ≤ t.onWay l := by
  have hle := TcpPools.le_sum_map (fun c : Client => c.onWay l) hc
  unfold Client.onWay at hle
  rwa [hover] at hle

theorem ClientOwnership.shown {s : Session TcpPools} (h : t.ClientOwnership lost i c)
    (hs : c.Shows t.server.side s) : s.Ownership lost fun l => t.onWay l - c.session.onWay l := by
  have hgained : Session.NothingGained { stream := 0 } (c.facing t.server.side) s := by
    refine Session.NothingGained.of_routers _ hs.number hs.source ?_ ?_
    · unfold Session.deliveries
      rw [hs.queue]
      rfl
    · exact fun other => Session.router?_congr hs.streams hs.number other
  refine (h.owned.kept hgained (Session.keeps_of_eq ?_)).1
  rw [hs.side]
  rfl

/-- Nothing happens to the routers of a client, who is perhaps told something. -/
theorem ClientOwnership.besides {c' : Client} (h : t.ClientOwnership lost i c)
    (new : List (RouterRef × Delivery))
    (hc' : t'.clients[i]? = some c') (hover' : c'.isOver = false)
    (hnumber : c'.session.number = c.session.number) (hsource : c'.session.source = c.session.source)
    (hstreams : c'.session.streams = c.session.streams) (hlistener : c'.listener = c.listener)
    (hlength : t'.server.listeners.length = t.server.listeners.length)
    (hnew : c'.session.deliveries = c.session.deliveries ++ new)
    (hcloses : ∀ ref e, (ref, .event e) ∈ new → e.isClose = true)
    (hsettled : Session.Settled t'.onWay t'.pools)
    (howned : ∀ ref l, c.session.link? ref = some l → t'.pools.owner? l = t.pools.owner? l)
    (hlive : ∀ ref l, c.session.awaits ref l = true →
      t'.pools.isOpen l = t.pools.isOpen l ∨ c'.session.hears ref = true)
    (hlost : ∀ ref l, lost ref l → lost' ref l)
    (hway : ∀ ref l, t'.IsOnWay ref l → t'.pools.isOpen l = true ∨ lost' ref l) :
    t'.ClientOwnership lost' i c' where
  number := hnumber.trans h.number
  listener := by
    rw [hlistener, hlength]
    exact h.listener
  owned := by
    have hrouters : ∀ ref, (c'.facing t'.server.side).router? ref =
        (c.facing t.server.side).router? ref :=
      fun ref => Session.router?_congr hstreams hnumber ref
    refine h.owned.besides hsource hrouters hnew hcloses ?_ howned hlive hlost ?_
    · have htotal : (fun l => (c'.facing t'.server.side).onWay l +
          (t'.onWay l - c'.session.onWay l)) = t'.onWay := by
        funext l
        have hle := onWay_le hc' hover' l
        show c'.session.onWay l + _ = _
        omega
      rw [htotal]
      exact hsettled
    · intro ref l host hmem
      exact hway ref l ⟨c', List.mem_of_getElem? hc', hover', host, hmem⟩

/-! ## Pools that change

Pools may change while no session is at work; then the connections on the way to sessions are all
that has to be kept. -/

theorem Settled.of_keeps {others : LinkId → Nat} {p p' : TcpPools} (h : Session.Settled others p)
    (hp : p.Keeps p') : Session.Settled others p' where
  once l := by
    rw [hp.idle]
    exact h.once l
  unowned l hpos := by
    rw [hp.idle] at hpos
    rw [hp.owner]
    exact h.unowned l hpos

theorem Settled.of_closesOne {others : LinkId → Nat} {p p' : TcpPools} {link : LinkId}
    (h : Session.Settled others p) (hp : p.ClosesOne link p') : Session.Settled others p' := by
  have hle : ∀ l, p'.idleCount l ≤ p.idleCount l := by
    intro l
    by_cases hl : l = link
    · exact hl ▸ hp.idle
    · exact Nat.le_of_eq (hp.idles l hl)
  refine ⟨fun l => ?_, fun l hpos => ?_⟩
  · have honce := h.once l
    have hl := hle l
    omega
  · have hl := hle l
    rw [hp.owner]
    exact h.unowned l (by omega)

/-- A connection comes up, and lies idle or is on its way. -/
theorem Settled.of_addsFree {others others' : LinkId → Nat} {p p' : TcpPools} {link : LinkId}
    (h : Session.Settled others p) (hp : p.AddsFree link p')
    (hothers : ∀ l, l ≠ link → others' l = others l)
    (hone : p'.idleCount link + others' link ≤ p.idleCount link + others link + 1) :
    Session.Settled others' p' := by
  have hzero : p.idleCount link + others link = 0 := by
    by_cases hpos : 0 < p.idleCount link + others link
    · have ho := h.unowned link hpos
      rw [hp.fresh] at ho
      cases ho
    · omega
  refine ⟨fun l => ?_, fun l hpos => ?_⟩
  · by_cases hl : l = link
    · subst hl
      omega
    · rw [hp.idles l hl, hothers l hl]
      exact h.once l
  · by_cases hl : l = link
    · subst hl
      exact hp.owner
    · rw [hp.idles l hl, hothers l hl] at hpos
      rw [hp.owners l hl]
      exact h.unowned l hpos

/-! ## Putting a session back

A session is taken out, works with what is shared, and is put back. -/

theorem put_client (hc : t.clients[i]? = some c) (s : Session TcpPools) (isOver : Bool) :
    (t.put i s isOver).clients[i]? = some { c with session := s, isOver } := by
  show (t.clients.modify i _)[i]? = _
  rw [List.getElem?_modify_eq, hc]
  rfl

theorem put_clients {j : Nat} (hj : j ≠ i) (s : Session TcpPools) (isOver : Bool) :
    (t.put i s isOver).clients[j]? = t.clients[j]? := by
  show (t.clients.modify i _)[j]? = _
  rw [List.getElem?_modify_ne _ _ (Ne.symm hj)]

theorem put_onWay (hc : t.clients[i]? = some c) (hover : c.isOver = false) (s : Session TcpPools)
    (isOver : Bool) (l : LinkId) :
    (t.put i s isOver).onWay l =
      (t.onWay l - c.session.onWay l) + if isOver then 0 else s.onWay l := by
  have hsum := TcpPools.sum_map_modify (fun c : Client => c.onWay l)
    (fun c => { c with session := s, isOver }) hc
  have hle := onWay_le hc hover l
  have hown : c.onWay l = c.session.onWay l := by rw [Client.onWay, hover]; rfl
  have hnew : Client.onWay { c with session := s, isOver } l = if isOver then 0 else s.onWay l := rfl
  have hput : (t.put i s isOver).onWay l =
      ((t.clients.modify i fun c => { c with session := s, isOver }).map (·.onWay l)).sum := rfl
  rw [hown, hnew] at hsum
  rw [hput]
  show _ = (t.clients.map _).sum - _ + _
  change _ ≤ (t.clients.map _).sum at hle
  omega

theorem put_listeners (s : Session TcpPools) (isOver : Bool) :
    (t.put i s isOver).server.listeners.length = t.server.listeners.length := by
  show (List.modify _ _ _).length = _
  rw [List.length_modify]

/-! ## A client is woken

The one event in which routers do something. -/

theorem Ownership.woken (h : t.Ownership lost) (w : Wake) (canSend : Bool)
    (hlost : ∀ ref l, lost ref l → lost' ref l)
    (hway : ∀ ref l, (t.wake i w canSend).2.IsOnWay ref l →
      (t.wake i w canSend).2.pools.isOpen l = true ∨ lost' ref l) :
    (t.wake i w canSend).2.Ownership lost' ∧ t.pools.NoneRevived (t.wake i w canSend).2.pools := by
  unfold Traffic.wake at hway ⊢
  cases hs : t.session? i with
  | none =>
    rw [hs] at hway
    refine ⟨⟨h.settled, fun j c hc hover => ?_⟩, TcpPools.NoneRevived.refl _⟩
    exact (h.clients j c hc hover).besides [] hc hover rfl rfl rfl rfl rfl
      (List.append_nil _).symm (fun _ _ hmem => nomatch hmem) h.settled (fun _ _ _ => rfl)
      (fun _ _ _ => Or.inl rfl) hlost hway
  | some s =>
    rw [hs] at hway
    dsimp only at hway ⊢
    obtain ⟨c, hc, hover, hshows, -⟩ := client_of_session? hs
    have hk := h.clients i c hc hover
    obtain ⟨hgo, hsettled, hspares⟩ := (hk.shown hshows).turned canSend w
    generalize s.turn canSend w = turn at hway hgo hsettled hspares
    have hpools : s.side.pools = t.pools := by rw [hshows.side]; rfl
    have hall : Session.Settled (t.put i turn.session turn.isLast).onWay turn.session.side.pools := by
      cases hlast : turn.isLast with
      | true =>
        have hon : (t.put i turn.session true).onWay = fun l => t.onWay l - c.session.onWay l := by
          funext l
          rw [put_onWay hc hover]
          rfl
        rw [hon]
        exact hsettled
      | false =>
        have hcust := hgo hlast
        refine ⟨fun l => ?_, fun l hpos => hcust.unowned l ?_⟩
        · rw [put_onWay hc hover]
          have honce := hcust.once l
          simp only [Bool.false_eq_true, if_false]
          omega
        · rw [put_onWay hc hover] at hpos
          simp only [Bool.false_eq_true, if_false] at hpos
          omega
    refine ⟨⟨hall, fun j c' hc' hover' => ?_⟩, hpools ▸ hspares.noneRevived⟩
    by_cases hj : j = i
    · subst hj
      obtain rfl := Option.some.inj ((put_client hc _ _).symm.trans hc')
      have hlast : turn.isLast = false := hover'
      refine ⟨hspares.number.trans (hshows.number.trans hk.number), ?_, ?_⟩
      · rw [put_listeners]
        exact hk.listener
      · have hothers : (fun l => (t.put j turn.session turn.isLast).onWay l - turn.session.onWay l) =
            fun l => t.onWay l - c.session.onWay l := by
          funext l
          rw [put_onWay hc hover, hlast]
          simp only [Bool.false_eq_true, if_false]
          omega
        show (Session.Ownership lost' _ _)
        rw [hothers]
        exact (hgo hlast).mono hlost
    · rw [put_clients hj] at hc'
      have hk' := h.clients j c' hc' hover'
      -- What this client's routers hold belongs to another session than the one that was woken.
      have hforeign : ∀ ref l, c'.session.link? ref = some l →
          turn.session.side.pools.owner? l = t.pools.owner? l ∧
            turn.session.side.pools.isOpen l = t.pools.isOpen l := by
        intro ref l hl
        have ho : t.pools.owner? l = some (some ref) := hk'.owned.owned ref l hl
        have hn : ref.session = j := (Session.session_of_link? hl).trans hk'.number
        rw [← hpools]
        refine hspares.spares l (Or.inr ⟨ref, ?_, hpools ▸ ho⟩)
        rw [hn, hshows.number, hk.number]
        exact hj
      exact hk'.besides [] ((put_clients hj _ _).trans hc') hover' rfl rfl rfl rfl
        (put_listeners _ _) (List.append_nil _).symm (fun _ _ hmem => nomatch hmem) hall
        (fun ref l hl => (hforeign ref l hl).1)
        (fun ref l ha => Or.inl (hforeign ref l (Session.link?_of_awaits ha)).2) hlost hway

/-! ## A client connects

A new session has no routers, and nothing is on the way to it. -/

theorem Ownership.accepted (h : t.Ownership lost) (listener : Nat)
    (hlost : ∀ ref l, lost ref l → lost' ref l)
    (hway : ∀ ref l, (t.accept listener).IsOnWay ref l →
      (t.accept listener).pools.isOpen l = true ∨ lost' ref l) :
    (t.accept listener).Ownership lost' ∧ t.pools.NoneRevived (t.accept listener).pools := by
  have hstay : (∀ ref l, t.IsOnWay ref l → t.pools.isOpen l = true ∨ lost' ref l) →
      t.Ownership lost' ∧ t.pools.NoneRevived t.pools := by
    intro hway
    refine ⟨⟨h.settled, fun j c hc hover => ?_⟩, TcpPools.NoneRevived.refl _⟩
    exact (h.clients j c hc hover).besides [] hc hover rfl rfl rfl rfl rfl
      (List.append_nil _).symm (fun _ _ hmem => nomatch hmem) h.settled (fun _ _ _ => rfl)
      (fun _ _ _ => Or.inl rfl) hlost hway
  unfold Traffic.accept at hway ⊢
  cases hh : t.server.listeners[listener]? with
  | none =>
    rw [hh] at hway
    exact hstay hway
  | some handle =>
    rw [hh] at hway
    dsimp only at hway ⊢
    split at hway
    · next hd =>
      rw [if_pos hd]
      exact hstay hway
    · next hd =>
      rw [if_neg hd]
      generalize hs : Session.opened t.clients.length handle.plan t.server.flags TcpPools.source
        t.server.side handle.stats t.clock = s at hway ⊢
      generalize ht' : ({ t with
        server := setStats t.server listener s.stats
        clients := t.clients ++ [{ listener, session := s }] } : Traffic) = t' at hway ⊢
      have hquiet : s.deliveries = [] := by rw [← hs]; rfl
      have hclients : t'.clients = t.clients ++ [{ listener, session := s }] := by rw [← ht']
      have hpools : t'.pools = t.pools := by rw [← ht']; rfl
      have hlength : t'.server.listeners.length = t.server.listeners.length := by
        rw [← ht']
        exact List.length_modify _ _ _
      have honWay : t'.onWay = t.onWay := by
        funext l
        unfold Traffic.onWay
        rw [hclients, List.map_append, List.sum_append]
        simp [Client.onWay, Session.onWay, hquiet]
      have hall : Session.Settled t'.onWay t'.pools := by
        rw [honWay, hpools]
        exact h.settled
      refine ⟨⟨hall, fun j c hc hover => ?_⟩, hpools ▸ TcpPools.NoneRevived.refl _⟩
      rw [hclients] at hc
      -- Those who were there are as they were, and the new session has done nothing yet.
      by_cases hj : j < t.clients.length
      · rw [List.getElem?_append_left hj] at hc
        refine (h.clients j c hc hover).besides [] ?_ hover rfl rfl rfl rfl hlength
          (List.append_nil _).symm (fun _ _ hmem => nomatch hmem) hall (fun _ _ _ => by rw [hpools])
          (fun _ _ _ => Or.inl (by rw [hpools])) hlost hway
        rw [hclients, List.getElem?_append_left hj, hc]
      · obtain ⟨hlast, rfl⟩ : j = t.clients.length ∧ ({ listener, session := s } : Client) = c := by
          rw [List.getElem?_append_right (by omega), List.getElem?_singleton] at hc
          split at hc
          · next hzero => exact ⟨by omega, Option.some.inj hc⟩
          · cases hc
        refine ⟨by rw [hlast, ← hs]; rfl, ?_, ?_⟩
        · rw [hlength]
          exact (List.getElem?_eq_some_iff.mp hh).1
        · have hothers : (fun l => t'.onWay l - s.onWay l) = t.onWay := by
            funext l
            rw [honWay, Session.onWay, hquiet]
            rfl
          have hsource : s.source = TcpPools.source := by rw [← hs]; rfl
          have hstreams : s.streams = [] := by rw [← hs]; rfl
          show Session.Ownership lost' (fun l => t'.onWay l - s.onWay l) _
          rw [hothers]
          exact Session.Settled.fresh (honWay ▸ hall) hsource hstreams hquiet

/-! ## A socket does something

A connection is made, brings octets or closes. What is to be told goes to the session that the
router belongs to, if that session is still there. -/

theorem take_pools (o : TcpPools.Outcome) : (t.take o).pools = o.pools := by
  unfold Traffic.take
  dsimp only
  generalize hside : o.events.foldl HostSide.count { t.server.side with pools := o.pools } = side
  have hpools : side.pools = o.pools := by rw [← hside, HostSide.foldl_count_pools]
  cases o.told with
  | none => exact hpools
  | some x =>
    obtain ⟨ref, d⟩ := x
    dsimp only
    cases hs : Traffic.session? { t with server := { t.server with side } } ref.session with
    | none => exact hpools
    | some s =>
      obtain ⟨c, -, -, hshows, -⟩ := client_of_session? hs
      show (s.step (.deliver ref d)).side.pools = _
      rw [show (s.step (.deliver ref d)).side = side from hshows.side, hpools]

/-- How often a connection is brought by what a router is told. -/
def brought (o : TcpPools.Outcome) (link : LinkId) : Nat :=
  (o.told.map fun x => (x.2.brings link).toNat).getD 0

/-- What follows from what a socket did: the pools have changed, and perhaps one router is told.
Everything else about the clients is the same, so nothing more has to be known of the socket. -/
theorem take_cases (o : TcpPools.Outcome) (halive : ∀ ref d, o.told = some (ref, d) → t.alive ref = true) :
    (t.take o).server.listeners.length = t.server.listeners.length ∧
    (∀ l, (t.take o).onWay l = t.onWay l + brought o l) ∧
    ∀ i c', (t.take o).clients[i]? = some c' → c'.isOver = false →
      ∃ c, t.clients[i]? = some c ∧ c.isOver = false ∧ c'.listener = c.listener ∧
        c'.session.number = c.session.number ∧ c'.session.source = c.session.source ∧
        c'.session.streams = c.session.streams ∧
        ∃ new, c'.session.deliveries = c.session.deliveries ++ new ∧
          (∀ x ∈ new, o.told = some x) ∧ ∀ x, o.told = some x → x.1.session = i → new = [x] := by
  unfold Traffic.take brought
  cases htold : o.told with
  | none =>
    refine ⟨rfl, fun l => rfl, fun i c hc hover => ?_⟩
    exact ⟨c, hc, hover, rfl, rfl, rfl, rfl, [], (List.append_nil _).symm, fun _ h => (nomatch h),
      fun _ h => nomatch h⟩
  | some x =>
    obtain ⟨ref, d⟩ := x
    have ha := halive ref d htold
    unfold Traffic.alive at ha
    obtain ⟨s₀, hs₀, -⟩ := (Option.any_eq_true _ _).mp ha
    obtain ⟨c, hc, hover, -, hlistener⟩ := client_of_session? hs₀
    dsimp only
    generalize hside : o.events.foldl HostSide.count { t.server.side with pools := o.pools } = side
    obtain ⟨s, hs, hshows⟩ : ∃ s, Traffic.session? { t with server := { t.server with side } }
        ref.session = some s ∧ c.Shows side s :=
      session?_eq (t := { t with server := { t.server with side } }) hc hover hlistener
    rw [hs]
    dsimp only
    -- The router is told by a task that is put behind all others of its session.
    have hposted : (s.step (.deliver ref d)).deliveries = c.session.deliveries ++ [(ref, d)] := by
      show (s.queue.posted ++ [Task.router ref (.deliver d)]).filterMap Task.delivery? = _
      rw [List.filterMap_append, hshows.queue]
      rfl
    refine ⟨put_listeners _ _, fun l => ?_, fun i c' hc' hover' => ?_⟩
    · rw [put_onWay (t := { t with server := { t.server with side } }) hc hover]
      have hle := onWay_le hc hover l
      have hnew : (s.step (.deliver ref d)).onWay l = c.session.onWay l + (d.brings l).toNat := by
        unfold Session.onWay
        rw [hposted, List.countP_append]
        cases hb : d.brings l with
        | true => simp [hb]
        | false => simp [hb]
      have hsame : Traffic.onWay { t with server := { t.server with side } } l = t.onWay l := rfl
      rw [hnew, hsame]
      simp only [Bool.false_eq_true, if_false, Option.map_some, Option.getD_some]
      omega
    -- One client has something new to take up, and the others have nothing.
    · by_cases hi : i = ref.session
      · subst hi
        rw [put_client (t := { t with server := { t.server with side } }) hc] at hc'
        obtain rfl := Option.some.inj hc'
        refine ⟨c, hc, hover, rfl, hshows.number, hshows.source, hshows.streams, [(ref, d)], hposted,
          fun x hx => ?_, fun x hx _ => ?_⟩
        · rw [List.mem_singleton.mp hx]
        · rw [Option.some.inj hx]
      · rw [put_clients hi] at hc'
        refine ⟨c', hc', hover', rfl, rfl, rfl, rfl, [], (List.append_nil _).symm,
          fun _ h => (nomatch h), fun x hx hxi => ?_⟩
        rw [← Option.some.inj hx] at hxi
        exact absurd hxi.symm hi

/-- A router that is there is the one that its client's session has. -/
theorem Ownership.took (h : t.Ownership lost) (o : TcpPools.Outcome)
    (halive : ∀ ref d, o.told = some (ref, d) → t.alive ref = true)
    (hsettled : Session.Settled (fun l => t.onWay l + brought o l) o.pools)
    (howned : ∀ (i : Nat) (c : Client) ref l, t.clients[i]? = some c → c.isOver = false →
      c.session.link? ref = some l → o.pools.owner? l = t.pools.owner? l)
    (hlive : ∀ (i : Nat) (c : Client) ref l, t.clients[i]? = some c → c.isOver = false →
      c.session.link? ref = some l → o.pools.isOpen l = t.pools.isOpen l ∨ ∃ e, o.told = some (ref, .event e))
    (hcloses : ∀ ref e, o.told = some (ref, .event e) → e.isClose = true)
    (hlost : ∀ ref l, lost ref l → lost' ref l)
    (hway : ∀ ref l, (t.take o).IsOnWay ref l → (t.take o).pools.isOpen l = true ∨ lost' ref l) :
    (t.take o).Ownership lost' := by
  obtain ⟨hlength, honWay, hclients⟩ := take_cases o halive
  have hpools := take_pools (t := t) o
  -- What the pools tell is on its way now, and nothing else changed.
  have hall : Session.Settled (t.take o).onWay (t.take o).pools := by
    rw [hpools, funext honWay]
    exact hsettled
  refine ⟨hall, fun i c' hc' hover' => ?_⟩
  obtain ⟨c, hc, hover, hlistener, hnumber, hsource, hstreams, new, hnew, hmem, hnews⟩ :=
    hclients i c' hc' hover'
  have hk := h.clients i c hc hover
  refine hk.besides new hc' hover' hnumber hsource hstreams hlistener hlength hnew ?_ hall ?_ ?_ hlost
    hway
  · exact fun ref e hx => hcloses ref e (hmem _ hx)
  · intro ref l hl
    rw [hpools]
    exact howned i c ref l hc hover hl
  · intro ref l ha
    rw [hpools]
    have hl := Session.link?_of_awaits ha
    refine (hlive i c ref l hc hover hl).imp_right ?_
    rintro ⟨e, he⟩
    -- The call stands in the session that is told, so that its task is there.
    have hn : ref.session = i := (Session.session_of_link? hl).trans hk.number
    unfold Session.hears
    rw [hnew, hnews _ he hn]
    simp

/-- Whoever holds a connection is there to be told. -/
theorem Ownership.holder {ref : RouterRef} {l : LinkId} (h : t.Ownership lost)
    (hc : t.clients[i]? = some c) (hover : c.isOver = false) (hl : c.session.link? ref = some l) :
    t.pools.owner? l = some (some ref) ∧ t.alive ref = true := by
  have hk := h.clients i c hc hover
  obtain ⟨r, e, hr, -, -⟩ := Session.link?_eq_some_iff.mp hl
  exact ⟨hk.owned.owned ref l hl, hk.alive hc hover (by rw [hr]; rfl)⟩

theorem Ownership.connected (h : t.Ownership lost) (handle : HandleId) (result : ConnectResult)
    (hlost : ∀ ref l, lost ref l → lost' ref l)
    (hway : ∀ ref l, (t.take (t.pools.onConnected t.alive handle result)).IsOnWay ref l →
      (t.take (t.pools.onConnected t.alive handle result)).pools.isOpen l = true ∨ lost' ref l) :
    (t.take (t.pools.onConnected t.alive handle result)).Ownership lost' ∧
      t.pools.NoneRevived (t.pools.onConnected t.alive handle result).pools := by
  obtain ⟨hkeeps, htold⟩ | ⟨link, hadds, hrest⟩ :=
    TcpPools.onConnected_cases t.alive handle result t.pools
  · generalize t.pools.onConnected t.alive handle result = o at *
    refine ⟨h.took o (fun ref d hd => (htold ref d hd).1) ?_ (fun _ _ _ l _ _ _ => hkeeps.owner l)
      (fun _ _ _ l _ _ _ => Or.inl (hkeeps.state l)) ?_ hlost hway, hkeeps.noneRevived⟩
    · have hnothing : ∀ l, brought o l = 0 := by
        intro l
        unfold brought
        cases ho : o.told with
        | none => rfl
        | some x =>
          obtain ⟨-, reason, host, hd⟩ := htold x.1 x.2 ho
          simp [hd, Delivery.brings]
      simp only [hnothing, Nat.add_zero]
      exact Settled.of_keeps h.settled hkeeps
    · intro ref e he
      obtain ⟨-, reason, host, hd⟩ := htold ref _ he
      cases hd
  · generalize t.pools.onConnected t.alive handle result = o at *
    -- Nobody can hold a connection that has only just come up.
    have hne : ∀ (i : Nat) (c : Client) ref l, t.clients[i]? = some c → c.isOver = false →
        c.session.link? ref = some l → l ≠ link := by
      rintro i c ref l hc hover hl rfl
      have ho := (h.holder hc hover hl).1
      rw [hadds.fresh] at ho
      cases ho
    refine ⟨h.took o ?_ ?_ (fun i c ref l hc hover hl => hadds.owners l (hne i c ref l hc hover hl))
      (fun i c ref l hc hover hl => Or.inl (hadds.states l (hne i c ref l hc hover hl))) ?_ hlost hway,
      hadds.noneRevived⟩
    · intro ref d hd
      rcases hrest with hnone | ⟨r, host, ha, -, -, htold⟩
      · rw [hnone] at hd
        cases hd
      · rw [htold] at hd
        cases hd
        exact ha
    · rcases hrest with hnone | ⟨r, host, -, hidle, -, htold⟩
      · have hnothing : ∀ l, brought o l = 0 := fun l => by rw [brought, hnone]; rfl
        simp only [hnothing, Nat.add_zero]
        refine Settled.of_addsFree h.settled hadds (fun _ _ => rfl) ?_
        have hle := hadds.idle
        omega
      · have hbrought : ∀ l, brought o l = (link == l).toNat := fun l => by rw [brought, htold]; rfl
        refine Settled.of_addsFree h.settled hadds (fun l hl => ?_) ?_
        · have hb : (link == l) = false := by simpa using Ne.symm hl
          rw [hbrought, hb]
          rfl
        · rw [hbrought, hidle]
          simp
          omega
    · intro ref e he
      rcases hrest with hnone | ⟨r, host, -, -, -, htold⟩
      · rw [hnone] at he
        cases he
      · rw [htold] at he
        cases he

/-- Something happens on a connection that is closed already, and comes to nothing. -/
theorem Ownership.unmoved (h : t.Ownership lost) (hlost : ∀ ref l, lost ref l → lost' ref l)
    (hway : ∀ ref l, (t.take { pools := t.pools }).IsOnWay ref l →
      (t.take { pools := t.pools }).pools.isOpen l = true ∨ lost' ref l) :
    (t.take { pools := t.pools }).Ownership lost' :=
  h.took { pools := t.pools } (fun _ _ hd => nomatch hd) h.settled (fun _ _ _ _ _ _ _ => rfl)
    (fun _ _ _ _ _ _ _ => Or.inl rfl) (fun _ _ hd => nomatch hd) hlost hway

/-- A connection goes down that belongs to nobody who is there, so nobody misses it. Whoever it is
on its way to will find it closed, and that is a loss. -/
theorem Ownership.cut {link : LinkId} {p' : TcpPools} (h : t.Ownership lost)
    (hcloses : TcpPools.ClosesOne link t.pools p')
    (hnobody : ∀ ref, t.pools.owner? link = some (some ref) → t.alive ref = false)
    (hlost : ∀ ref l, lost ref l → lost' ref l)
    (hway : ∀ ref l, (t.take { pools := p' }).IsOnWay ref l →
      (t.take { pools := p' }).pools.isOpen l = true ∨ lost' ref l) :
    (t.take { pools := p' }).Ownership lost' := by
  refine h.took { pools := p' } (fun _ _ hd => nomatch hd) (Settled.of_closesOne h.settled hcloses)
    (fun _ _ _ l _ _ _ => hcloses.owner l) (fun i c ref l hc hover hl => Or.inl (hcloses.states l ?_))
    (fun _ _ hd => nomatch hd) hlost hway
  rintro rfl
  obtain ⟨howner, ha⟩ := h.holder hc hover hl
  rw [hnobody ref howner] at ha
  cases ha

theorem Ownership.hostData (h : t.Ownership lost) (link : LinkId) (octets : Bytes)
    (hlost : ∀ ref l, lost ref l → lost' ref l)
    (hway : ∀ ref l, (t.take (t.pools.onData t.alive link octets)).IsOnWay ref l →
      (t.take (t.pools.onData t.alive link octets)).pools.isOpen l = true ∨ lost' ref l) :
    (t.take (t.pools.onData t.alive link octets)).Ownership lost' ∧
      t.pools.NoneRevived (t.pools.onData t.alive link octets).pools := by
  obtain ⟨-, ho⟩ | ⟨-, ref, -, ha, ho⟩ | ⟨-, hnobody, p', hcloses, ho⟩ :=
    TcpPools.onData_cases t.alive link octets t.pools
  · rw [ho] at hway ⊢
    exact ⟨h.unmoved hlost hway, TcpPools.NoneRevived.refl _⟩
  · rw [ho] at hway ⊢
    refine ⟨h.took _ (fun r d hd => ?_) ?_ (fun _ _ _ _ _ _ _ => rfl)
      (fun _ _ _ _ _ _ _ => Or.inl rfl) (fun _ _ hd => nomatch hd) hlost hway, TcpPools.NoneRevived.refl _⟩
    · cases hd
      exact ha
    · exact h.settled
  · rw [ho] at hway ⊢
    exact ⟨h.cut hcloses hnobody hlost hway, hcloses.noneRevived⟩

theorem Ownership.hostClosed (h : t.Ownership lost) (link : LinkId) (event : ConnectionEvent)
    (hevent : event.isClose = true) (hlost : ∀ ref l, lost ref l → lost' ref l)
    (hway : ∀ ref l, (t.take (t.pools.onClosed t.alive link event)).IsOnWay ref l →
      (t.take (t.pools.onClosed t.alive link event)).pools.isOpen l = true ∨ lost' ref l) :
    (t.take (t.pools.onClosed t.alive link event)).Ownership lost' ∧
      t.pools.NoneRevived (t.pools.onClosed t.alive link event).pools := by
  obtain ⟨-, ho⟩ | ⟨-, p', hcloses, ⟨ref, howner, ha, ho⟩ | ⟨hnobody, ho⟩⟩ :=
    TcpPools.onClosed_cases t.alive link event t.pools
  · rw [ho] at hway ⊢
    exact ⟨h.unmoved hlost hway, TcpPools.NoneRevived.refl _⟩
  · rw [ho] at hway ⊢
    refine ⟨h.took _ (fun r d hd => ?_) ?_ (fun _ _ _ l _ _ _ => hcloses.owner l) ?_
      (fun r e hd => ?_) hlost hway, hcloses.noneRevived⟩
    · cases hd
      exact ha
    · exact Settled.of_closesOne h.settled hcloses
    · -- Whoever holds the connection is told of its end; other connections stay as they are.
      intro i c r l hc hover hl
      by_cases hlink : l = link
      · subst hlink
        have howner' := (h.holder hc hover hl).1
        obtain rfl : ref = r := by simpa [howner] using howner'
        exact Or.inr ⟨event, rfl⟩
      · exact Or.inl (hcloses.states l hlink)
    · cases hd
      exact hevent
  · rw [ho] at hway ⊢
    exact ⟨h.cut hcloses hnobody hlost hway, hcloses.noneRevived⟩

/-! ## Everything that happens

One case for each happening. -/

/-- Nothing has happened to clients or pools. -/
theorem Ownership.same (h : t.Ownership lost) (hclients : t'.clients = t.clients)
    (hpools : t'.pools = t.pools)
    (hlength : t'.server.listeners.length = t.server.listeners.length)
    (hlost : ∀ ref l, lost ref l → lost' ref l)
    (hway : ∀ ref l, t'.IsOnWay ref l → t'.pools.isOpen l = true ∨ lost' ref l) :
    t'.Ownership lost' ∧ t.pools.NoneRevived t'.pools := by
  have hall : Session.Settled t'.onWay t'.pools := by
    unfold Traffic.onWay
    rw [hclients, hpools]
    exact h.settled
  refine ⟨⟨hall, fun i c hc hover => ?_⟩, hpools ▸ TcpPools.NoneRevived.refl _⟩
  exact (h.clients i c (hclients ▸ hc) hover).besides [] hc hover rfl rfl rfl rfl hlength
    (List.append_nil _).symm (fun _ _ hmem => nomatch hmem) hall (fun _ _ _ => by rw [hpools])
    (fun _ _ _ => Or.inl (by rw [hpools])) hlost hway

theorem apply_side (s : Server) (faults : FileFaults) (u : Config.Update) :
    (s.apply faults u).side.pools = s.side.pools ∧
      (s.apply faults u).listeners.length = s.listeners.length := by
  unfold Server.apply
  split
  · exact ⟨rfl, rfl⟩
  · exact ⟨rfl, List.length_map _⟩

end Traffic

/-- Whether something that happens is no end of a connection, or a proper one. -/
def Happening.endsWell : Happening → Bool
  | .hostClosed _ event => event.isClose
  | _ => true

namespace Traffic

variable {lost lost' : RouterRef → LinkId → Prop} {t : Traffic}

theorem Ownership.step (h : t.Ownership lost) (faults : FileFaults) (e : Happening)
    (he : e.endsWell = true) (hlost : ∀ ref l, lost ref l → lost' ref l)
    (hway : ∀ ref l, (t.step faults e).2.IsOnWay ref l →
      (t.step faults e).2.pools.isOpen l = true ∨ lost' ref l) :
    (t.step faults e).2.Ownership lost' ∧ t.pools.NoneRevived (t.step faults e).2.pools := by
  cases e with
  | accepted listener => exact h.accepted listener hlost hway
  | woken client w canSend => exact h.woken w canSend hlost hway
  | connected handle result =>
    obtain ⟨howned', hclosed⟩ := h.connected handle result hlost hway
    exact ⟨howned', by rw [← take_pools] at hclosed; exact hclosed⟩
  | hostData link octets =>
    obtain ⟨howned', hclosed⟩ := h.hostData link octets hlost hway
    exact ⟨howned', by rw [← take_pools] at hclosed; exact hclosed⟩
  | hostClosed link event =>
    obtain ⟨howned', hclosed⟩ := h.hostClosed link event he hlost hway
    exact ⟨howned', by rw [← take_pools] at hclosed; exact hclosed⟩
  | update u =>
    obtain ⟨hpools, hlength⟩ := apply_side t.server faults u
    exact h.same rfl hpools hlength hlost hway
  | drain => exact h.same rfl rfl rfl hlost hway
  | advance nanos => exact h.same rfl rfl rfl hlost hway

end Traffic

end RpcProxy

import RpcProxy.Proofs.Exchange.Calls
import RpcProxy.Proofs.Pool.Answers

/-!
# What is written on connections, and how calls are numbered

A connection is known by two more things than who has it: the number that its next call gets
(`number`), and everything that was sent on it (`sends`). Almost nothing that happens to pools
touches either (`Quiet`). A call that begins takes the number of its connection, and what is written
is sent as long as the connection is open.

What was sent is read off the orders that sockets were given, which are only ever added to. So it
can be spoken of after the connection has ended and its pool is gone.

Seen from one connection, most of what is done to pools is nothing at all, except that the
connection may have been closed or dropped (`AtMostCloses`). All relations between pools come down
to this for the connections that they are not about, so whoever follows one connection needs a
single lemma for the rest.
-/

set_option autoImplicit false

namespace RpcProxy

def SocketOrder.sentOn (link : LinkId) : SocketOrder → Option Bytes
  | .send l octets => if l = link then some octets else none
  | .connect _ _ _ | .close _ _ => none

namespace TcpPools

/-- The number that the next call on a connection gets. A connection without a state has seen no
call. -/
def number (p : TcpPools) (link : LinkId) : Int32 := ((source.state? link p).getD {}).next

/-- What was sent on a connection, in order. -/
def sends (p : TcpPools) (link : LinkId) : List Bytes := p.orders.filterMap (·.sentOn link)

/-- No call has begun, and nothing was sent, on any connection. -/
structure Quiet (p p' : TcpPools) : Prop where
  number : ∀ l, p'.number l = p.number l
  sends : ∀ l, p'.sends l = p.sends l

variable {p p' p₁ p₂ p₃ : TcpPools} {link : LinkId}

theorem Quiet.refl (p : TcpPools) : Quiet p p := ⟨fun _ => rfl, fun _ => rfl⟩

theorem Quiet.trans (h₁ : Quiet p₁ p₂) (h₂ : Quiet p₂ p₃) : Quiet p₁ p₃ where
  number l := (h₂.number l).trans (h₁.number l)
  sends l := (h₂.sends l).trans (h₁.sends l)

theorem Quiet.same (hlinks : p'.links = p.links) (horders : p'.orders = p.orders) : Quiet p p' where
  number l := by
    show (((p'.links[l]?).bind (·.shared)).getD {}).next = _
    rw [hlinks]
    rfl
  sends l := by
    unfold TcpPools.sends
    rw [horders]

theorem state?_modifyLink (p : TcpPools) (link : LinkId) (f : TcpLink → TcpLink) (l : LinkId) :
    source.state? l (p.modifyLink link f) =
      (p.links[l]?).bind fun x => if link = l then (f x).shared else x.shared := by
  show (((p.links.modify link f)[l]?).bind (·.shared)) = _
  rw [List.getElem?_modify]
  cases p.links[l]? with
  | none => rfl
  | some x =>
    by_cases h : link = l
    · simp [h]
    · simp [h]

/-- A connection is changed, but not its state. -/
theorem modifyLink_quiet {f : TcpLink → TcpLink} (hf : ∀ x, (f x).shared = x.shared) (p : TcpPools)
    (link : LinkId) : Quiet p (p.modifyLink link f) where
  number l := by
    unfold TcpPools.number
    rw [state?_modifyLink]
    simp only [hf, ite_self]
    rfl
  sends _ := rfl

/-- An order is given that sends nothing. -/
theorem order_quiet {o : SocketOrder} (ho : ∀ l, o.sentOn l = none) (p : TcpPools) :
    Quiet p (p.order o) where
  number _ := rfl
  sends l := by
    show (p.orders ++ [o]).filterMap _ = _
    rw [List.filterMap_append, List.filterMap_cons_none (ho l)]
    exact List.append_nil _

theorem shut_quiet (p : TcpPools) (link : LinkId) (how : CloseType) : Quiet p (p.shut link how) := by
  have hmarked : Quiet p (p.markClosed link) := by
    refine modifyLink_quiet ?_ p link
    exact fun _ => rfl
  unfold shut
  split
  · exact hmarked.trans (order_quiet (fun _ => rfl) _)
  · exact .refl p

theorem release_quiet (p : TcpPools) (link : LinkId) : Quiet p (p.release link) := by
  have hfree : Quiet p (p.modifyLink link fun l => { l with owner := none }) := by
    refine modifyLink_quiet ?_ p link
    exact fun _ => rfl
  unfold release
  dsimp only
  split
  · exact hfree
  · split
    · exact hfree.trans (shut_quiet _ link .flush)
    · exact hfree.trans (.same rfl rfl)

theorem discard_quiet (p : TcpPools) (i : Nat) : Quiet p (p.discard i) := by
  have hshut : ∀ (links : List LinkId) (q : TcpPools),
      Quiet q (links.foldl (fun p link => p.shut link .flush) q) := by
    intro links
    induction links with
    | nil => exact Quiet.refl
    | cons link rest ih => exact fun q => (shut_quiet q link .flush).trans (ih _)
  unfold discard
  dsimp only
  refine Quiet.trans (Quiet.same ?_ ?_) (hshut _ _)
  · rfl
  · rfl

theorem poolOf_quiet (p : TcpPools) (host : HostRef) (most timeout : Nat) :
    Quiet p (p.poolOf host most timeout).2 := by
  unfold poolOf
  dsimp only
  split
  · exact .same rfl rfl
  · next i _ =>
    split
    · exact .refl p
    · exact (discard_quiet p i).trans (.same rfl rfl)

theorem request_quiet (p : TcpPools) (i : Nat) (router : RouterRef) :
    Quiet p (p.request i router).2.2 := by
  unfold request
  split
  · exact .refl p
  · dsimp only
    split
    · exact .same rfl rfl
    · split
      · exact .same rfl rfl
      · refine Quiet.trans (.same rfl rfl) (Quiet.trans (order_quiet ?_ _) (.same rfl rfl))
        exact fun _ => rfl

theorem ask_quiet (cluster : Config.Cluster) (host : HostRef) (router : RouterRef) (p : TcpPools) :
    Quiet p (ask cluster host router p).2.2 :=
  (poolOf_quiet p host cluster.maxConnections cluster.connectTimeout).trans (request_quiet _ _ router)

theorem detach_quiet (p : TcpPools) (link : LinkId) : Quiet p (p.detach link) := by
  unfold detach
  split
  · exact .refl p
  · exact .same rfl rfl

theorem onData_quiet (alive : RouterRef → Bool) (link : LinkId) (octets : Bytes) (p : TcpPools) :
    Quiet p (p.onData alive link octets).pools := by
  unfold onData
  split
  · split
    · exact .refl p
    · exact (shut_quiet p link .noFlush).trans (detach_quiet _ link)
  · exact .refl p

theorem onClosed_quiet (alive : RouterRef → Bool) (link : LinkId) (event : ConnectionEvent)
    (p : TcpPools) : Quiet p (p.onClosed alive link event).pools := by
  unfold onClosed
  split
  · have hmarked : Quiet p (p.markClosed link) := by
      refine modifyLink_quiet ?_ p link
      exact fun _ => rfl
    exact hmarked.trans (detach_quiet _ link)
  · exact .refl p

/-- A connection that comes up has no state, as one that is not there. -/
theorem append_quiet (p : TcpPools) (pool : Nat) :
    Quiet p { p with links := p.links ++ [{ pool }] } where
  number l := by
    show ((((p.links ++ [({ pool } : TcpLink)])[l]?).bind (·.shared)).getD {}).next =
      (((p.links[l]?).bind (·.shared)).getD {}).next
    rw [List.getElem?_append]
    split
    · rfl
    · next h =>
      rw [List.getElem?_eq_none (Nat.le_of_not_lt h)]
      cases l - p.links.length with
      | zero => rfl
      | succ n => rfl
  sends _ := rfl

theorem onConnected_quiet (alive : RouterRef → Bool) (handle : HandleId) (result : ConnectResult)
    (p : TcpPools) : Quiet p (p.onConnected alive handle result).pools := by
  unfold onConnected
  split
  · exact .refl p
  · next r _ =>
    split
    · exact .refl p
    · split
      · exact .refl p
      · dsimp only
        generalize hq : (p.modifyPool r.pool fun x => { x with
          connecting := x.connecting - 1 }).endRequest handle = q
        have hq' : Quiet p q := hq ▸ .same rfl rfl
        split
        · exact hq'
        · have hnew := hq'.trans (append_quiet q r.pool)
          split
          · exact hnew.trans (shut_quiet _ _ .noFlush)
          · exact hnew.trans (.same rfl rfl)
          · split
            · exact hnew.trans (.same rfl rfl)
            · exact hnew.trans (.same rfl rfl)

/-! ## Calls -/

theorem letGo_quiet (ref : RouterRef) (how : Option CloseType) (link : Option LinkId) (p : TcpPools) :
    Quiet p (source.performAll ref (LinkCommand.letGo how link) p) := by
  cases link with
  | none => exact .refl p
  | some link =>
    cases how with
    | none => exact release_quiet p link
    | some kind => exact (shut_quiet p link kind).trans (release_quiet _ link)

/-- A call that begins on a connection takes the connection and its number. -/
theorem begin_takes (ref : RouterRef) (link : LinkId) (p : TcpPools) :
    let p' := source.performAll ref (LinkCommand.begin link (source.state? link p)) p
    Takes ref link p p' ∧ (∀ l, p'.sends l = p.sends l) ∧ (∀ l, l ≠ link → p'.number l = p.number l) ∧
      ((p.owner? link).isSome → p'.number link = p.number link + 1) := by
  generalize hcs : LinkCommand.begin link (source.state? link p) = cs
  -- A connection that had no state gets one first; both ways end with the next number.
  have hparts : ∃ us state, cs = .attach link :: us ++ [.updateState link state] ∧
      (us = [] ∨ us = [.initState link {}]) ∧ state.next = p.number link + 1 := by
    refine ⟨if (source.state? link p).isNone then [.initState link {}] else [], _, hcs.symm, ?_, rfl⟩
    split
    · exact Or.inr rfl
    · exact Or.inl rfl
  obtain ⟨us, state, rfl, hus, hstate⟩ := hparts
  intro p'
  have huses : ∀ c ∈ us ++ [LinkCommand.updateState link state], c.isUse = true := by
    rcases hus with rfl | rfl
    · simp [LinkCommand.isUse]
    · simp [LinkCommand.isUse]
  refine ⟨(attach_takes ref link p).keeps (performAll_keeps huses _), ?_, ?_, ?_⟩
  · intro l
    rcases hus with rfl | rfl
    · rfl
    · rfl
  · intro l hl
    show ((source.state? l p').getD {}).next = ((source.state? l p).getD {}).next
    have hsame : ∀ (q : TcpPools) (f : TcpLink → TcpLink),
        source.state? l (q.modifyLink link f) = source.state? l q := by
      intro q f
      rw [state?_modifyLink]
      simp only [if_neg (Ne.symm hl)]
      rfl
    rcases hus with rfl | rfl
    · rw [show p' = (p.modifyLink link _).modifyLink link _ from rfl, hsame, hsame]
    · rw [show p' = ((p.modifyLink link _).modifyLink link _).modifyLink link _ from rfl, hsame, hsame,
        hsame]
  · intro hknown
    obtain ⟨x, hx⟩ : ∃ x, p.links[link]? = some x := by
      obtain ⟨o, ho⟩ := Option.isSome_iff_exists.mp hknown
      obtain ⟨x, hx, -⟩ := Option.map_eq_some_iff.mp ho
      exact ⟨x, hx⟩
    -- The last command sets the number, whatever the others set.
    have hlast : ∀ q : TcpPools, (q.links[link]?).isSome = true →
        (q.modifyLink link fun l => { l with shared := some state }).number link =
          p.number link + 1 := by
      intro q hq
      obtain ⟨y, hy⟩ := Option.isSome_iff_exists.mp hq
      unfold TcpPools.number
      rw [state?_modifyLink, hy, ← TcpPools.number]
      simpa using hstate
    rcases hus with rfl | rfl
    · refine hlast (p.modifyLink link _) ?_
      simp [modifyLink, hx]
    · refine hlast ((p.modifyLink link _).modifyLink link _) ?_
      simp [modifyLink, hx]

/-- What is written on an open connection is sent. -/
theorem write_sends (ref : RouterRef) (link : LinkId) (octets : Bytes) (p : TcpPools) :
    let p' := source.performAll ref [.write link octets] p
    Keeps p p' ∧ (∀ l, p'.number l = p.number l) ∧ (∀ l, l ≠ link → p'.sends l = p.sends l) ∧
      p'.sends link = p.sends link ++ (if p.isOpen link then [octets] else []) := by
  intro p'
  have hp' : p' = if p.isOpen link then p.order (.send link octets) else p := rfl
  cases hopen : p.isOpen link with
  | false =>
    rw [hopen, if_neg Bool.false_ne_true] at hp'
    rw [hp']
    exact ⟨Keeps.refl p, fun _ => rfl, fun _ _ => rfl, (List.append_nil _).symm⟩
  | true =>
    rw [hopen, if_pos rfl] at hp'
    rw [hp']
    refine ⟨order_keeps p _, fun _ => rfl, fun l hl => ?_, ?_⟩
    · show (p.orders ++ [SocketOrder.send link octets]).filterMap _ = _
      rw [List.filterMap_append]
      simp [SocketOrder.sentOn, Ne.symm hl, TcpPools.sends]
    · show (p.orders ++ [SocketOrder.send link octets]).filterMap _ = _
      rw [List.filterMap_append]
      simp [SocketOrder.sentOn, TcpPools.sends]

/-! ## Connections that are left alone -/

/-- As far as one connection is concerned, nothing was done but that it may have been closed or be
kept no longer. Both can happen to an idle connection at any time. -/
structure AtMostCloses (p p' : TcpPools) (l : LinkId) : Prop where
  owner : p'.owner? l = p.owner? l
  number : p'.number l = p.number l
  sends : p'.sends l = p.sends l
  idle : p'.idleCount l ≤ p.idleCount l
  state : p'.isOpen l = true → p.isOpen l = true

variable {ref : RouterRef} {l : LinkId}

theorem AtMostCloses.trans (h₁ : AtMostCloses p₁ p₂ l) (h₂ : AtMostCloses p₂ p₃ l) :
    AtMostCloses p₁ p₃ l where
  owner := h₂.owner.trans h₁.owner
  number := h₂.number.trans h₁.number
  sends := h₂.sends.trans h₁.sends
  idle := Nat.le_trans h₂.idle h₁.idle
  state ho := h₁.state (h₂.state ho)

theorem DropsIdle.atMostCloses (h : DropsIdle p p') (hq : Quiet p p') (l : LinkId) : AtMostCloses p p' l :=
  ⟨h.owner l, hq.number l, hq.sends l, h.idle l, h.state l⟩

theorem AtMostCloses.refl (p : TcpPools) (l : LinkId) :
    AtMostCloses p p l :=
  (Keeps.refl p).dropsIdle.atMostCloses (.refl p) l

theorem ClosesOne.atMostCloses (h : ClosesOne link p p') (hq : Quiet p p') (l : LinkId) : AtMostCloses p p' l := by
  refine ⟨h.owner l, hq.number l, hq.sends l, ?_, fun ho => ?_⟩
  · by_cases hl : l = link
    · exact hl ▸ h.idle
    · exact Nat.le_of_eq (h.idles l hl)
  · by_cases hl : l = link
    · rw [hl, h.state] at ho
      cases ho
    · rwa [← h.states l hl]

theorem AddsFree.atMostCloses (h : AddsFree link p p') (hq : Quiet p p') (hl : l ≠ link) : AtMostCloses p p' l :=
  ⟨h.owners l hl, hq.number l, hq.sends l, Nat.le_of_eq (h.idles l hl), fun ho => h.states l hl ▸ ho⟩

theorem letGo_atMostCloses (ref : RouterRef) (how : Option CloseType) (p : TcpPools) (hl : l ≠ link) :
    AtMostCloses p (source.performAll ref (LinkCommand.letGo how (some link)) p) l := by
  have hy : GivesBack link p (source.performAll ref (LinkCommand.letGo how (some link)) p) :=
    letGo_givesBack how link p
  have hq := letGo_quiet ref how (some link) p
  exact ⟨hy.owners l hl, hq.number l, hq.sends l, Nat.le_of_eq (hy.idles l hl),
    fun ho => hy.states l hl ▸ ho⟩

theorem begin_atMostCloses (ref : RouterRef) (p : TcpPools) (hl : l ≠ link) :
    AtMostCloses p (source.performAll ref (LinkCommand.begin link (source.state? link p)) p) l := by
  obtain ⟨ht, hsends, hnumber, -⟩ := begin_takes ref link p
  exact ⟨ht.owners l hl, hnumber l hl, hsends l, Nat.le_of_eq (ht.idle l), fun ho => ht.state l ▸ ho⟩

theorem write_atMostCloses (ref : RouterRef) (octets : Bytes) (p : TcpPools) (hl : l ≠ link) :
    AtMostCloses p (source.performAll ref [.write link octets] p) l := by
  obtain ⟨hk, hnumber, hsends, -⟩ := write_sends ref link octets p
  exact ⟨hk.owner l, hnumber l, hsends l hl, Nat.le_of_eq (hk.idle l), fun ho => hk.state l ▸ ho⟩

theorem cancel_atMostCloses (ref : RouterRef) (handle : HandleId) (policy : CancelPolicy) (p : TcpPools)
    (l : LinkId) : AtMostCloses p (source.performAll ref [.cancel handle policy] p) l := by
  have hkeeps : Keeps p (source.performAll ref [.cancel handle policy] p) := perform_keeps ref rfl p
  exact hkeeps.dropsIdle.atMostCloses (Quiet.same rfl rfl) l

/-- What becomes of a connection that is let go of. -/
theorem letGo_kept (ref : RouterRef) (how : Option CloseType) (link : LinkId) (p : TcpPools) :
    let p' := source.performAll ref (LinkCommand.letGo how (some link)) p
    p'.isOpen link = (how.isNone && p.isOpen link && p.isLodged link) ∧
      p'.idleCount link = p.idleCount link +
        (how.isNone && p.isOpen link && p.isLodged link).toNat := by
  cases how with
  | none => exact release_kept p link
  | some kind =>
    have hkept := release_kept (p.shut link kind) link
    rw [shut_isOpen, shut_idleCount, bne_self_eq_false, Bool.and_false, Bool.false_and] at hkept
    exact hkept

/-! ## Requests -/

/-- Nothing but a request that has to wait, and its being taken back or over, touches requests. -/
theorem ask_requests (cluster : Config.Cluster) (host : HostRef) (router : RouterRef) (p : TcpPools) :
    let asked := ask cluster host router p
    (∃ pool : Nat, asked.1 = .pending p.requests.length ∧
      asked.2.2.requests = p.requests ++ [({ pool, router } : ConnectRequest)]) ∨
    ((∀ handle, asked.1 ≠ .pending handle) ∧ asked.2.2.requests = p.requests) := by
  have hlooked := poolOf_requests p host cluster.maxConnections cluster.connectTimeout
  unfold ask
  dsimp only
  generalize p.poolOf host cluster.maxConnections cluster.connectTimeout = q at hlooked
  obtain ⟨i, q⟩ := q
  dsimp only at hlooked ⊢
  rw [← hlooked]
  unfold request
  split
  · exact Or.inr ⟨nofun, rfl⟩
  · dsimp only
    split
    · exact Or.inr ⟨nofun, rfl⟩
    · split
      · exact Or.inr ⟨nofun, rfl⟩
      · exact Or.inl ⟨i, rfl, rfl⟩

/-- An answer that is given at once leaves the requests as they are. -/
theorem ask_requests_same {cluster : Config.Cluster} {host : HostRef} {router : RouterRef}
    {p : TcpPools} (hnow : ∀ handle, (ask cluster host router p).1 ≠ .pending handle) :
    (ask cluster host router p).2.2.requests = p.requests := by
  obtain ⟨_, hpending, -⟩ | ⟨-, hsame⟩ := ask_requests cluster host router p
  · exact absurd hpending (hnow _)
  · exact hsame

theorem letGo_requests (ref : RouterRef) (how : Option CloseType) (link : Option LinkId)
    (p : TcpPools) : (source.performAll ref (LinkCommand.letGo how link) p).requests = p.requests := by
  cases link with
  | none => rfl
  | some link =>
    cases how with
    | none => exact release_requests p link
    | some kind => exact (release_requests _ link).trans (shut_requests p link kind)

theorem begin_requests (ref : RouterRef) (link : LinkId) (shared : Option LinkState) (p : TcpPools) :
    (source.performAll ref (LinkCommand.begin link shared) p).requests = p.requests := by
  cases shared with
  | none => rfl
  | some state => rfl

theorem write_requests (ref : RouterRef) (link : LinkId) (octets : Bytes) (p : TcpPools) :
    (source.performAll ref [.write link octets] p).requests = p.requests := by
  show (if _ then _ else _ : TcpPools).requests = _
  split
  · rfl
  · rfl

/-- The end of an attempt to connect ends a request that was not over. Its router is told, unless
the request was taken back. -/
theorem onConnected_told (alive : RouterRef → Bool) (handle : HandleId) (result : ConnectResult)
    (p : TcpPools) :
    p.onConnected alive handle result = { pools := p } ∨
    ∃ q, p.requests[handle]? = some q ∧ q.isOver = false ∧
      (p.onConnected alive handle result).pools.requests =
        p.requests.modify handle (fun r => { r with isOver := true }) ∧
      ∀ ref d, (p.onConnected alive handle result).told = some (ref, d) →
        ref = q.router ∧ q.cancelled = none ∧ ∃ host link, d = result.answer host link := by
  cases hq : p.requests[handle]? with
  | none =>
    refine Or.inl ?_
    unfold onConnected
    rw [hq]
  | some q =>
    cases hpool : p.pools[q.pool]? with
    | none =>
      refine Or.inl ?_
      unfold onConnected
      rw [hq]
      dsimp only
      rw [hpool]
    | some pool =>
      -- A connect that is over, or whose pool is gone, changes nothing and is told to nobody.
      by_cases h : q.isOver = true ∨ pool.gone = true
      · exact Or.inl (onConnected_settled hq hpool h alive result)
      · rw [not_or, Bool.not_eq_true, Bool.not_eq_true] at h
        obtain ⟨-, hrequests, htold⟩ := onConnected_open hq hpool h.1 h.2 alive result
        refine Or.inr ⟨q, rfl, h.1, hrequests, fun ref d hd => ?_⟩
        rw [htold] at hd
        split at hd
        · next hgo =>
          obtain ⟨rfl, rfl⟩ := Prod.mk.inj (Option.some.inj hd)
          exact ⟨rfl, Option.isNone_iff_eq_none.mp (Bool.and_eq_true _ _ ▸ hgo).1, _, _, rfl⟩
        · cases hd

end TcpPools

end RpcProxy

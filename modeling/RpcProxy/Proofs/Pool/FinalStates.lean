import RpcProxy.Proofs.Pool.SentCalls

/-!
# What is final

Some things that happen to pools are never undone. A connection that is closed and not kept by its
pool is `ClosedForGood`: nobody will get it again. A request that was taken back stays so. And what
sockets were ordered to do was ordered. `KeepsFinal` says these three things of everything that
routers and sockets do to pools. It composes, so what is final at one moment of a course is final at
all later ones.

That a connection is closed is not final by itself as far as a pool knows: while it is kept it may
still be handed out, and found to be closed only then. So being kept no longer is part of
`ClosedForGood`.

A request is taken back by a policy, and one of the two closes the connection when it comes up.
Routers only ever use the other (`LinkCommand.isHarsh` is false of what they do), which is why it is
enough to follow that one.

A connection that does not lie idle is left as it is by everything but a command to close it or to
give it back (`Rests`).
-/

set_option autoImplicit false

namespace RpcProxy

/-- Whether a command closes a connection or gives it back. -/
def LinkCommand.lets (link : LinkId) : LinkCommand → Bool
  | .close l _ | .release l => l == link
  | .attach _ | .initState _ _ | .updateState _ _ | .write _ _ | .cancel _ _ => false

/-- Whether a command takes a request back so that its connection is closed. -/
def LinkCommand.isHarsh : LinkCommand → Bool
  | .cancel _ policy => policy == .closeExcess
  | .attach _ | .initState _ _ | .updateState _ _ | .write _ _ | .close _ _ | .release _ => false

namespace TcpPools

/-- A connection is closed, and its pool does not keep it. -/
structure ClosedForGood (p : TcpPools) (link : LinkId) : Prop where
  known : (p.owner? link).isSome
  closed : p.isOpen link = false
  unkept : p.idleCount link = 0

/-- Whether a request was taken back, and its connection is to be kept when it comes up. -/
def isBack (p : TcpPools) (handle : HandleId) : Bool :=
  (p.requests[handle]?).any (·.cancelled == some .keep)

/-- Nothing that is final was undone. -/
structure KeepsFinal (p p' : TcpPools) : Prop where
  closedForGood : ∀ l, p.ClosedForGood l → p'.ClosedForGood l
  back : ∀ h, p.isBack h = true → p'.isBack h = true
  orders : p.orders <+: p'.orders

/-- A connection that does not lie idle is what it was. Of one that lies idle nothing is said, as
a pool may close it on its own. -/
def Rests (link : LinkId) (p p' : TcpPools) : Prop :=
  p.idleCount link = 0 → p'.isOpen link = p.isOpen link ∧ p'.idleCount link = 0

variable {p p' p₁ p₂ p₃ : TcpPools} {link l : LinkId} {ref : RouterRef}

theorem KeepsFinal.refl (p : TcpPools) : KeepsFinal p p := ⟨fun _ h => h, fun _ h => h, List.prefix_rfl⟩

theorem KeepsFinal.trans (h₁ : KeepsFinal p₁ p₂) (h₂ : KeepsFinal p₂ p₃) : KeepsFinal p₁ p₃ where
  closedForGood l h := h₂.closedForGood l (h₁.closedForGood l h)
  back i h := h₂.back i (h₁.back i h)
  orders := h₁.orders.trans h₂.orders

theorem Rests.refl (link : LinkId) (p : TcpPools) : Rests link p p := fun h => ⟨rfl, h⟩

theorem Rests.trans (h₁ : Rests link p₁ p₂) (h₂ : Rests link p₂ p₃) : Rests link p₁ p₃ := by
  intro hidle
  obtain ⟨hopen₁, hidle₁⟩ := h₁ hidle
  obtain ⟨hopen₂, hidle₂⟩ := h₂ hidle₁
  exact ⟨hopen₂.trans hopen₁, hidle₂⟩

theorem isBack_congr (h : p'.requests = p.requests) (i : HandleId) : p'.isBack i = p.isBack i := by
  unfold isBack
  rw [h]

theorem ClosedForGood.keeps (h : p.ClosedForGood l) (hk : Keeps p p') : p'.ClosedForGood l :=
  ⟨by rw [hk.owner]; exact h.known, by rw [hk.state]; exact h.closed, by rw [hk.idle]; exact h.unkept⟩

theorem ClosedForGood.takes (h : p.ClosedForGood l) (hk : Takes ref link p p') : p'.ClosedForGood l :=
  ⟨hk.noneRevived.known l h.known, by rw [hk.state]; exact h.closed, by rw [hk.idle]; exact h.unkept⟩

theorem ClosedForGood.dropsIdle (h : p.ClosedForGood l) (hs : DropsIdle p p') : p'.ClosedForGood l where
  known := by
    rw [hs.owner]
    exact h.known
  closed := by
    rw [hs.states l h.unkept]
    exact h.closed
  unkept := by
    have hle := hs.idle l
    have hzero := h.unkept
    omega

theorem ClosedForGood.closesOne (h : p.ClosedForGood l) (hc : ClosesOne link p p') : p'.ClosedForGood l := by
  have hzero := h.unkept
  by_cases hl : l = link
  · subst hl
    have hle := hc.idle
    exact ⟨by rw [hc.owner]; exact h.known, hc.state, by omega⟩
  · exact ⟨by rw [hc.owner]; exact h.known, by rw [hc.states l hl]; exact h.closed,
      by rw [hc.idles l hl]; exact hzero⟩

theorem ClosedForGood.addsFree (h : p.ClosedForGood l) (hg : AddsFree link p p') : p'.ClosedForGood l := by
  have hl : l ≠ link := by
    rintro rfl
    have hknown := h.known
    rw [hg.fresh] at hknown
    cases hknown
  exact ⟨by rw [hg.owners l hl]; exact h.known, by rw [hg.states l hl]; exact h.closed,
    by rw [hg.idles l hl]; exact h.unkept⟩

/-! ## What routers do -/

theorem shut_closedForGood (h : p.ClosedForGood l) (how : CloseType) : (p.shut link how).ClosedForGood l where
  known := by
    rw [shut_owner?]
    exact h.known
  closed := by
    rw [shut_isOpen, h.closed]
    rfl
  unkept := (shut_idleCount p link how l).trans h.unkept

theorem release_closedForGood (h : p.ClosedForGood l) : (p.release link).ClosedForGood l := by
  have hgives := release_givesBack p link
  by_cases hl : l = link
  · subst hl
    obtain ⟨hopen, hidle⟩ := release_kept p l
    rw [h.closed] at hopen hidle
    exact ⟨hgives.noneRevived.known l h.known, hopen, hidle.trans h.unkept⟩
  · exact ⟨hgives.noneRevived.known l h.known, by rw [hgives.states l hl]; exact h.closed,
      by rw [hgives.idles l hl]; exact h.unkept⟩

theorem shut_orders (p : TcpPools) (link : LinkId) (how : CloseType) :
    (p.shut link how).orders = p.orders ++ if p.isOpen link then [.close link how] else [] := by
  unfold shut
  split
  · rfl
  · exact (List.append_nil _).symm

theorem shut_keepsFinal (p : TcpPools) (link : LinkId) (how : CloseType) :
    KeepsFinal p (p.shut link how) where
  closedForGood _ h := shut_closedForGood h how
  back i h := (isBack_congr (shut_requests p link how) i).trans h
  orders := by
    rw [shut_orders]
    exact List.prefix_append _ _

theorem release_keepsFinal (p : TcpPools) (link : LinkId) : KeepsFinal p (p.release link) where
  closedForGood _ h := release_closedForGood h
  back i h := (isBack_congr (release_requests p link) i).trans h
  orders := by
    unfold release
    dsimp only
    split
    · exact List.prefix_rfl
    · split
      · rw [shut_orders]
        exact List.prefix_append _ _
      · exact List.prefix_rfl

/-- Whatever is done to a connection or to a request is not undone, if requests are taken back so
that connections are kept. -/
theorem perform_keepsFinal {c : LinkCommand} (hc : c.isHarsh = false) (p : TcpPools) :
    KeepsFinal p (source.perform ref c p).2 := by
  have huse : c.isUse = true → Keeps p (perform ref c p).2 := fun h => perform_keeps ref h p
  cases c with
  | attach link =>
    exact ⟨fun _ h => h.takes (attach_takes ref link p), fun _ h => h, List.prefix_rfl⟩
  | initState link state | updateState link state =>
    exact ⟨fun _ h => h.keeps (huse rfl), fun _ h => h, List.prefix_rfl⟩
  | write link data =>
    have hp : (perform ref (.write link data) p).2 =
        if p.isOpen link then p.order (.send link data) else p := rfl
    refine ⟨fun _ h => h.keeps (huse rfl), fun i h => ?_, ?_⟩
    · rw [← h]
      exact isBack_congr (write_requests ref link data p) i
    · show p.orders <+: (perform ref (.write link data) p).2.orders
      rw [hp]
      split
      · exact List.prefix_append _ _
      · exact List.prefix_rfl
  | close link how => exact shut_keepsFinal p link how
  | release link => exact release_keepsFinal p link
  | cancel handle policy =>
    refine ⟨fun _ h => h.keeps (huse rfl), fun i h => ?_, List.prefix_rfl⟩
    -- Taking a connect back harshly is excluded, so the connection that comes is kept.
    have hpolicy : policy = .keep := by
      cases policy with
      | keep => rfl
      | closeExcess => cases hc
    subst hpolicy
    obtain ⟨q, hq, hback⟩ := (Option.any_eq_true _ _).mp h
    have hlook : (source.perform ref (.cancel handle .keep) p).2.requests[i]? =
        (p.requests[i]?).map fun r => if handle = i then { r with cancelled := some .keep } else r :=
      List.getElem?_modify ..
    rw [isBack, hlook, hq, Option.map_some, Option.any_some]
    split
    · rfl
    · exact hback

theorem discard_orders (p : TcpPools) (i : Nat) : p.orders <+: (p.discard i).orders := by
  have hshut : ∀ (links : List LinkId) (q : TcpPools),
      q.orders <+: (links.foldl (fun p link => p.shut link .flush) q).orders := by
    intro links
    induction links with
    | nil => exact fun _ => List.prefix_rfl
    | cons link rest ih => exact fun q => (shut_keepsFinal q link .flush).orders.trans (ih _)
  unfold discard
  exact hshut _ (p.modifyPool i fun x => { x with idle := [], gone := true })

theorem ask_orders (cluster : Config.Cluster) (host : HostRef) (router : RouterRef) (p : TcpPools) :
    p.orders <+: (ask cluster host router p).2.2.orders := by
  -- Looking up the pool orders nothing but what closes the idle connections of an old one.
  have hlooked : p.orders <+: (p.poolOf host cluster.maxConnections cluster.connectTimeout).2.orders := by
    unfold poolOf
    dsimp only
    split
    · exact List.prefix_rfl
    · next i _ =>
      split
      · exact List.prefix_rfl
      · exact discard_orders p i
  unfold ask
  dsimp only
  generalize p.poolOf host cluster.maxConnections cluster.connectTimeout = q at hlooked
  obtain ⟨i, q⟩ := q
  refine hlooked.trans ?_
  dsimp only
  unfold request
  split
  · exact List.prefix_rfl
  · dsimp only
    split
    · exact List.prefix_rfl
    · split
      · exact List.prefix_rfl
      · exact List.prefix_append _ _

theorem ask_keepsFinal (cluster : Config.Cluster) (host : HostRef) (router : RouterRef) (p : TcpPools) :
    KeepsFinal p (source.ask cluster host router p).2.2 where
  closedForGood _ h := h.dropsIdle (ask_asked cluster host router p).toDropsIdle
  back i h := by
    obtain ⟨pool, -, hrequests⟩ | ⟨-, hrequests⟩ := ask_requests cluster host router p
    · obtain ⟨q, hq, hback⟩ := (Option.any_eq_true _ _).mp h
      have hlt := (List.getElem?_eq_some_iff.mp hq).1
      show ((ask cluster host router p).2.2.requests[i]?).any _ = true
      rw [hrequests, List.getElem?_append_left hlt, hq]
      exact hback
    · exact (isBack_congr hrequests i).trans h
  orders := ask_orders cluster host router p

/-- A connection that is neither closed nor given back. -/
theorem perform_rests {c : LinkCommand} (hc : c.lets l = false) (p : TcpPools) :
    Rests l p (source.perform ref c p).2 := by
  have huse : c.isUse = true → Rests l p (perform ref c p).2 := fun h hidle => by
    have hk := perform_keeps ref h p
    exact ⟨hk.state l, (hk.idle l).trans hidle⟩
  cases c with
  | attach link =>
    intro hidle
    have ht := attach_takes ref link p
    exact ⟨ht.state l, (ht.idle l).trans hidle⟩
  | initState | updateState | write | cancel => exact huse rfl
  | close link how =>
    intro hidle
    have hl : l ≠ link := Ne.symm (beq_eq_false_iff_ne.mp hc)
    refine ⟨?_, (shut_idleCount p link how l).trans hidle⟩
    show (p.shut link how).isOpen l = _
    rw [shut_isOpen, bne_iff_ne.mpr hl, Bool.and_true]
  | release link =>
    intro hidle
    have hl : l ≠ link := Ne.symm (beq_eq_false_iff_ne.mp hc)
    have hy := release_givesBack p link
    exact ⟨hy.states l hl, (hy.idles l hl).trans hidle⟩

theorem ask_rests (cluster : Config.Cluster) (host : HostRef) (router : RouterRef) (l : LinkId)
    (p : TcpPools) : Rests l p (source.ask cluster host router p).2.2 := by
  intro hidle
  have hs := (ask_asked cluster host router p).toDropsIdle
  have hle := hs.idle l
  exact ⟨hs.states l hidle, by show (ask cluster host router p).2.2.idleCount l = 0; omega⟩

/-- A connection that is closed and let go of is closed in this way, unless it was closed
already. -/
theorem letGo_closedForGood (hknown : (p.owner? link).isSome) (hidle : p.idleCount link = 0) (ref : RouterRef)
    (kind : CloseType) :
    (source.performAll ref (LinkCommand.letGo (some kind) (some link)) p).ClosedForGood link ∧
      (p.isOpen link = true → p.orders ++ [.close link kind] <+:
        (source.performAll ref (LinkCommand.letGo (some kind) (some link)) p).orders) := by
  obtain ⟨hopen, hkept⟩ := letGo_kept ref (some kind) link p
  have hy : GivesBack link p (source.performAll ref (LinkCommand.letGo (some kind) (some link)) p) :=
    letGo_givesBack (some kind) link p
  refine ⟨⟨hy.noneRevived.known link hknown, hopen, hkept.trans hidle⟩, fun ho => ?_⟩
  have hlast := (release_keepsFinal (p.shut link kind) link).orders
  rw [shut_orders, ho, if_pos rfl] at hlast
  exact hlast

/-! ## What sockets do -/

theorem detach_orders (p : TcpPools) (link : LinkId) : (p.detach link).orders = p.orders := by
  unfold detach
  split
  · rfl
  · rfl

theorem onData_keepsFinal (alive : RouterRef → Bool) (link : LinkId) (octets : Bytes) (p : TcpPools) :
    KeepsFinal p (p.onData alive link octets).pools where
  closedForGood l h := by
    obtain ⟨-, ho⟩ | ⟨-, ref, -, -, ho⟩ | ⟨-, -, p', hcloses, ho⟩ := onData_cases alive link octets p
    · rw [ho]
      exact h
    · rw [ho]
      exact h
    · rw [ho]
      exact h.closesOne hcloses
  back i h := (isBack_congr (onData_requests alive link octets p) i).trans h
  orders := by
    unfold onData
    split
    · split
      · exact List.prefix_rfl
      · show _ <+: ((p.shut link .noFlush).detach link).orders
        rw [detach_orders]
        exact (shut_keepsFinal p link .noFlush).orders
    · exact List.prefix_rfl

theorem onClosed_keepsFinal (alive : RouterRef → Bool) (link : LinkId) (event : ConnectionEvent)
    (p : TcpPools) : KeepsFinal p (p.onClosed alive link event).pools where
  closedForGood l h := by
    obtain ⟨-, ho⟩ | ⟨-, p', hcloses, ⟨ref, -, -, ho⟩ | ⟨-, ho⟩⟩ := onClosed_cases alive link event p
    · rw [ho]
      exact h
    · rw [ho]
      exact h.closesOne hcloses
    · rw [ho]
      exact h.closesOne hcloses
  back i h := (isBack_congr (onClosed_requests alive link event p) i).trans h
  orders := by
    unfold onClosed
    split
    · show _ <+: ((p.markClosed link).detach link).orders
      rw [detach_orders]
      exact List.prefix_rfl
    · exact List.prefix_rfl

theorem onConnected_orders (alive : RouterRef → Bool) (handle : HandleId) (result : ConnectResult)
    (p : TcpPools) : p.orders <+: (p.onConnected alive handle result).pools.orders := by
  unfold onConnected
  split
  · exact List.prefix_rfl
  · next r _ =>
    split
    · exact List.prefix_rfl
    · split
      · exact List.prefix_rfl
      · dsimp only
        split
        · exact List.prefix_rfl
        · split
          · dsimp only
            rw [shut_orders]
            exact List.prefix_append _ _
          · exact List.prefix_rfl
          · split
            · exact List.prefix_rfl
            · exact List.prefix_rfl

theorem onConnected_keepsFinal (alive : RouterRef → Bool) (handle : HandleId) (result : ConnectResult)
    (p : TcpPools) : KeepsFinal p (p.onConnected alive handle result).pools where
  closedForGood l h := by
    obtain ⟨hkeeps, -⟩ | ⟨link, hadds, -⟩ := onConnected_cases alive handle result p
    · exact h.keeps hkeeps
    · exact h.addsFree hadds
  back i h := by
    obtain ho | ⟨q, -, -, hrequests, -⟩ := onConnected_told alive handle result p
    · rw [ho]
      exact h
    · obtain ⟨q₁, hq₁, hback⟩ := (Option.any_eq_true _ _).mp h
      have hlook : (p.onConnected alive handle result).pools.requests[i]? =
          (p.requests[i]?).map fun r => if handle = i then { r with isOver := true } else r := by
        rw [hrequests]
        exact List.getElem?_modify ..
      rw [isBack, hlook, hq₁, Option.map_some, Option.any_some]
      split
      · exact hback
      · exact hback
  orders := onConnected_orders alive handle result p

end TcpPools

end RpcProxy

import RpcProxy.Proofs.Pool.FinalStates
import RpcProxy.Proofs.Session.SceneInputs

/-!
# Turns

What sessions do changes a scene in turns: one router has its share, or streams begin (`Turn`). A
scene in order stays in order in every turn (`Turn.goes`), and nothing is undone that is final
(`Turn.keepsFinal`). Several turns make a piece of work (`Advance`), and in a piece of work one
router at most takes up something of its own. That is what makes it possible to say who has read an
answer in it: only that router can have.

The end of a router is followed to its end here. As long as a router takes up nothing itself, it
stays what it is until it goes (`Turn.parts`). When it goes, it lets go of all it has: the request
that it waits for is taken back, and its connection is closed (`LetGoOfAll`). Neither can be seen at
the router, which is gone, nor for certain at the pool, which may have dropped both. So a request is
followed by its number, a connection by the fact that it is closed for good, and the closing by the
order that was given to the socket, which stays on record.

Every statement has the same three forms, one for a share, one for a turn and one for a piece of
work. The work is done for shares. Turns add that no other router does anything, and pieces of work
add the induction.
-/

set_option autoImplicit false

namespace RpcProxy

/-- How a request for a connection is taken back, going by what a pool tells. -/
def PoolNote.withdraws? (handle : HandleId) : PoolNote → Option CancelPolicy
  | .cancelled h policy => if h = handle then some policy else none
  | .released _ => none

/-- How a request for a connection is taken back by a command. -/
def LinkCommand.withdraws? (handle : HandleId) : LinkCommand → Option CancelPolicy
  | .cancel h policy => if h = handle then some policy else none
  | .attach _ | .initState _ _ | .updateState _ _ | .write _ _ | .close _ _ | .release _ => none

/-- Whether a command gives nothing back, neither a connection nor a request. Such commands can be
left out of account where it is asked what a router has let go of. -/
def LinkCommand.binds : LinkCommand → Bool
  | .attach _ | .initState _ _ | .updateState _ _ | .write _ _ => true
  | .close _ _ | .release _ | .cancel _ _ => false

theorem LinkCommand.binds_of_begin {c : LinkCommand} {link : LinkId} {shared : Option LinkState}
    (h : c ∈ LinkCommand.begin link shared) : c.binds = true := by
  cases shared with
  | none =>
    rcases List.mem_append.mp h with h | h
    · rcases List.mem_append.mp h with h | h
      · rw [List.mem_singleton.mp h]
        rfl
      · rw [List.mem_singleton.mp h]
        rfl
    · rw [List.mem_singleton.mp h]
      rfl
  | some state =>
    rcases List.mem_cons.mp h with rfl | h
    · rfl
    · rw [List.mem_singleton.mp h]
      rfl

theorem LinkCommand.mem_letGo {c : LinkCommand} {how : Option CloseType} {link : LinkId}
    (h : c ∈ LinkCommand.letGo how (some link)) : (∃ kind, c = .close link kind) ∨ c = .release link := by
  rcases List.mem_append.mp h with h | h
  · obtain ⟨kind, -, rfl⟩ := Option.map_eq_some_iff.mp (Option.mem_toList.mp h)
    exact Or.inl ⟨kind, rfl⟩
  · exact Or.inr (List.mem_singleton.mp h)

namespace TcpPools

/-- How a request was taken back, if it was. -/
def withdrawn? (p : TcpPools) (handle : HandleId) : Option CancelPolicy :=
  (p.requests[handle]?).bind (·.cancelled)

/-- Something was ordered in between. Orders are only ever added, so what was ordered in a piece of
work was ordered in the whole course. -/
def Orders (o : SocketOrder) (p p' : TcpPools) : Prop := ∃ os, p'.orders = p.orders ++ os ∧ o ∈ os

variable {p p' p₁ p₂ p₃ : TcpPools} {ref : RouterRef} {ds : List PoolAction} {l : LinkId}
  {handle : HandleId} {o : SocketOrder}

theorem withdrawn?_congr (h : p'.requests = p.requests) (handle : HandleId) :
    p'.withdrawn? handle = p.withdrawn? handle := by
  unfold withdrawn?
  rw [h]

theorem isBack_iff : p.isBack handle = true ↔ p.withdrawn? handle = some .keep := by
  unfold isBack withdrawn?
  cases p.requests[handle]? with
  | none => simp
  | some q => simp

theorem Orders.before (h₁ : KeepsFinal p₁ p₂) (h₂ : Orders o p₂ p₃) : Orders o p₁ p₃ := by
  obtain ⟨os, hos⟩ := h₁.orders
  obtain ⟨more, hmore, ho⟩ := h₂
  exact ⟨os ++ more, by rw [hmore, ← hos, List.append_assoc], List.mem_append_right os ho⟩

theorem Orders.behind (h₁ : Orders o p₁ p₂) (h₂ : KeepsFinal p₂ p₃) : Orders o p₁ p₃ := by
  obtain ⟨os, hos, ho⟩ := h₁
  obtain ⟨more, hmore⟩ := h₂.orders
  exact ⟨os ++ more, by rw [← hmore, hos, List.append_assoc], List.mem_append_left more ho⟩

/-! ## What routers do, one thing after another

What a router does to its pools is a short list of actions. What holds of one holds of the list. -/

/-- What holds from before to after each thing that a router does holds of all of it. -/
theorem playAll_of {Q : TcpPools → TcpPools → Prop} (hrefl : ∀ p, Q p p)
    (htrans : ∀ {p₁ p₂ p₃}, Q p₁ p₂ → Q p₂ p₃ → Q p₁ p₃)
    (hask : ∀ cluster host p, Q p (source.ask cluster host ref p).2.2)
    (hdid : ∀ c, .did c ∈ ds → ∀ p, Q p (source.perform ref c p).2) (p : TcpPools) :
    Q p (source.playAll ref ds p) := by
  induction ds generalizing p with
  | nil => exact hrefl p
  | cons d rest ih =>
    refine htrans ?_ (ih (fun c hc => hdid c (List.mem_cons_of_mem _ hc)) _)
    cases d with
    | asked cluster host => exact hask cluster host p
    | did c => exact hdid c List.mem_cons_self p

theorem playAll_keepsFinal (hds : ∀ c, PoolAction.did c ∈ ds → c.isHarsh = false) (p : TcpPools) :
    KeepsFinal p (source.playAll ref ds p) :=
  playAll_of KeepsFinal.refl KeepsFinal.trans (fun cluster host => ask_keepsFinal cluster host ref)
    (fun c hc => perform_keepsFinal (hds c hc)) p

/-- A connection that nobody closes or gives back. -/
theorem playAll_rests (hds : ∀ c, PoolAction.did c ∈ ds → c.lets l = false) (p : TcpPools) :
    Rests l p (source.playAll ref ds p) :=
  playAll_of (Rests.refl l) Rests.trans (fun cluster host => ask_rests cluster host ref l)
    (fun c hc => perform_rests (hds c hc)) p

theorem cancel_withdrawn? (h : HandleId) (policy : CancelPolicy) (p : TcpPools) :
    (source.perform ref (.cancel h policy) p).2.withdrawn? handle =
      if h = handle then (p.requests[handle]?).map fun _ => policy else p.withdrawn? handle := by
  show ((p.requests.modify h _)[handle]?).bind _ = _
  rw [List.getElem?_modify, withdrawn?]
  split
  · cases p.requests[handle]? <;> rfl
  · cases p.requests[handle]? <;> rfl

/-- A command that takes no request back. -/
theorem perform_withdraws {c : LinkCommand} (hc : c.withdraws? handle = none) (p : TcpPools) :
    (source.perform ref c p).2.withdrawn? handle = p.withdrawn? handle ∧
      (source.perform ref c p).1.filterMap (·.withdraws? handle) = [] := by
  cases c with
  | attach | initState | updateState => exact ⟨rfl, rfl⟩
  | write link octets => exact ⟨withdrawn?_congr (write_requests ref link octets p) handle, rfl⟩
  | close link how => exact ⟨withdrawn?_congr (shut_requests p link how) handle, rfl⟩
  | release link => exact ⟨withdrawn?_congr (release_requests p link) handle, rfl⟩
  | cancel h policy =>
    have hne : h ≠ handle := fun heq => by rw [LinkCommand.withdraws?, if_pos heq] at hc; cases hc
    refine ⟨(cancel_withdrawn? h policy p).trans (if_neg hne), ?_⟩
    · show [PoolNote.cancelled h policy].filterMap _ = []
      simp [PoolNote.withdraws?, hne]

theorem ask_withdraws (cluster : Config.Cluster) (host : HostRef) (p : TcpPools) :
    (source.ask cluster host ref p).2.2.withdrawn? handle = p.withdrawn? handle := by
  rcases ask_requests cluster host ref p with ⟨pool, -, hrequests⟩ | ⟨-, hrequests⟩
  · show ((ask cluster host ref p).2.2.requests[handle]?).bind _ = (p.requests[handle]?).bind _
    rw [hrequests]
    by_cases hlt : handle < p.requests.length
    · rw [List.getElem?_append_left hlt]
    · rw [List.getElem?_eq_none (Nat.not_lt.mp hlt), Option.bind_none, Option.bind_eq_none_iff]
      intro q hq
      have hmem := List.mem_of_getElem? hq
      rw [List.getElem?_append_right (Nat.not_lt.mp hlt)] at hq
      rw [List.mem_singleton.mp (List.mem_of_getElem? hq)]
  · exact withdrawn?_congr hrequests handle

/-- Nothing of all that a router does takes a request back. -/
theorem playAll_withdraws (hds : ∀ c, PoolAction.did c ∈ ds → c.withdraws? handle = none) (p : TcpPools) :
    (source.playAll ref ds p).withdrawn? handle = p.withdrawn? handle ∧
      (source.tellAll ref ds p).filterMap (·.withdraws? handle) = [] := by
  induction ds generalizing p with
  | nil => exact ⟨rfl, rfl⟩
  | cons d rest ih =>
    obtain ⟨hrest, htell⟩ := ih (fun c hc => hds c (List.mem_cons_of_mem _ hc)) (source.play ref p d)
    cases d with
    | asked cluster host =>
      refine ⟨hrest.trans (ask_withdraws cluster host p), ?_⟩
      show (_ ++ []).filterMap _ = []
      rw [List.append_nil, htell]
    | did c =>
      obtain ⟨hsame, hnone⟩ := perform_withdraws (hds c List.mem_cons_self) p
      refine ⟨hrest.trans hsame, ?_⟩
      show (_ ++ (source.perform ref c p).1.reverse).filterMap _ = []
      rw [List.filterMap_append, htell, List.filterMap_reverse, hnone]
      rfl

/-- A request is taken back that is there. -/
theorem cancel_withdraws (hknown : handle < p.requests.length) (ref : RouterRef) (policy : CancelPolicy)
    (h : HandleId) :
    (source.playAll ref [.did (.cancel handle policy)] p).withdrawn? h =
        (if handle = h then some policy else p.withdrawn? h) ∧
      (source.tellAll ref [.did (.cancel handle policy)] p).filterMap (·.withdraws? h) =
        if handle = h then [policy] else [] := by
  refine ⟨(cancel_withdrawn? handle policy p).trans ?_, ?_⟩
  · split
    · next heq =>
      subst heq
      rw [List.getElem?_eq_getElem hknown]
      rfl
    · rfl
  · show [PoolNote.cancelled handle policy].filterMap _ = _
    simp only [List.filterMap_cons, List.filterMap_nil, PoolNote.withdraws?]
    by_cases heq : handle = h
    · simp [heq]
    · simp [heq]

end TcpPools

/-! ## Shares

What a share says about connections and requests, without the router that had it. -/

namespace Session

variable {R R' : Request → Prop} {p : TcpPools} {ref : RouterRef} {taken ops : List RouterOp}
  {ds : List PoolAction} {m m' : Option Router}

theorem Share.mono (hR : ∀ r, R r → R' r)
    (h : Share R TcpPools.source p ref taken ds ops m m') :
    Share R' TcpPools.source p ref taken ds ops m m' := by
  cases h with
  | rest => exact .rest _
  | took hready h => exact .took hready h
  | gaveBack link host h => exact .gaveBack link host h
  | born => exact .born
  | gone r => exact .gone r
  | refused status hnone => exact .refused status hnone
  | waits hnone hrouted hask => exact .waits hnone (hR _ hrouted) hask
  | sent hnone hrouted hask hshared hline hex hh hlink hsent htransport =>
    exact .sent hnone (hR _ hrouted) hask hshared hline hex hh hlink hsent htransport
  | failed hnone hrouted hask hline hex hover hops =>
    exact .failed hnone (hR _ hrouted) hask hline hex hover hops
  | begun he hw hshared hline hpending hex hh hlink hsent htransport =>
    exact .begun he hw hshared hline hpending hex hh hlink hsent htransport
  | denied he hw hline hex hover hops => exact .denied he hw hline hex hover hops
  | wrote he hh hlink hunsent hline hex hh' hlink' hsent htransport =>
    exact .wrote he hh hlink hunsent hline hex hh' hlink' hsent htransport
  | read he hh hline hex hh' hlink hsent htransport =>
    exact .read he hh hline hex hh' hlink hsent htransport
  | ended he hh hd hevent hdata hline hex hover hops =>
    exact .ended he hh hd hevent hdata hline hex hover hops

/-- A command of a share is one of three. It gives nothing back; the router goes and takes its
request back; or a connection is let go of that the router has or gets. -/
theorem Share.commands (h : Share R TcpPools.source p ref taken ds ops m m') (hpoised : WaitsHoldsOrOver m)
    {c : LinkCommand} (hc : PoolAction.did c ∈ ds) :
    c.binds = true ∨
    (∃ r e handle, m = some r ∧ r.exchange = some e ∧ e.pending = some handle ∧ m' = none ∧
      ds = [.did (.cancel handle .keep)]) ∨
    (∃ link how, c ∈ LinkCommand.letGo how (some link) ∧
      (m.bind (·.link?) = some link ∨ ∃ op ∈ taken, op.brings link = true)) := by
  cases h with
  | rest | took | born | refused | denied | read => cases hc
  | waits | failed => exact absurd (List.mem_singleton.mp hc) (nofun)
  | gaveBack link host h =>
    refine Or.inr (Or.inr ⟨link, none, ?_, Or.inr ⟨_, List.mem_singleton_self _, ?_⟩⟩)
    · rw [PoolAction.did.inj (List.mem_singleton.mp hc)]
      exact List.mem_singleton_self _
    · simp [RouterOp.brings_ready]
  -- A router that goes has a request to take back, or a connection to close, or neither.
  | gone r =>
    obtain ⟨c', hc', heq⟩ := List.mem_map.mp hc
    obtain rfl := PoolAction.did.inj heq
    rcases Scene.WaitsHoldsOrOver.leaves hpoised with ⟨hleaves, -⟩ | ⟨e, i, he, hi, -, hleaves⟩ |
      ⟨e, link, he, -, hlink, hleaves⟩
    · rw [hleaves] at hc'
      cases hc'
    · exact Or.inr (Or.inl ⟨r, e, i, rfl, he, hi, rfl, by rw [hleaves]; rfl⟩)
    · refine Or.inr (Or.inr ⟨link, _, hleaves ▸ hc', Or.inl ?_⟩)
      rw [Option.bind_some, Router.link?, he]
      exact hlink
  | sent =>
    rcases List.mem_cons.mp hc with hc | hc
    · cases hc
    · obtain ⟨c', hc', heq⟩ := List.mem_map.mp hc
      obtain rfl := PoolAction.did.inj heq
      rcases List.mem_append.mp hc' with hc' | hc'
      · exact Or.inl (LinkCommand.binds_of_begin hc')
      · rw [List.mem_singleton.mp hc']
        exact Or.inl rfl
  -- A call that begins uses its connection and gives nothing back.
  | begun =>
    obtain ⟨c', hc', heq⟩ := List.mem_map.mp hc
    obtain rfl := PoolAction.did.inj heq
    exact Or.inl (LinkCommand.binds_of_begin hc')
  | wrote =>
    rw [PoolAction.did.inj (List.mem_singleton.mp hc)]
    exact Or.inl rfl
  | @ended r _ e _ d how _ he hh =>
    obtain ⟨c', hc', heq⟩ := List.mem_map.mp hc
    obtain rfl := PoolAction.did.inj heq
    obtain ⟨link, hlink⟩ := Option.isSome_iff_exists.mp hh.link
    refine Or.inr (Or.inr ⟨link, how, hlink ▸ hc', Or.inl ?_⟩)
    rw [Option.bind_some, Router.link?, he]
    exact hlink

theorem Share.not_harsh (h : Share R TcpPools.source p ref taken ds ops m m') (hpoised : WaitsHoldsOrOver m)
    {c : LinkCommand} (hc : PoolAction.did c ∈ ds) : c.isHarsh = false := by
  rcases h.commands hpoised hc with hb | ⟨r, e, handle, -, -, -, -, rfl⟩ | ⟨link, how, hc, -⟩
  · cases c with
    | attach | initState | updateState | write | close | release => rfl
    | cancel => cases hb
  · rw [PoolAction.did.inj (List.mem_singleton.mp hc)]
    rfl
  · rcases LinkCommand.mem_letGo hc with ⟨kind, rfl⟩ | rfl
    · rfl
    · rfl

/-- A connection is left alone that the router neither has nor gets. -/
theorem Share.spares (h : Share R TcpPools.source p ref taken ds ops m m') (hpoised : WaitsHoldsOrOver m)
    {l : LinkId} (hm : m.bind (·.link?) ≠ some l) (htaken : ∀ op ∈ taken, op.brings l = false)
    {c : LinkCommand} (hc : PoolAction.did c ∈ ds) : c.lets l = false := by
  rcases h.commands hpoised hc with hb | ⟨r, e, handle, -, -, -, -, rfl⟩ | ⟨link, how, hc, hhas⟩
  · cases c with
    | attach | initState | updateState | write | cancel => rfl
    | close | release => cases hb
  · rw [PoolAction.did.inj (List.mem_singleton.mp hc)]
    rfl
  · have hne : link ≠ l := by
      rintro rfl
      rcases hhas with hlink | ⟨op, hop, hbrings⟩
      · exact hm hlink
      · rw [htaken op hop] at hbrings
        cases hbrings
    rcases LinkCommand.mem_letGo hc with ⟨kind, rfl⟩ | rfl
    · exact beq_false_of_ne hne
    · exact beq_false_of_ne hne

/-- Only a router that goes takes a request back, which is the one that it waits for. It has not
been taken back before, since a router that is gone does not go again. -/
theorem Share.withdraws (h : Share R TcpPools.source p ref taken ds ops m m') (hpoised : WaitsHoldsOrOver m) :
    (∀ handle c, PoolAction.did c ∈ ds → c.withdraws? handle = none) ∨
    ∃ r e handle, m = some r ∧ r.exchange = some e ∧ e.pending = some handle ∧ m' = none ∧
      ds = [.did (.cancel handle .keep)] := by
  by_cases hgone : ∃ r e handle, m = some r ∧ r.exchange = some e ∧ e.pending = some handle ∧
      m' = none ∧ ds = [.did (.cancel handle .keep)]
  · exact Or.inr hgone
  · refine Or.inl fun handle c hc => ?_
    rcases h.commands hpoised hc with hb | hcancel | ⟨link, how, hc, -⟩
    · cases c with
      | attach | initState | updateState | write | close | release => rfl
      | cancel => cases hb
    · exact absurd hcancel hgone
    · rcases LinkCommand.mem_letGo hc with ⟨kind, rfl⟩ | rfl
      · rfl
      · rfl

/-- A router that has asked for a connection and takes up nothing of its own stays what it is, or
goes and lets go of all it has. So between two things that a router takes up, the only question is
whether it is still there. -/
theorem Share.parts {r : Router} {e : Exchange}
    (h : Share R TcpPools.source p ref taken ds ops (some r) m') (he : r.exchange = some e)
    (hasks : ∀ op ∈ taken, op.isAsk = true) :
    (m' = some r ∧ ds = []) ∨ (m' = none ∧ ds = r.leaves.map .did) := by
  have hnot : ∀ {op : RouterOp}, op.isAsk = false → taken ≠ [op] := by
    rintro op hop rfl
    rw [hasks op (List.mem_singleton_self op)] at hop
    cases hop
  cases h with
  | rest | took | refused => exact Or.inl ⟨rfl, rfl⟩
  | gone => exact Or.inr ⟨rfl, rfl⟩
  | waits hnone | sent hnone | failed hnone => rw [hnone] at he; cases he
  | gaveBack | begun | denied | wrote | read | ended => exact absurd rfl (hnot rfl)

/-- A router gets a connection when its request comes, or when it has waited for one. -/
theorem Share.gets {l : LinkId} (h : Share R TcpPools.source p ref taken ds ops m m')
    (hl : m'.bind (·.link?) = some l) :
    m.bind (·.link?) = some l ∨
      ∃ r, m = some r ∧ (r.exchange = none ∨ ∃ e, r.exchange = some e ∧ e.pending.isSome) := by
  have hlink : ∀ {r : Router} {e : Exchange}, r.exchange = some e → r.link? = e.link := fun he => by
    unfold Router.link?
    rw [he]
    rfl
  have hover : ∀ {r : Router} {e : Exchange}, r.exchange = some e → e.Over → r.link? ≠ some l :=
    fun he ho heq => by
      rw [hlink he, ho.link] at heq
      cases heq
  cases h with
  | rest | took | gaveBack | refused => exact Or.inl hl
  | born | gone | waits => cases hl
  | sent hnone => exact Or.inr ⟨_, rfl, Or.inl hnone⟩
  | begun he hw => exact Or.inr ⟨_, rfl, Or.inr ⟨_, he, hw.pending⟩⟩
  | failed _ _ _ _ hex ho | denied _ _ _ hex ho | ended _ _ _ _ _ _ hex ho =>
    exact absurd hl (hover hex ho)
  | wrote he _ hlink' _ _ hex _ hlink'' =>
    rw [Option.bind_some, hlink hex, hlink''] at hl
    rw [Option.bind_some, hlink he, hlink']
    exact Or.inl hl
  | read he _ _ hex _ hsame =>
    rw [Option.bind_some, hlink hex, hsame] at hl
    rw [Option.bind_some, hlink he]
    exact Or.inl hl

/-- A router that takes up nothing of its own stays what it is, has no connection, or has written
its call. -/
theorem Share.wrote_or {r' : Router} {e' : Exchange}
    (h : Share R TcpPools.source p ref taken ds ops m (some r')) (he' : r'.exchange = some e')
    (hl : e'.link.isSome) (hasks : ∀ op ∈ taken, op.isAsk = true) :
    m = some r' ∨ e'.requestComplete = true := by
  have hnot : ∀ {op : RouterOp}, op.isAsk = false → taken ≠ [op] := by
    rintro op hop rfl
    rw [hasks op (List.mem_singleton_self op)] at hop
    cases hop
  cases h with
  | rest | took | gaveBack | refused => exact Or.inl rfl
  | born => cases he'
  | waits =>
    obtain rfl := Option.some.inj he'
    cases hl
  | sent _ _ _ _ _ hex _ _ hsent =>
    obtain rfl := Option.some.inj (hex.symm.trans he')
    exact Or.inr hsent
  | failed _ _ _ _ hex ho =>
    obtain rfl := Option.some.inj (hex.symm.trans he')
    rw [ho.link] at hl
    cases hl
  | begun | denied | wrote | read | ended => exact absurd rfl (hnot rfl)

/-- A router that takes up something of its own does not go. -/
theorem Share.stays {r : Router} {op : RouterOp}
    (h : Share R TcpPools.source p ref [op] ds ops (some r) m') : m'.isSome := by
  cases h with
  | took | gaveBack | begun | denied | wrote | read | ended => rfl

end Session

/-! ## Turns

A turn is what one piece of a session does to the scene: one router had a share, or a stream began.
What it means for the facts that are kept about calls follows rule by rule. -/

namespace Scene

variable {R : RouterRef → Request → Prop} {A : LinkId → Account} {S S' S₁ S₂ S₃ : Scene}
  {taken : RouterRef → List RouterOp} {told told' : List PoolNote} {ref : RouterRef} {r : Router}
  {e : Exchange} {handle : HandleId} {p p' p₁ p₂ p₃ : TcpPools}

/-- A turn of a scene, `taken` being what routers take up in it, and `told` what pools tell, the
latest first. -/
inductive Turn (R : RouterRef → Request → Prop) (taken : RouterRef → List RouterOp)
    (told : List PoolNote) (S S' : Scene) : Prop
  | shared (ref : RouterRef) {ds : List PoolAction} {ops : List RouterOp}
    (ha : Acted ref (taken ref) ops S S') (hothers : ∀ other, other ≠ ref → taken other = [])
    (hone : (S.toDo ref).countP RouterOp.isAnswer ≤ 1) (hpoised : WaitsHoldsOrOver (S.mind ref))
    (hpools : S'.pools = TcpPools.source.playAll ref ds S.pools)
    (htold : told = TcpPools.source.tellAll ref ds S.pools)
    (hs : Session.Share (R ref) TcpPools.source S.pools ref (taken ref) ds ops (S.mind ref)
      (S'.mind ref))
  /-- Streams begin. -/
  | began (htaken : ∀ ref, taken ref = []) (htold : told = []) (hpools : S'.pools = S.pools)
    (htoDo : S'.toDo = S.toDo)
    (hmind : ∀ ref, S'.mind ref = S.mind ref ∨ (¬S.born ref ∧ S'.born ref ∧ S'.mind ref = some {}))
    (hborn : ∀ ref, S.born ref → S'.born ref)

/-- No octets come to routers that hold connections. It is said of all accounts that fit, as who
holds what is known only of a scene in order. -/
def FeedsNobody (R : RouterRef → Request → Prop) (S S' : Scene) : Prop :=
  ∀ A, AccountsFit R A S → ∀ ref l, S'.Fed ref l → S.Fed ref l

theorem FeedsNobody.same (h : S' = S) : FeedsNobody R S S' := fun _ _ _ _ hfed => h ▸ hfed

/-- All that a router has had was let go of: its request was taken back, and its connection was
closed. The order to close is stated only of a connection that was open, since a pool does not
close one twice. -/
structure LetGoOfAll (e : Exchange) (p p' : TcpPools) : Prop where
  back : ∀ handle, e.pending = some handle → p'.isBack handle = true
  closedForGood : ∀ l, e.link = some l → p'.ClosedForGood l
  closed : ∀ l, e.link = some l → p.isOpen l = true → TcpPools.Orders (.close l .noFlush) p p'

theorem LetGoOfAll.behind (h : LetGoOfAll e p₁ p₂) (ho : TcpPools.KeepsFinal p₂ p₃) : LetGoOfAll e p₁ p₃ where
  back handle hi := ho.back handle (h.back handle hi)
  closedForGood l hl := ho.closedForGood l (h.closedForGood l hl)
  closed l hl hopen := (h.closed l hl hopen).behind ho

theorem LetGoOfAll.before (ho : TcpPools.KeepsFinal p₁ p₂)
    (hopen : ∀ l, e.link = some l → p₂.isOpen l = p₁.isOpen l) (h : LetGoOfAll e p₂ p₃) :
    LetGoOfAll e p₁ p₃ where
  back := h.back
  closedForGood := h.closedForGood
  closed l hl hop := (h.closed l hl ((hopen l hl).trans hop)).before ho

theorem Turn.keepsFinal (h : Turn R taken told S S') : TcpPools.KeepsFinal S.pools S'.pools := by
  cases h with
  | shared ref ha _ _ hpoised hpools _ hs =>
    rw [hpools]
    exact TcpPools.playAll_keepsFinal (fun c hc => hs.not_harsh hpoised hc) S.pools
  | began _ _ hpools => exact hpools ▸ .refl S.pools

theorem Turn.born (h : Turn R taken told S S') (hb : S.born ref) : S'.born ref := by
  cases h with
  | shared _ ha => exact ha.born ▸ hb
  | began _ _ _ _ _ hborn => exact hborn ref hb

/-- A router that is gone does not come back. -/
theorem Turn.gone (h : Turn R taken told S S') (hb : S.born ref) (hnone : S.mind ref = none) :
    S'.mind ref = none := by
  cases h with
  | shared other ha =>
    by_cases hne : ref = other
    · subst hne
      exact ha.gone hnone
    · exact (ha.minds ref hne).trans hnone
  | began _ _ _ _ hmind => exact ((hmind ref).resolve_right fun hnot => hnot.1 hb).trans hnone

/-- A scene in order stays in order, and who has read an answer to its end is known. This is where
the lemmas for each kind of share come together. -/
theorem Turn.goes (h : Turn R taken told S S') (hf : AccountsFit R A S) :
    ∃ ref, (∀ other, other ≠ ref → taken other = []) ∧ FitsGrown R A
      (fun l => if answersOn l (taken ref) (S.mind ref) (S'.mind ref) then [ref] else []) S' := by
  cases h with
  | shared ref ha hothers hone hpoised hpools _ hs =>
    exact ⟨ref, hothers, hf.share ha hone hpoised hpools hs⟩
  | began htaken _ hpools htoDo hmind hborn =>
    have hunborn : ∀ ref, ¬S'.born ref → S'.mind ref = none := fun ref hnot => by
      rcases hmind ref with hsame | ⟨-, hnow, -⟩
      · rw [hsame]
        exact (hf.unborn ref fun hb => hnot (hborn ref hb)).1
      · exact absurd hnow hnot
    refine ⟨{ stream := 0 }, fun other _ => htaken other,
      (hf.began hpools htoDo (fun ref => (hmind ref).imp_right fun h => ⟨h.1, h.2.2⟩) hborn
        hunborn).goes.congr fun l => ?_⟩
    rw [htaken, answersOn_of_no_data rfl]
    rfl

/-- A request is taken back once at most, and pools tell of it. -/
theorem Turn.withdraws (h : Turn R taken told S S') (hq : S.Queued) (handle : HandleId) :
    (S'.pools.withdrawn? handle = S.pools.withdrawn? handle ∧
      told.filterMap (·.withdraws? handle) = []) ∨
    (S.pools.withdrawn? handle = none ∧ S'.pools.withdrawn? handle = some .keep ∧
      told.filterMap (·.withdraws? handle) = [.keep]) := by
  cases h with
  | began _ htold hpools =>
    rw [hpools, htold]
    exact Or.inl ⟨rfl, rfl⟩
  | shared ref ha _ _ hpoised hpools htold hs =>
    rw [hpools, htold]
    rcases hs.withdraws hpoised with hnone | ⟨r, e, h₀, hr, he, hi, -, rfl⟩
    · exact Or.inl (TcpPools.playAll_withdraws (hnone handle) S.pools)
    · obtain ⟨q, hq, -, hkept, -⟩ := hq.waits ref r e h₀ hr he hi
      have hknown := (List.getElem?_eq_some_iff.mp hq).1
      obtain ⟨hback, htells⟩ := TcpPools.cancel_withdraws hknown ref .keep handle
      rw [hback, htells]
      by_cases heq : h₀ = handle
      · subst heq
        refine Or.inr ⟨?_, if_pos rfl, if_pos rfl⟩
        rw [TcpPools.withdrawn?, hq]
        exact hkept
      · exact Or.inl ⟨if_neg heq, if_neg heq⟩

/-- A router that goes lets go of all it has. -/
theorem AccountsFit.left_of_leaves (h : AccountsFit R A S) (hpoised : WaitsHoldsOrOver (some r))
    (hr : S.mind ref = some r) (he : r.exchange = some e) :
    LetGoOfAll e S.pools (TcpPools.source.playAll ref (r.leaves.map .did) S.pools) := by
  have hsame : ∀ {e' : Exchange}, r.exchange = some e' → e' = e := fun he' =>
    Option.some.inj (he'.symm.trans he)
  -- It has come to its end, or waits for a pool, or holds a connection.
  rcases WaitsHoldsOrOver.leaves hpoised with ⟨hleaves, hlink, hidle⟩ | ⟨e', i, he', hi, hlink, hleaves⟩ |
    ⟨e', link, he', hidle, hlink, hleaves⟩
  · have hfree : e.link = none := by
      rw [Router.link?, he] at hlink
      exact hlink
    refine ⟨fun handle hi => ?_, fun l hl => ?_, fun l hl => ?_⟩
    · rw [hidle e he] at hi
      cases hi
    · rw [hfree] at hl
      cases hl
    · rw [hfree] at hl
      cases hl
  · obtain rfl := hsame he'
    obtain ⟨q, hq, -⟩ := h.queued.waits ref r e' i hr he hi
    rw [hleaves]
    refine ⟨fun handle hi' => ?_, fun l hl => ?_, fun l hl => ?_⟩
    · obtain rfl := Option.some.inj (hi.symm.trans hi')
      refine TcpPools.isBack_iff.mpr ((TcpPools.cancel_withdraws ?_ ref .keep i).1.trans (if_pos rfl))
      exact (List.getElem?_eq_some_iff.mp hq).1
    · rw [hlink] at hl
      cases hl
    · rw [hlink] at hl
      cases hl
  · obtain rfl := hsame he'
    obtain ⟨howner, hunkept, -⟩ := h.held hr he hlink
    have hknown : (S.pools.owner? link).isSome := by rw [howner]; rfl
    obtain ⟨hclosed, horders⟩ := TcpPools.letGo_closedForGood hknown hunkept ref .noFlush
    rw [PoolSource.playAll_commands, hleaves]
    refine ⟨fun handle hi => ?_, fun l hl => ?_, fun l hl hopen => ?_⟩
    · rw [hidle] at hi
      cases hi
    · obtain rfl := Option.some.inj (hlink.symm.trans hl)
      exact hclosed
    · obtain rfl := Option.some.inj (hlink.symm.trans hl)
      obtain ⟨more, hmore⟩ := horders hopen
      exact ⟨.close link .noFlush :: more, by rw [← hmore, List.append_assoc]; rfl, List.mem_cons_self⟩

/-- As long as routers take up nothing of their own, a router that has asked for a connection stays
what it is, or it goes and lets go of all it has. -/
theorem Turn.parts (h : Turn R taken told S S') (hf : AccountsFit R A S)
    (hasks : ∀ ref, ∀ op ∈ taken ref, op.isAsk = true) (hr : S.mind ref = some r)
    (he : r.exchange = some e) :
    (S'.mind ref = some r ∧ ∀ l, e.link = some l → S'.pools.isOpen l = S.pools.isOpen l) ∨
      (S'.mind ref = none ∧ LetGoOfAll e S.pools S'.pools) := by
  cases h with
  | began _ _ hpools _ hmind =>
    have hsame := (hmind ref).resolve_right fun hnot => hnot.1 (hf.born_of_mind hr)
    exact Or.inl ⟨hsame.trans hr, fun l _ => by rw [hpools]⟩
  | @shared other ds _ ha _ _ hpoised hpools _ hs =>
    by_cases hne : ref = other
    · subst hne
      rw [hr] at hs hpoised
      rcases hs.parts he (hasks ref) with ⟨hkept, rfl⟩ | ⟨hgone, rfl⟩
      · exact Or.inl ⟨hkept, fun l _ => by rw [hpools]; rfl⟩
      · exact Or.inr ⟨hgone, hpools ▸ hf.left_of_leaves hpoised hr he⟩
    · refine Or.inl ⟨(ha.minds ref hne).trans hr, fun l hl => ?_⟩
      obtain ⟨-, hidle, -, hapart, -⟩ := hf.held hr he hl
      rw [hpools]
      refine (TcpPools.playAll_rests (fun c hc => hs.spares hpoised (hapart other (Ne.symm hne)).link
        (fun op hop => ?_) hc) S.pools hidle).1
      cases op with
      | ask => rfl
      | write | deliver => cases hasks other _ hop

/-- What a router takes up it had to do. -/
theorem Turn.mem_toDo {op : RouterOp} (h : Turn R taken told S S') (hop : op ∈ taken ref) :
    op ∈ S.toDo ref := by
  cases h with
  | began hall =>
    rw [hall ref] at hop
    cases hop
  | shared other ha hothers =>
    obtain rfl : ref = other := Classical.byContradiction fun hne => by
      rw [hothers ref hne] at hop
      cases hop
    obtain ⟨left, hleft, -⟩ := ha.toDo
    exact hleft ▸ List.mem_append_left left hop

/-- No octets come to routers in a turn. -/
theorem Turn.feedsNobody (h : Turn R taken told S S') : FeedsNobody R S S' := by
  rintro A hf ref l ⟨hlink, octets, hmem⟩
  cases h with
  | began _ _ _ htoDo hmind =>
    rw [htoDo] at hmem
    rcases hmind ref with hsame | ⟨-, -, hnew⟩
    · exact ⟨(link?_congr hsame).symm.trans hlink, octets, hmem⟩
    · rw [link?_of_blank hnew rfl] at hlink
      cases hlink
  | shared other ha _ _ _ _ _ hs =>
    by_cases hne : ref = other
    · subst hne
      obtain ⟨left, hleft, hleft'⟩ := ha.toDo
      rw [hleft'] at hmem
      have hbefore : .deliver (.data octets) ∈ S.toDo ref := by
        rcases List.mem_append.mp hmem with hmem | hmem
        · exact hleft ▸ List.mem_append_right (taken ref) hmem
        · exact absurd (ha.own _ hmem) id
      -- Octets were on their way to the router before it got the connection: a router that has not
      -- asked has nothing to do, and one that waits can only be answered.
      have herrand : RouterOp.deliver (.data octets) ∈ errands (S.toDo ref) :=
        List.mem_filter.mpr ⟨hbefore, rfl⟩
      rcases hs.gets hlink with hsame | ⟨r, hr, hnone | ⟨e, he, hi⟩⟩
      · exact ⟨hsame, octets, hbefore⟩
      · rw [(hf.tasks ref).blank r hr hnone] at herrand
        cases herrand
      · cases ((hf.tasks ref).waits r e hr he hi).1 _ herrand
    · rw [ha.toDos ref hne] at hmem
      exact ⟨(link?_congr (ha.minds ref hne)).symm.trans hlink, octets, hmem⟩

/-- As long as routers take up nothing of their own, a router with a connection was what it is, or
has written its call. -/
theorem Turn.wrote_or {r' : Router} {e' : Exchange} (h : Turn R taken told S S')
    (hasks : ∀ ref, ∀ op ∈ taken ref, op.isAsk = true) (hr' : S'.mind ref = some r')
    (he' : r'.exchange = some e') (hl : e'.link.isSome) :
    S.mind ref = some r' ∨ e'.requestComplete = true := by
  cases h with
  | began _ _ _ _ hmind =>
    rcases hmind ref with hsame | ⟨-, -, hnew⟩
    · exact Or.inl (hsame.symm.trans hr')
    · obtain rfl := Option.some.inj (hnew.symm.trans hr')
      cases he'
  | shared other ha _ _ _ _ _ hs =>
    by_cases hne : ref = other
    · subst hne
      rw [hr'] at hs
      exact hs.wrote_or he' hl (hasks ref)
    · exact Or.inl ((ha.minds ref hne).symm.trans hr')

/-- A connection that comes for a router that is gone goes to its pool, unused. -/
theorem Turn.returned {l : LinkId} {host : HostRef} {op : RouterOp} (h : Turn R taken told S S')
    (hf : AccountsFit R A S) (hop : op = .deliver (.ready l host)) (htaken : taken ref = [op])
    (hnone : S.mind ref = none) :
    S'.pools.sends l = [] ∧ S'.pools.owner? l = some none ∧
      S'.pools.isOpen l = (S.pools.isOpen l && S.pools.isLodged l) ∧
      S'.pools.idleCount l = (S.pools.isOpen l && S.pools.isLodged l).toNat := by
  cases h with
  | began hall =>
    rw [hall ref] at htaken
    cases htaken
  | @shared other ds ops ha hothers _ _ hpools _ hs =>
    obtain rfl : ref = other := Classical.byContradiction fun hne => by
      rw [hothers ref hne] at htaken
      cases htaken
    obtain ⟨left, hleft, -⟩ := ha.toDo
    rw [htaken] at hs hleft
    rw [hnone, hop] at hs
    -- The task says that the connection was on its way to the router, so nobody else has it.
    have hcomes : S.comes ref l ≠ 0 := by
      unfold Scene.comes
      rw [hleft, hop, List.singleton_append, List.countP_cons_of_pos (by simp [RouterOp.brings_ready])]
      exact Nat.succ_ne_zero _
    obtain ⟨howner, hidle, -, -, -, haccount⟩ := hf.coming hcomes
    generalize hm' : S'.mind ref = m' at hs
    cases hs with
    | took hready => exact absurd rfl (hready l host)
    | gaveBack link host h =>
      change S'.pools = TcpPools.source.performAll ref (LinkCommand.letGo none (some l)) S.pools at hpools
      obtain ⟨hopen, hkept⟩ := TcpPools.letGo_kept ref none l S.pools
      rw [hpools, hopen, hkept, hidle, (TcpPools.letGo_givesBack none l S.pools).owner, howner,
        (TcpPools.letGo_quiet ref none (some l) S.pools).sends, hf.sends, haccount, Nat.zero_add]
      exact ⟨rfl, rfl, rfl, rfl⟩

theorem Turn.goes_quiet (h : Turn R taken told S S') (hf : AccountsFit R A S)
    (hasks : ∀ ref, ∀ op ∈ taken ref, op.isAsk = true) : FitsGrown R A (fun _ => []) S' := by
  obtain ⟨ref, -, hgoes⟩ := h.goes hf
  refine hgoes.congr fun l => ?_
  rw [answersOn_of_no_data, if_neg (by simp)]
  rw [List.any_eq_false]
  intro op hop
  cases op with
  | ask => simp [RouterOp.isData]
  | write | deliver => cases hasks ref _ hop

/-! ## Turns one after another

A task of a stream can take many turns, as when a request begins its call. They are taken together
here. -/

/-- Turns in which routers take up nothing of their own. They come of tasks that are for a stream,
such as a request that goes on and begins a call on its way, and of what is done with streams at
once. -/
inductive Turns (R : RouterRef → Request → Prop) : List PoolNote → Scene → Scene → Prop
  | refl (S : Scene) : Turns R [] S S
  | snoc {S₁ S₂ S₃ : Scene} {told told' : List PoolNote} {taken : RouterRef → List RouterOp}
    (h₁ : Turns R told S₁ S₂) (hasks : ∀ ref, ∀ op ∈ taken ref, op.isAsk = true)
    (h₂ : Turn R taken told' S₂ S₃) : Turns R (told' ++ told) S₁ S₃

theorem Turns.keepsFinal (h : Turns R told S S') : TcpPools.KeepsFinal S.pools S'.pools := by
  induction h with
  | refl S => exact .refl S.pools
  | snoc _ _ h₂ ih => exact ih.trans h₂.keepsFinal

theorem Turns.born (h : Turns R told S S') (hb : S.born ref) : S'.born ref := by
  induction h with
  | refl => exact hb
  | snoc _ _ h₂ ih => exact h₂.born (ih hb)

theorem Turns.gone (h : Turns R told S S') (hb : S.born ref) (hnone : S.mind ref = none) :
    S'.mind ref = none := by
  induction h with
  | refl => exact hnone
  | snoc h₁ _ h₂ ih => exact h₂.gone (h₁.born hb) (ih hb hnone)

theorem Turns.goes (h : Turns R told S S') (hf : AccountsFit R A S) : FitsGrown R A (fun _ => []) S' := by
  induction h with
  | refl => exact hf.goes
  | snoc _ hasks h₂ ih =>
    obtain ⟨A₁, hf₁, hgrown₁⟩ := ih hf
    obtain ⟨A₂, hf₂, hgrown₂⟩ := h₂.goes_quiet hf₁ hasks
    refine ⟨A₂, hf₂, fun l => ⟨(hgrown₁ l).1.trans (hgrown₂ l).1, ?_⟩⟩
    rw [(hgrown₂ l).2, (hgrown₁ l).2, List.append_nil]

theorem Turns.withdraws (h : Turns R told S S') (hf : AccountsFit R A S) (handle : HandleId) :
    (S'.pools.withdrawn? handle = S.pools.withdrawn? handle ∧
      told.filterMap (·.withdraws? handle) = []) ∨
    (S.pools.withdrawn? handle = none ∧ S'.pools.withdrawn? handle = some .keep ∧
      told.filterMap (·.withdraws? handle) = [.keep]) := by
  induction h with
  | refl => exact Or.inl ⟨rfl, rfl⟩
  | snoc h₁ _ h₂ ih =>
    obtain ⟨A₁, hf₁, -⟩ := h₁.goes hf
    rw [List.filterMap_append]
    rcases h₂.withdraws hf₁.queued handle with ⟨hsame, hnone⟩ | ⟨hfree, hback, hone⟩
    · rw [hsame, hnone]
      exact ih hf
    · rcases ih hf with ⟨hsame', hnone'⟩ | ⟨-, hback', -⟩
      · rw [hone, hnone']
        exact Or.inr ⟨hsame'.symm.trans hfree, hback, rfl⟩
      · rw [hback'] at hfree
        cases hfree

/-- A router that has asked for a connection stays what it is, or goes and lets go of all it has. -/
theorem Turns.parts (h : Turns R told S S') (hf : AccountsFit R A S) (hr : S.mind ref = some r)
    (he : r.exchange = some e) :
    (S'.mind ref = some r ∧ ∀ l, e.link = some l → S'.pools.isOpen l = S.pools.isOpen l) ∨
      (S'.mind ref = none ∧ LetGoOfAll e S.pools S'.pools) := by
  induction h with
  | refl => exact Or.inl ⟨hr, fun _ _ => rfl⟩
  | snoc h₁ hasks h₂ ih =>
    obtain ⟨A₁, hf₁, -⟩ := h₁.goes hf
    rcases ih hf hr with ⟨hr₁, hopen₁⟩ | ⟨hnone, hleft⟩
    · rcases h₂.parts hf₁ hasks hr₁ he with ⟨hr₂, hopen₂⟩ | ⟨hnone, hleft⟩
      · exact Or.inl ⟨hr₂, fun l hl => (hopen₂ l hl).trans (hopen₁ l hl)⟩
      · exact Or.inr ⟨hnone, hleft.before h₁.keepsFinal hopen₁⟩
    · exact Or.inr ⟨h₂.gone (h₁.born (hf.born_of_mind hr)) hnone, hleft.behind h₂.keepsFinal⟩

theorem Turns.feedsNobody (h : Turns R told S S') : FeedsNobody R S S' := by
  induction h with
  | refl => exact .same rfl
  | snoc h₁ _ h₂ ih =>
    intro A hf ref l hfed
    obtain ⟨A₁, hf₁, -⟩ := h₁.goes hf
    exact ih A hf ref l (h₂.feedsNobody A₁ hf₁ ref l hfed)

/-- A router with a connection was what it is, or has written its call. -/
theorem Turns.wrote_or {r' : Router} {e' : Exchange} (h : Turns R told S S')
    (hr' : S'.mind ref = some r') (he' : r'.exchange = some e') (hl : e'.link.isSome) :
    S.mind ref = some r' ∨ e'.requestComplete = true := by
  induction h with
  | refl => exact Or.inl hr'
  | snoc _ hasks h₂ ih =>
    rcases h₂.wrote_or hasks hr' he' hl with hsame | hdone
    · exact ih hsame
    · exact Or.inr hdone

/-! ## Pieces of work

A piece of work is a run of turns, a turn with a task of a router, or something from outside. These
are all the ways in which a crowd changes its scene. -/

/-- A router that reads an answer to its end on a connection, so that the connection is fit for
another call. It is found by comparing what routers have in mind before and after, for the task that
is taken up; nothing is recorded. -/
def answer? (l : LinkId) (task : Option Task) (mind mind' : RouterRef → Option Router) :
    Option RouterRef :=
  match task with
  | some (.router ref op) => if answersOn l [op] (mind ref) (mind' ref) then some ref else none
  | some (.stream _ _) | some .closed | none => none

theorem answer?_of_ask {l : LinkId} {task : Option Task} {mind mind' : RouterRef → Option Router}
    (h : ∀ ref op, task = some (.router ref op) → op.isAsk = true) :
    answer? l task mind mind' = none := by
  cases task with
  | none => rfl
  | some t =>
    cases t with
    | stream | closed => rfl
    | router ref op =>
      cases op with
      | ask => rfl
      | write | deliver => cases h ref _ rfl

/-- What a piece of work is to a scene. The first form is for what comes from outside, where no
router does anything: it asks for what is needed later and leaves open how it comes about, as
sockets, hosts that are renewed and clients that connect have little else in common. -/
inductive Advance (R : RouterRef → Request → Prop) (task : Option Task) (told : List PoolNote)
    (S S' : Scene) : Prop
  | apart (htask : ∀ ref op, task = some (.router ref op) → op.isAsk = true) (htold : told = [])
    (hmind : S'.mind = S.mind) (hborn : ∀ ref, S.born ref → S'.born ref)
    (honward : TcpPools.KeepsFinal S.pools S'.pools)
    (hwithdrawn : ∀ handle, S'.pools.withdrawn? handle = S.pools.withdrawn? handle)
    (hfits : ∀ A, AccountsFit R A S → AccountsFit R A S')
    (hfed : ∀ A, AccountsFit R A S → ∀ ref l, S'.Fed ref l →
      S.Fed ref l ∨ (S.pools.isOpen l = true ∧ S.pools.owner? l = some (some ref)))
  /-- Routers take up nothing of their own. -/
  | quiet (htask : ∀ ref op, task = some (.router ref op) → op.isAsk = true) (h : Turns R told S S')
  /-- A router takes up one thing of its own. -/
  | took {ref : RouterRef} {op : RouterOp} (htask : task = some (.router ref op))
    (hask : op.isAsk = false)
    (h : Turn R (fun other => if other = ref then [op] else []) told S S')

/-- A piece of work that does nothing. -/
theorem Advance.idle {task : Option Task}
    (htask : ∀ ref op, task = some (.router ref op) → op.isAsk = true) (h : S' = S) :
    Advance R task [] S S' := by
  subst h
  exact .apart htask rfl rfl (fun _ hb => hb) (.refl _) (fun _ => rfl) (fun _ hf => hf)
    fun _ _ _ _ hfed => Or.inl hfed

/-- What a socket does leaves routers alone. -/
theorem OnlyTold.advance {alive : RouterRef → Bool} {o : TcpPools.Outcome}
    (hdo : TcpPools.SocketDoes alive S.pools o) (hpools : S'.pools = o.pools)
    (ht : OnlyTold o.told S S') (hpoised : ∀ ref, WaitsHoldsOrOver (S.mind ref)) : Advance R none [] S S' := by
  refine .apart nofun rfl ht.mind (fun ref hb => ht.born ▸ hb) ?_ (fun handle => ?_)
    (fun A hf => hf.does hdo hpools ht hpoised) fun A hf ref l hfed => ht.fed hf hdo hfed
  · rw [hpools]
    cases hdo with
    | connected handle result => exact TcpPools.onConnected_keepsFinal alive handle result S.pools
    | data link octets => exact TcpPools.onData_keepsFinal alive link octets S.pools
    | closed link event => exact TcpPools.onClosed_keepsFinal alive link event S.pools
  · rw [hpools]
    cases hdo with
    | connected i result =>
      rcases TcpPools.onConnected_told alive i result S.pools with ho | ⟨q, -, -, hrequests, -⟩
      · rw [ho]
      · unfold TcpPools.withdrawn?
        rw [hrequests, List.getElem?_modify]
        split <;> cases S.pools.requests[handle]? <;> rfl
    | data link octets =>
      exact TcpPools.withdrawn?_congr (TcpPools.onData_requests alive link octets S.pools) handle
    | closed link event =>
      exact TcpPools.withdrawn?_congr (TcpPools.onClosed_requests alive link event S.pools) handle

variable {task : Option Task}

theorem Advance.keepsFinal (h : Advance R task told S S') : TcpPools.KeepsFinal S.pools S'.pools := by
  cases h with
  | apart _ _ _ _ honward => exact honward
  | quiet _ h => exact h.keepsFinal
  | took _ _ h => exact h.keepsFinal

theorem Advance.born (h : Advance R task told S S') (hb : S.born ref) : S'.born ref := by
  cases h with
  | apart _ _ _ hborn => exact hborn ref hb
  | quiet _ h => exact h.born hb
  | took _ _ h => exact h.born hb

/-- A router that is gone does not come back. -/
theorem Advance.gone (h : Advance R task told S S') (hb : S.born ref) (hnone : S.mind ref = none) :
    S'.mind ref = none := by
  cases h with
  | apart _ _ hmind => rwa [hmind]
  | quiet _ h => exact h.gone hb hnone
  | took _ _ h => exact h.gone hb hnone

/-- A scene in order stays in order, and who has read an answer to its end is known: it is the
router that takes up something of its own, if it is anybody. -/
theorem Advance.goes (h : Advance R task told S S') (hf : AccountsFit R A S) :
    FitsGrown R A (fun l => (answer? l task S.mind S'.mind).toList) S' := by
  cases h with
  | apart htask _ _ _ _ _ hfits =>
    exact (hfits A hf).goes.congr fun l => by rw [answer?_of_ask htask]; rfl
  | quiet htask h => exact (h.goes hf).congr fun l => by rw [answer?_of_ask htask]; rfl
  | @took ref op htask _ h =>
    obtain ⟨other, hothers, hgoes⟩ := h.goes hf
    obtain rfl : other = ref := Classical.byContradiction fun hne => by
      have hnone := hothers ref (Ne.symm hne)
      rw [if_pos rfl] at hnone
      cases hnone
    refine hgoes.congr fun l => ?_
    rw [htask, if_pos rfl, answer?]
    split <;> rfl

/-- A request is taken back once at most, and pools tell of it. -/
theorem Advance.withdraws (h : Advance R task told S S') (hf : AccountsFit R A S) (handle : HandleId) :
    (S'.pools.withdrawn? handle = S.pools.withdrawn? handle ∧
      told.filterMap (·.withdraws? handle) = []) ∨
    (S.pools.withdrawn? handle = none ∧ S'.pools.withdrawn? handle = some .keep ∧
      told.filterMap (·.withdraws? handle) = [.keep]) := by
  cases h with
  | apart _ htold _ _ _ hwithdrawn =>
    rw [htold]
    exact Or.inl ⟨hwithdrawn handle, rfl⟩
  | quiet _ h => exact h.withdraws hf handle
  | took _ _ h => exact h.withdraws hf.queued handle

/-- A router that goes, having asked for a connection before, lets go of all it has. -/
theorem Advance.left (h : Advance R task told S S') (hf : AccountsFit R A S) (hr : S.mind ref = some r)
    (he : r.exchange = some e) (hnone : S'.mind ref = none) : LetGoOfAll e S.pools S'.pools := by
  cases h with
  | apart _ _ hmind =>
    rw [hmind, hr] at hnone
    cases hnone
  | quiet _ h =>
    rcases h.parts hf hr he with ⟨hkept, -⟩ | ⟨-, hleft⟩
    · rw [hkept] at hnone
      cases hnone
    · exact hleft
  | @took other op _ _ h =>
    cases h with
    | began htaken =>
      have hall := htaken other
      rw [if_pos rfl] at hall
      cases hall
    | shared ref' ha hothers _ _ _ _ hs =>
      -- The router that takes up something of its own does not go, and nobody else does anything.
      obtain rfl : ref' = other := Classical.byContradiction fun hne => by
        have hempty := hothers other (Ne.symm hne)
        rw [if_pos rfl] at hempty
        cases hempty
      by_cases hne : ref = ref'
      · subst hne
        rw [hr, if_pos rfl] at hs
        have hstays := hs.stays
        rw [hnone] at hstays
        cases hstays
      · rw [ha.minds ref hne, hr] at hnone
        cases hnone

/-- A connection that comes for a router that is gone goes to its pool, unused. -/
theorem Advance.returned {l : LinkId} {host : HostRef}
    (h : Advance R (some (.router ref (.deliver (.ready l host)))) told S S') (hf : AccountsFit R A S)
    (hnone : S.mind ref = none) :
    S'.pools.sends l = [] ∧ S'.pools.owner? l = some none ∧
      S'.pools.isOpen l = (S.pools.isOpen l && S.pools.isLodged l) ∧
      S'.pools.idleCount l = (S.pools.isOpen l && S.pools.isLodged l).toNat := by
  cases h with
  | apart htask => cases htask _ _ rfl
  | quiet htask => cases htask _ _ rfl
  | took htask _ h =>
    obtain ⟨rfl, rfl⟩ := Task.router.inj (Option.some.inj htask)
    exact h.returned hf rfl (if_pos rfl) hnone

/-- Octets come to routers from sockets alone, on open connections. -/
theorem Advance.fed (h : Advance R task told S S') (hf : AccountsFit R A S) {l : LinkId}
    (hfed : S'.Fed ref l) :
    S.Fed ref l ∨ (S.pools.isOpen l = true ∧ S.pools.owner? l = some (some ref)) := by
  cases h with
  | apart _ _ _ _ _ _ _ hfeds => exact hfeds A hf ref l hfed
  | quiet _ h => exact Or.inl (h.feedsNobody A hf ref l hfed)
  | took _ _ h => exact Or.inl (h.feedsNobody A hf ref l hfed)

theorem Advance.mem_toDo {op : RouterOp} (h : Advance R task told S S')
    (htask : task = some (.router ref op)) (hask : op.isAsk = false) : op ∈ S.toDo ref := by
  cases h with
  | apart hasks | quiet hasks =>
    rw [hasks ref op htask] at hask
    cases hask
  | took htook _ h =>
    obtain ⟨rfl, rfl⟩ := Task.router.inj (Option.some.inj (htook.symm.trans htask))
    exact h.mem_toDo (by rw [if_pos rfl]; exact List.mem_singleton_self _)

/-- As long as routers take up nothing of their own, a router with a connection was what it is, or
has written its call. -/
theorem Advance.wrote_or {r' : Router} {e' : Exchange} (h : Advance R none told S S')
    (hr' : S'.mind ref = some r') (he' : r'.exchange = some e') (hl : e'.link.isSome) :
    S.mind ref = some r' ∨ e'.requestComplete = true := by
  cases h with
  | apart _ _ hmind => exact Or.inl (hmind ▸ hr')
  | quiet _ h => exact h.wrote_or hr' he' hl
  | took htask => cases htask

end Scene

end RpcProxy

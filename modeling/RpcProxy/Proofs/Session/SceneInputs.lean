import RpcProxy.Proofs.Session.ShareSteps

/-!
# What comes to a scene from outside

Besides the shares of routers, two things change a scene. Streams begin, with routers that have
nothing in mind yet (`AccountsFit.began`). And sockets do something: a pool changes, and one router
may be told (`OnlyTold`). A socket tells a router by a task that is taken up later, so what any
router has in mind stays the same at first, and all that changes at once are the pools and one list
of things to do.

A router is told of a connection that has come up only if its request is neither over nor taken
back, so it waits and is told once. It is told of octets and of an end only if it holds the
connection. Both follow from what the scene says of requests and owners, and both are needed: a
router that is told something it does not expect would have it in its list of things to do at a
moment when it must be about to write.

A connection that comes up enters its first place here, on its way to a router or kept by its pool;
and one that ends stays in its place, but is open no longer, so that nothing more is said of it.
-/

set_option autoImplicit false

namespace RpcProxy

/-- What a router is told, if it is the one that is told. Nobody else is told anything by the same
socket event. -/
def toldTo (ref : RouterRef) : Option (RouterRef × Delivery) → List RouterOp
  | none => []
  | some (other, d) => if other = ref then [.deliver d] else []

theorem mem_toldTo {ref : RouterRef} {told : Option (RouterRef × Delivery)} {op : RouterOp} :
    op ∈ toldTo ref told ↔ ∃ d, op = .deliver d ∧ told = some (ref, d) := by
  cases told with
  | none => simp [toldTo]
  | some x =>
    obtain ⟨other, d⟩ := x
    by_cases he : other = ref
    · simp [toldTo, he]
    · simp [toldTo, he]

namespace TcpPools

/-- What sockets can do, with what follows. -/
inductive SocketDoes (alive : RouterRef → Bool) (p : TcpPools) : Outcome → Prop
  | connected (handle : HandleId) (result : ConnectResult) :
    SocketDoes alive p (p.onConnected alive handle result)
  | data (link : LinkId) (octets : Bytes) : SocketDoes alive p (p.onData alive link octets)
  | closed (link : LinkId) (event : ConnectionEvent) :
    SocketDoes alive p (p.onClosed alive link event)

/-- Only routers that are there are told anything. Pools ask before they tell, and what comes for a
router that is gone is kept, closed or dropped. -/
theorem SocketDoes.alive {alive : RouterRef → Bool} {p : TcpPools} {o : Outcome} {ref : RouterRef}
    {d : Delivery} (h : SocketDoes alive p o) (hd : o.told = some (ref, d)) : alive ref = true := by
  cases h with
  | connected handle result =>
    rcases onConnected_cases alive handle result p with
      ⟨-, hwho⟩ | ⟨link, -, hnone | ⟨other, host, ha, -, -, htells⟩⟩
    · exact (hwho ref d hd).1
    · rw [hnone] at hd
      cases hd
    · rw [htells] at hd
      obtain ⟨rfl, -⟩ := Prod.mk.inj (Option.some.inj hd)
      exact ha
  | data link octets =>
    rcases onData_cases alive link octets p with ⟨-, ho⟩ | ⟨-, other, -, ha, ho⟩ | ⟨-, -, p', -, ho⟩
    · rw [ho] at hd
      cases hd
    · rw [ho] at hd
      obtain ⟨rfl, -⟩ := Prod.mk.inj (Option.some.inj hd)
      exact ha
    · rw [ho] at hd
      cases hd
  | closed link event =>
    rcases onClosed_cases alive link event p with ⟨-, ho⟩ | ⟨-, p', -, ⟨other, -, ha, ho⟩ | ⟨-, ho⟩⟩
    · rw [ho] at hd
      cases hd
    · rw [ho] at hd
      obtain ⟨rfl, -⟩ := Prod.mk.inj (Option.some.inj hd)
      exact ha
    · rw [ho] at hd
      cases hd

end TcpPools

/-- A router is told something that suits what it has in mind. -/
theorem TasksSuit.told {R : Request → Prop} {m : Option Router} {ops : List RouterOp} {d : Delivery}
    (h : TasksSuit R m ops) (hpoised : WaitsHoldsOrOver m)
    (hsuits : ∀ r, m = some r → ∃ e, r.exchange = some e ∧ (d.isAnswer = true ∨ e.link.isSome)) :
    TasksSuit R m (ops ++ [.deliver d]) := by
  have herrands : errands (ops ++ [.deliver d]) = errands ops ++ [.deliver d] :=
    Scene.errands_append ops [.deliver d]
  refine ⟨fun r hr hnone => ?_, fun r e hr he hi => ?_, fun r e hr he hl hunsent => ?_, h.line⟩
  · obtain ⟨e, he, -⟩ := hsuits r hr
    rw [hnone] at he
    cases he
  · obtain ⟨hall, hnot⟩ := h.waits r e hr he hi
    refine ⟨fun op hop => ?_, hnot⟩
    rw [herrands] at hop
    rcases List.mem_append.mp hop with hop | hop
    · exact hall op hop
    · obtain ⟨e₁, he₁, hd⟩ := hsuits r hr
      obtain rfl := Option.some.inj (he.symm.trans he₁)
      rw [List.mem_singleton.mp hop]
      refine hd.resolve_right fun hl => ?_
      -- Who waits has no connection yet.
      rcases hpoised r e hr he with hw | hh | ho
      · rw [hw.link] at hl
        cases hl
      · rw [hh.pending] at hi
        cases hi
      · rw [ho.pending] at hi
        cases hi
  · obtain ⟨rest, hrest⟩ := h.unsent r e hr he hl hunsent
    exact ⟨rest ++ [.deliver d], by rw [herrands, hrest]; rfl⟩

namespace Scene

variable {R : RouterRef → Request → Prop} {A : LinkId → Account} {S S' : Scene} {ref other : RouterRef}
  {link : LinkId} {told : Option (RouterRef × Delivery)}

/-! ## Streams that begin -/

/-- Streams begin. Their routers have nothing in mind and nothing to do, so no connection changes
its place. -/
theorem AccountsFit.began (h : AccountsFit R A S) (hpools : S'.pools = S.pools) (htoDo : S'.toDo = S.toDo)
    (hmind : ∀ ref, S'.mind ref = S.mind ref ∨
      (¬S.born ref ∧ S'.mind ref = some {}))
    (hborn : ∀ ref, S.born ref → S'.born ref)
    (hunborn : ∀ ref, ¬S'.born ref → S'.mind ref = none) : AccountsFit R A S' := by
  have hkept : ∀ ref, S.born ref → S'.mind ref = S.mind ref := fun ref hb =>
    (hmind ref).resolve_right fun hnew => hnew.1 hb
  have hold : ∀ ref r e, S'.mind ref = some r → r.exchange = some e → S.mind ref = some r := by
    intro ref r e hr he
    -- A new router holds nothing, and held nothing before.
    rcases hmind ref with hsame | ⟨-, hnew⟩
    · exact hsame ▸ hr
    · obtain rfl := Option.some.inj (hnew.symm.trans hr)
      cases he
  refine ⟨fun l => ?_, fun l => ?_, fun ref hnot => ⟨hunborn ref hnot, ?_⟩, fun ref => ?_,
    ⟨fun ref r e i hr he hi => ?_, fun i q hq => ?_, fun i q hq ho hc => ?_⟩,
    ⟨fun l c hc => ?_, h.booked.once⟩⟩
  · refine (h.place l).away (hpools ▸ TcpPools.AtMostCloses.refl _ l) fun ref => ?_
    refine ⟨by rw [Scene.comes, htoDo]; rfl, fun _ event hmem => htoDo ▸ hmem, ?_⟩
    rcases hmind ref with hsame | ⟨hnot, hnew⟩
    · exact Or.inl hsame
    · refine Or.inr ⟨?_, ?_⟩
      · rw [link?_of_none (h.unborn ref hnot).1]
        exact (Option.some_ne_none l).symm
      · rw [link?_of_blank hnew rfl]
        exact (Option.some_ne_none l).symm
  · rw [hpools]
    exact h.sends l
  · rw [htoDo]
    exact (h.unborn ref fun hb => hnot (hborn ref hb)).2
  · rw [htoDo]
    rcases hmind ref with hsame | ⟨hnot, hnew⟩
    · rw [hsame]
      exact h.tasks ref
    · rw [hnew, (h.unborn ref hnot).2]
      refine ⟨fun _ _ _ => rfl, fun r e hr he => ?_, fun r e hr he => ?_, fun r e hr he => ?_⟩
      all_goals
        obtain rfl := Option.some.inj hr
        cases he
  · obtain ⟨q, hq, hrest⟩ := h.queued.waits ref r e i (hold ref r e hr he) he hi
    rw [hpools, htoDo]
    exact ⟨q, hq, hrest⟩
  · rw [hpools] at hq
    obtain ⟨hb, hfinds⟩ := h.queued.asked i q hq
    exact ⟨hborn _ hb, fun r hr => hfinds r (hkept _ hb ▸ hr)⟩
  · rw [hpools] at hq
    rw [hkept _ (h.queued.asked i q hq).1]
    exact h.queued.underway i q hq ho hc
  · obtain ⟨hb, hrouted, hspent⟩ := h.booked.spent l c hc
    exact ⟨hborn _ hb, hrouted, (hkept _ hb).symm ▸ hspent⟩

/-! ## What sockets do -/

/-- Nothing has happened to routers, but that one of them may have been told something. -/
structure OnlyTold (told : Option (RouterRef × Delivery)) (S S' : Scene) : Prop where
  mind : S'.mind = S.mind
  born : S'.born = S.born
  toDo : ∀ ref, S'.toDo ref = S.toDo ref ++ toldTo ref told
  there : ∀ ref d, told = some (ref, d) → (S.mind ref).isSome

theorem OnlyTold.link? (ht : OnlyTold told S S') (ref : RouterRef) : S'.link? ref = S.link? ref :=
  link?_congr (by rw [ht.mind])

theorem OnlyTold.comes (ht : OnlyTold told S S') (ref : RouterRef) (l : LinkId) :
    S'.comes ref l = S.comes ref l + (toldTo ref told).countP (·.brings l) := by
  unfold Scene.comes
  rw [ht.toDo, List.countP_append]

theorem OnlyTold.toDo_of_ne (ht : OnlyTold told S S') (hne : ∀ d, told ≠ some (ref, d)) :
    S'.toDo ref = S.toDo ref := by
  rw [ht.toDo]
  cases told with
  | none => exact List.append_nil _
  | some x =>
    obtain ⟨other, d⟩ := x
    have hne : other ≠ ref := fun he => hne d (by rw [he])
    rw [toldTo, if_neg hne, List.append_nil]

theorem OnlyTold.toDo_self {d : Delivery} (ht : OnlyTold (some (ref, d)) S S') :
    S'.toDo ref = S.toDo ref ++ [.deliver d] := by
  rw [ht.toDo, toldTo, if_pos rfl]

/-- A connection that is not brought, and of whose end nobody is told who holds it, is left
alone. -/
theorem OnlyTold.beside (ht : OnlyTold told S S') {l : LinkId}
    (hbrings : ∀ ref d, told = some (ref, d) → d.brings l = false)
    (hends : ∀ ref event, told = some (ref, .event event) → S.link? ref ≠ some l) (ref : RouterRef) :
    SameRelation S S' l ref := by
  refine ⟨?_, fun hl event hmem => ?_, Or.inl (by rw [ht.mind])⟩
  · rw [ht.comes, List.countP_eq_zero.mpr, Nat.add_zero]
    intro op hmem
    obtain ⟨d, rfl, hd⟩ := mem_toldTo.mp hmem
    exact Bool.eq_false_iff.mp (hbrings ref d hd)
  · rw [ht.toDo] at hmem
    rcases List.mem_append.mp hmem with hmem | hmem
    · exact hmem
    · obtain ⟨d, he, hd⟩ := mem_toldTo.mp hmem
      obtain rfl := RouterOp.deliver.inj he
      exact absurd hl (hends ref event hd)

/-- What holds of a scene behind something that a socket does, if the place of every connection was
looked at. Whoever is told something must have been waiting for an answer or hold a connection. -/
theorem AccountsFit.heard (h : AccountsFit R A S) (ht : OnlyTold told S S')
    (hpoised : ∀ ref, WaitsHoldsOrOver (S.mind ref))
    (hplace : ∀ l, S'.Place (A l) l) (hsends : ∀ l, S'.pools.sends l = S.pools.sends l)
    (hsuits : ∀ ref d, told = some (ref, d) → ∀ r, S.mind ref = some r →
      ∃ e, r.exchange = some e ∧ (d.isAnswer = true ∨ e.link.isSome)) (hqueued : S'.Queued) :
    AccountsFit R A S' where
  place := hplace
  sends l := (hsends l).trans (h.sends l)
  unborn ref hnot := by
    rw [ht.born] at hnot
    obtain ⟨hnone, hempty⟩ := h.unborn ref hnot
    rw [ht.mind]
    refine ⟨hnone, (ht.toDo_of_ne fun d hd => ?_).trans hempty⟩
    have hthere := ht.there ref d hd
    rw [hnone] at hthere
    cases hthere
  tasks ref := by
    rw [ht.mind]
    by_cases hd : ∃ d, told = some (ref, d)
    · obtain ⟨d, rfl⟩ := hd
      rw [ht.toDo_self]
      exact (h.tasks ref).told (hpoised ref) (hsuits ref d rfl)
    · rw [ht.toDo_of_ne fun d he => hd ⟨d, he⟩]
      exact h.tasks ref
  queued := hqueued
  booked := by
    refine ⟨fun l c hc => ?_, h.booked.once⟩
    rw [ht.mind, ht.born]
    exact h.booked.spent l c hc

/-- Nobody is answered. -/
theorem Queued.heard (h : S.Queued) (ht : OnlyTold told S S')
    (hrequests : S'.pools.requests = S.pools.requests)
    (hd : ∀ ref d, told = some (ref, d) → d.isAnswer = false) : S'.Queued := by
  have hanswers : ∀ ref, (S'.toDo ref).countP RouterOp.isAnswer =
      (S.toDo ref).countP RouterOp.isAnswer := by
    intro ref
    by_cases htold : ∃ d, told = some (ref, d)
    · obtain ⟨d, rfl⟩ := htold
      have hnot : (RouterOp.deliver d).isAnswer = false := hd ref d rfl
      rw [ht.toDo_self, List.countP_append, List.countP_singleton, hnot]
      rfl
    · rw [ht.toDo_of_ne fun d he => htold ⟨d, he⟩]
  refine ⟨fun ref r e i hr he hi => ?_, fun i q hq => ?_, fun i q hq => ?_⟩
  · rw [ht.mind] at hr
    rw [hrequests, hanswers]
    exact h.waits ref r e i hr he hi
  · rw [hrequests] at hq
    rw [ht.mind, ht.born]
    exact h.asked i q hq
  · rw [hrequests] at hq
    rw [ht.mind]
    exact h.underway i q hq

/-- A request is over, and its router is told if it waits. From then on nothing is said of the
request, so the answer that the router has to take up now is not in the way. -/
theorem Queued.over {i : HandleId} {q : ConnectRequest} (h : S.Queued) (ht : OnlyTold told S S')
    (hq : S.pools.requests[i]? = some q) (hopen : q.isOver = false)
    (hrequests : S'.pools.requests = S.pools.requests.modify i fun r => { r with isOver := true })
    (htold : ∀ ref d, told = some (ref, d) → ref = q.router ∧ q.cancelled = none) : S'.Queued := by
  have hlook : ∀ j : Nat, S'.pools.requests[j]? =
      (S.pools.requests[j]?).map fun r => if i = j then { r with isOver := true } else r := by
    intro j
    rw [hrequests]
    exact List.getElem?_modify ..
  refine ⟨fun ref r e j hr he hj => ?_, fun j q' hq' => ?_, fun j q' hq' ho hc => ?_⟩
  · rw [ht.mind] at hr
    obtain ⟨q₁, hq₁, hrouter, hkept, hquiet⟩ := h.waits ref r e j hr he hj
    rw [hlook, hq₁, Option.map_some]
    by_cases hij : i = j
    · rw [if_pos hij]
      exact ⟨_, rfl, hrouter, hkept, fun hnot => nomatch hnot⟩
    · rw [if_neg hij]
      refine ⟨q₁, rfl, hrouter, hkept, fun hnot => ?_⟩
      -- The one who is told waits for another request than this.
      have hne : ∀ d, told ≠ some (ref, d) := by
        intro d hd
        obtain ⟨rfl, hnone⟩ := htold ref d hd
        obtain ⟨-, hfinds⟩ := h.asked i q hq
        obtain ⟨e₁, he₁, hwaits⟩ := hfinds r hr
        obtain rfl := Option.some.inj (he.symm.trans he₁)
        have hi := hwaits hopen hnone
        rw [hj] at hi
        exact hij (Option.some.inj hi).symm
      rw [ht.toDo_of_ne hne]
      exact hquiet hnot
  · rw [hlook] at hq'
    obtain ⟨q₁, hq₁, rfl⟩ := Option.map_eq_some_iff.mp hq'
    obtain ⟨hb, hfinds⟩ := h.asked j q₁ hq₁
    rw [ht.mind, ht.born]
    by_cases hij : i = j
    · rw [if_pos hij]
      refine ⟨hb, fun r hr => ?_⟩
      obtain ⟨e, he, -⟩ := hfinds r hr
      exact ⟨e, he, fun hnot => nomatch hnot⟩
    · rw [if_neg hij]
      exact ⟨hb, hfinds⟩
  · rw [hlook] at hq'
    obtain ⟨q₁, hq₁, rfl⟩ := Option.map_eq_some_iff.mp hq'
    rw [ht.mind]
    by_cases hij : i = j
    · rw [if_pos hij] at ho
      cases ho
    · rw [if_neg hij] at ho hc ⊢
      exact h.underway j q₁ hq₁ ho hc

/-- A connection that nobody knows of is known to nobody. -/
theorem AccountsFit.unknown (h : AccountsFit R A S) (hfresh : S.pools.owner? link = none) :
    S.pools.idleCount link = 0 ∧ (∀ ref, S.Unrelated link ref) ∧ S.pools.number link = 0 ∧
      A link = {} := by
  cases h.place link with
  | unknown _ hidle hapart hnumber ha => exact ⟨hidle, hapart, hnumber, ha⟩
  | way _ howner | idle howner | held _ _ _ _ _ _ howner | astray howner =>
    rw [hfresh] at howner
    cases howner

/-- The owner of a connection holds it. -/
theorem AccountsFit.owned (h : AccountsFit R A S) (howner : S.pools.owner? link = some (some ref)) :
    S.link? ref = some link := by
  cases h.place link with
  | unknown ho | way _ ho | idle ho | astray ho =>
    rw [howner] at ho
    cases ho
  | held other r e hr he hlink ho =>
    obtain rfl : ref = other := Option.some.inj (Option.some.inj (howner.symm.trans ho))
    exact (link?_of_mind hr he).trans hlink

/-- An attempt to connect is over. If it has brought a connection, nobody has known of that before,
so its account is empty and its place is the first one. -/
theorem AccountsFit.connected {alive : RouterRef → Bool} {i : HandleId} {result : ConnectResult}
    (h : AccountsFit R A S) (hpools : S'.pools = (S.pools.onConnected alive i result).pools)
    (ht : OnlyTold (S.pools.onConnected alive i result).told S S')
    (hpoised : ∀ ref, WaitsHoldsOrOver (S.mind ref)) : AccountsFit R A S' := by
  have hquiet := TcpPools.onConnected_quiet alive i result S.pools
  have hcases := TcpPools.onConnected_cases alive i result S.pools
  have htold := TcpPools.onConnected_told alive i result S.pools
  generalize S.pools.onConnected alive i result = o at hpools ht hquiet hcases htold
  rw [← hpools] at hquiet
  have hanswer : ∀ ref d, o.told = some (ref, d) → d.isAnswer = true := by
    intro ref d hd
    rcases htold with rfl | ⟨q, -, -, -, hwho⟩
    · cases hd
    · obtain ⟨-, -, host, link, rfl⟩ := hwho ref d hd
      cases result with
      | connected => rfl
      | failed reason => rfl
  have hqueued : S'.Queued := by
    rcases htold with rfl | ⟨q, hq, hopen, hrequests, hwho⟩
    · exact h.queued.heard ht (by rw [hpools]) fun _ _ hd => nomatch hd
    · exact h.queued.over ht hq hopen (hpools ▸ hrequests) fun ref d hd =>
        ⟨(hwho ref d hd).1, (hwho ref d hd).2.1⟩
  refine h.heard ht hpoised (fun l => ?_) hquiet.sends (fun ref d hd r hr => ?_) hqueued
  -- An attempt to connect tells nobody of an end, so no holder hears anything.
  · have hnoEvent : ∀ ref event, o.told ≠ some (ref, .event event) := by
      intro ref event hd
      cases hanswer ref _ hd
    obtain ⟨hkeeps, hwho⟩ | ⟨link, hadds, hrest⟩ := hcases
    · rw [← hpools] at hkeeps
      refine (h.place l).away (hkeeps.dropsIdle.atMostCloses hquiet l)
        (ht.beside (fun ref d hd => ?_) fun ref event hd => absurd hd (hnoEvent ref event))
      obtain ⟨-, reason, host, rfl⟩ := hwho ref d hd
      rfl
    · rw [← hpools] at hadds hrest
      by_cases hl : l = link
      · subst hl
        -- The new connection was unknown, which settles its account.
        obtain ⟨hidle, hapart, hnumber, ha⟩ := h.unknown hadds.fresh
        have hnumber' : S'.pools.number l = 0 := (hquiet.number l).trans hnumber
        rw [ha]
        -- Nobody wants it any more, and its pool keeps or closes it; or it goes to the router that
        -- waits.
        obtain hnone | ⟨ref, host, -, hsame, -, htells⟩ := hrest
        · have hapart' : ∀ ref, S'.Unrelated l ref := fun ref =>
            (ht.beside (fun ref d hd => by rw [hnone] at hd; cases hd)
              (fun ref event hd => absurd hd (hnoEvent ref event)) ref).apart (hapart ref)
          have hle := hadds.idle
          by_cases hkept : S'.pools.idleCount l = 1
          · exact .idle hadds.owner hkept hapart' hnumber' rfl
          · exact .astray hadds.owner (by omega) hapart'
        · have hcomes := fun ref => ht.comes ref l
          rw [htells] at hcomes
          refine .way ref hadds.owner (hsame.trans hidle) ?_ ?_ (fun other hne => ⟨?_, ?_⟩) hnumber' rfl
          · rw [hcomes, (hapart ref).comes, toldTo, if_pos rfl, List.countP_singleton,
              RouterOp.brings_ready, if_pos (beq_self_eq_true l)]
          · rw [ht.link?]
            exact (hapart ref).link
          · rw [ht.link?]
            exact (hapart other).link
          · rw [hcomes, (hapart other).comes, toldTo, if_neg (Ne.symm hne)]
            rfl
      · refine (h.place l).away (hadds.atMostCloses hquiet hl)
          (ht.beside (fun ref d hd => ?_) fun ref event hd => absurd hd (hnoEvent ref event))
        obtain hnone | ⟨other, host, -, -, -, htells⟩ := hrest
        · rw [hnone] at hd
          cases hd
        · rw [htells] at hd
          obtain ⟨-, rfl⟩ := Prod.mk.inj (Option.some.inj hd)
          exact beq_eq_false_iff_ne.mpr (Ne.symm hl)
  · obtain rfl | ⟨q, hq, hopen, -, hwho⟩ := htold
    · cases hd
    · have hans := hanswer ref d hd
      obtain ⟨rfl, -, -⟩ := hwho ref d hd
      obtain ⟨e, he, -⟩ := (h.queued.asked i q hq).2 r hr
      exact ⟨e, he, Or.inl hans⟩

theorem AccountsFit.hostData {alive : RouterRef → Bool} {octets : Bytes} (h : AccountsFit R A S)
    (hpools : S'.pools = (S.pools.onData alive link octets).pools)
    (ht : OnlyTold (S.pools.onData alive link octets).told S S')
    (hpoised : ∀ ref, WaitsHoldsOrOver (S.mind ref)) : AccountsFit R A S' := by
  have hquiet := TcpPools.onData_quiet alive link octets S.pools
  have hrequests := TcpPools.onData_requests alive link octets S.pools
  rw [← hpools] at hquiet hrequests
  -- The octets are told to the call that holds the connection, or to nobody.
  have htold : (∃ ref, S.link? ref = some link ∧
        (S.pools.onData alive link octets).told = some (ref, .data octets)) ∨
      (S.pools.onData alive link octets).told = none := by
    obtain ⟨-, ho⟩ | ⟨-, ref, howner, ha, ho⟩ | ⟨-, -, p', -, ho⟩ :=
      TcpPools.onData_cases alive link octets S.pools
    · exact Or.inr (by rw [ho])
    · exact Or.inl ⟨ref, h.owned howner, by rw [ho]⟩
    · exact Or.inr (by rw [ho])
  have hdata : ∀ ref d, (S.pools.onData alive link octets).told = some (ref, d) →
      d = .data octets ∧ S.link? ref = some link := by
    intro ref d hd
    obtain ⟨other, hl, htells⟩ | hnone := htold
    · obtain ⟨rfl, rfl⟩ := Prod.mk.inj (Option.some.inj (htells.symm.trans hd))
      exact ⟨rfl, hl⟩
    · rw [hnone] at hd
      cases hd
  -- Octets that nobody waits for close the connection, which is all that can happen to it.
  have hatMost : ∀ l, S.pools.AtMostCloses S'.pools l := by
    intro l
    obtain ⟨-, ho⟩ | ⟨-, ref, -, -, ho⟩ | ⟨-, -, p', hcloses, ho⟩ :=
      TcpPools.onData_cases alive link octets S.pools
    · rw [hpools, ho]
      exact .refl _ l
    · rw [hpools, ho]
      exact .refl _ l
    · have hp' : S'.pools = p' := by rw [hpools, ho]
      exact hp' ▸ hcloses.atMostCloses (hp' ▸ hquiet) l
  refine h.heard ht hpoised (fun l => ?_) hquiet.sends (fun ref d hd r hr => ?_)
    (h.queued.heard ht hrequests fun ref d hd => ?_)
  · refine (h.place l).away (hatMost l)
      (ht.beside (fun ref d hd => ?_) fun ref event hd => ?_)
    · rw [(hdata ref d hd).1]
      rfl
    · cases (hdata ref _ hd).1
  · obtain ⟨r₁, e, hr₁, he, hl⟩ := link?_eq_some_iff.mp (hdata ref d hd).2
    obtain rfl := Option.some.inj (hr.symm.trans hr₁)
    exact ⟨e, he, Or.inr (by rw [hl]; rfl)⟩
  · rw [(hdata ref d hd).1]
    rfl

/-- A connection ends from outside. It keeps its place; the one who holds it is told, which is
allowed since the connection is not open any more. -/
theorem AccountsFit.hostClosed {alive : RouterRef → Bool} {event : ConnectionEvent} (h : AccountsFit R A S)
    (hpools : S'.pools = (S.pools.onClosed alive link event).pools)
    (ht : OnlyTold (S.pools.onClosed alive link event).told S S')
    (hpoised : ∀ ref, WaitsHoldsOrOver (S.mind ref)) : AccountsFit R A S' := by
  have hquiet := TcpPools.onClosed_quiet alive link event S.pools
  have hrequests := TcpPools.onClosed_requests alive link event S.pools
  rw [← hpools] at hquiet hrequests
  obtain ⟨-, ho⟩ | ⟨hopen, p', hcloses, hwho⟩ := TcpPools.onClosed_cases alive link event S.pools
  · rw [ho] at hpools ht
    refine h.heard ht hpoised (fun l => ?_) hquiet.sends (fun _ _ hd => nomatch hd)
      (h.queued.heard ht hrequests fun _ _ hd => nomatch hd)
    refine (h.place l).away (hpools ▸ TcpPools.AtMostCloses.refl _ l) ?_
    exact ht.beside (fun _ _ hd => nomatch hd) fun _ _ hd => nomatch hd
  · have hp' : S'.pools = p' := by
      obtain ⟨_, -, -, ho⟩ | ⟨-, ho⟩ := hwho
      · rw [hpools, ho]
      · rw [hpools, ho]
    rw [← hp'] at hcloses
    -- Its end is told to the call that holds the connection, or to nobody.
    have hends : ∀ ref d, (S.pools.onClosed alive link event).told = some (ref, d) →
        d = .event event ∧ S.link? ref = some link := by
      intro ref d hd
      obtain ⟨other, howner, ha, ho⟩ | ⟨-, ho⟩ := hwho
      · rw [ho] at hd
        obtain ⟨rfl, rfl⟩ := Prod.mk.inj (Option.some.inj hd)
        exact ⟨rfl, h.owned howner⟩
      · rw [ho] at hd
        cases hd
    -- An end brings no connection to anybody.
    have hcomes : ∀ ref l, S'.comes ref l = S.comes ref l := by
      intro ref l
      rw [ht.comes, List.countP_eq_zero.mpr, Nat.add_zero]
      intro op hop
      obtain ⟨d, rfl, hd⟩ := mem_toldTo.mp hop
      rw [(hends ref d hd).1]
      exact Bool.false_ne_true
    refine h.heard ht hpoised (fun l => ?_) hquiet.sends (fun ref d hd r hr => ?_)
      (h.queued.heard ht hrequests fun ref d hd => ?_)
    · by_cases hl : l = link
      · subst hl
        have hatMost := hcloses.atMostCloses hquiet l
        by_cases hheld : ∃ ref, S.link? ref = some l
        · -- Whoever holds it may know of its end now, since it is not open any more.
          obtain ⟨ref, hl⟩ := hheld
          obtain ⟨r, e, hr, he, hl⟩ := link?_eq_some_iff.mp hl
          obtain ⟨howner, hidle, hnone, hapart, -⟩ := h.held hr he hl
          have hle := hatMost.idle
          refine .held ref r e (ht.mind ▸ hr) he hl (hatMost.owner.trans howner) (by omega)
            ((hcomes ref l).trans hnone) (fun other hne => ?_) fun hnot => ?_
          · have hother := hapart other hne
            exact ⟨ht.link? other ▸ hother.link, (hcomes other l).trans hother.comes⟩
          · rw [hcloses.state] at hnot
            cases hnot
        · refine (h.place l).away hatMost
            (ht.beside (fun ref d hd => ?_) fun ref _ _ hl => hheld ⟨ref, hl⟩)
          rw [(hends ref d hd).1]
          rfl
      · refine (h.place l).away (hcloses.atMostCloses hquiet l)
          (ht.beside (fun ref d hd => ?_) fun ref event' hd => ?_)
        · rw [(hends ref d hd).1]
          rfl
        · rw [(hends ref _ hd).2]
          exact fun he => hl (Option.some.inj he).symm
    · obtain ⟨r₁, e, hr₁, he, hl⟩ := link?_eq_some_iff.mp (hends ref d hd).2
      obtain rfl := Option.some.inj (hr.symm.trans hr₁)
      exact ⟨e, he, Or.inr (by rw [hl]; rfl)⟩
    · rw [(hends ref d hd).1]
      rfl

/-- Whatever a socket does, a scene in order stays in order. -/
theorem AccountsFit.does {alive : RouterRef → Bool} {o : TcpPools.Outcome} (h : AccountsFit R A S)
    (hdo : TcpPools.SocketDoes alive S.pools o) (hpools : S'.pools = o.pools)
    (ht : OnlyTold o.told S S') (hpoised : ∀ ref, WaitsHoldsOrOver (S.mind ref)) : AccountsFit R A S' := by
  cases hdo with
  | connected => exact h.connected hpools ht hpoised
  | data => exact h.hostData hpools ht hpoised
  | closed => exact h.hostClosed hpools ht hpoised

/-- A router that is answered waits, and no other answer is on its way. -/
theorem AccountsFit.fair {alive : RouterRef → Bool} {o : TcpPools.Outcome} {d : Delivery} {r : Router}
    (h : AccountsFit R A S) (hdo : TcpPools.SocketDoes alive S.pools o)
    (hd : o.told = some (ref, d)) (hans : d.isAnswer = true) (hr : S.mind ref = some r) :
    r.waits = true ∧ (S.toDo ref).countP RouterOp.isAnswer = 0 := by
  cases hdo with
  | connected handle result =>
    rcases TcpPools.onConnected_told alive handle result S.pools with ho | ⟨q, hq, hopen, -, hwho⟩
    · rw [ho] at hd
      cases hd
    · obtain ⟨rfl, hkept, -⟩ := hwho ref d hd
      -- An answer comes from a connect whose call was kept, and such a call still waits for it.
      obtain ⟨e, he, hwaits⟩ := (h.queued.asked handle q hq).2 r hr
      have hi := hwaits hopen hkept
      obtain ⟨q', hq', -, -, hquiet⟩ := h.queued.waits q.router r e handle hr he hi
      obtain rfl := Option.some.inj (hq.symm.trans hq')
      refine ⟨?_, hquiet hopen⟩
      unfold Router.waits
      rw [he, Option.any_some, hi]
      rfl
  | data link octets =>
    rcases TcpPools.onData_cases alive link octets S.pools with ⟨-, ho⟩ | ⟨-, other, -, -, ho⟩ |
      ⟨-, -, p', -, ho⟩
    · rw [ho] at hd
      cases hd
    · rw [ho] at hd
      obtain ⟨-, rfl⟩ := Prod.mk.inj (Option.some.inj hd)
      cases hans
    · rw [ho] at hd
      cases hd
  | closed link event =>
    rcases TcpPools.onClosed_cases alive link event S.pools with ⟨-, ho⟩ | ⟨-, p', -, hwho⟩
    · rw [ho] at hd
      cases hd
    · rcases hwho with ⟨other, -, -, ho⟩ | ⟨-, ho⟩
      · rw [ho] at hd
        obtain ⟨-, rfl⟩ := Prod.mk.inj (Option.some.inj hd)
        cases hans
      · rw [ho] at hd
        cases hd

/-! ## The beginning -/

/-- Nothing is there yet. -/
theorem AccountsFit.start (hmind : ∀ ref, S.mind ref = none) (htoDo : ∀ ref, S.toDo ref = [])
    (hpools : S.pools = {}) : AccountsFit R (fun _ => {}) S where
  place l := by
    refine .unknown (by rw [hpools]; rfl) (by rw [hpools]; rfl) (fun ref => ⟨?_, ?_⟩)
      (by rw [hpools]; rfl) rfl
    · rw [link?_of_none (hmind ref)]
      exact nofun
    · rw [Scene.comes, htoDo]
      rfl
  sends l := by rw [hpools]; rfl
  unborn ref _ := ⟨hmind ref, htoDo ref⟩
  tasks ref := hmind ref ▸ .absent _ _
  queued := by
    refine ⟨fun ref r e i hr => ?_, fun i q hq => ?_, fun i q hq => ?_⟩
    · rw [hmind] at hr
      cases hr
    · rw [hpools] at hq
      cases hq
    · rw [hpools] at hq
      cases hq
  booked := ⟨fun _ _ hc => (nomatch hc), fun hc => (nomatch hc)⟩

/-- Octets that come from a host are on their way to the router that holds the connection. What an
answer is made of must have been fed to its router, so to know that no octets come in a piece of
work is to know that no answer begins there. -/
def Fed (S : Scene) (ref : RouterRef) (l : LinkId) : Prop :=
  S.link? ref = some l ∧ ∃ octets, .deliver (.data octets) ∈ S.toDo ref

/-- Octets come on open connections only, and only to their owners. -/
theorem OnlyTold.fed {alive : RouterRef → Bool} {o : TcpPools.Outcome} (ht : OnlyTold o.told S S')
    (h : AccountsFit R A S) (hdo : TcpPools.SocketDoes alive S.pools o) (hfed : S'.Fed ref link) :
    S.Fed ref link ∨ (S.pools.isOpen link = true ∧ S.pools.owner? link = some (some ref)) := by
  obtain ⟨hlink, octets, hmem⟩ := hfed
  rw [ht.link?] at hlink
  rw [ht.toDo] at hmem
  -- The octets were on their way before, or the pools have just told them.
  rcases List.mem_append.mp hmem with hmem | hmem
  · exact Or.inl ⟨hlink, octets, hmem⟩
  · obtain ⟨d, heq, htold⟩ := mem_toldTo.mp hmem
    obtain rfl := RouterOp.deliver.inj heq
    right
    cases hdo with
    | connected handle result =>
      rcases TcpPools.onConnected_told alive handle result S.pools with ho | ⟨q, -, -, -, hwho⟩
      · rw [ho] at htold
        cases htold
      · obtain ⟨-, -, host, l, hd⟩ := hwho ref _ htold
        cases result with
        | connected | failed => cases hd
    | data l octets' =>
      obtain ⟨-, ho⟩ | ⟨hopen, other, howner, -, ho⟩ | ⟨-, -, p', -, ho⟩ :=
        TcpPools.onData_cases alive l octets' S.pools
      · rw [ho] at htold
        cases htold
      · rw [ho] at htold
        obtain ⟨rfl, -⟩ := Prod.mk.inj (Option.some.inj htold)
        obtain rfl := Option.some.inj ((h.owned howner).symm.trans hlink)
        exact ⟨hopen, howner⟩
      · rw [ho] at htold
        cases htold
    | closed l event =>
      rcases TcpPools.onClosed_cases alive l event S.pools with
        ⟨-, ho⟩ | ⟨-, p', -, ⟨other, -, -, ho⟩ | ⟨-, ho⟩⟩
      · rw [ho] at htold
        cases htold
      · rw [ho] at htold
        obtain ⟨-, hd⟩ := Prod.mk.inj (Option.some.inj htold)
        cases hd
      · rw [ho] at htold
        cases htold

end Scene

end RpcProxy

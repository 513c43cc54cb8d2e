import RpcProxy.Proofs.Session.CallAccounts

/-!
# Connections are given back clean

What becomes of connections and of requests for them when streams end, whatever else happens
(`Crowd.given_back_clean`). A request that a router still waits for is taken back, once. A
connection that it holds is closed and never used again. A connection that is kept for another call
has answered every call that was written on it. And a router whose stream is over has nothing left,
not even when a connection comes for it later.

Steps of work are looked at one by one, so that nothing can hide between two incidents: `x` is any
step of work of the course, and `earlier` and `later` are the steps of work around it. What a stream
that ends leaves behind is said for `x` and all of `later`, since a connection that is closed now
and lent again afterwards would not have been given back clean.

The parts are proved separately, each from what holds before and after `x` (`AccountedFor`), and
what is final is carried to the later steps by `AccountedFor.lasts`.
-/

set_option autoImplicit false

namespace RpcProxy

namespace Crowd

/-- Whether the stream of a router has begun and is over. -/
def isOver {σ : Type} (c : Crowd σ) (ref : RouterRef) : Bool :=
  (c.sessions[ref.session]?).any fun s =>
    decide (ref.stream < s.nextId) && (s.stream? ref.stream).all (·.isCompleted)

/-- A router has no connection and waits for none. It is said of the pools as well as of the router,
which is gone. -/
structure HoldsNothing (ref : RouterRef) (c : Crowd TcpPools) : Prop where
  gone : c.router? ref = none
  unowned : ∀ l, c.side.pools.owner? l ≠ some (some ref)
  /-- Every request that it made has been answered, or was taken back. -/
  settled : ∀ (handle : HandleId) (q : ConnectRequest), c.side.pools.requests[handle]? = some q →
    q.router = ref → q.isOver = true ∨ q.cancelled.isSome

/-- A connection is at rest: all calls that were written on it were answered, going by the steps of
work that were made, and no answer left it unfit for another call. -/
def FullyAnswered (past : List (WorkStep (Crowd TcpPools))) (l : LinkId) (c : Crowd TcpPools) : Prop :=
  ∃ calls : List Call, c.side.pools.sends l = calls.mapIdx Call.octets ∧
    calls.map (·.router) = past.filterMap (WorkStep.answer? l)

section

variable {R : RouterRef → Request → Prop} {A : LinkId → Account} {c b : Crowd TcpPools}
  {past earlier later : List (WorkStep (Crowd TcpPools))} {x : WorkStep (Crowd TcpPools)} {ref : RouterRef}
  {l : LinkId} {handle : HandleId} {r : Router} {e : Exchange}

/-- Once its stream is over, a router is gone. -/
theorem Joined.gone (h : c.Joined) (ho : c.isOver ref = true) :
    c.scene.born ref ∧ c.scene.mind ref = none := by
  obtain ⟨s, hs, hover⟩ := (Option.any_eq_true _ _).mp ho
  obtain ⟨hborn, hall⟩ := (Bool.and_eq_true _ _).mp hover
  refine ⟨⟨s, hs, of_decide_eq_true hborn⟩, (router?_of_session hs).trans ?_⟩
  unfold Session.router?
  split
  · cases hx : s.stream? ref.stream with
    | none => rfl
    | some x =>
      rw [hx] at hall
      exact (((h.2 _ s hs).inOrder.orderly.sound _ x hx).departed hall).2 ref.slot
  · rfl

theorem AccountsHold.holdsNothing (h : AccountsHold R A past c) (hnone : c.scene.mind ref = none) :
    c.HoldsNothing ref where
  gone := hnone
  unowned l howner := by
    have hlink := h.fits.owned howner
    rw [Scene.link?_of_none hnone] at hlink
    cases hlink
  settled handle q hq hrouter := by
    refine Classical.or_iff_not_imp_left.mpr fun hopen => ?_
    refine Option.isSome_iff_ne_none.mpr fun hkept => ?_
    have hthere := h.fits.queued.underway handle q hq (Bool.eq_false_iff.mpr hopen) hkept
    rw [hrouter, hnone] at hthere
    cases hthere

/-- A connection that lies idle is at rest. -/
theorem AccountsHold.fullyAnswered (h : AccountsHold R A past c) (hidle : 0 < c.side.pools.idleCount l) :
    FullyAnswered past l c := by
  obtain ⟨-, -, -, -, hrouters⟩ := h.fits.idle hidle
  exact ⟨(A l).calls, h.fits.sends l, hrouters.trans (h.answers l)⟩

/-- What is never undone holds behind a step of work and behind all later ones. -/
theorem AccountedFor.lasts {K : Crowd TcpPools → Prop} (h : AccountedFor R earlier x)
    (hpath : WorkStep.Path x.after later b) (heach : WorkStep.Each (AccountedFor R) (earlier ++ [x]) later)
    (hkeeps : ∀ (y : WorkStep (Crowd TcpPools)) A told, Scene.AccountsFit R A y.before.scene →
      Scene.Advance R y.task told y.before.scene y.after.scene → K y.before → K y.after)
    (hk : K x.after) : ∀ y ∈ x :: later, K y.after ∧ ∃ past A, AccountsHold R A past y.after := by
  obtain ⟨A, told, A', -, -, hafter⟩ := h
  obtain ⟨-, hall⟩ := hpath.lasts (K := fun c => K c ∧ ∃ past A, AccountsHold R A past c) heach
    (fun past y ⟨A, told, A', hbefore, hp, hafter⟩ ⟨hk, _⟩ =>
      ⟨hkeeps y A told hbefore.fits hp.advance hk, _, A', hafter⟩) ⟨hk, _, A', hafter⟩
  intro y hy
  rcases List.mem_cons.mp hy with rfl | hy
  · exact ⟨hk, _, A', hafter⟩
  · exact hall y hy

/-- A request that a router waits for when its stream ends is taken back, once. -/
theorem AccountedFor.withdrawn (h : AccountedFor R earlier x) (hpath : WorkStep.Path x.after later b)
    (heach : WorkStep.Each (AccountedFor R) (earlier ++ [x]) later) (hr : x.before.router? ref = some r)
    (he : r.exchange = some e) (hi : e.pending = some handle) (ho : x.after.isOver ref = true) :
    x.before.withdrawals handle = [] ∧ ∀ y ∈ x :: later, y.after.withdrawals handle = [.keep] := by
  have hback : x.after.side.pools.isBack handle = true := by
    obtain ⟨A, told, A', hbefore, hp, -⟩ := h
    exact (hp.advance.left hbefore.fits hr he (hp.joined.gone ho).2).back handle hi
  refine ⟨?_, fun y hy => ?_⟩
  · obtain ⟨A, told, A', hbefore, -, -⟩ := h
    obtain ⟨q, hq, -, hkept, -⟩ := hbefore.fits.queued.waits ref r e handle hr he hi
    rw [hbefore.withdrawn, TcpPools.withdrawn?,
      show x.before.side.pools.requests[handle]? = some q from hq]
    exact congrArg Option.toList hkept
  · obtain ⟨hback, past, A, haccounts⟩ := h.lasts (K := fun c => c.side.pools.isBack handle = true)
      hpath heach (fun y A told _ ha hk => ha.keepsFinal.back handle hk) hback y hy
    rw [haccounts.withdrawn, TcpPools.isBack_iff.mp hback]
    rfl

/-- A connection that a router holds when its stream ends is closed and not used again. -/
theorem AccountedFor.closed (h : AccountedFor R earlier x) (hpath : WorkStep.Path x.after later b)
    (heach : WorkStep.Each (AccountedFor R) (earlier ++ [x]) later) (hr : x.before.router? ref = some r)
    (he : r.exchange = some e) (hl : e.link = some l) (ho : x.after.isOver ref = true) :
    (x.before.side.pools.isOpen l = true →
      TcpPools.Orders (.close l .noFlush) x.before.side.pools x.after.side.pools) ∧
    ∀ y ∈ x :: later, y.after.side.pools.ClosedForGood l := by
  have hleft : Scene.LetGoOfAll e x.before.scene.pools x.after.scene.pools := by
    obtain ⟨A, told, A', hbefore, hp, -⟩ := h
    exact hp.advance.left hbefore.fits hr he (hp.joined.gone ho).2
  refine ⟨hleft.closed l hl, fun y hy => ?_⟩
  exact (h.lasts (K := fun c => c.side.pools.ClosedForGood l) hpath heach
    (fun y A told _ ha hk => ha.keepsFinal.closedForGood l hk) (hleft.closedForGood l hl) y hy).1

/-- A router whose stream is over holds nothing any more. -/
theorem AccountedFor.holdsNothing (h : AccountedFor R earlier x) (hpath : WorkStep.Path x.after later b)
    (heach : WorkStep.Each (AccountedFor R) (earlier ++ [x]) later) (ho : x.after.isOver ref = true) :
    ∀ y ∈ x :: later, y.after.HoldsNothing ref := by
  intro y hy
  have hgone : x.after.scene.born ref ∧ x.after.scene.mind ref = none := by
    obtain ⟨A, told, A', -, hp, -⟩ := h
    exact hp.joined.gone ho
  obtain ⟨⟨-, hnone⟩, past, A, haccounts⟩ := h.lasts
    (K := fun c => c.scene.born ref ∧ c.scene.mind ref = none) hpath heach
    (fun y A told _ ha ⟨hborn, hnone⟩ => ⟨ha.born hborn, ha.gone hborn hnone⟩) hgone y hy
  exact haccounts.holdsNothing hnone

end

/-- Connections are given back clean. Clients have connected, things have happened to their sessions
and to sockets, in any order, and `x` is any of the steps of work that were made.

If the stream of a router ends in it while the router waits for a connection, its request was not
taken back before, and was taken back once at any time from then on; so that the connection is kept,
should it come up. If the router holds a connection, which means that its response is not complete,
the connection is closed without a flush unless it was closed already, and from then on it is closed
and does not lie idle. A connection that lies idle has sent calls, and the routers that wrote them
have read their answers to the end, in this order, from a host that did not ask to leave. A router
whose stream is over is gone, no connection is its own, and no request of it is still to be
answered. And a connection that comes for a router which is gone was not used; it is kept for others
if it is open and its pool is still there, and closed otherwise. -/
theorem given_back_clean (side : HostSide TcpPools) (hpools : side.pools = {}) (es : List Incident)
    (hes : ({ source := TcpPools.source, side } : Crowd TcpPools).always allows es = true)
    (earlier : List (WorkStep (Crowd TcpPools))) (x : WorkStep (Crowd TcpPools))
    (later : List (WorkStep (Crowd TcpPools)))
    (hsplit : ({ source := TcpPools.source, side } : Crowd TcpPools).course es = earlier ++ x :: later) :
    (∀ ref r e, x.before.router? ref = some r → r.exchange = some e → x.after.isOver ref = true →
      (∀ handle, e.pending = some handle →
        x.before.withdrawals handle = [] ∧
          ∀ y ∈ x :: later, y.after.withdrawals handle = [.keep]) ∧
      (∀ l, e.link = some l →
        (x.before.side.pools.isOpen l = true →
          TcpPools.Orders (.close l .noFlush) x.before.side.pools x.after.side.pools) ∧
        ∀ y ∈ x :: later, y.after.side.pools.isOpen l = false ∧ y.after.side.pools.idleCount l = 0)) ∧
    (∀ l, 0 < x.after.side.pools.idleCount l → FullyAnswered (earlier ++ [x]) l x.after) ∧
    (∀ ref, x.after.isOver ref = true → ∀ y ∈ x :: later, y.after.HoldsNothing ref) ∧
    ∀ ref l host, x.task = some (.router ref (.deliver (.ready l host))) →
      x.before.router? ref = none →
      x.after.side.pools.sends l = [] ∧ x.after.side.pools.owner? l = some none ∧
        x.after.side.pools.isOpen l =
          (x.before.side.pools.isOpen l && x.before.side.pools.isLodged l) ∧
        x.after.side.pools.idleCount l =
          (x.before.side.pools.isOpen l && x.before.side.pools.isLodged l).toNat := by
  obtain ⟨h, hpath, heach⟩ := ((AccountsHold.start hpools).accountedFor hes).2 earlier x later hsplit
  refine ⟨fun ref r e hr he ho => ⟨fun handle hi => h.withdrawn hpath heach hr he hi ho,
    fun l hl => ?_⟩, fun l hidle => ?_, fun ref ho => h.holdsNothing hpath heach ho,
    fun ref l host htask hnone => ?_⟩
  · obtain ⟨horders, hclosed⟩ := h.closed hpath heach hr he hl ho
    exact ⟨horders, fun y hy => ⟨(hclosed y hy).closed, (hclosed y hy).unkept⟩⟩
  · obtain ⟨A, told, A', -, -, hafter⟩ := h
    exact hafter.fullyAnswered hidle
  · obtain ⟨A, told, A', hbefore, hp, -⟩ := h
    exact (htask ▸ hp.advance).returned hbefore.fits hnone

/-- Three clients ask for the same host, and each of them goes at once. The first waits for its
connection, which comes up behind it. The second gets that connection, and has written its call. The
third is told of a connection of its own, but does not come to take it. -/
theorem given_back_clean_three_clients :
    let plan : Plan :=
      { label := "edge", routes := ⟨[({}, { name := "all", cluster := some "c" })]⟩,
        parts := [⟨.decoder, .router 0⟩] }
    let side : HostSide TcpPools :=
      { generations := [{ list := [{ config := { name := "c", hosts := ["h:1"] },
                                     hosts := [{ address := "h:1", cluster := "c" }] }] }],
        pools := {} }
    let c : Crowd TcpPools := { source := TcpPools.source, side }
    let opened : Incident := .opened plan {} (.start "edge" 0) {}
    let asks (i : Nat) : Incident := .happened i (.request { service := "users", method := "get" })
    let goes (i : Nat) : Incident := .happened i (.event .remoteClose)
    let es := [opened, asks 0, goes 0, .connected 0 .connected, opened, asks 1, goes 1, opened, asks 2,
      .connected 1 .connected, goes 2, .happened 2 .run]
    c.always allows es = true ∧
      (∀ y ∈ (c.course es).drop 4, y.after.withdrawals 0 = [.keep]) ∧
      (∀ y ∈ (c.course es).drop 10,
        y.after.side.pools.isOpen 0 = false ∧ y.after.side.pools.idleCount 0 = 0) ∧
      (∀ y ∈ (c.course es).drop 16, y.after.HoldsNothing { session := 2, stream := 0 }) ∧
      ((c.course es)[18]?).map (fun y => (y.after.side.pools.sends 1, y.after.side.pools.idleCount 1)) =
        some ([], 1) := by
  intro plan side c opened asks goes es
  have hes : c.always allows es = true := by decide +kernel
  have hall := fun n x (hx : (c.course es)[n]? = some x) =>
    given_back_clean side rfl es hes ((c.course es).take n) x ((c.course es).drop (n + 1)) (by
      obtain ⟨hn, rfl⟩ := List.getElem?_eq_some_iff.mp hx
      rw [← List.drop_eq_getElem_cons hn, List.take_append_drop])
  have hfrom : ∀ {n x}, (c.course es)[n]? = some x →
      x :: (c.course es).drop (n + 1) = (c.course es).drop n := by
    intro n x hx
    obtain ⟨hn, rfl⟩ := List.getElem?_eq_some_iff.mp hx
    exact (List.drop_eq_getElem_cons hn).symm
  refine ⟨hes, ?_, ?_, ?_, ?_⟩
  -- The first client goes while its router waits.
  · obtain ⟨x, hx, h⟩ := Option.bind_eq_some_iff.mp (show ((c.course es)[4]?).bind (fun x =>
      (x.before.router? { session := 0, stream := 0 }).bind fun r => r.exchange.bind fun e =>
        if x.after.isOver { session := 0, stream := 0 } then e.pending else none) = some 0 by
      decide +kernel)
    obtain ⟨r, hr, h⟩ := Option.bind_eq_some_iff.mp h
    obtain ⟨e, he, h⟩ := Option.bind_eq_some_iff.mp h
    obtain ⟨ho, hi⟩ := Option.ite_none_right_eq_some.mp h
    rw [← hfrom hx]
    exact (((hall 4 x hx).1 _ r e hr he ho).1 0 hi).2
  -- The second goes with a connection in its hands.
  · obtain ⟨x, hx, h⟩ := Option.bind_eq_some_iff.mp (show ((c.course es)[10]?).bind (fun x =>
      (x.before.router? { session := 1, stream := 0 }).bind fun r => r.exchange.bind fun e =>
        if x.after.isOver { session := 1, stream := 0 } then e.link else none) = some 0 by
      decide +kernel)
    obtain ⟨r, hr, h⟩ := Option.bind_eq_some_iff.mp h
    obtain ⟨e, he, h⟩ := Option.bind_eq_some_iff.mp h
    obtain ⟨ho, hl⟩ := Option.ite_none_right_eq_some.mp h
    rw [← hfrom hx]
    exact (((hall 10 x hx).1 _ r e hr he ho).2 0 hl).2
  -- The third goes while its connection is on its way.
  · obtain ⟨x, hx, ho⟩ := (Option.any_eq_true _ _).mp (show ((c.course es)[16]?).any
      (·.after.isOver { session := 2, stream := 0 }) = true by decide +kernel)
    rw [← hfrom hx]
    exact (hall 16 x hx).2.2.1 _ ho
  -- What was on its way to the third finds nobody.
  · obtain ⟨x, hx, h⟩ := (Option.any_eq_true _ _).mp (show ((c.course es)[18]?).any (fun x =>
      x.task.bind Task.delivery? ==
        some ({ session := 2, stream := 0 }, .ready 1 { address := "h:1", cluster := "c" }) &&
      (x.before.router? { session := 2, stream := 0 }).isNone &&
      (x.before.side.pools.isOpen 1 && x.before.side.pools.isLodged 1)) = true by decide +kernel)
    rw [Bool.and_eq_true, Bool.and_eq_true] at h
    obtain ⟨t, ht, htold⟩ := Option.bind_eq_some_iff.mp (eq_of_beq h.1.1)
    have htask := ht.trans (congrArg some (Task.eq_of_delivery? htold))
    obtain ⟨hunused, -, -, hidle⟩ := (hall 18 x hx).2.2.2 _ 1 _ htask
      (Option.isNone_iff_eq_none.mp h.1.2)
    rw [hx, Option.map_some, hunused, hidle, h.2]
    rfl

end Crowd

end RpcProxy

import RpcProxy.Proofs.Pool.Answers

/-!
# The budget of a pool

A pool has a number of connections that it may have at a time. It checks the number only when it has
to make a connection, and then it counts the connections in use and those under way, but not the
idle ones. That is enough: a connection is made only if none is idle, and after that it is passed
between the three counts and never counted twice.

What carries the argument is `Sound`: the count of connections in use is the number of those that
were handed out and not given back, the count of those under way is the number of attempts that are
not over, an idle connection is an open one of this pool that nobody has, and all three together are
within the budget. A step is concerned with one pool at most (`Within`), so only that one is looked
at.

A bound on the three counts would not be kept by itself. A count goes down when a connection is
given back, whoever gives it, and down at zero it stays at zero; so a connection that is given back
twice makes room for one too many. The counts have to be tied to connections and requests that can
be pointed at, and the list of those in use is not kept by any pool. It is read off the run
(`lent`).

Routers do what they like, but only with what is in their hands (`isFair`): a connection that was
not handed out, or was given back, is used by nobody.
-/

set_option autoImplicit false

namespace RpcProxy

/-- The connection that a command is about. -/
def LinkCommand.link? : LinkCommand → Option LinkId
  | .attach link | .initState link _ | .updateState link _ | .write link _ | .close link _
  | .release link => some link
  | .cancel _ _ => none

/-- The connection that an answer hands out. -/
def PoolAnswer.link? : PoolAnswer → Option LinkId
  | .ready link _ => some link
  | .pending _ | .failure _ _ => none

/-- The connection that is handed out late. -/
def Delivery.link? : Delivery → Option LinkId
  | .ready link _ => some link
  | .failure _ _ | .data _ | .event _ => none

namespace PoolEvent

/-- The connection that a router does something to. -/
def uses : PoolEvent → Option LinkId
  | perform _ c => c.link?
  | _ => none

/-- The connection that is given back. -/
def returns : PoolEvent → Option LinkId
  | perform _ (.release link) => some link
  | _ => none

end PoolEvent

namespace TcpPools

/-- The connection that is handed out when something happens. -/
def handsOut (p : TcpPools) : PoolEvent → Option LinkId
  | .ask cluster host router => (ask cluster host router p).1.link?
  | .connected alive handle result => (p.onConnected alive handle result).told.bind (·.2.link?)
  | .lookup _ _ _ | .perform _ _ | .data _ _ _ | .closed _ _ _ => none

/-- The connections in use, once something has happened. One that is handed out is in use at once,
also if its router is told of it later. -/
def lend (p : TcpPools) (out : List LinkId) (e : PoolEvent) : List LinkId :=
  (p.handsOut e).toList ++ match e.returns with
    | some link => out.erase link
    | none => out

/-- The connections that were handed out in a run and not given back. -/
def lent : TcpPools → List LinkId → List PoolEvent → List LinkId
  | _, out, [] => out
  | p, out, e :: rest => lent (p.happen e).pools (p.lend out e) rest

/-- Whether only connections in use are used in a run. -/
def isFair : TcpPools → List LinkId → List PoolEvent → Bool
  | _, _, [] => true
  | p, out, e :: rest => e.uses.all (out.contains ·) && isFair (p.happen e).pools (p.lend out e) rest

/-- The pool that a connection belongs to. -/
def home? (p : TcpPools) (link : LinkId) : Option Nat := (p.links[link]?).map (·.pool)

/-- How many connections of a pool are in use. -/
def lentBy (p : TcpPools) (out : List LinkId) (i : Nat) : Nat := out.countP fun l => p.home? l == some i

/-- How many attempts to connect a pool has under way. -/
def underway (p : TcpPools) (i : Nat) : Nat := p.requests.countP fun r => r.pool == i && !r.isOver

/-- The books of a pool are in order. A pool that is gone is left out, as its connections are closed
when they come back. -/
structure Sound (out : List LinkId) (p : TcpPools) (i : Nat) (x : TcpPool) : Prop where
  /-- What lies idle is open. -/
  opened : ∀ l ∈ x.idle, p.isOpen l = true
  /-- It belongs to this pool. -/
  home : ∀ l ∈ x.idle, p.home? l = some i
  /-- It lies there once. -/
  distinct : x.idle.Nodup
  /-- It is not lent to anybody. -/
  apart : ∀ l ∈ x.idle, l ∉ out
  /-- The pool counts as busy what was lent of it. -/
  busy : x.busy = p.lentBy out i
  /-- It counts the connects that are under way. -/
  connecting : x.connecting = p.underway i
  /-- All three together do not exceed what is allowed. -/
  most : x.idle.length + x.busy + x.connecting ≤ x.most

/-- The books of all pools that are there are in order, and connections and requests belong to pools
that are or were there. -/
structure Budgeted (out : List LinkId) (p : TcpPools) : Prop where
  /-- Each pool that is there has its books in order. -/
  sound : ∀ i x, p.pools[i]? = some x → x.gone = false → Sound out p i x
  /-- Nothing is lent twice. -/
  distinct : out.Nodup
  /-- What is lent is a connection of some pool. -/
  known : ∀ l ∈ out, (p.home? l).isSome = true
  /-- A connection belongs to a pool that is or was there. -/
  homes : ∀ l i, p.home? l = some i → i < p.pools.length
  /-- So does a connect. -/
  requests : ∀ r ∈ p.requests, r.pool < p.pools.length

/-- Something is done that only one pool is concerned with. Connections of other pools stay as they
are, and as many of them are in use as before. -/
structure Within (j : Nat) (out out' : List LinkId) (p p' : TcpPools) : Prop where
  pools : ∀ i, i ≠ j → p'.pools[i]? = p.pools[i]?
  state : ∀ l i, p.home? l = some i → i ≠ j → p'.isOpen l = p.isOpen l
  home : ∀ l i, p.home? l = some i → p'.home? l = some i
  apart : ∀ l i, p.home? l = some i → i ≠ j → l ∈ out' → l ∈ out
  lent : ∀ i, i ≠ j → p'.lentBy out' i = p.lentBy out i
  underway : ∀ i, i ≠ j → p'.underway i = p.underway i

section

variable {p p' q : TcpPools} {out out' : List LinkId} {link : LinkId} {i j : Nat} {x : TcpPool}

/-! ## Counting

Two numbers of a pool are counted over lists that are shared by all pools, so a change must be seen
to touch the count of one pool only. -/

theorem lentBy_congr (h : ∀ l ∈ out, p'.home? l = p.home? l) (i : Nat) :
    p'.lentBy out i = p.lentBy out i :=
  List.countP_congr fun l hl => by rw [h l hl]

theorem lentBy_cons (p : TcpPools) (out : List LinkId) (h : p.home? link = some j) (i : Nat) :
    p.lentBy (link :: out) i = p.lentBy out i + if i = j then 1 else 0 := by
  unfold lentBy
  rw [List.countP_cons, h]
  by_cases hij : i = j
  · simp [hij]
  · simp [hij, Ne.symm hij]

theorem lentBy_erase (p : TcpPools) (hin : link ∈ out) (h : p.home? link = some j) (i : Nat) :
    p.lentBy (out.erase link) i + (if i = j then 1 else 0) = p.lentBy out i := by
  have hperm := (List.perm_cons_erase hin).countP_eq fun l => p.home? l == some i
  have hcons := lentBy_cons p (out.erase link) h i
  unfold lentBy at hcons ⊢
  omega

theorem countP_modify {α : Type} (P : α → Bool) (f : α → α) {l : List α} {i : Nat} {x : α}
    (h : l[i]? = some x) :
    (l.modify i f).countP P + (if P x then 1 else 0) = l.countP P + if P (f x) then 1 else 0 := by
  induction l generalizing i with
  | nil => simp at h
  | cons a rest ih =>
    cases i with
    | zero =>
      obtain rfl : a = x := by simpa using h
      simp only [List.modify_zero_cons, List.countP_cons]
      omega
    | succ i =>
      have hi := ih (i := i) (by simpa using h)
      simp only [List.modify_succ_cons, List.countP_cons]
      omega

theorem countP_modify_of_eq {α : Type} (P : α → Bool) (f : α → α) (h : ∀ x, P (f x) = P x)
    (l : List α) (i : Nat) : (l.modify i f).countP P = l.countP P := by
  induction l generalizing i with
  | nil => simp
  | cons a rest ih =>
    cases i with
    | zero => simp [List.countP_cons, h]
    | succ i => simp [List.countP_cons, ih]

theorem underway_congr (h : p'.requests = p.requests) (i : Nat) : p'.underway i = p.underway i := by
  rw [underway, h, underway]

/-- An attempt is over. -/
theorem underway_endRequest {handle : HandleId} {r : ConnectRequest}
    (hr : p.requests[handle]? = some r) (hover : r.isOver = false) (i : Nat) :
    (p.endRequest handle).underway i + (if i = r.pool then 1 else 0) = p.underway i := by
  have hcount := countP_modify (fun r : ConnectRequest => r.pool == i && !r.isOver)
    (fun r => { r with isOver := true }) hr
  unfold underway endRequest
  by_cases hi : i = r.pool
  · simp only [hi, hover] at hcount ⊢
    simpa using hcount
  · simp only [hover, beq_eq_false_iff_ne.2 (Ne.symm hi)] at hcount
    simpa [hi] using hcount

/-! ## One pool at a time

An event concerns one pool. `Within` says that all others see no change, and then only the books of
the one have to be looked at. -/

/-- The books of a pool that is not concerned stay in order. -/
theorem Sound.within (h : Sound out p i x) (hw : Within j out out' p p') (hij : i ≠ j) :
    Sound out' p' i x where
  opened l hl := by rw [hw.state l i (h.home l hl) hij, h.opened l hl]
  home l hl := hw.home l i (h.home l hl)
  distinct := h.distinct
  apart l hl hout := h.apart l hl (hw.apart l i (h.home l hl) hij hout)
  busy := by rw [hw.lent i hij, h.busy]
  connecting := by rw [hw.underway i hij, h.connecting]
  most := h.most

/-- Books are in order if those of the pool that is concerned are. -/
theorem Budgeted.within (h : Budgeted out p) (hw : Within j out out' p p')
    (hown : ∀ x, p'.pools[j]? = some x → x.gone = false → Sound out' p' j x) (hdistinct : out'.Nodup)
    (hknown : ∀ l ∈ out', (p'.home? l).isSome = true)
    (hhomes : ∀ l i, p'.home? l = some i → i < p'.pools.length)
    (hrequests : ∀ r ∈ p'.requests, r.pool < p'.pools.length) : Budgeted out' p' := by
  refine ⟨fun i x hx hgone => ?_, hdistinct, hknown, hhomes, hrequests⟩
  by_cases hij : i = j
  · subst hij
    exact hown x hx hgone
  · rw [hw.pools i hij] at hx
    exact (h.sound i x hx hgone).within hw hij

/-- Nothing happens but to connections that are not idle and to the requests of routers. -/
theorem Budgeted.same (h : Budgeted out p) (hpools : p'.pools = p.pools)
    (hhome : ∀ l, p'.home? l = p.home? l)
    (hstate : ∀ (i : Nat) (x : TcpPool), p.pools[i]? = some x → x.gone = false →
      ∀ l ∈ x.idle, p'.isOpen l = p.isOpen l)
    (hunderway : ∀ i, p'.underway i = p.underway i)
    (hrequests : ∀ r ∈ p'.requests, r.pool < p.pools.length) : Budgeted out p' := by
  refine ⟨fun i x hx hgone => ?_, h.distinct, fun l hl => by rw [hhome, h.known l hl],
    fun l i hl => by rw [hpools]; exact h.homes l i (hhome l ▸ hl), by rwa [hpools]⟩
  rw [hpools] at hx
  have hs := h.sound i x hx hgone
  refine ⟨fun l hl => ?_, fun l hl => (hhome l).trans (hs.home l hl), hs.distinct, hs.apart, ?_, ?_,
    hs.most⟩
  · rw [hstate i x hx hgone l hl, hs.opened l hl]
  · rw [hs.busy, lentBy_congr fun l _ => hhome l]
  · rw [hs.connecting, hunderway]

theorem home?_modifyLink {f : TcpLink → TcpLink} (hf : ∀ x, (f x).pool = x.pool) (p : TcpPools)
    (link l : LinkId) : (p.modifyLink link f).home? l = p.home? l := by
  unfold home? modifyLink
  simp only [List.getElem?_modify]
  cases p.links[l]? with
  | none => rfl
  | some x =>
    by_cases h : link = l
    · simp [h, hf]
    · simp [h]

theorem shut_home? (p : TcpPools) (link : LinkId) (how : CloseType) (l : LinkId) :
    (p.shut link how).home? l = p.home? l := by
  unfold shut
  split
  · exact home?_modifyLink (f := fun x => { x with state := .closed }) (fun _ => rfl) p link l
  · rfl

theorem shut_pools (p : TcpPools) (link : LinkId) (how : CloseType) :
    (p.shut link how).pools = p.pools := by
  unfold shut
  split
  · rfl
  · rfl

theorem home?_of_isOpen (h : p.isOpen link = true) : ∃ j, p.home? link = some j := by
  rw [isOpen_eq] at h
  obtain ⟨l, hl, -⟩ := (Option.any_eq_true _ _).1 h
  exact ⟨l.pool, by rw [home?, hl]; rfl⟩

theorem getElem?_modifyPool (p : TcpPools) (j : Nat) (f : TcpPool → TcpPool) (i : Nat) :
    (p.modifyPool j f).pools[i]? = if i = j then (p.pools[i]?).map f else p.pools[i]? := by
  unfold modifyPool
  rw [List.getElem?_modify]
  by_cases hij : i = j
  · simp [hij]
  · simp [hij, Ne.symm hij]

theorem length_modifyPool (p : TcpPools) (j : Nat) (f : TcpPool → TcpPool) :
    (p.modifyPool j f).pools.length = p.pools.length := List.length_modify f p.pools j

/-- One pool is changed, and nothing else but the connections of that pool. The pool was there. -/
theorem Budgeted.modifyPool (h : Budgeted out p) {f : TcpPool → TcpPool} (hpools : q.pools = p.pools)
    (hw : Within j out out' p q)
    (hown : ∀ x, p.pools[j]? = some x → (f x).gone = false → Sound out' q j (f x))
    (hdistinct : out'.Nodup) (hknown : ∀ l ∈ out', (q.home? l).isSome = true)
    (hhomes : ∀ l i, q.home? l = some i → i < p.pools.length)
    (hrequests : ∀ r ∈ q.requests, r.pool < p.pools.length) : Budgeted out' (q.modifyPool j f) := by
  have hlength : (q.modifyPool j f).pools.length = p.pools.length := by
    rw [length_modifyPool, hpools]
  refine h.within (j := j) ⟨fun i hij => ?_, hw.state, hw.home, hw.apart, hw.lent, hw.underway⟩
    (fun x hx hgone => ?_) hdistinct hknown (hlength ▸ hhomes) (hlength ▸ hrequests)
  · rw [getElem?_modifyPool, if_neg hij, hpools]
  · rw [getElem?_modifyPool, if_pos rfl, hpools] at hx
    obtain ⟨y, hy, rfl⟩ := Option.map_eq_some_iff.1 hx
    have hs := hown y hy hgone
    exact ⟨hs.opened, hs.home, hs.distinct, hs.apart, hs.busy, hs.connecting, hs.most⟩

/-- A connection is closed that is not idle. -/
theorem Budgeted.shut (h : Budgeted out p)
    (hnot : ∀ (i : Nat) (x : TcpPool), p.pools[i]? = some x → x.gone = false → link ∉ x.idle)
    (how : CloseType) :
    Budgeted out (p.shut link how) := by
  refine h.same (shut_pools p link how) (shut_home? p link how) (fun i x hx hthere l hl => ?_)
    (fun i => underway_congr (shut_requests p link how) i) ?_
  · have hne : l ≠ link := by
      rintro rfl
      exact hnot i x hx hthere hl
    rw [shut_isOpen, bne_iff_ne.2 hne, Bool.and_true]
  · rw [shut_requests]
    exact h.requests

theorem pool_lt_of_mem_modify {f : ConnectRequest → ConnectRequest} (hf : ∀ r, (f r).pool = r.pool)
    {requests : List ConnectRequest} {n : Nat} (h : ∀ r ∈ requests, r.pool < n) (k : Nat) :
    ∀ r ∈ requests.modify k f, r.pool < n := by
  intro r hr
  obtain ⟨i, hi⟩ := List.mem_iff_getElem?.1 hr
  rw [List.getElem?_modify] at hi
  obtain ⟨r₀, hr₀, rfl⟩ := Option.map_eq_some_iff.1 hi
  have hlt := h r₀ (List.mem_of_getElem? hr₀)
  split
  · rw [hf]
    exact hlt
  · exact hlt

/-! ## What routers do

A connection in use is not idle, so what is done with it does not touch the list of idle ones. When
it is given back it is counted once less as busy, and is idle if it may be. -/

theorem Budgeted.use (h : Budgeted out p) (router : RouterRef) {c : LinkCommand}
    (hc : ∀ l, c ≠ .release l) (hfair : ∀ l, c.link? = some l → l ∈ out) :
    Budgeted out (perform router c p).2 := by
  -- A change of a link that moves it to no other pool and does not close it changes no account.
  have hlink : ∀ (link : LinkId) (f : TcpLink → TcpLink), (∀ x, (f x).pool = x.pool) →
      (∀ x, (f x).state = x.state) → Budgeted out (p.modifyLink link f) := by
    intro link f hpool hstate
    refine h.same rfl (home?_modifyLink hpool p link) (fun _ _ _ _ l _ => ?_) (fun _ => rfl) h.requests
    rw [isOpen_modifyLink, isOpen_eq]
    simp [hstate]
  cases c with
  | attach link => exact hlink link _ (fun _ => rfl) (fun _ => rfl)
  | initState link state => exact hlink link _ (fun _ => rfl) (fun _ => rfl)
  | updateState link state => exact hlink link _ (fun _ => rfl) (fun _ => rfl)
  | write link data =>
    show Budgeted out (if _ then _ else _)
    split
    · exact h.same rfl (fun _ => rfl) (fun _ _ _ _ _ _ => rfl) (fun _ => rfl) h.requests
    · exact h
  | close link how =>
    refine h.shut (fun i x hx hthere hidle => ?_) how
    exact (h.sound i x hx hthere).apart link hidle (hfair link rfl)
  | release link => exact absurd rfl (hc link)
  | cancel handle policy =>
    refine h.same rfl (fun _ => rfl) (fun _ _ _ _ _ _ => rfl) (fun i => ?_) ?_
    · exact countP_modify_of_eq (fun r => r.pool == i && !r.isOver)
        (fun r => { r with cancelled := some policy }) (fun _ => rfl) p.requests handle
    · exact pool_lt_of_mem_modify (f := fun r => { r with cancelled := some policy }) (fun _ => rfl)
        h.requests handle

/-- A connection of a pool is given back, and nothing else happens to other connections. -/
theorem Within.returned (hin : link ∈ out) (hj : p.home? link = some j) (hpools : q.pools = p.pools)
    (hhome : ∀ l, q.home? l = p.home? l) (hstate : ∀ l, l ≠ link → q.isOpen l = p.isOpen l)
    (hrequests : q.requests = p.requests) : Within j out (out.erase link) p q := by
  refine ⟨fun i _ => by rw [hpools], fun l i hl hij => hstate l ?_, fun l i hl => (hhome l).trans hl,
    fun l i _ _ hl => List.mem_of_mem_erase hl, fun i hij => ?_, fun i _ => ?_⟩
  · rintro rfl
    exact hij (Option.some.inj (hl.symm.trans hj))
  · have hless := lentBy_erase p hin hj i
    rw [if_neg hij] at hless
    rw [lentBy_congr fun l _ => hhome l]
    omega
  · exact underway_congr hrequests i

/-- The books of a pool that gets a connection back, which is kept if it is open. -/
theorem Sound.returned (h : Sound out p j x) (hin : link ∈ out) (hdistinct : out.Nodup)
    (hj : p.home? link = some j) (hhome : ∀ l, q.home? l = p.home? l)
    (hstate : ∀ l, q.isOpen l = p.isOpen l) (hrequests : q.requests = p.requests)
    {opened : Prop} [Decidable opened] (hopened : opened → q.isOpen link = true) :
    Sound (out.erase link) q j
      { x with busy := x.busy - 1, idle := if opened then link :: x.idle else x.idle } := by
  have hnot : link ∉ x.idle := fun hidle => h.apart link hidle hin
  have hless := lentBy_erase p hin hj j
  rw [if_pos rfl] at hless
  have hlent : q.lentBy (out.erase link) j = p.lentBy (out.erase link) j :=
    lentBy_congr (fun l _ => hhome l) j
  have hbusy := h.busy
  have hmost := h.most
  have hunderway : q.underway j = p.underway j := underway_congr hrequests j
  -- One connection less is lent; whether it is idle now depends on its being open.
  have hkeep : Sound (out.erase link) q j { x with busy := x.busy - 1 } := by
    refine ⟨fun l hl => by rw [hstate, h.opened l hl], fun l hl => by rw [hhome, h.home l hl],
      h.distinct, fun l hl hout => h.apart l hl (List.mem_of_mem_erase hout), ?_, ?_, ?_⟩
    · show x.busy - 1 = _
      omega
    · exact h.connecting.trans hunderway.symm
    · show x.idle.length + (x.busy - 1) + x.connecting ≤ x.most
      omega
  by_cases ho : opened
  · rw [if_pos ho]
    refine ⟨List.forall_mem_cons.2 ⟨hopened ho, hkeep.opened⟩,
      List.forall_mem_cons.2 ⟨(hhome link).trans hj, hkeep.home⟩,
      List.nodup_cons.2 ⟨hnot, h.distinct⟩,
      List.forall_mem_cons.2 ⟨hdistinct.not_mem_erase, hkeep.apart⟩, hkeep.busy, hkeep.connecting, ?_⟩
    show x.idle.length + 1 + (x.busy - 1) + x.connecting ≤ x.most
    omega
  · rw [if_neg ho]
    exact hkeep

/-- A connection in use is given back. -/
theorem Budgeted.release (h : Budgeted out p) (hin : link ∈ out) :
    Budgeted (out.erase link) (p.release link) := by
  obtain ⟨j, hj⟩ := Option.isSome_iff_exists.1 (h.known link hin)
  have hhome : ∀ l, (p.modifyLink link fun x => { x with owner := none }).home? l = p.home? l :=
    home?_modifyLink (f := fun x => { x with owner := none }) (fun _ => rfl) p link
  have hstate : ∀ l, (p.modifyLink link fun x => { x with owner := none }).isOpen l = p.isOpen l := by
    intro l
    rw [isOpen_modifyLink, isOpen_eq]
    simp
  have hpools : (p.modifyLink link fun x => { x with owner := none }).pools = p.pools := rfl
  have hrequests : (p.modifyLink link fun x => { x with owner := none }).requests = p.requests := rfl
  unfold TcpPools.release
  dsimp only
  generalize p.modifyLink link (fun x => { x with owner := none }) = q
    at hhome hstate hpools hrequests ⊢
  have hdistinct : (out.erase link).Nodup := h.distinct.erase link
  have hknown : ∀ l ∈ out.erase link, (p.home? l).isSome = true := fun l hl =>
    h.known l (List.mem_of_mem_erase hl)
  obtain ⟨l, hl, rfl⟩ := Option.map_eq_some_iff.1 ((hhome link).trans hj)
  rw [hl]
  dsimp only
  obtain ⟨x, hx⟩ : ∃ x, q.pools[l.pool]? = some x := by
    rw [hpools]
    exact ⟨_, List.getElem?_eq_getElem (h.homes link l.pool hj)⟩
  rw [hx, Option.all_some]
  cases hgone : x.gone with
  | true =>
    -- The pool is gone, and its connection is closed.
    rw [if_pos rfl]
    have hclosed : ∀ l', l' ≠ link → (q.shut link .flush).isOpen l' = p.isOpen l' := by
      intro l' hne
      rw [shut_isOpen, bne_iff_ne.2 hne, Bool.and_true, hstate]
    have hhome' : ∀ l', (q.shut link .flush).home? l' = p.home? l' := fun l' =>
      (shut_home? q link .flush l').trans (hhome l')
    have hpools' : (q.shut link .flush).pools = p.pools := (shut_pools q link .flush).trans hpools
    have hrequests' : (q.shut link .flush).requests = p.requests :=
      (shut_requests q link .flush).trans hrequests
    refine h.within (.returned hin hj hpools' hhome' hclosed hrequests')
      (fun y hy hthere => ?_) hdistinct (fun l' hl' => by rw [hhome']; exact hknown l' hl')
      (fun l' i hi => by rw [hpools']; exact h.homes l' i (hhome' l' ▸ hi))
      (by rw [hpools', hrequests']; exact h.requests)
    rw [hpools', ← hpools, hx] at hy
    cases hy
    rw [hgone] at hthere
    cases hthere
  | false =>
    rw [if_neg Bool.false_ne_true]
    refine h.modifyPool hpools (.returned hin hj hpools hhome (fun l' _ => hstate l') hrequests)
      (fun y hy _ => ?_) hdistinct (fun l' hl' => by rw [hhome]; exact hknown l' hl')
      (fun l' i hi => h.homes l' i (hhome l' ▸ hi)) (by rw [hrequests]; exact h.requests)
    rw [← hpools, hx] at hy
    cases hy
    refine (h.sound l.pool x (hpools ▸ hx) hgone).returned hin h.distinct hj hhome hstate hrequests ?_
    intro hopened
    rw [isOpen_eq, hl, Option.any_some, beq_iff_eq]
    exact hopened

/-! ## Asking for a connection

An idle connection is lent, or a connect is begun, or nothing is done because the budget is used up.
A pool whose host is configured in another way is replaced before that. -/

theorem reusable_of_open {links : List LinkId} (h : ∀ l ∈ links, p.isOpen l = true) :
    p.reusable links = (links.head?, links.tail) := by
  cases links with
  | nil => rfl
  | cons link rest =>
    rw [reusable, if_pos (h link List.mem_cons_self)]
    rfl

theorem modifyPool_of_eq {f : TcpPool → TcpPool} (hx : p.pools[i]? = some x) (hf : f x = x) :
    p.modifyPool i f = p := by
  have hsame : p.pools.modify i f = p.pools := by
    refine List.ext_getElem? fun k => ?_
    rw [List.getElem?_modify]
    by_cases hk : i = k
    · subst hk
      simp [hx, hf]
    · simp [hk]
  unfold modifyPool
  rw [hsame]

theorem modifyPool_modifyPool (p : TcpPools) (i : Nat) (f g : TcpPool → TcpPool) :
    (p.modifyPool i f).modifyPool i g = p.modifyPool i (g ∘ f) := by
  unfold modifyPool
  dsimp only
  rw [List.modify_modify_eq]

/-- What a pool answers whose books are in order. If it has an idle connection, that one is open, so
no pool makes a connection while it has one. -/
theorem request_eq (hx : p.pools[i]? = some x) (hs : Sound out p i x) (router : RouterRef) :
    p.request i router =
      match x.idle with
      | link :: rest =>
        (.ready link x.host, [], p.modifyPool i fun x => { x with idle := rest, busy := x.busy + 1 })
      | [] =>
        if x.most ≤ x.busy + x.connecting then
          (.failure .overflow (some x.host), [.overflow x.host.label], p)
        else
          (.pending p.requests.length, [],
            { (p.order (.connect p.requests.length x.host.address x.timeout)).modifyPool i
                fun x => { x with connecting := x.connecting + 1 } with
              requests := p.requests ++ [{ pool := i, router }] }) := by
  unfold request
  rw [hx]
  dsimp only
  rw [reusable_of_open hs.opened]
  cases hidle : x.idle with
  | nil =>
    have hsame : p.modifyPool i (fun x => { x with idle := [] }) = p :=
      modifyPool_of_eq hx (by rw [← hidle])
    simp only [List.head?_nil, List.tail_nil, hsame]
    rfl
  | cons link rest =>
    simp only [List.head?_cons, List.tail_cons, modifyPool_modifyPool]
    rfl

theorem Budgeted.request (h : Budgeted out p) (hx : p.pools[i]? = some x) (hthere : x.gone = false)
    (router : RouterRef) :
    Budgeted ((p.request i router).1.link?.toList ++ out) (p.request i router).2.2 := by
  have hs := h.sound i x hx hthere
  have hmost := hs.most
  rw [request_eq hx hs router]
  -- The first idle connection is lent, or a new one is ordered where there is room, or nothing is
  -- done.
  cases hidle : x.idle with
  | cons link rest =>
    dsimp only
    have hhome := hs.home link (hidle ▸ List.mem_cons_self)
    have hnodup := List.nodup_cons.1 (hidle ▸ hs.distinct)
    have hnot : link ∉ out := hs.apart link (hidle ▸ List.mem_cons_self)
    have hrest : ∀ l ∈ rest, l ∈ x.idle := fun l hl => hidle ▸ List.mem_cons_of_mem link hl
    refine h.modifyPool rfl ⟨fun _ _ => rfl, fun _ _ _ _ => rfl, fun _ _ hl => hl,
      fun l k hl hk hin => ?_, fun k hk => ?_, fun _ _ => rfl⟩ (fun y hy _ => ?_)
      (List.nodup_cons.2 ⟨hnot, h.distinct⟩)
      (List.forall_mem_cons.2 ⟨by rw [hhome]; rfl, h.known⟩) h.homes h.requests
    · rcases List.mem_cons.1 hin with rfl | hin
      · exact absurd (Option.some.inj (hl.symm.trans hhome)) hk
      · exact hin
    · rw [show (PoolAnswer.ready link x.host).link?.toList ++ out = link :: out from rfl,
        lentBy_cons p out hhome, if_neg hk, Nat.add_zero]
    · rw [hx] at hy
      cases hy
      refine ⟨fun l hl => hs.opened l (hrest l hl), fun l hl => hs.home l (hrest l hl), hnodup.2,
        fun l hl hin => ?_, ?_, hs.connecting, ?_⟩
      · rcases List.mem_cons.1 hin with rfl | hin
        · exact hnodup.1 hl
        · exact hs.apart l (hrest l hl) hin
      · show x.busy + 1 = p.lentBy (link :: out) i
        rw [lentBy_cons p out hhome, if_pos rfl, hs.busy]
      · show rest.length + (x.busy + 1) + x.connecting ≤ x.most
        rw [hidle, List.length_cons] at hmost
        omega
  | nil =>
    dsimp only
    by_cases hfull : x.most ≤ x.busy + x.connecting
    · rw [if_pos hfull]
      exact h
    · rw [if_neg hfull]
      -- The new connect counts for its own pool.
      have hmore : ∀ k, (p.requests ++ [({ pool := i, router } : ConnectRequest)]).countP
          (fun r => r.pool == k && !r.isOver) = p.underway k + if k = i then 1 else 0 := by
        intro k
        rw [List.countP_append, List.countP_singleton]
        by_cases hk : k = i
        · simp [hk, underway]
        · simp [hk, Ne.symm hk, underway]
      refine h.modifyPool (q := { p.order (.connect p.requests.length x.host.address x.timeout) with
          requests := p.requests ++ [{ pool := i, router }] }) rfl
        ⟨fun _ _ => rfl, fun _ _ _ _ => rfl, fun _ _ hl => hl, fun _ _ _ _ hl => hl, fun _ _ => rfl,
          fun k hk => (hmore k).trans (by rw [if_neg hk, Nat.add_zero])⟩
        (fun y hy _ => ?_) h.distinct h.known h.homes fun r hr => ?_
      · rw [hx] at hy
        cases hy
        refine ⟨hs.opened, hs.home, hs.distinct, hs.apart, hs.busy, ?_, ?_⟩
        · show x.connecting + 1 = _
          rw [hs.connecting]
          exact ((hmore i).trans (by rw [if_pos rfl])).symm
        · show x.idle.length + x.busy + (x.connecting + 1) ≤ x.most
          rw [hidle, List.length_nil]
          omega
      · rcases List.mem_append.1 hr with hr | hr
        · exact h.requests r hr
        · rw [List.mem_singleton.1 hr]
          exact (List.getElem?_eq_some_iff.1 hx).1

theorem foldl_shut_frame (links : List LinkId) (how : CloseType) (p : TcpPools) :
    (links.foldl (fun p link => p.shut link how) p).pools = p.pools ∧
      (links.foldl (fun p link => p.shut link how) p).requests = p.requests ∧
      ∀ l, (links.foldl (fun p link => p.shut link how) p).home? l = p.home? l := by
  induction links generalizing p with
  | nil => exact ⟨rfl, rfl, fun _ => rfl⟩
  | cons link rest ih =>
    obtain ⟨hpools, hrequests, hhome⟩ := ih (p.shut link how)
    exact ⟨hpools.trans (shut_pools p link how), hrequests.trans (shut_requests p link how),
      fun l => (hhome l).trans (shut_home? p link how l)⟩

/-- A pool goes. Its idle connections are closed, and no other pool has them. -/
theorem Budgeted.discard (h : Budgeted out p) (hx : p.pools[j]? = some x) (hthere : x.gone = false) :
    Budgeted out (p.discard j) := by
  have hs := h.sound j x hx hthere
  unfold TcpPools.discard
  dsimp only
  rw [hx, Option.map_some, Option.getD_some]
  obtain ⟨hpools, hrequests, hhome⟩ := foldl_shut_frame x.idle .flush
    (p.modifyPool j fun x => { x with idle := [], gone := true })
  -- What was idle in the pool is closed, and it was not idle in any other.
  have hstate := fun l => (foldl_shut x.idle .flush
    (p.modifyPool j fun x => { x with idle := [], gone := true }) l).2.2
  generalize x.idle.foldl (fun p link => p.shut link .flush)
    (p.modifyPool j fun x => { x with idle := [], gone := true }) = q at hpools hrequests hhome hstate
  have hhome' : ∀ l, q.home? l = p.home? l := hhome
  have hlength : q.pools.length = p.pools.length := by rw [hpools, length_modifyPool]
  refine h.within (j := j) ⟨fun i hij => ?_, fun l i hl hij => ?_, fun l i hl => (hhome l).trans hl,
    fun _ _ _ _ hl => hl, fun i _ => lentBy_congr (fun l _ => hhome' l) i,
    fun i _ => underway_congr hrequests i⟩ (fun y hy hgone => ?_) h.distinct
    (fun l hl => by rw [hhome']; exact h.known l hl)
    (fun l i hl => hlength ▸ h.homes l i (hhome' l ▸ hl))
    (fun r hr => hlength ▸ h.requests r (hrequests ▸ hr))
  · rw [hpools, getElem?_modifyPool, if_neg hij]
  · have hnot : x.idle.contains l = false := by
      rw [List.contains_eq_mem, decide_eq_false_iff_not]
      intro hin
      exact hij (Option.some.inj (hl.symm.trans (hs.home l hin)))
    rw [hstate, hnot, Bool.not_false, Bool.and_true]
    rfl
  · rw [hpools, getElem?_modifyPool, if_pos rfl, hx] at hy
    cases hy
    cases hgone

/-- A pool that is new has nothing on its books. -/
theorem Budgeted.fresh (h : Budgeted out p) (host : HostRef) (most timeout : Nat)
    (current : StringMap Nat) :
    Budgeted out { p with pools := p.pools ++ [{ host, most, timeout }], current } := by
  have hlength : (p.pools ++ [({ host, most, timeout } : TcpPool)]).length = p.pools.length + 1 := by
    rw [List.length_append, List.length_singleton]
  refine h.within (j := p.pools.length) ⟨fun i hi => ?_, fun _ _ _ _ => rfl, fun _ _ hl => hl,
    fun _ _ _ _ hl => hl, fun _ _ => rfl, fun _ _ => rfl⟩ (fun y hy _ => ?_) h.distinct h.known
    (fun l i hl => ?_) fun r hr => ?_
  · by_cases hlt : i < p.pools.length
    · exact List.getElem?_append_left hlt
    · rw [List.getElem?_eq_none (by rw [hlength]; omega), List.getElem?_eq_none (by omega)]
  · dsimp only at hy
    rw [List.getElem?_append_right (Nat.le_refl _), Nat.sub_self] at hy
    cases hy
    refine ⟨nofun, nofun, List.nodup_nil, nofun, ?_, ?_, Nat.zero_le most⟩
    · refine (List.countP_eq_zero.2 fun l _ hl => ?_).symm
      exact Nat.lt_irrefl _ (h.homes l _ (beq_iff_eq.1 hl))
    · refine (List.countP_eq_zero.2 fun r hr hl => ?_).symm
      rw [Bool.and_eq_true, beq_iff_eq] at hl
      exact absurd hl.1 (Nat.ne_of_lt (h.requests r hr))
  · have hlt := h.homes l i hl
    show i < (p.pools ++ [_]).length
    omega
  · have hlt := h.requests r hr
    show r.pool < (p.pools ++ [_]).length
    omega

theorem Budgeted.poolOf (h : Budgeted out p) (hp : p.Indexed) (host : HostRef) (most timeout : Nat) :
    Budgeted out (p.poolOf host most timeout).2 := by
  unfold TcpPools.poolOf
  dsimp only
  split
  · exact h.fresh host most timeout _
  · next i hfind =>
    split
    · exact h
    · obtain ⟨other, hsite, -⟩ := hp _ i hfind
      rw [sites_getElem?] at hsite
      obtain ⟨x, hx, hthere⟩ := Option.map_eq_some_iff.1 hsite
      exact (h.discard hx (Prod.mk.inj hthere).2).fresh host most timeout _

theorem Budgeted.ask (h : Budgeted out p) (hp : p.Indexed) (cluster : Config.Cluster) (host : HostRef)
    (router : RouterRef) :
    Budgeted ((ask cluster host router p).1.link?.toList ++ out) (ask cluster host router p).2.2 := by
  have hq := h.poolOf hp host cluster.maxConnections cluster.connectTimeout
  have hfound := (poolOf_looksUp hp host cluster.maxConnections cluster.connectTimeout).found
  rw [sites_getElem?] at hfound
  obtain ⟨x, hx, hthere⟩ := Option.map_eq_some_iff.1 hfound
  exact hq.request hx (Prod.mk.inj hthere).2 router

/-! ## What sockets do

Connections are made and are lost. A connect that is over is counted no longer, and its connection
goes to the one who asked, to the idle ones or away. -/

/-- A connection is closed from outside and leaves the idle ones. -/
theorem Budgeted.cut (h : Budgeted out p) (hopen : p.isOpen link = true) (hpools : q.pools = p.pools)
    (hrequests : q.requests = p.requests) (hhome : ∀ l, q.home? l = p.home? l)
    (hstate : ∀ l, q.isOpen l = (p.isOpen l && l != link)) : Budgeted out (q.detach link) := by
  obtain ⟨j, hj⟩ := home?_of_isOpen hopen
  obtain ⟨l, hl, rfl⟩ := Option.map_eq_some_iff.1 ((hhome link).trans hj)
  -- Only the one connection is closed.
  have hkept : ∀ l', l' ≠ link → q.isOpen l' = p.isOpen l' := fun l' hne => by
    rw [hstate, bne_iff_ne.2 hne, Bool.and_true]
  unfold detach
  rw [hl]
  refine h.modifyPool hpools ⟨fun i _ => by rw [hpools], fun l' i hl' hij => hkept l' ?_,
    fun l' i hl' => (hhome l').trans hl', fun _ _ _ _ hin => hin,
    fun i _ => lentBy_congr (fun l' _ => hhome l') i, fun i _ => underway_congr hrequests i⟩
    (fun x hx hthere => ?_) h.distinct (fun l' hl' => by rw [hhome]; exact h.known l' hl')
    (fun l' i hl' => h.homes l' i (hhome l' ▸ hl')) (fun r hr => h.requests r (hrequests ▸ hr))
  · rintro rfl
    exact hij (Option.some.inj (hl'.symm.trans hj))
  · have hs := h.sound l.pool x hx hthere
    have hmem : ∀ l' ∈ x.idle.filter (· != link), l' ∈ x.idle ∧ l' ≠ link := fun l' hl' =>
      ⟨(List.mem_filter.1 hl').1, bne_iff_ne.1 (List.mem_filter.1 hl').2⟩
    refine ⟨fun l' hl' => ?_, fun l' hl' => ?_, hs.distinct.filter _,
      fun l' hl' => hs.apart l' (hmem l' hl').1, ?_, ?_, ?_⟩
    · rw [hkept l' (hmem l' hl').2, hs.opened l' (hmem l' hl').1]
    · rw [hhome, hs.home l' (hmem l' hl').1]
    · exact hs.busy.trans (lentBy_congr (fun l' _ => hhome l') l.pool).symm
    · exact hs.connecting.trans (underway_congr hrequests l.pool).symm
    · have hmost := hs.most
      have hfewer := List.length_filter_le (· != link) x.idle
      show (x.idle.filter (· != link)).length + x.busy + x.connecting ≤ x.most
      omega

theorem Budgeted.onData (h : Budgeted out p) (alive : RouterRef → Bool) (link : LinkId)
    (octets : Bytes) : Budgeted out (p.onData alive link octets).pools := by
  unfold TcpPools.onData
  split
  · next hopen =>
    split
    · exact h
    · exact h.cut hopen (shut_pools p link .noFlush) (shut_requests p link .noFlush)
        (shut_home? p link .noFlush) (shut_isOpen p link .noFlush)
  · exact h

theorem Budgeted.onClosed (h : Budgeted out p) (alive : RouterRef → Bool) (link : LinkId)
    (event : ConnectionEvent) : Budgeted out (p.onClosed alive link event).pools := by
  unfold TcpPools.onClosed
  split
  · next hopen =>
    exact h.cut hopen rfl rfl (home?_modifyLink (f := fun x => { x with state := .closed })
      (fun _ => rfl) p link) (markClosed_isOpen p link)
  · exact h

/-- An attempt is over, which leaves room for a connection. -/
theorem Budgeted.endRequest {handle : HandleId} {r : ConnectRequest} (h : Budgeted out p)
    (hr : p.requests[handle]? = some r) (hover : r.isOver = false) (hx : p.pools[r.pool]? = some x)
    (hthere : x.gone = false) :
    Budgeted out ((p.modifyPool r.pool fun x => { x with connecting := x.connecting - 1 }).endRequest
      handle) ∧ x.idle.length + x.busy + (x.connecting - 1) < x.most := by
  have hs := h.sound r.pool x hx hthere
  have hmost := hs.most
  have hconnecting := hs.connecting
  have hless := underway_endRequest hr hover r.pool
  rw [if_pos rfl] at hless
  refine ⟨?_, by omega⟩
  refine h.modifyPool (q := p.endRequest handle) rfl ⟨fun _ _ => rfl, fun _ _ _ _ => rfl,
    fun _ _ hl => hl, fun _ _ _ _ hin => hin, fun _ _ => rfl, fun i hi => ?_⟩ (fun y hy _ => ?_)
    h.distinct h.known h.homes
    (pool_lt_of_mem_modify (f := fun r => { r with isOver := true }) (fun _ => rfl) h.requests handle)
  · have hsame := underway_endRequest hr hover i
    rwa [if_neg hi, Nat.add_zero] at hsame
  · rw [hx] at hy
    cases hy
    refine ⟨hs.opened, hs.home, hs.distinct, hs.apart, hs.busy, ?_, ?_⟩
    · show x.connecting - 1 = _
      omega
    · show x.idle.length + x.busy + (x.connecting - 1) ≤ x.most
      omega

theorem home?_append (p : TcpPools) (j : Nat) (l : LinkId) :
    home? { p with links := p.links ++ [{ pool := j }] } l =
      if l = p.links.length then some j else p.home? l := by
  unfold home?
  dsimp only
  by_cases hl : l = p.links.length
  · rw [hl, List.getElem?_append_right (Nat.le_refl _), Nat.sub_self, if_pos rfl]
    rfl
  · rw [if_neg hl]
    by_cases hlt : l < p.links.length
    · rw [List.getElem?_append_left hlt]
    · have hgt : p.links.length < l := Nat.lt_of_le_of_ne (Nat.le_of_not_lt hlt) (Ne.symm hl)
      rw [List.getElem?_eq_none (by rw [List.length_append]; exact hgt),
        List.getElem?_eq_none (Nat.le_of_lt hgt)]

theorem home?_length (p : TcpPools) : p.home? p.links.length = none := by
  rw [home?, List.getElem?_eq_none (Nat.le_refl _)]
  rfl

/-- A connection comes up that is nobody's and not kept yet. -/
theorem Budgeted.grow (h : Budgeted out p) (hj : j < p.pools.length) :
    Budgeted out { p with links := p.links ++ [{ pool := j }] } := by
  -- The new connection has a number that was not given out.
  have hne : ∀ l i, p.home? l = some i → l ≠ p.links.length := by
    rintro l i hl rfl
    rw [home?_length] at hl
    cases hl
  have hsame : ∀ l, (p.home? l).isSome = true →
      home? { p with links := p.links ++ [{ pool := j }] } l = p.home? l := by
    intro l hl
    obtain ⟨i, hi⟩ := Option.isSome_iff_exists.1 hl
    rw [home?_append, if_neg (hne l i hi)]
  have hstate : ∀ l i, p.home? l = some i →
      isOpen { p with links := p.links ++ [{ pool := j }] } l = p.isOpen l := fun l i hl =>
    (append_addsFree p j).1.states l (hne l i hl)
  have hlent : ∀ i, lentBy { p with links := p.links ++ [{ pool := j }] } out i = p.lentBy out i :=
    lentBy_congr fun l hl => hsame l (h.known l hl)
  refine h.within (j := j) ⟨fun _ _ => rfl, fun l i hl _ => hstate l i hl,
    fun l i hl => (hsame l (by rw [hl]; rfl)).trans hl, fun _ _ _ _ hin => hin, fun i _ => hlent i,
    fun _ _ => rfl⟩ (fun y hy hthere => ?_) h.distinct
    (fun l hl => by rw [hsame l (h.known l hl)]; exact h.known l hl) (fun l i hl => ?_) h.requests
  · have hs := h.sound j y hy hthere
    exact ⟨fun l hl => (hstate l j (hs.home l hl)).trans (hs.opened l hl),
      fun l hl => (hsame l (by rw [hs.home l hl]; rfl)).trans (hs.home l hl), hs.distinct, hs.apart,
      hs.busy.trans (hlent j).symm, hs.connecting, hs.most⟩
  · rw [home?_append] at hl
    split at hl
    · exact Option.some.inj hl ▸ hj
    · exact h.homes l i hl

/-- A connection of a pool that nobody has and that is not idle is kept. -/
theorem Budgeted.keepIdle (h : Budgeted out p) (hx : p.pools[j]? = some x) (hthere : x.gone = false)
    (hj : p.home? link = some j) (hopen : p.isOpen link = true) (hfree : link ∉ out)
    (hnot : link ∉ x.idle) (hroom : x.idle.length + x.busy + x.connecting < x.most) :
    Budgeted out (p.modifyPool j fun x => { x with idle := link :: x.idle }) := by
  have hs := h.sound j x hx hthere
  refine h.modifyPool rfl ⟨fun _ _ => rfl, fun _ _ _ _ => rfl, fun _ _ hl => hl, fun _ _ _ _ hin => hin,
    fun _ _ => rfl, fun _ _ => rfl⟩ (fun y hy _ => ?_) h.distinct h.known h.homes h.requests
  rw [hx] at hy
  cases hy
  refine ⟨List.forall_mem_cons.2 ⟨hopen, hs.opened⟩, List.forall_mem_cons.2 ⟨hj, hs.home⟩,
    List.nodup_cons.2 ⟨hnot, hs.distinct⟩, List.forall_mem_cons.2 ⟨hfree, hs.apart⟩, hs.busy,
    hs.connecting, ?_⟩
  show x.idle.length + 1 + x.busy + x.connecting ≤ x.most
  omega

theorem Budgeted.handOut (h : Budgeted out p) (hx : p.pools[j]? = some x) (hthere : x.gone = false)
    (hj : p.home? link = some j) (hfree : link ∉ out) (hnot : link ∉ x.idle)
    (hroom : x.idle.length + x.busy + x.connecting < x.most) :
    Budgeted (link :: out) (p.modifyPool j fun x => { x with busy := x.busy + 1 }) := by
  have hs := h.sound j x hx hthere
  refine h.modifyPool rfl ⟨fun _ _ => rfl, fun _ _ _ _ => rfl, fun _ _ hl => hl,
    fun l i hl hij hin => ?_, fun i hij => ?_, fun _ _ => rfl⟩ (fun y hy _ => ?_)
    (List.nodup_cons.2 ⟨hfree, h.distinct⟩) (List.forall_mem_cons.2 ⟨by rw [hj]; rfl, h.known⟩) h.homes
    h.requests
  · rcases List.mem_cons.1 hin with rfl | hin
    · exact absurd (Option.some.inj (hl.symm.trans hj)) hij
    · exact hin
  · rw [lentBy_cons p out hj, if_neg hij, Nat.add_zero]
  · rw [hx] at hy
    cases hy
    refine ⟨hs.opened, hs.home, hs.distinct, fun l hl hin => ?_, ?_, hs.connecting, ?_⟩
    · rcases List.mem_cons.1 hin with rfl | hin
      · exact hnot hl
      · exact hs.apart l hl hin
    · show x.busy + 1 = p.lentBy (link :: out) j
      rw [lentBy_cons p out hj, if_pos rfl, hs.busy]
    · show x.idle.length + (x.busy + 1) + x.connecting ≤ x.most
      omega

theorem Budgeted.onConnected (h : Budgeted out p) (alive : RouterRef → Bool) (handle : HandleId)
    (result : ConnectResult) :
    Budgeted (((p.onConnected alive handle result).told.bind (·.2.link?)).toList ++ out)
      (p.onConnected alive handle result).pools := by
  unfold TcpPools.onConnected
  split
  · exact h
  · next r hr =>
    split
    · exact h
    · next x hx =>
      split
      · exact h
      · next hboth =>
        rw [Bool.or_eq_true, not_or, Bool.not_eq_true, Bool.not_eq_true] at hboth
        obtain ⟨hended, hroom⟩ := h.endRequest hr hboth.1 hx hboth.2
        have hx' : ((p.modifyPool r.pool fun x => { x with connecting := x.connecting - 1 }).endRequest
            handle).pools[r.pool]? = some { x with connecting := x.connecting - 1 } := by
          refine (getElem?_modifyPool p r.pool _ r.pool).trans ?_
          rw [if_pos rfl, hx]
          rfl
        dsimp only
        generalize (p.modifyPool r.pool fun x => { x with connecting := x.connecting - 1 }).endRequest
          handle = q at hended hx' ⊢
        cases result with
        | failed reason =>
          dsimp only
          split
          · exact hended
          · exact hended
        | connected =>
          have hgrown := hended.grow (List.getElem?_eq_some_iff.1 hx').1
          have hnew := home?_append q r.pool q.links.length
          rw [if_pos rfl] at hnew
          have hopen := (append_addsFree q r.pool).2
          -- What has just come up was never handed out, and is nowhere kept.
          have hunknown : ∀ l, (q.home? l).isSome = true → l ≠ q.links.length := by
            rintro l hl rfl
            rw [home?_length] at hl
            cases hl
          have hfree : q.links.length ∉ out := fun hin => hunknown _ (hended.known _ hin) rfl
          have hnot : ∀ (i : Nat) (y : TcpPool), q.pools[i]? = some y → y.gone = false →
              q.links.length ∉ y.idle := by
            intro i y hy hthere hin
            refine hunknown _ ?_ rfl
            rw [(hended.sound i y hy hthere).home _ hin]
            rfl
          have hidle := hgrown.keepIdle hx' hboth.2 hnew hopen hfree (hnot _ _ hx' hboth.2) hroom
          dsimp only
          split
          · exact hgrown.shut hnot .noFlush
          · exact hidle
          · split
            · exact hgrown.handOut hx' hboth.2 hnew hfree (hnot _ _ hx' hboth.2) hroom
            · exact hidle

/-! ## Runs

The invariant over all events, and what it says of one pool. -/

/-- What happens, happens within the budget, as long as only connections in use are used. -/
theorem Budgeted.happen (h : Budgeted out p) (hp : p.Indexed) (e : PoolEvent)
    (hfair : ∀ l, e.uses = some l → l ∈ out) : Budgeted (p.lend out e) (p.happen e).pools := by
  cases e with
  | lookup host most timeout => exact h.poolOf hp host most timeout
  | ask cluster host router => exact h.ask hp cluster host router
  | perform router c =>
    cases c with
    | release link => exact h.release (hfair link rfl)
    | _ => exact h.use router (fun _ => nofun) hfair
  | connected alive handle result => exact h.onConnected alive handle result
  | data alive link octets => exact h.onData alive link octets
  | closed alive link event => exact h.onClosed alive link event

theorem Budgeted.after (h : Budgeted out p) (hp : p.Indexed) {es : List PoolEvent}
    (hfair : isFair p out es = true) : Budgeted (p.lent out es) (p.after es) := by
  induction es generalizing p out with
  | nil => exact h
  | cons e rest ih =>
    rw [isFair, Bool.and_eq_true] at hfair
    refine ih (h.happen hp e fun l hl => ?_) (happen_indexed hp e) hfair.2
    have hin := hfair.1
    rwa [hl, Option.all_some, List.contains_iff_mem] at hin

/-- Every pool keeps its budget. Take any run of what can happen to the pools of a process, in which
only connections in use are used, and a pool that is there at its end.

Its idle connections, those in use and those under way are within the budget together. Those in use
are counted by the number that was handed out and not given back, those under way by the number of
attempts that are not over, so neither count is ever taken below zero. Every idle connection is an
open one of this pool, is idle once and not in use, and all connections have numbers of their own. A
request is refused exactly if no connection is idle and the others fill the budget. -/
theorem after_budget (es : List PoolEvent) (hfair : isFair {} [] es = true) (i : Nat) (x : TcpPool)
    (hx : (after {} es).pools[i]? = some x) (hthere : x.gone = false) :
    let p := after {} es
    let used := (lent {} [] es).filter fun l => p.home? l == some i
    x.idle.length + x.busy + x.connecting ≤ x.most ∧
    x.busy = used.length ∧
    x.connecting = (p.requests.filter fun r => r.pool == i && !r.isOver).length ∧
    (∀ link ∈ used, 0 < x.busy) ∧
    (∀ r ∈ p.requests, r.pool = i → r.isOver = false → 0 < x.connecting) ∧
    (∀ link ∈ x.idle, p.isOpen link = true ∧ p.home? link = some i) ∧
    (x.idle ++ used).Nodup ∧
    (∀ link ∈ x.idle ++ used, link < p.links.length) ∧
    ∀ router, (∃ host, (p.request i router).1 = .failure .overflow host) ↔
      x.idle = [] ∧ x.most ≤ x.busy + x.connecting := by
  intro p used
  have hnone : Indexed {} := fun label i hi => by cases hi
  -- Everything follows from the accounts, which hold of no pools at all.
  have hempty : Budgeted [] {} := ⟨nofun, List.nodup_nil, nofun, nofun, nofun⟩
  have h : Budgeted (lent {} [] es) p := hempty.after hnone hfair
  have hs := h.sound i x hx hthere
  have hbusy : x.busy = used.length := hs.busy.trans List.countP_eq_length_filter
  have hconnecting : x.connecting = (p.requests.filter fun r => r.pool == i && !r.isOver).length :=
    hs.connecting.trans List.countP_eq_length_filter
  have hnumber : ∀ link j, p.home? link = some j → link < p.links.length := fun link j hj => by
    obtain ⟨l, hl, -⟩ := Option.map_eq_some_iff.1 hj
    exact (List.getElem?_eq_some_iff.1 hl).1
  refine ⟨hs.most, hbusy, hconnecting, fun link hin => ?_, fun r hr hpool hover => ?_,
    fun link hin => ⟨hs.opened link hin, hs.home link hin⟩, ?_, fun link hin => ?_, fun router => ?_⟩
  · rw [hbusy]
    exact List.length_pos_of_mem hin
  · rw [hconnecting]
    exact List.length_pos_of_mem (List.mem_filter.2 ⟨hr, by simp [hpool, hover]⟩)
  · refine List.nodup_append.2 ⟨hs.distinct, h.distinct.filter _, fun link hidle other hin he => ?_⟩
    exact hs.apart link hidle (he ▸ (List.mem_filter.1 hin).1)
  · rcases List.mem_append.1 hin with hin | hin
    · exact hnumber link i (hs.home link hin)
    · exact hnumber link i (beq_iff_eq.1 (List.mem_filter.1 hin).2)
  · rw [request_eq hx hs router]
    cases x.idle with
    | cons link rest => exact iff_of_false (by rintro ⟨host, he⟩; cases he) (by simp)
    | nil =>
      by_cases hfull : x.most ≤ x.busy + x.connecting
      · exact iff_of_true ⟨some x.host, by simp [hfull]⟩ ⟨rfl, hfull⟩
      · exact iff_of_false (by simp [hfull]) fun hboth => hfull hboth.2

/-- Two connections are under way, and one of the requests is taken back. Both come up; the one that
nobody waits for is idle until the next router gets it. The budget is then used up, and one more
router is refused. -/
theorem after_budget_cancelled_connect :
    let host : HostRef := { cluster := "c", address := "h:1" }
    let cluster : Config.Cluster := { name := "c", hosts := ["h:1"], maxConnections := 2 }
    let router (n : Nat) : RouterRef := { stream := n }
    let es : List PoolEvent :=
      [.ask cluster host (router 0), .ask cluster host (router 1),
        .perform (router 1) (.cancel 1 .keep), .connected (fun _ => true) 1 .connected,
        .connected (fun _ => true) 0 .connected, .ask cluster host (router 2)]
    isFair {} [] es = true ∧ ∃ x, (after {} es).pools[0]? = some x ∧ x.gone = false ∧ x.busy = 2 ∧
      x.idle.length + x.busy + x.connecting ≤ 2 ∧
      ∃ host, ((after {} es).request 0 (router 3)).1 = .failure .overflow host := by
  intro host cluster router es
  have hfair : isFair {} [] es = true := by decide +kernel
  obtain ⟨x, hx⟩ : ∃ x, (after {} es).pools[0]? = some x :=
    Option.isSome_iff_exists.1 (by decide +kernel)
  have hall : ((after {} es).pools[0]?).all (fun x => x.gone = false ∧ x.busy = 2 ∧ x.most = 2 ∧
      x.idle = []) = true := by decide +kernel
  rw [hx, Option.all_some, decide_eq_true_iff] at hall
  obtain ⟨hthere, hbusy, hmost, hidle⟩ := hall
  obtain ⟨hwithin, -, -, -, -, -, -, -, hrefused⟩ := after_budget es hfair 0 x hx hthere
  refine ⟨hfair, x, hx, hthere, hbusy, hmost ▸ hwithin, (hrefused (router 3)).2 ⟨hidle, ?_⟩⟩
  omega

end

end TcpPools

end RpcProxy

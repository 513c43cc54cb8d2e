import RpcProxy.Proofs.Pool.ConnectionHands

/-!
# What becomes of a request for a connection

A request that has to wait is answered when the attempt to connect for it is over: by the
connection, or by the reason why there is none. Nobody is told if the request was taken back or the
router is gone, and nobody is told a second time.

There is a third case in which nobody is told. The attempt finds its pool only as long as the pool
is there, and a pool goes when the next router asks for its host after a reload has made the host
anew. `answers_eq` has all three cases, over every run of what can happen to pools.

Two things are followed from the request to the end of its attempt: whether it was taken back, and
whether its pool was replaced (`Underway`). Either is decided by the events in between and by
nothing else, so a run is split at the first end of the attempt; before it the two are known step by
step, and behind it the request is `Settled`, whichever way it went.

A pool is replaced through its label. Labels lead to the latest pool made under them, and a pool
that was replaced stays in the list without one. What a lookup does to all places (`LooksUp`) is
therefore all that ever happens to them (`happen_sites`).
-/

set_option autoImplicit false

namespace RpcProxy

/-- Something that happens to the pools of a process. -/
inductive PoolEvent where
  /-- The pool of a host is looked up. -/
  | lookup (host : HostRef) (most timeout : Nat)
  /-- The pool of a host is looked up and asked for a connection. -/
  | ask (cluster : Config.Cluster) (host : HostRef) (router : RouterRef)
  /-- A router does something to a connection or to a request. -/
  | perform (router : RouterRef) (command : LinkCommand)
  /-- An attempt to connect for a request is over. -/
  | connected (alive : RouterRef → Bool) (handle : HandleId) (result : ConnectResult)
  | data (alive : RouterRef → Bool) (link : LinkId) (octets : Bytes)
  /-- A connection has ended from outside. -/
  | closed (alive : RouterRef → Bool) (link : LinkId) (event : ConnectionEvent)

namespace PoolEvent

/-- Whether the attempt to connect for a request is over. -/
def ends (handle : HandleId) : PoolEvent → Bool
  | connected _ h _ => h == handle
  | _ => false

/-- Whether a request is taken back. -/
def cancels (handle : HandleId) : PoolEvent → Bool
  | perform _ (.cancel h _) => h == handle
  | _ => false

/-- Whether the pool of a host is looked up for another host of the same label. Two hosts of one
label differ if a reload has made one of them anew. -/
def replaces (host : HostRef) : PoolEvent → Bool
  | lookup other _ _ | ask _ other _ => other.label == host.label && other != host
  | _ => false

end PoolEvent

/-- What a router is told when the attempt to connect is over. -/
def ConnectResult.answer (host : HostRef) (link : LinkId) : ConnectResult → Delivery
  | connected => .ready link host
  | failed reason => .failure reason (some host)

namespace TcpPools

/-- What follows when something happens. -/
def happen (p : TcpPools) : PoolEvent → Outcome
  | .lookup host most timeout => { pools := (p.poolOf host most timeout).2 }
  | .ask cluster host router =>
    let (_, events, pools) := ask cluster host router p
    { events, pools }
  | .perform router command => { pools := (perform router command p).2 }
  | .connected alive handle result => p.onConnected alive handle result
  | .data alive link octets => p.onData alive link octets
  | .closed alive link event => p.onClosed alive link event

def after (p : TcpPools) (events : List PoolEvent) : TcpPools :=
  events.foldl (fun p e => (p.happen e).pools) p

/-- What is told in a run when an attempt to connect for a request is over. -/
def answers (handle : HandleId) : TcpPools → List PoolEvent → List (RouterRef × Delivery)
  | _, [] => []
  | p, e :: rest =>
    (if e.ends handle then (p.happen e).told.toList else []) ++ answers handle (p.happen e).pools rest

variable {p p' p₁ p₂ p₃ : TcpPools} {handle : HandleId} {host : HostRef} {router : RouterRef}

theorem happen_connected (alive : RouterRef → Bool) (handle : HandleId) (result : ConnectResult)
    (p : TcpPools) : p.happen (.connected alive handle result) = p.onConnected alive handle result :=
  rfl

theorem after_cons (p : TcpPools) (e : PoolEvent) (rest : List PoolEvent) :
    p.after (e :: rest) = (p.happen e).pools.after rest := rfl

theorem answers_append (handle : HandleId) (p : TcpPools) (es fs : List PoolEvent) :
    answers handle p (es ++ fs) = answers handle p es ++ answers handle (p.after es) fs := by
  induction es generalizing p with
  | nil => rfl
  | cons e rest ih => simp [answers, ih, after_cons]

/-! ## What leaves requests alone

Requests to connect are appended when a pool is asked, and are marked when they are over or taken
back. All else leaves the list as it is. -/

theorem shut_requests (p : TcpPools) (link : LinkId) (how : CloseType) :
    (p.shut link how).requests = p.requests := by
  unfold shut
  split
  · rfl
  · rfl

theorem release_requests (p : TcpPools) (link : LinkId) : (p.release link).requests = p.requests := by
  unfold release
  dsimp only
  split
  · rfl
  · split
    · exact shut_requests _ link .flush
    · rfl

theorem poolOf_requests (p : TcpPools) (host : HostRef) (most timeout : Nat) :
    (p.poolOf host most timeout).2.requests = p.requests := by
  have hshut : ∀ (links : List LinkId) (q : TcpPools),
      (links.foldl (fun p link => p.shut link .flush) q).requests = q.requests := by
    intro links
    induction links with
    | nil => exact fun _ => rfl
    | cons link rest ih => exact fun q => (ih _).trans (shut_requests q link .flush)
  unfold poolOf
  dsimp only
  split
  · rfl
  · split
    · rfl
    · exact hshut _ _

/-! ## Whose pool is where

For whom a pool is, and whether it is gone, changes only when a pool is looked up. -/

/-- The host of every pool, and whether the pool is gone. This is all that decides whether an
attempt finds its pool. -/
def sites (p : TcpPools) : List (HostRef × Bool) := p.pools.map fun x => (x.host, x.gone)

/-- No pool was looked up. -/
structure Stays (p p' : TcpPools) : Prop where
  sites : p'.sites = p.sites
  current : p'.current = p.current

theorem Stays.refl (p : TcpPools) : Stays p p := ⟨rfl, rfl⟩

theorem Stays.trans (h₁ : Stays p₁ p₂) (h₂ : Stays p₂ p₃) : Stays p₁ p₃ :=
  ⟨h₂.sites.trans h₁.sites, h₂.current.trans h₁.current⟩

theorem modifyPool_stays {f : TcpPool → TcpPool} (hf : ∀ x, (f x).host = x.host ∧ (f x).gone = x.gone)
    (p : TcpPools) (i : Nat) : Stays p (p.modifyPool i f) := by
  refine ⟨?_, rfl⟩
  unfold sites modifyPool
  refine List.ext_getElem? fun j => ?_
  simp only [List.getElem?_map, List.getElem?_modify]
  cases p.pools[j]? with
  | none => rfl
  | some x =>
    by_cases hij : i = j
    · simp [hij, hf x]
    · simp [hij]

theorem shut_stays (p : TcpPools) (link : LinkId) (how : CloseType) : Stays p (p.shut link how) := by
  unfold shut
  split
  · exact ⟨rfl, rfl⟩
  · exact Stays.refl p

theorem detach_stays (p : TcpPools) (link : LinkId) : Stays p (p.detach link) := by
  unfold detach
  split
  · exact Stays.refl p
  · exact modifyPool_stays (by simp) p _

theorem release_stays (p : TcpPools) (link : LinkId) : Stays p (p.release link) := by
  have hlink : Stays p (p.modifyLink link fun l => { l with owner := none }) := ⟨rfl, rfl⟩
  unfold release
  dsimp only
  split
  · exact hlink
  · split
    · exact hlink.trans (shut_stays _ link .flush)
    · exact hlink.trans (modifyPool_stays (by simp) _ _)

theorem perform_stays (router : RouterRef) (c : LinkCommand) (p : TcpPools) :
    Stays p (perform router c p).2 := by
  cases c with
  | write link data =>
    show Stays p (if _ then _ else _)
    split
    · exact ⟨rfl, rfl⟩
    · exact Stays.refl p
  | close link how => exact shut_stays p link how
  | release link => exact release_stays p link
  | _ => exact ⟨rfl, rfl⟩

theorem request_stays (p : TcpPools) (i : Nat) (router : RouterRef) :
    Stays p (p.request i router).2.2 := by
  unfold request
  split
  · exact Stays.refl p
  · next pool hpool =>
    dsimp only
    have hidle : Stays p (p.modifyPool i fun x => { x with idle := (p.reusable pool.idle).2 }) :=
      modifyPool_stays (by simp) p i
    split
    · exact hidle.trans (modifyPool_stays (by simp) _ i)
    · split
      · exact hidle
      · have hmore := modifyPool_stays (f := fun x => { x with connecting := x.connecting + 1 })
          (by simp) ((p.modifyPool i fun x => { x with idle := (p.reusable pool.idle).2 }).order
            (.connect p.requests.length pool.host.address pool.timeout)) i
        exact hidle.trans ⟨hmore.sites, hmore.current⟩

theorem onData_stays (alive : RouterRef → Bool) (link : LinkId) (octets : Bytes) (p : TcpPools) :
    Stays p (p.onData alive link octets).pools := by
  unfold onData
  split
  · split
    · exact Stays.refl p
    · exact (shut_stays p link .noFlush).trans (detach_stays _ link)
  · exact Stays.refl p

theorem onClosed_stays (alive : RouterRef → Bool) (link : LinkId) (event : ConnectionEvent)
    (p : TcpPools) : Stays p (p.onClosed alive link event).pools := by
  unfold onClosed
  split
  · have hmarked : Stays p (p.markClosed link) := ⟨rfl, rfl⟩
    exact hmarked.trans (detach_stays _ link)
  · exact Stays.refl p

/-- The attempt for a request that is not over and whose pool is there ends: the request is over,
and its router is told if it still wants to know. -/
theorem onConnected_open {r : ConnectRequest} {pool : TcpPool} (hr : p.requests[handle]? = some r)
    (hpool : p.pools[r.pool]? = some pool) (hover : r.isOver = false) (hgone : pool.gone = false)
    (alive : RouterRef → Bool) (result : ConnectResult) :
    Stays p (p.onConnected alive handle result).pools ∧
      (p.onConnected alive handle result).pools.requests =
        p.requests.modify handle (fun r => { r with isOver := true }) ∧
      (p.onConnected alive handle result).told =
        if r.cancelled.isNone && alive r.router then
          some (r.router, result.answer pool.host p.links.length)
        else none := by
  unfold onConnected
  rw [hr]
  dsimp only
  rw [hpool]
  dsimp only
  rw [hover, hgone, Bool.or_false, if_neg (by decide)]
  have hless : Stays p (p.modifyPool r.pool fun x => { x with connecting := x.connecting - 1 }) :=
    modifyPool_stays (by simp) p r.pool
  -- The connect is over whatever comes of it.
  have hdone : Stays p ((p.modifyPool r.pool fun x =>
      { x with connecting := x.connecting - 1 }).endRequest handle) := ⟨hless.sites, hless.current⟩
  cases result with
  | failed reason => exact ⟨hdone, rfl, rfl⟩
  | connected =>
    generalize hq : (p.modifyPool r.pool fun x =>
      { x with connecting := x.connecting - 1 }).endRequest handle = q at hdone
    have hrequests : q.requests = p.requests.modify handle (fun r => { r with isOver := true }) := by
      rw [← hq]
      rfl
    have hlinks : q.links = p.links := by
      rw [← hq]
      rfl
    -- A connection that was made is appended, wherever it goes from there.
    have hgrown : Stays p { q with links := q.links ++ [{ pool := r.pool }] } :=
      ⟨hdone.sites, hdone.current⟩
    dsimp only
    rw [hlinks] at hgrown ⊢
    cases hc : r.cancelled with
    | some policy =>
      cases policy with
      | closeExcess =>
        exact ⟨hgrown.trans (shut_stays _ _ .noFlush), (shut_requests _ _ _).trans hrequests, rfl⟩
      | keep => exact ⟨hgrown.trans (modifyPool_stays (by simp) _ _), hrequests, rfl⟩
    | none =>
      cases ha : alive r.router with
      | true => exact ⟨hgrown.trans (modifyPool_stays (by simp) _ _), hrequests, rfl⟩
      | false => exact ⟨hgrown.trans (modifyPool_stays (by simp) _ _), hrequests, rfl⟩

/-- Nothing follows once the request is over or its pool is gone. -/
theorem onConnected_settled {r : ConnectRequest} {pool : TcpPool}
    (hr : p.requests[handle]? = some r) (hpool : p.pools[r.pool]? = some pool)
    (h : r.isOver = true ∨ pool.gone = true) (alive : RouterRef → Bool) (result : ConnectResult) :
    p.onConnected alive handle result = { pools := p } := by
  unfold onConnected
  rw [hr]
  dsimp only
  rw [hpool]
  dsimp only
  rw [if_pos (by simpa using h)]

/-! ## Looking up a pool

A pool is found by the label of its host. If the host has come to be configured in another way under
the same label, the pool that is found is given up and a new one takes its place. -/

/-- The pool that is found under a label is there, and its host has the label. So no pool that is
gone is ever found. -/
def Indexed (p : TcpPools) : Prop :=
  ∀ label i, p.current.find? label = some i → ∃ h, p.sites[i]? = some (h, false) ∧ h.label = label

theorem sites_getElem? (p : TcpPools) (i : Nat) :
    p.sites[i]? = (p.pools[i]?).map fun x => (x.host, x.gone) := List.getElem?_map

theorem discard_sites (p : TcpPools) (i : Nat) :
    (p.discard i).sites = p.sites.modify i (fun x => (x.1, true)) ∧
      (p.discard i).current = p.current := by
  have hshut : ∀ (links : List LinkId) (q : TcpPools),
      Stays q (links.foldl (fun p link => p.shut link .flush) q) := by
    intro links
    induction links with
    | nil => exact Stays.refl
    | cons link rest ih => exact fun q => (shut_stays q link .flush).trans (ih _)
  have hstays := hshut (((p.pools[i]?).map (·.idle)).getD [])
    (p.modifyPool i fun x => { x with idle := [], gone := true })
  refine ⟨hstays.sites.trans ?_, hstays.current⟩
  refine List.ext_getElem? fun j => ?_
  rw [sites_getElem?, List.getElem?_modify, sites_getElem?]
  simp only [modifyPool, List.getElem?_modify]
  cases p.pools[j]? with
  | none => rfl
  | some x =>
    by_cases hij : i = j
    · simp [hij]
    · simp [hij]

theorem Stays.indexed (h : Stays p p') (hp : p.Indexed) : p'.Indexed := by
  intro label i hi
  rw [h.current] at hi
  rw [h.sites]
  exact hp label i hi

/-- What looking up the pool of a host does to all pools. -/
structure LooksUp (host : HostRef) (i : Nat) (p p' : TcpPools) : Prop where
  /-- The pools stay in order. -/
  indexed : p'.Indexed
  /-- The pool that is found is there, and it is for this host. -/
  found : p'.sites[i]? = some (host, false)
  /-- It is found again. -/
  current : p'.current.find? host.label = some i
  /-- A pool that is gone does not come back. -/
  gone : ∀ (j : Nat) (h : HostRef), p.sites[j]? = some (h, true) → p'.sites[j]? = some (h, true)
  /-- Another host of the same label loses its pool. -/
  replaced : ∀ (j : Nat) (h : HostRef), p.sites[j]? = some (h, false) → p.current.find? h.label = some j →
    h.label = host.label → h ≠ host → p'.sites[j]? = some (h, true)
  kept : ∀ (j : Nat) (h : HostRef), p.sites[j]? = some (h, false) → p.current.find? h.label = some j →
    (h.label = host.label → h = host) →
    p'.sites[j]? = some (h, false) ∧ p'.current.find? h.label = some j

theorem LooksUp.stays {i : Nat} (h : LooksUp host i p₁ p₂) (hs : Stays p₂ p₃) :
    LooksUp host i p₁ p₃ where
  indexed := hs.indexed h.indexed
  found := hs.sites ▸ h.found
  current := hs.current ▸ h.current
  gone j x hj := hs.sites ▸ h.gone j x hj
  replaced j x hj hcur hl hne := hs.sites ▸ h.replaced j x hj hcur hl hne
  kept j x hj hcur hsame := hs.sites ▸ hs.current ▸ h.kept j x hj hcur hsame

theorem getElem?_append_of_some {α : Type} {l : List α} {i : Nat} {x : α} (h : l[i]? = some x)
    (rest : List α) : (l ++ rest)[i]? = some x := by
  rw [List.getElem?_append_left (List.getElem?_eq_some_iff.mp h).1, h]

/-- A label leads to the pool of a host of that label only. -/
theorem Indexed.find?_ne {p : TcpPools} (hp : p.Indexed) {i : Nat} {x : HostRef × Bool}
    (hx : p.sites[i]? = some x) {label : String} (hne : x.1.label ≠ label) :
    (p.current.find? label == some i) = false := by
  rw [beq_eq_false_iff_ne]
  intro he
  obtain ⟨h, hsite, hlabel⟩ := hp label i he
  rw [hx] at hsite
  cases hsite
  exact hne hlabel

/-- A new pool takes the place of one that is gone, or of none. -/
theorem fresh_looksUp {p q : TcpPools} (pool : TcpPool) (hp : p.Indexed) (hpool : pool.gone = false)
    (hcurrent : q.current = p.current)
    (hsites : ∀ j, q.sites[j]? =
      (p.sites[j]?).map fun x => (x.1, x.2 || p.current.find? pool.host.label == some j))
    (hother : ∀ j, p.current.find? pool.host.label = some j →
      ∀ g, p.sites[j]? ≠ some (pool.host, g)) :
    LooksUp pool.host q.pools.length p
      { q with pools := q.pools ++ [pool]
               current := q.current.insert pool.host.label q.pools.length } := by
  have hlength : q.sites.length = q.pools.length := List.length_map _
  have hnew : sites { q with
      pools := q.pools ++ [pool], current := q.current.insert pool.host.label q.pools.length } =
      q.sites ++ [(pool.host, false)] := by
    simp [sites, hpool]
  -- The label leads to the new pool, and all others to where they led.
  have hfind : ∀ label, (q.current.insert pool.host.label q.pools.length).find? label =
      if label = pool.host.label then some q.pools.length else p.current.find? label := by
    intro label
    rw [StringMap.find?_insert, hcurrent]
  have hlast : (q.sites ++ [(pool.host, false)])[q.pools.length]? = some (pool.host, false) := by
    rw [← hlength, List.getElem?_append_right (Nat.le_refl _), Nat.sub_self]
    rfl
  refine ⟨?indexed, ?found, ?current, ?gone, ?replaced, ?kept⟩
  case indexed =>
    intro label i hi
    dsimp only at hi
    rw [hfind] at hi
    rw [hnew]
    by_cases hl : label = pool.host.label
    · rw [if_pos hl] at hi
      obtain rfl := Option.some.inj hi
      exact ⟨pool.host, hlast, hl.symm⟩
    · rw [if_neg hl] at hi
      obtain ⟨h, hsite, hlabel⟩ := hp label i hi
      refine ⟨h, getElem?_append_of_some ?_ _, hlabel⟩
      rw [hsites, hsite, Option.map_some, hp.find?_ne hsite (hlabel ▸ hl)]
      rfl
  case found =>
    rw [hnew]
    exact hlast
  case current =>
    dsimp only
    rw [hfind, if_pos rfl]
  case gone =>
    intro j h hj
    rw [hnew]
    refine getElem?_append_of_some ?_ _
    rw [hsites, hj]
    rfl
  case replaced =>
    intro j h hj hcur hlabel _
    rw [hnew]
    refine getElem?_append_of_some ?_ _
    rw [hsites, hj, ← hlabel, hcur]
    simp
  case kept =>
    intro j h hj hcur hsame
    -- A host of the same label would be this very host, and then its pool would have stayed.
    have hne : h.label ≠ pool.host.label := by
      intro hl
      obtain rfl := hsame hl
      exact hother j hcur false hj
    refine ⟨?_, ?_⟩
    · rw [hnew]
      refine getElem?_append_of_some ?_ _
      rw [hsites, hj, Option.map_some, hp.find?_ne hj hne]
      rfl
    · dsimp only
      rw [hfind, if_neg hne, hcur]

theorem poolOf_looksUp (hp : p.Indexed) (host : HostRef) (most timeout : Nat) :
    LooksUp host (p.poolOf host most timeout).1 p (p.poolOf host most timeout).2 := by
  unfold poolOf
  dsimp only
  cases hfind : p.current.find? host.label with
  | none =>
    refine fresh_looksUp (q := p) { host, most, timeout } hp rfl rfl ?_ ?_
    · intro j
      dsimp only
      rw [hfind]
      cases p.sites[j]? <;> simp
    · intro j hj
      dsimp only at hj
      rw [hfind] at hj
      cases hj
  | some i =>
    dsimp only
    obtain ⟨h, hsite, hlabel⟩ := hp _ i hfind
    -- The pool that the label leads to is kept if it is of the host as it is configured now, and is
    -- replaced otherwise.
    have hhost : (p.pools[i]?).map (·.host) = some h := by
      rw [sites_getElem?] at hsite
      obtain ⟨x, hx, he⟩ := Option.map_eq_some_iff.mp hsite
      rw [hx, Option.map_some, (Prod.mk.inj he).1]
    rw [hhost]
    by_cases hh : h = host
    · subst hh
      rw [if_pos (by simp)]
      refine ⟨hp, hsite, hfind, fun _ _ hj => hj, ?_, fun j h' hj hcur _ => ⟨hj, hcur⟩⟩
      intro j h' hj hcur hl hne
      rw [hl, hfind] at hcur
      obtain rfl := Option.some.inj hcur
      rw [hsite] at hj
      cases hj
      exact absurd rfl hne
    · rw [if_neg (by simpa using hh)]
      obtain ⟨hsites, hcurrent⟩ := discard_sites p i
      refine fresh_looksUp { host, most, timeout } hp rfl hcurrent ?_ ?_
      · intro j
        rw [hsites, List.getElem?_modify, hfind]
        cases p.sites[j]? with
        | none => rfl
        | some x =>
          by_cases hij : i = j
          · simp [hij]
          · simp [hij, beq_eq_false_iff_ne.mpr hij]
      · intro j hj g hg
        dsimp only at hj hg
        rw [hfind] at hj
        obtain rfl := Option.some.inj hj
        rw [hsite] at hg
        cases hg
        exact hh rfl

/-! ## A request that is under way

From the attempt to its result. What becomes of a request is decided by two things that may have
happened in between: it was taken back, or its pool is gone. -/

/-- A request for a connection to a host is under way: whether it was taken back, and whether its
pool has been replaced. As long as it was not, the pool is the one that is found under the label. -/
structure Underway (handle : HandleId) (router : RouterRef) (host : HostRef)
    (cancelled replaced : Bool) (p : TcpPools) : Prop where
  indexed : p.Indexed
  request : ∃ r, p.requests[handle]? = some r ∧ r.router = router ∧ r.isOver = false ∧
    r.cancelled.isSome = cancelled ∧ p.sites[r.pool]? = some (host, replaced) ∧
    (replaced = false → p.current.find? host.label = some r.pool)

/-- Nobody will be told of a request any more. It is over, or the attempt will not find its pool;
the second is final as well, though the attempt still goes on. -/
structure Settled (handle : HandleId) (p : TcpPools) : Prop where
  indexed : p.Indexed
  request : ∃ r, p.requests[handle]? = some r ∧
    (r.isOver = true ∨ ∃ h, p.sites[r.pool]? = some (h, true))

theorem detach_requests (p : TcpPools) (link : LinkId) : (p.detach link).requests = p.requests := by
  unfold detach
  split <;> rfl

theorem onData_requests (alive : RouterRef → Bool) (link : LinkId) (octets : Bytes) (p : TcpPools) :
    (p.onData alive link octets).pools.requests = p.requests := by
  unfold onData
  split
  · split
    · rfl
    · exact (detach_requests _ link).trans (shut_requests p link .noFlush)
  · rfl

theorem onClosed_requests (alive : RouterRef → Bool) (link : LinkId) (event : ConnectionEvent)
    (p : TcpPools) : (p.onClosed alive link event).pools.requests = p.requests := by
  unfold onClosed
  split
  · exact detach_requests _ link
  · rfl

/-- The end of an attempt looks up no pool; it ends the request, or nothing happens. -/
theorem onConnected_frame (alive : RouterRef → Bool) (handle : HandleId) (result : ConnectResult)
    (p : TcpPools) : Stays p (p.onConnected alive handle result).pools ∧
      ((p.onConnected alive handle result).pools.requests = p.requests ∨
        (p.onConnected alive handle result).pools.requests =
          p.requests.modify handle (fun r => { r with isOver := true })) := by
  cases hr : p.requests[handle]? with
  | none =>
    unfold onConnected
    rw [hr]
    exact ⟨Stays.refl p, Or.inl rfl⟩
  | some r =>
    cases hpool : p.pools[r.pool]? with
    | none =>
      unfold onConnected
      rw [hr]
      dsimp only
      rw [hpool]
      exact ⟨Stays.refl p, Or.inl rfl⟩
    | some pool =>
      by_cases h : r.isOver = true ∨ pool.gone = true
      · rw [onConnected_settled hr hpool h]
        exact ⟨Stays.refl p, Or.inl rfl⟩
      · rw [not_or, Bool.not_eq_true, Bool.not_eq_true] at h
        obtain ⟨hs, hq, -⟩ := onConnected_open hr hpool h.1 h.2 alive result
        exact ⟨hs, Or.inr hq⟩

/-- A request that has to wait is the only new one. -/
theorem request_requests (p : TcpPools) (i : Nat) (router : RouterRef) :
    ∃ rest, (p.request i router).2.2.requests = p.requests ++ rest ∧
      ∀ h, (p.request i router).1 = .pending h →
        h = p.requests.length ∧ rest = [{ pool := i, router }] := by
  unfold request
  split
  · exact ⟨[], (List.append_nil _).symm, fun h hh => nomatch hh⟩
  · dsimp only
    split
    · exact ⟨[], (List.append_nil _).symm, fun h hh => nomatch hh⟩
    · split
      · exact ⟨[], (List.append_nil _).symm, fun h hh => nomatch hh⟩
      · refine ⟨_, rfl, fun h hh => ?_⟩
        cases hh
        exact ⟨rfl, rfl⟩

/-- A request keeps its pool and its router, whatever happens; it is taken back when it is, and over
when its attempt is. -/
theorem happen_request (e : PoolEvent) {r : ConnectRequest} (hr : p.requests[handle]? = some r) :
    ∃ r', (p.happen e).pools.requests[handle]? = some r' ∧ r'.pool = r.pool ∧ r'.router = r.router ∧
      r'.cancelled.isSome = (r.cancelled.isSome || e.cancels handle) ∧
      (r.isOver = true → r'.isOver = true) ∧ (e.ends handle = false → r'.isOver = r.isOver) := by
  -- Most events leave the request as it is, and append others at most.
  have hsame : e.cancels handle = false → ∀ rest, (p.happen e).pools.requests = p.requests ++ rest →
      ∃ r', (p.happen e).pools.requests[handle]? = some r' ∧ r'.pool = r.pool ∧
        r'.router = r.router ∧ r'.cancelled.isSome = (r.cancelled.isSome || e.cancels handle) ∧
        (r.isOver = true → r'.isOver = true) ∧ (e.ends handle = false → r'.isOver = r.isOver) := by
    intro hc rest hrequests
    refine ⟨r, ?_, rfl, rfl, by rw [hc, Bool.or_false], id, fun _ => rfl⟩
    rw [hrequests]
    exact getElem?_append_of_some hr rest
  cases e with
  | lookup host most timeout =>
    exact hsame rfl _ ((poolOf_requests p host most timeout).trans (List.append_nil _).symm)
  | ask cluster host router =>
    obtain ⟨rest, hrest, -⟩ := request_requests (p.poolOf host cluster.maxConnections
      cluster.connectTimeout).2 (p.poolOf host cluster.maxConnections cluster.connectTimeout).1 router
    rw [poolOf_requests] at hrest
    exact hsame rfl _ hrest
  | perform router c =>
    cases c with
    | cancel h policy =>
      by_cases hh : h = handle
      · subst hh
        refine ⟨{ r with cancelled := some policy }, ?_, rfl, rfl, ?_, id, fun _ => rfl⟩
        · simp [happen, perform, hr]
        · simp [PoolEvent.cancels]
      · refine ⟨r, ?_, rfl, rfl, ?_, id, fun _ => rfl⟩
        · simp [happen, perform, hr, hh]
        · simp [PoolEvent.cancels, hh]
    | write link data =>
      refine hsame rfl [] ?_
      rw [List.append_nil]
      show (if _ then _ else _ : TcpPools).requests = _
      split <;> rfl
    | close link how => exact hsame rfl _ ((shut_requests p link how).trans (List.append_nil _).symm)
    | release link => exact hsame rfl _ ((release_requests p link).trans (List.append_nil _).symm)
    | _ => exact hsame rfl _ (List.append_nil _).symm
  | connected alive h result =>
    rcases (onConnected_frame alive h result p).2 with hq | hq
    · exact hsame rfl _ (hq.trans (List.append_nil _).symm)
    · by_cases hh : h = handle
      · subst hh
        refine ⟨{ r with isOver := true }, ?_, rfl, rfl, by simp [PoolEvent.cancels], fun _ => rfl, ?_⟩
        · show (p.onConnected alive h result).pools.requests[h]? = _
          simp [hq, hr]
        · simp [PoolEvent.ends]
      · refine ⟨r, ?_, rfl, rfl, by simp [PoolEvent.cancels], id, fun _ => rfl⟩
        show (p.onConnected alive h result).pools.requests[handle]? = _
        simp [hq, hr, hh]
  | data alive link octets =>
    exact hsame rfl _ ((onData_requests alive link octets p).trans (List.append_nil _).symm)
  | closed alive link event =>
    exact hsame rfl _ ((onClosed_requests alive link event p).trans (List.append_nil _).symm)

/-- What a lookup does to all pools is all that ever happens to their places. -/
theorem happen_sites (hp : p.Indexed) (e : PoolEvent) :
    (Stays p (p.happen e).pools ∧ ∀ host, e.replaces host = false) ∨
      ∃ host i, LooksUp host i p (p.happen e).pools ∧
        ∀ h, e.replaces h = (host.label == h.label && host != h) := by
  cases e with
  | lookup host most timeout =>
    exact Or.inr ⟨host, _, poolOf_looksUp hp host most timeout, fun _ => rfl⟩
  | ask cluster host router =>
    have hl := poolOf_looksUp hp host cluster.maxConnections cluster.connectTimeout
    have hs := request_stays (p.poolOf host cluster.maxConnections cluster.connectTimeout).2
      (p.poolOf host cluster.maxConnections cluster.connectTimeout).1 router
    exact Or.inr ⟨host, _, hl.stays hs, fun _ => rfl⟩
  | perform router c => exact Or.inl ⟨perform_stays router c p, fun _ => rfl⟩
  | connected alive h result => exact Or.inl ⟨(onConnected_frame alive h result p).1, fun _ => rfl⟩
  | data alive link octets => exact Or.inl ⟨onData_stays alive link octets p, fun _ => rfl⟩
  | closed alive link event => exact Or.inl ⟨onClosed_stays alive link event p, fun _ => rfl⟩

theorem happen_indexed (hp : p.Indexed) (e : PoolEvent) : (p.happen e).pools.Indexed := by
  obtain ⟨hs, -⟩ | ⟨host, i, hl, -⟩ := happen_sites hp e
  · exact hs.indexed hp
  · exact hl.indexed

theorem after_indexed (hp : p.Indexed) (es : List PoolEvent) : (p.after es).Indexed := by
  induction es generalizing p with
  | nil => exact hp
  | cons e rest ih => exact ih (happen_indexed hp e)

/-- Until its attempt is over a request stays under way, and it is known whether it was taken back
and whether its pool has been replaced. -/
theorem Underway.happen {router : RouterRef} {cancelled replaced : Bool}
    (h : Underway handle router host cancelled replaced p) {e : PoolEvent}
    (he : e.ends handle = false) :
    Underway handle router host (cancelled || e.cancels handle) (replaced || e.replaces host)
      (p.happen e).pools := by
  obtain ⟨r, hr, hrouter, hover, hcancelled, hsite, hcurrent⟩ := h.request
  obtain ⟨r', hr', hpool', hrouter', hcancelled', -, hover'⟩ := happen_request e hr
  refine ⟨happen_indexed h.indexed e, r', hr', hrouter'.trans hrouter, (hover' he).trans hover,
    hcancelled' ▸ hcancelled ▸ rfl, ?_⟩
  rw [hpool']
  obtain ⟨hs, hnot⟩ | ⟨other, i, hl, hiff⟩ := happen_sites h.indexed e
  · rw [hnot, Bool.or_false, hs.sites, hs.current]
    exact ⟨hsite, hcurrent⟩
  · rw [hiff]
    cases replaced with
    | true => exact ⟨hl.gone _ _ hsite, fun hf => by cases hf⟩
    | false =>
      rw [Bool.false_or]
      cases hflag : other.label == host.label && other != host with
      | true =>
        rw [Bool.and_eq_true, beq_iff_eq, bne_iff_ne] at hflag
        have hgone := hl.replaced _ _ hsite (hcurrent rfl) hflag.1.symm (Ne.symm hflag.2)
        exact ⟨hgone, fun hf => by cases hf⟩
      | false =>
        rw [Bool.and_eq_false_iff, beq_eq_false_iff_ne, bne_eq_false_iff_eq] at hflag
        have hkept := hl.kept _ _ hsite (hcurrent rfl) fun hlabel =>
          (hflag.resolve_left fun hne => hne hlabel.symm).symm
        exact ⟨hkept.1, fun _ => hkept.2⟩

theorem Underway.after {router : RouterRef} {cancelled replaced : Bool} {es : List PoolEvent}
    (h : Underway handle router host cancelled replaced p)
    (hes : ∀ e ∈ es, e.ends handle = false) :
    Underway handle router host (cancelled || es.any (·.cancels handle))
      (replaced || es.any (·.replaces host)) (p.after es) := by
  induction es generalizing p cancelled replaced with
  | nil =>
    rw [List.any_nil, List.any_nil, Bool.or_false, Bool.or_false]
    exact h
  | cons e rest ih =>
    rw [List.any_cons, List.any_cons, ← Bool.or_assoc, ← Bool.or_assoc, after_cons]
    exact ih (h.happen (hes e List.mem_cons_self)) fun x hx => hes x (List.mem_cons_of_mem e hx)

theorem happen_gone (hp : p.Indexed) (e : PoolEvent) {i : Nat} (h : p.sites[i]? = some (host, true)) :
    (p.happen e).pools.sites[i]? = some (host, true) := by
  obtain ⟨hs, -⟩ | ⟨other, j, hl, -⟩ := happen_sites hp e
  · rw [hs.sites, h]
  · exact hl.gone _ _ h

theorem Settled.happen (h : Settled handle p) (e : PoolEvent) : Settled handle (p.happen e).pools := by
  obtain ⟨r, hr, hor⟩ := h.request
  obtain ⟨r', hr', hpool', -, -, hover', -⟩ := happen_request e hr
  refine ⟨happen_indexed h.indexed e, r', hr', ?_⟩
  rw [hpool']
  exact hor.imp hover' fun ⟨host, hgone⟩ => ⟨host, happen_gone h.indexed e hgone⟩

/-- Nobody is told of a request that is settled. -/
theorem Settled.told (h : Settled handle p) {e : PoolEvent} (he : e.ends handle = true) :
    (p.happen e).told = none := by
  cases e with
  | connected alive k result =>
    obtain rfl : k = handle := by simpa [PoolEvent.ends] using he
    obtain ⟨r, hr, hor⟩ := h.request
    show (p.onConnected alive k result).told = none
    cases hpool : p.pools[r.pool]? with
    | none =>
      unfold onConnected
      rw [hr]
      dsimp only
      rw [hpool]
    | some pool =>
      rw [onConnected_settled hr hpool]
      refine hor.imp id fun ⟨host, hgone⟩ => ?_
      rw [sites_getElem?, hpool] at hgone
      exact (Prod.mk.inj (Option.some.inj hgone)).2
  | _ => cases he

theorem Settled.answers (h : Settled handle p) (es : List PoolEvent) : answers handle p es = [] := by
  induction es generalizing p with
  | nil => rfl
  | cons e rest ih =>
    rw [TcpPools.answers, ih (h.happen e), List.append_nil]
    split
    · next he => rw [h.told he, Option.toList_none]
    · rfl

/-- As long as the attempt is not over, nobody is told how it ended. -/
theorem answers_eq_nil {es : List PoolEvent} (hes : ∀ e ∈ es, e.ends handle = false) (p : TcpPools) :
    answers handle p es = [] := by
  induction es generalizing p with
  | nil => rfl
  | cons e rest ih =>
    rw [answers, hes e List.mem_cons_self, ih fun x hx => hes x (List.mem_cons_of_mem e hx)]
    rfl

/-- A request that has to wait is under way. -/
theorem ask_underway (hp : p.Indexed) {cluster : Config.Cluster} {router : RouterRef}
    (h : (ask cluster host router p).1 = .pending handle) :
    Underway handle router host false false (ask cluster host router p).2.2 := by
  have hl := poolOf_looksUp hp host cluster.maxConnections cluster.connectTimeout
  unfold ask at h ⊢
  dsimp only at h ⊢
  generalize p.poolOf host cluster.maxConnections cluster.connectTimeout = q at h hl
  obtain ⟨i, q⟩ := q
  have hs := request_stays q i router
  obtain ⟨rest, hrest, hwaits⟩ := request_requests q i router
  obtain ⟨rfl, rfl⟩ := hwaits handle h
  refine ⟨hs.indexed hl.indexed, { pool := i, router }, ?_, rfl, rfl, rfl, ?_, fun _ => ?_⟩
  · rw [hrest, List.getElem?_append_right (Nat.le_refl _), Nat.sub_self]
    rfl
  · rw [hs.sites]
    exact hl.found
  · rw [hs.current]
    exact hl.current

/-- The first end of the attempt for a request that is under way. -/
theorem Underway.connected {router : RouterRef} {cancelled replaced : Bool}
    (h : Underway handle router host cancelled replaced p) (alive : RouterRef → Bool)
    (result : ConnectResult) :
    (p.onConnected alive handle result).told =
        (if cancelled || replaced || !alive router then none
          else some (router, result.answer host p.links.length)) ∧
      Settled handle (p.onConnected alive handle result).pools := by
  obtain ⟨r, hr, rfl, hover, rfl, hsite, -⟩ := h.request
  have hindexed := (onConnected_frame alive handle result p).1.indexed h.indexed
  obtain ⟨pool, hpool, he⟩ := Option.map_eq_some_iff.mp ((sites_getElem? p r.pool) ▸ hsite)
  obtain ⟨rfl, hgone⟩ := Prod.mk.inj he
  cases replaced with
  | true =>
    rw [onConnected_settled hr hpool (Or.inr hgone)] at hindexed ⊢
    refine ⟨?_, hindexed, r, hr, Or.inr ⟨_, hsite⟩⟩
    rw [Bool.or_true, Bool.true_or, if_pos rfl]
  | false =>
    obtain ⟨-, hrequests, htold⟩ := onConnected_open hr hpool hover hgone alive result
    refine ⟨htold.trans ?_, hindexed, { r with isOver := true }, ?_, Or.inl rfl⟩
    · cases hc : r.cancelled with
      | none => cases ha : alive r.router <;> rfl
      | some policy => rfl
    · rw [hrequests, List.getElem?_modify, hr]
      simp

/-- What the router of a request that has to wait is told of it, over any run from the request on in
which the attempt to connect ends: the way the attempt first ended, once. It is told nothing if it
took the request back before, or is gone by then, or if the pool of the host was looked up for
another host of the same label in between. -/
theorem answers_eq (before between later : List PoolEvent) (cluster : Config.Cluster)
    (host : HostRef) (router : RouterRef) (handle : HandleId) (alive : RouterRef → Bool)
    (result : ConnectResult)
    (hwaits : (ask cluster host router (after {} before)).1 = .pending handle)
    (hbetween : ∀ e ∈ between, e.ends handle = false) :
    let p := (ask cluster host router (after {} before)).2.2
    answers handle p (between ++ .connected alive handle result :: later) =
      if between.any (·.cancels handle) || between.any (·.replaces host) || !alive router then []
      else [(router, result.answer host (p.after between).links.length)] := by
  intro p
  have hnone : Indexed {} := fun label i hi => by cases hi
  have hasked : Underway handle router host false false p :=
    ask_underway (after_indexed hnone before) hwaits
  have hunder := hasked.after hbetween
  rw [Bool.false_or, Bool.false_or] at hunder
  obtain ⟨htold, hsettled⟩ := hunder.connected alive result
  have hends : PoolEvent.ends handle (.connected alive handle result) = true := beq_self_eq_true handle
  rw [answers_append, answers_eq_nil hbetween, List.nil_append, answers, if_pos hends,
    happen_connected, hsettled.answers later, List.append_nil, htold]
  split <;> rfl

/-- A connect is under way when the host is made anew and looked up. Then it succeeds, the router is
there and has not taken its request back, and nobody is told. -/
theorem answers_eq_rebuilt_host :
    let host : HostRef := { cluster := "users", address := "127.0.0.1:9090" }
    let cluster : Config.Cluster := { name := "users", hosts := ["127.0.0.1:9090"] }
    let router : RouterRef := { stream := 0 }
    let between := [PoolEvent.lookup { host with generation := 1 } 4 5]
    (ask cluster host router (after {} [])).1 = .pending 0 ∧
      (∀ e ∈ between, e.ends 0 = false) ∧ between.any (·.cancels 0) = false ∧
      answers 0 (ask cluster host router (after {} [])).2.2
        (between ++ [.connected (fun _ => true) 0 .connected]) = [] := by
  intro host cluster router between
  have hwaits : (ask cluster host router (after {} [])).1 = .pending 0 := by decide +kernel
  refine ⟨hwaits, by decide, by decide, ?_⟩
  have hreplaced : between.any (·.replaces host) = true := by decide +kernel
  rw [answers_eq [] between [] cluster host router 0 (fun _ => true) .connected hwaits (by decide),
    hreplaced]
  rfl

end TcpPools

end RpcProxy

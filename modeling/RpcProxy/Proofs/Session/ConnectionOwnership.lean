import RpcProxy.Proofs.Session.RouterWork
import RpcProxy.Session.Serve

/-!
# Connections have one owner

`Ownership` is what holds at every moment of the connections that a session has to do with. Each of
them is in one place: it lies idle in a pool, is on its way to one router, or is held by one router.
A router that holds a connection is its owner, so no event of it goes astray; one that waits for the
rest of a response therefore has an open connection, or will be told that it is closed.

There is one exception. A connection may be closed while it is on its way: then it has no owner yet,
nobody is told, and the router that gets it waits for ever. The program really does this, so
`Ownership` cannot exclude it. The parameter `lost` names the pairs for which it has happened, and
everything else is shown as if it had not; where it is taken to be empty, an open connection is what
every router holds, and where it is anything, the rest of the invariant still stands.

A session is not alone with its pools. The parameter `others` counts the connections that are on
their way to routers of other sessions, which this session knows nothing of, and `LeavesAlone` is
what it owes them. Together they let the sessions of a server be treated one at a time.

Moves are gone through one by one. A move is one of four things: everything stays where it is
(`Ownership.kept`), a router gives its connection back (`Ownership.yielded`), a router takes one
that was on its way (`Ownership.taken`) or one from the pool (`Ownership.asked`).
-/

set_option autoImplicit false

namespace RpcProxy

def Task.delivery? : Task → Option (RouterRef × Delivery)
  | .router ref (.deliver d) => some (ref, d)
  | _ => none

theorem Task.eq_of_delivery? {t : Task} {ref : RouterRef} {d : Delivery}
    (h : t.delivery? = some (ref, d)) : t = .router ref (.deliver d) := by
  unfold Task.delivery? at h
  split at h
  · cases h
    rfl
  · cases h

/-- Whether something that is told brings a connection. -/
def Delivery.brings (link : LinkId) : Delivery → Bool
  | .ready l _ => l == link
  | _ => false

def ConnectionEvent.isClose : ConnectionEvent → Bool
  | .remoteClose | .localClose => true
  | .connected | .connectedZeroRtt => false

/-- The connection that a router holds. -/
def Router.link? (r : Router) : Option LinkId := r.exchange.bind (·.link)

/-- A router that may not be there holds a connection. -/
theorem Router.bind_link?_eq_some_iff {m : Option Router} {link : LinkId} :
    m.bind (·.link?) = some link ↔
      ∃ r e, m = some r ∧ r.exchange = some e ∧ e.link = some link := by
  constructor
  · intro h
    obtain ⟨r, hr, h⟩ := Option.bind_eq_some_iff.mp h
    obtain ⟨e, he, hl⟩ := Option.bind_eq_some_iff.mp h
    exact ⟨r, e, hr, he, hl⟩
  · rintro ⟨r, e, rfl, he, hl⟩
    rw [Option.bind_some, Router.link?, he, Option.bind_some, hl]

namespace Session

section

variable {σ : Type}

/-- What routers are going to be told, in order. -/
def deliveries (s : Session σ) : List (RouterRef × Delivery) :=
  s.queue.posted.filterMap Task.delivery?

/-- How often a connection is on its way to a router. -/
def onWay (s : Session σ) (link : LinkId) : Nat := s.deliveries.countP (·.2.brings link)

/-- The connection that a router holds. -/
def link? (s : Session σ) (ref : RouterRef) : Option LinkId := (s.router? ref).bind (·.link?)

/-- Whether a router holds a connection whose response is not complete. -/
def awaits (s : Session σ) (ref : RouterRef) (link : LinkId) : Bool :=
  (s.router? ref).any fun r => r.exchange.any fun e => e.link == some link && !e.responseComplete

/-- Whether a router is going to be told of an event. -/
def hears (s : Session σ) (ref : RouterRef) : Bool :=
  s.deliveries.any fun x => x.1 = ref && match x.2 with
    | .event _ => true
    | _ => false

variable {s s' : Session σ} {ref other : RouterRef} {link : LinkId}

theorem link?_eq_some_iff :
    s.link? ref = some link ↔
      ∃ r e, s.router? ref = some r ∧ r.exchange = some e ∧ e.link = some link :=
  Router.bind_link?_eq_some_iff

theorem awaits_eq_true_iff :
    s.awaits ref link = true ↔ ∃ r e, s.router? ref = some r ∧ r.exchange = some e ∧
      e.link = some link ∧ e.responseComplete = false := by
  unfold awaits
  constructor
  · intro h
    obtain ⟨r, hr, h⟩ := (Option.any_eq_true _ _).mp h
    obtain ⟨e, he, h⟩ := (Option.any_eq_true _ _).mp h
    exact ⟨r, e, hr, he, by simpa using h⟩
  · rintro ⟨r, e, hr, he, hl, hc⟩
    simp [hr, he, hl, hc]

theorem link?_of_awaits (h : s.awaits ref link = true) : s.link? ref = some link := by
  obtain ⟨r, e, hr, he, hl, -⟩ := awaits_eq_true_iff.mp h
  exact link?_eq_some_iff.mpr ⟨r, e, hr, he, hl⟩

theorem session_of_router? {r : Router} (h : s.router? ref = some r) : ref.session = s.number := by
  unfold Session.router? at h
  split at h
  · assumption
  · cases h

theorem session_of_link? (h : s.link? ref = some link) : ref.session = s.number := by
  obtain ⟨r, e, hr, -, -⟩ := link?_eq_some_iff.mp h
  exact session_of_router? hr

/-! ## Routers at work

What a router does puts tasks behind others, but tells nobody anything: what is on the way comes
from pools alone. -/

theorem Works.deliveries (h : Works ref s s') : s'.deliveries = s.deliveries := by
  obtain ⟨ops, hown, g, side, notes, panic, -, rfl⟩ := h
  have hnone : (ops.map (Task.router ref)).filterMap Task.delivery? = [] := by
    rw [List.filterMap_eq_nil_iff]
    intro t ht
    obtain ⟨op, hop, rfl⟩ := List.mem_map.mp ht
    cases op with
    | write => rfl
    | ask op => rfl
    | deliver d => exact absurd (hown _ hop) id
  show (s.queue.posted ++ ops.map (Task.router ref)).filterMap Task.delivery? = _
  rw [List.filterMap_append, hnone, List.append_nil]
  rfl

theorem Works.number (h : Works ref s s') : s'.number = s.number := by
  obtain ⟨ops, -, g, side, notes, panic, -, rfl⟩ := h
  rfl

theorem Works.source (h : Works ref s s') : s'.source = s.source := by
  obtain ⟨ops, -, g, side, notes, panic, -, rfl⟩ := h
  rfl

theorem Works.router?_of_ne (h : Works ref s s') (hn : ref.session = s.number) (hne : other ≠ ref) :
    s'.router? other = s.router? other := by
  obtain ⟨ops, -, g, side, notes, panic, -, rfl⟩ := h
  unfold Session.router?
  dsimp only
  split
  · next hother =>
    rw [stream?_of_map (f := fun x => x.recall ref g) (Stream.recall_id ref g) rfl]
    cases hx : s.stream? other.stream with
    | none => rfl
    | some x =>
      refine Stream.recall_router?_of_ne g ?_
      by_cases hid : x.id = ref.stream
      · refine Or.inr fun hslot => hne ?_
        have hstream : other.stream = ref.stream := (stream?_id hx).symm.trans hid
        cases other
        cases ref
        simp_all
      · exact Or.inl hid
  · rfl

end

/-! ## Ownership

The invariant, and what keeps it. It is kept by a change of pools and a change of routers at the
same time, which have to fit each other; the relations between pools (`Keeps`, `GivesBack`, `Takes`,
`DropsIdle`) say what a change does to one connection and to all others. -/

/-- What is left alone: the connections that are on their way to others (`others` tells how often)
and those that routers of other sessions hold. Closed connections stay closed, too; so whoever has
lost a connection has lost it for good. -/
structure LeavesAlone (others : LinkId → Nat) (s s' : Session TcpPools) : Prop where
  number : s'.number = s.number
  noneRevived : s.side.pools.NoneRevived s'.side.pools
  spares : ∀ l, (0 < others l ∨ ∃ ref : RouterRef, ref.session ≠ s.number ∧
      s.side.pools.owner? l = some (some ref)) →
    s'.side.pools.owner? l = s.side.pools.owner? l ∧ s'.side.pools.isOpen l = s.side.pools.isOpen l

/-- What holds of connections at every moment.

A connection is counted where it is without an owner (`once`, `unowned`), and is named where it has
one (`owned`). That those who hold it are not counted is on purpose: an owner is one router, so
there cannot be two, and to count holders would mean to go through all streams of all sessions. -/
structure Ownership (lost : RouterRef → LinkId → Prop) (others : LinkId → Nat)
    (s : Session TcpPools) : Prop where
  /-- The pools are those that connect to hosts. -/
  source : s.source = TcpPools.source
  /-- A connection lies idle once, or is on its way once, and not both. -/
  once : ∀ l, s.side.pools.idleCount l + s.onWay l + others l ≤ 1
  /-- Such a connection belongs to nobody. -/
  unowned : ∀ l, 0 < s.side.pools.idleCount l + s.onWay l + others l →
    s.side.pools.owner? l = some none
  /-- A connection that a router holds is its own. -/
  owned : ∀ ref l, s.link? ref = some l → s.side.pools.owner? l = some (some ref)
  /-- A connection whose response a router waits for is open, or its end is on the way to the
  router, or was lost. -/
  live : ∀ ref l, s.awaits ref l = true →
    s.side.pools.isOpen l = true ∨ s.hears ref = true ∨ lost ref l
  /-- A connection that is on its way to a router is open, or its end was lost. -/
  way : ∀ ref l host, (ref, .ready l host) ∈ s.deliveries →
    s.side.pools.isOpen l = true ∨ lost ref l
  /-- The events that are on the way are ends of connections. -/
  closes : ∀ ref e, (ref, .event e) ∈ s.deliveries → e.isClose = true

/-- Routers are going to be told what they were, but for something that one has been told by now. If
that was an event, the router does not wait for a response any more, so it need not hear of the end
of its connection once again. -/
def Told (ref : RouterRef) (s s' : Session TcpPools) : Prop :=
  s'.deliveries = s.deliveries ∨ ∃ d, s.deliveries = (ref, d) :: s'.deliveries ∧
    ((∃ e, d = .event e) → ∀ l, s'.awaits ref l = false)

/-- No router has got a connection or waits for more than before. This is what the session owes;
what the pools do meanwhile comes beside it (`Keeps`, `GivesBack`, `DropsIdle`), so that each kind
of work needs one lemma about routers and one about pools. -/
structure NothingGained (ref : RouterRef) (s s' : Session TcpPools) : Prop where
  /-- It is the same connection of a client. -/
  number : s'.number = s.number
  /-- The pools answer as before. -/
  source : s'.source = s.source
  /-- What was on the way is so still, but for what the router took up. -/
  told : Told ref s s'
  /-- A router holds what it held, or nothing. -/
  link : ∀ other l, s'.link? other = some l → s.link? other = some l
  /-- It waits for a response only where it did. -/
  awaits : ∀ other l, s'.awaits other l = true → s.awaits other l = true

section

variable {lost : RouterRef → LinkId → Prop} {others : LinkId → Nat} {s s' s₁ s₂ s₃ : Session TcpPools}
  {ref other : RouterRef} {link : LinkId}

theorem LeavesAlone.refl (others : LinkId → Nat) (s : Session TcpPools) : LeavesAlone others s s :=
  ⟨rfl, TcpPools.NoneRevived.refl _, fun _ _ => ⟨rfl, rfl⟩⟩

theorem LeavesAlone.trans (h₁ : LeavesAlone others s₁ s₂) (h₂ : LeavesAlone others s₂ s₃) :
    LeavesAlone others s₁ s₃ where
  number := h₂.number.trans h₁.number
  noneRevived := h₁.noneRevived.trans h₂.noneRevived
  spares l hl := by
    obtain ⟨howner, hopen⟩ := h₁.spares l hl
    obtain ⟨howner', hopen'⟩ := h₂.spares l (by rwa [h₁.number, howner])
    exact ⟨howner'.trans howner, hopen'.trans hopen⟩

theorem Told.mem (h : Told ref s s') {x : RouterRef × Delivery} (hx : x ∈ s'.deliveries) :
    x ∈ s.deliveries := by
  rcases h with h | ⟨d, h, -⟩
  · exact h ▸ hx
  · exact h ▸ List.mem_cons_of_mem _ hx

theorem Told.onWay_le (h : Told ref s s') (l : LinkId) : s'.onWay l ≤ s.onWay l := by
  unfold onWay
  rcases h with h | ⟨d, h, -⟩
  · exact Nat.le_of_eq (by rw [h])
  · rw [h]
    exact List.Sublist.countP_le (List.sublist_cons_self _ _)

theorem Told.hears (h : Told ref s s') (ha : s'.awaits other link = true)
    (ho : s.hears other = true) : s'.hears other = true := by
  unfold Session.hears at ho ⊢
  rcases h with h | ⟨d, h, hd⟩
  · rwa [h]
  · rw [h, List.any_cons] at ho
    by_cases hne : ref = other
    · subst hne
      cases d with
      | event e =>
        rw [hd ⟨e, rfl⟩ link] at ha
        cases ha
      | ready l host => simpa using ho
      | failure reason host => simpa using ho
      | data octets => simpa using ho
    · simpa [hne] using ho

theorem link?_congr (h : s'.router? ref = s.router? ref) : s'.link? ref = s.link? ref := by
  unfold link?
  rw [h]

theorem awaits_congr (h : s'.router? ref = s.router? ref) (l : LinkId) :
    s'.awaits ref l = s.awaits ref l := by
  unfold awaits
  rw [h]

/-- A connection that somebody holds is nowhere else. -/
theorem Ownership.nowhere (h : Ownership lost others s)
    (ho : s.side.pools.owner? link = some (some ref)) :
    s.side.pools.idleCount link = 0 ∧ s.onWay link = 0 ∧ others link = 0 := by
  by_cases hpos : 0 < s.side.pools.idleCount link + s.onWay link + others link
  · rw [h.unowned link hpos] at ho
    cases ho
  · omega

theorem NothingGained.of_router {s s' : Session TcpPools} (hnumber : s'.number = s.number)
    (hsource : s'.source = s.source) (htold : Told ref s s')
    (hother : ∀ other, other ≠ ref → s'.router? other = s.router? other)
    (hlink : ∀ l, s'.link? ref = some l → s.link? ref = some l)
    (hawaits : ∀ l, s'.awaits ref l = true → s.awaits ref l = true) : NothingGained ref s s' := by
  refine ⟨hnumber, hsource, htold, ?_, ?_⟩
  · intro r l hl
    by_cases hr : r = ref
    · exact hr ▸ hlink l (hr ▸ hl)
    · exact link?_congr (hother r hr) ▸ hl
  · intro r l ha
    by_cases hr : r = ref
    · exact hr ▸ hawaits l (hr ▸ ha)
    · exact awaits_congr (hother r hr) l ▸ ha

/-- A router that still waits has an open connection, or will hear of its end, as before. -/
theorem Ownership.live_eased {r : RouterRef} {l : LinkId} (h : Ownership lost others s)
    (he : NothingGained ref s s')
    (ha : s'.awaits r l = true) :
    s.side.pools.isOpen l = true ∨ s'.hears r = true ∨ lost r l :=
  (h.live r l (he.awaits r l ha)).imp_right (Or.imp_left (he.told.hears ha))

/-- Everything stays where it is. -/
theorem Ownership.kept (h : Ownership lost others s) (he : NothingGained ref s s')
    (hp : s.side.pools.Keeps s'.side.pools) : Ownership lost others s' ∧ LeavesAlone others s s' := by
  -- Nothing has come to anybody, so every count can only have gone down, and the pools are as they
  -- were.
  refine ⟨⟨he.source.trans h.source, ?once, ?unowned, ?owned, ?live, ?way, ?closes⟩,
    ⟨he.number, hp.noneRevived, fun l _ => ⟨hp.owner l, hp.state l⟩⟩⟩
  case once =>
    intro l
    have hway := he.told.onWay_le l
    have honce := h.once l
    rw [hp.idle]
    omega
  case unowned =>
    intro l hpos
    have hway := he.told.onWay_le l
    rw [hp.idle] at hpos
    rw [hp.owner]
    exact h.unowned l (by omega)
  case owned =>
    intro r l hl
    rw [hp.owner]
    exact h.owned r l (he.link r l hl)
  case live =>
    intro r l ha
    rw [hp.state]
    exact h.live_eased he ha
  case way =>
    intro r l host hmem
    rw [hp.state]
    exact h.way r l host (he.told.mem hmem)
  case closes =>
    intro r e hmem
    exact h.closes r e (he.told.mem hmem)

/-- A connection that is nowhere else is given back. -/
theorem Ownership.released (h : Ownership lost others s) (he : NothingGained ref s s')
    (hfree : s.side.pools.idleCount link = 0 ∧ s'.onWay link = 0 ∧ others link = 0)
    (hknown : (s.side.pools.owner? link).isSome) (hnone : ∀ r, s'.link? r ≠ some link)
    (hown : ∀ r : RouterRef, s.side.pools.owner? link = some (some r) → r.session = s.number)
    (hp : s.side.pools.GivesBack link s'.side.pools) :
    Ownership lost others s' ∧ LeavesAlone others s s' := by
  refine ⟨⟨he.source.trans h.source, ?once, ?unowned, ?owned, ?live, ?way, ?closes⟩, ⟨he.number,
      hp.noneRevived, ?spares⟩⟩
  case once =>
    intro l
    by_cases hl : l = link
    -- It was nowhere, so now it is idle once or not at all.
    · have hidle := hp.idle
      subst hl
      omega
    · have hway := he.told.onWay_le l
      have honce := h.once l
      rw [hp.idles l hl]
      omega
  case unowned =>
    intro l hpos
    by_cases hl : l = link
    · subst hl
      obtain ⟨o, ho⟩ := Option.isSome_iff_exists.mp hknown
      rw [hp.owner, ho, Option.map_some]
    · have hway := he.told.onWay_le l
      rw [hp.idles l hl] at hpos
      rw [hp.owners l hl]
      exact h.unowned l (by omega)
  case owned =>
    intro r l hl
    have hne : l ≠ link := fun heq => hnone r (heq ▸ hl)
    rw [hp.owners l hne]
    exact h.owned r l (he.link r l hl)
  case live =>
    intro r l ha
    have hne : l ≠ link := fun heq => hnone r (heq ▸ link?_of_awaits ha)
    rw [hp.states l hne]
    exact h.live_eased he ha
  case way =>
    intro r l host hmem
    -- A connection that is on its way is not the one that was given back, which is on its way to
    -- nobody.
    have hne : l ≠ link := by
      rintro rfl
      have hpos : 0 < s'.onWay l := List.countP_pos_iff.mpr ⟨_, hmem, by simp [Delivery.brings]⟩
      omega
    rw [hp.states l hne]
    exact h.way r l host (he.told.mem hmem)
  case closes =>
    intro r e hmem
    exact h.closes r e (he.told.mem hmem)
  case spares =>
    intro l hl
    have hne : l ≠ link := by
      rintro rfl
      rcases hl with hl | ⟨r, hr, ho⟩
      · omega
      · exact hr (hown r ho)
    exact ⟨hp.owners l hne, hp.states l hne⟩

/-- A router gives its connection back. -/
theorem Ownership.yielded (h : Ownership lost others s) (he : NothingGained ref s s')
    (hl : s.link? ref = some link) (hl' : s'.link? ref = none)
    (hp : s.side.pools.GivesBack link s'.side.pools) :
    Ownership lost others s' ∧ LeavesAlone others s s' := by
  have ho := h.owned ref link hl
  obtain ⟨hidle, hway, hothers⟩ := h.nowhere ho
  have hle := he.told.onWay_le link
  refine h.released he ⟨hidle, by omega, hothers⟩ (by rw [ho]; rfl) ?_ ?_ hp
  · intro r hr
    have ho' := h.owned r link (he.link r link hr)
    obtain rfl : ref = r := by simpa [ho] using ho'
    rw [hl'] at hr
    cases hr
  · intro r hr
    obtain rfl : ref = r := by simpa [ho] using hr
    exact session_of_link? hl

/-- A connection that comes first is on its way once less behind it. -/
theorem onWay_of_ready {host : HostRef}
    (hd : s.deliveries = (ref, .ready link host) :: s'.deliveries) :
    s.onWay link = s'.onWay link + 1 := by
  unfold onWay
  rw [hd]
  exact List.countP_cons_of_pos (by simp [Delivery.brings])

/-- A connection arrives for a router that is gone and is given back. -/
theorem Ownership.gaveBack (h : Ownership lost others s) (host : HostRef) (he : NothingGained ref s s')
    (hd : s.deliveries = (ref, .ready link host) :: s'.deliveries)
    (hp : s.side.pools.GivesBack link s'.side.pools) :
    Ownership lost others s' ∧ LeavesAlone others s s' := by
  have hway := onWay_of_ready hd
  have honce := h.once link
  have ho := h.unowned link (by omega)
  refine h.released he ⟨by omega, by omega, by omega⟩ (by rw [ho]; rfl) ?_ ?_ hp
  · intro r hr
    rw [h.owned r link (he.link r link hr)] at ho
    cases ho
  · intro r hr
    rw [ho] at hr
    cases hr

/-- A router attaches itself to a connection that nobody has. -/
theorem Ownership.takes {p₀ : TcpPools} (h : Ownership lost others s) (hnumber : s'.number = s.number)
    (hsource : s'.source = s.source) (htold : Told ref s s')
    (hother : ∀ other, other ≠ ref → s'.router? other = s.router? other)
    (hl' : ∀ l, s'.link? ref = some l → l = link) (h₀ : s.side.pools.DropsIdle p₀)
    (h₁ : p₀.Takes ref link s'.side.pools) (ho : s.side.pools.owner? link = some none)
    (hfree : p₀.idleCount link = 0 ∧ s'.onWay link = 0 ∧ others link = 0)
    (hopen : p₀.isOpen link = true ∨ lost ref link) :
    Ownership lost others s' ∧ LeavesAlone others s s' := by
  have howner : ∀ l, l ≠ link → s'.side.pools.owner? l = s.side.pools.owner? l := fun l hl =>
    (h₁.owners l hl).trans (h₀.owner l)
  have hstate : ∀ l, s.side.pools.idleCount l = 0 → s'.side.pools.isOpen l = s.side.pools.isOpen l :=
    fun l hl => (h₁.state l).trans (h₀.states l hl)
  -- A router that held something else before has let go of it, so only other routers matter.
  have hlink : ∀ r l, s'.link? r = some l → l ≠ link → s.link? r = some l := by
    intro r l hl hne
    by_cases hr : r = ref
    · exact absurd (hl' l (hr ▸ hl)) hne
    · rwa [← link?_congr (hother r hr)]
  have hself : ∀ r, s'.link? r = some link → r = ref := by
    intro r hr
    by_cases hne : r = ref
    · exact hne
    · rw [link?_congr (hother r hne)] at hr
      rw [h.owned r link hr] at ho
      cases ho
  refine ⟨⟨hsource.trans h.source, ?once, ?unowned, ?owned, ?live, ?way, ?closes⟩, ⟨hnumber,
      h₀.noneRevived.trans h₁.noneRevived, ?spares⟩⟩
  case once =>
    intro l
    have hway := htold.onWay_le l
    have honce := h.once l
    have hidle := h₀.idle l
    rw [h₁.idle]
    omega
  case unowned =>
    intro l hpos
    have hway := htold.onWay_le l
    have hidle := h₀.idle l
    rw [h₁.idle] at hpos
    have hne : l ≠ link := by
      rintro rfl
      omega
    rw [howner l hne]
    exact h.unowned l (by omega)
  case owned =>
    intro r l hl
    by_cases hne : l = link
    · subst hne
      rw [h₁.owner, h₀.owner, ho, hself r hl]
      rfl
    · rw [howner l hne]
      exact h.owned r l (hlink r l hl hne)
  case live =>
    intro r l ha
    have hl := link?_of_awaits ha
    by_cases hne : l = link
    · subst hne
      rw [h₁.state, hself r hl]
      rcases hopen with ho | ho
      · exact Or.inl ho
      · exact Or.inr (Or.inr ho)
    · have hheld := hlink r l hl hne
      have hr : r ≠ ref := by
        rintro rfl
        exact hne (hl' l hl)
      rw [hstate l (h.nowhere (h.owned r l hheld)).1]
      rcases h.live r l (awaits_congr (hother r hr) l ▸ ha) with ho | ho | ho
      · exact Or.inl ho
      · exact Or.inr (Or.inl (htold.hears ha ho))
      · exact Or.inr (Or.inr ho)
  case way =>
    intro r l host hmem
    have hpos : 0 < s.onWay l :=
      List.countP_pos_iff.mpr ⟨_, htold.mem hmem, by simp [Delivery.brings]⟩
    have honce := h.once l
    rw [hstate l (by omega)]
    exact h.way r l host (htold.mem hmem)
  case closes =>
    intro r e hmem
    exact h.closes r e (htold.mem hmem)
  case spares =>
    intro l hl
    have hne : l ≠ link := by
      rintro rfl
      rcases hl with hl | ⟨r, hr, ho'⟩
      · omega
      · rw [ho] at ho'
        cases ho'
    have hzero : s.side.pools.idleCount l = 0 := by
      rcases hl with hl | ⟨r, hr, ho'⟩
      · have honce := h.once l
        omega
      · exact (h.nowhere ho').1
    exact ⟨howner l hne, hstate l hzero⟩

/-- A router takes the connection that was on its way to it, and gives back the one before. -/
theorem Ownership.taken {p₁ : TcpPools} (h : Ownership lost others s) (host : HostRef)
    (hnumber : s'.number = s.number) (hsource : s'.source = s.source)
    (hother : ∀ other, other ≠ ref → s'.router? other = s.router? other)
    (hd : s.deliveries = (ref, .ready link host) :: s'.deliveries) (hl' : s'.link? ref = some link)
    (h₁ : s.side.pools.Takes ref link p₁)
    (h₂ : p₁.Keeps s'.side.pools ∨ ∃ old, s.link? ref = some old ∧ p₁.GivesBack old s'.side.pools) :
    Ownership lost others s' ∧ LeavesAlone others s s' := by
  have hway := onWay_of_ready hd
  have honce := h.once link
  have ho := h.unowned link (by omega)
  have hmem : (ref, Delivery.ready link host) ∈ s.deliveries := hd ▸ List.mem_cons_self
  have htold : Told ref s s' := Or.inr ⟨_, hd, fun ⟨e, he⟩ => nomatch he⟩
  -- First the connection is taken, then the other one is given back.
  obtain ⟨hmid, hspares⟩ : Ownership lost others { s' with side := { s'.side with pools := p₁ } } ∧
      LeavesAlone others s { s' with side := { s'.side with pools := p₁ } } :=
    h.takes hnumber hsource htold hother (fun l hl => Option.some.inj (hl.symm.trans hl'))
      (TcpPools.Keeps.refl _).dropsIdle h₁ ho
      ⟨by omega, show s'.onWay link = 0 by omega, by omega⟩ (h.way ref link host hmem)
  have hgained : NothingGained ref { s' with side := { s'.side with pools := p₁ } } s' :=
    ⟨rfl, rfl, Or.inl rfl, fun _ _ h => h, fun _ _ h => h⟩
  rcases h₂ with h₂ | ⟨old, hold, h₂⟩
  · obtain ⟨howned', hspares'⟩ := hmid.kept hgained h₂
    exact ⟨howned', hspares.trans hspares'⟩
  · have howned := h.owned ref old hold
    have hne : old ≠ link := by
      rintro rfl
      rw [ho] at howned
      cases howned
    have howned' : p₁.owner? old = some (some ref) := (h₁.owners old hne).trans howned
    obtain ⟨hidle, hway', hothers⟩ := hmid.nowhere howned'
    have hnone : ∀ r, s'.link? r ≠ some old := by
      intro r hr
      have hro : p₁.owner? old = some (some r) := hmid.owned r old hr
      obtain rfl : ref = r := by simpa [howned'] using hro
      rw [hl'] at hr
      exact hne (Option.some.inj hr).symm
    have hown : ∀ r : RouterRef, p₁.owner? old = some (some r) → r.session = s'.number := by
      intro r hr
      obtain rfl : ref = r := by simpa [howned'] using hr
      exact (session_of_link? hold).trans hnumber.symm
    obtain ⟨howned', hspares'⟩ := hmid.released hgained ⟨hidle, hway', hothers⟩
      (by rw [show TcpPools.owner? _ old = _ from howned']; rfl) hnone hown h₂
    exact ⟨howned', hspares.trans hspares'⟩

/-- A router asks a pool, which has no connection to hand out. -/
theorem Ownership.asked (h : Ownership lost others s) (he : NothingGained ref s s')
    (hp : s.side.pools.DropsIdle s'.side.pools) : Ownership lost others s' ∧ LeavesAlone others s s' := by
  refine ⟨⟨he.source.trans h.source, ?once, ?unowned, ?owned, ?live, ?way, ?closes⟩, ⟨he.number,
      hp.noneRevived, ?spares⟩⟩
  case once =>
    intro l
    have hway := he.told.onWay_le l
    have honce := h.once l
    have hidle := hp.idle l
    omega
  case unowned =>
    intro l hpos
    have hway := he.told.onWay_le l
    have hidle := hp.idle l
    rw [hp.owner]
    exact h.unowned l (by omega)
  case owned =>
    intro r l hl
    rw [hp.owner]
    exact h.owned r l (he.link r l hl)
  case live =>
    intro r l ha
    -- Only connections that lay idle can have been closed, and one that a router holds does not.
    rw [hp.states l (h.nowhere (h.owned r l (he.link r l (link?_of_awaits ha)))).1]
    exact h.live_eased he ha
  case way =>
    intro r l host hmem
    have hpos : 0 < s.onWay l :=
      List.countP_pos_iff.mpr ⟨_, he.told.mem hmem, by simp [Delivery.brings]⟩
    have honce := h.once l
    rw [hp.states l (by omega)]
    exact h.way r l host (he.told.mem hmem)
  case closes =>
    intro r e hmem
    exact h.closes r e (he.told.mem hmem)
  case spares =>
    intro l hl
    refine ⟨hp.owner l, hp.states l ?_⟩
    rcases hl with hl | ⟨r, hr, ho⟩
    · have honce := h.once l
      omega
    · exact (h.nowhere ho).1

/-! ## What happens aside

Whatever concerns no router also concerns no connection. -/

theorem keeps_of_eq (h : s'.side.pools = s.side.pools) : s.side.pools.Keeps s'.side.pools := by
  rw [h]
  exact TcpPools.Keeps.refl _

theorem NothingGained.of_routers (ref : RouterRef) (hnumber : s'.number = s.number)
    (hsource : s'.source = s.source) (hd : s'.deliveries = s.deliveries)
    (hrouters : ∀ other, s'.router? other = s.router? other) : NothingGained ref s s' :=
  NothingGained.of_router hnumber hsource (Or.inl hd) (fun other _ => hrouters other)
    (fun _ hl => link?_congr (hrouters ref) ▸ hl) (fun l ha => awaits_congr (hrouters ref) l ▸ ha)

theorem router?_of_map {σ : Type} {s s' : Session σ} {f : Stream → Stream}
    (hid : ∀ x, (f x).id = x.id)
    (hrouters : ∀ x slot, (f x).router? slot = x.router? slot) (hnumber : s'.number = s.number)
    (hs : s'.streams = s.streams.map f) (ref : RouterRef) : s'.router? ref = s.router? ref := by
  unfold Session.router?
  rw [hnumber, stream?_of_map hid hs]
  split
  · cases s.stream? ref.stream with
    | none => rfl
    | some x => exact hrouters x ref.slot
  · rfl

theorem RoutersUntouched.deliveries {σ : Type} {s s' : Session σ} (ha : RoutersUntouched s s') :
    s'.deliveries = s.deliveries := by
  obtain ⟨ts, hts, hq⟩ := ha.posted
  have hnone : ts.filterMap Task.delivery? = [] := by
    rw [List.filterMap_eq_nil_iff]
    intro t ht
    have hr := hts t ht
    cases t with
    | router other op => cases hr
    | stream id op => rfl
    | closed => rfl
  unfold Session.deliveries
  rw [hq, List.filterMap_append, hnone, List.append_nil]

theorem RoutersUntouched.router? {σ : Type} {s s' : Session σ} (ha : RoutersUntouched s s')
    (ref : RouterRef) :
    s'.router? ref = s.router? ref := by
  obtain ⟨f, hf, hs⟩ := ha.streams
  exact router?_of_map (fun x => (hf x).id) (fun x => (hf x).routers) ha.number hs ref

theorem Ownership.aside (h : Ownership lost others s) (ha : RoutersUntouched s s') :
    Ownership lost others s' ∧ LeavesAlone others s s' :=
  h.kept (NothingGained.of_routers { stream := 0 } ha.number ha.source ha.deliveries ha.router?)
    (keeps_of_eq ha.pools)

theorem modifyStream_router? {σ : Type} {s : Session σ} {id : StreamId} {f : Stream → Stream}
    (hid : ∀ x, (f x).id = x.id)
    (hrouters : ∀ x slot, (f x).router? slot = x.router? slot) (ref : RouterRef) :
    (s.modifyStream id f).router? ref = s.router? ref := by
  have hnumber : (s.modifyStream id f).number = s.number := rfl
  refine router?_of_map (f := fun x => if x.id = id then f x else x) ?_ ?_ hnumber rfl ref
  · intro x
    split
    · exact hid x
    · rfl
  · intro x slot
    split
    · exact hrouters x slot
    · rfl

theorem Ownership.modified {id : StreamId} {f : Stream → Stream} (h : Ownership lost others s)
    (hid : ∀ x, (f x).id = x.id) (hrouters : ∀ x slot, (f x).router? slot = x.router? slot) :
    Ownership lost others (s.modifyStream id f) ∧ LeavesAlone others s (s.modifyStream id f) :=
  h.kept (NothingGained.of_routers { stream := 0 } rfl rfl rfl (modifyStream_router? hid hrouters))
    (keeps_of_eq rfl)

theorem Begins.deliveries {σ : Type} {s s' : Session σ} {x : Stream} (hb : Begins s x s') :
    s'.deliveries = s.deliveries := by
  unfold Session.deliveries
  rw [hb.posted]

/-- The routers of a stream that begins have done nothing. -/
theorem Begins.router? {σ : Type} {s s' : Session σ} {x : Stream} (hb : Begins s x s') {r : Router}
    (h : s'.router? ref = some r) : s.router? ref = some r ∨ (r = {} ∧ ref.stream = s.nextId) := by
  unfold Session.router? at h ⊢
  rw [hb.number, stream?_append hb.streams] at h
  split at h
  · next hr =>
    rw [if_pos hr]
    cases hx : s.stream? ref.stream with
    | some y =>
      rw [hx] at h
      exact Or.inl h
    | none =>
      rw [hx, Option.none_or] at h
      split at h
      · next hid => exact Or.inr ⟨hb.blank ref.slot r h, hid.symm.trans hb.id⟩
      · cases h
  · cases h

theorem Ownership.began {x : Stream} (h : Ownership lost others s) (hb : Begins s x s') :
    Ownership lost others s' ∧ LeavesAlone others s s' := by
  have hgained : NothingGained { stream := 0 } s s' := by
    refine ⟨hb.number, hb.source, Or.inl hb.deliveries, ?_, ?_⟩
    · intro r l hl
      obtain ⟨q, e, hq, he, hlink⟩ := link?_eq_some_iff.mp hl
      rcases hb.router? hq with hq' | ⟨rfl, -⟩
      · exact link?_eq_some_iff.mpr ⟨q, e, hq', he, hlink⟩
      · cases he
    · intro r l ha
      obtain ⟨q, e, hq, he, hlink⟩ := awaits_eq_true_iff.mp ha
      rcases hb.router? hq with hq' | ⟨rfl, -⟩
      · exact awaits_eq_true_iff.mpr ⟨q, e, hq', he, hlink⟩
      · cases he
  exact h.kept hgained (keeps_of_eq hb.pools)

/-! ## What routers do

A router that writes, is refused, or asks for a connection. Asking is where a connection may change
hands at once; else it comes later, as something that is told. -/

theorem link?_of_exchange {r : Router} {e : Exchange} (hr : s.router? ref = some r)
    (he : r.exchange = some e) : s.link? ref = e.link := by
  unfold link? Router.link?
  rw [hr, Option.bind_some, he, Option.bind_some]

theorem awaits_of_exchange {r : Router} {e : Exchange} (hr : s.router? ref = some r)
    (he : r.exchange = some e) (l : LinkId) :
    s.awaits ref l = (e.link == some l && !e.responseComplete) := by
  unfold awaits
  rw [hr, Option.any_some, he, Option.any_some]

/-- The exchange of a router has gone on, and its connection is where it was. -/
theorem Works.nothingGained {r r' : Router} {e e' : Exchange} (h : Works ref s s')
    (hr : s.router? ref = some r) (he : r.exchange = some e) (hr' : s'.router? ref = some r')
    (he' : r'.exchange = some e') (hlink : e'.link = e.link)
    (hcomplete : e.responseComplete = true → e'.responseComplete = true) : NothingGained ref s s' := by
  refine NothingGained.of_router h.number h.source (Or.inl h.deliveries)
    (fun other hne => h.router?_of_ne (session_of_router? hr) hne) ?_ ?_
  · intro l hl
    rw [link?_of_exchange hr he, ← hlink, ← link?_of_exchange hr' he']
    exact hl
  · intro l ha
    rw [awaits_of_exchange hr' he', hlink] at ha
    rw [awaits_of_exchange hr he]
    cases hc : e.responseComplete with
    | false => simpa using (Bool.and_eq_true _ _).mp ha |>.1
    | true => simp [hcomplete hc] at ha

theorem awaits_of_link?_none (h : s.link? ref = none) (l : LinkId) : s.awaits ref l = false := by
  cases ha : s.awaits ref l with
  | false => rfl
  | true =>
    rw [link?_of_awaits ha] at h
    cases h

/-- A router holds nothing afterwards. -/
theorem Works.eases_of_none (h : Works ref s s') (hn : ref.session = s.number)
    (hnone : s'.link? ref = none) : NothingGained ref s s' := by
  refine NothingGained.of_router h.number h.source (Or.inl h.deliveries)
    (fun other hne => h.router?_of_ne hn hne) ?_ ?_
  · intro l hl
    rw [hnone] at hl
    cases hl
  · intro l ha
    rw [awaits_of_link?_none hnone] at ha
    cases ha

theorem Ownership.wrote (h : Ownership lost others s) (ref : RouterRef) :
    Ownership lost others (s.writeCall ref) ∧ LeavesAlone others s (s.writeCall ref) := by
  -- A router that is gone, has not asked, or has written before, writes nothing.
  have hsame : s.writeCall ref = s →
      Ownership lost others (s.writeCall ref) ∧ LeavesAlone others s (s.writeCall ref) := by
    intro heq
    rw [heq]
    exact ⟨h, LeavesAlone.refl others s⟩
  cases hr : s.router? ref with
  | none => exact hsame (by rw [writeCall, hr])
  | some r =>
    cases he : r.exchange with
    | none =>
      refine hsame ?_
      rw [writeCall, hr]
      dsimp only
      rw [he]
    | some e =>
      by_cases hgo : (e.link.isNone || e.requestComplete) = true
      · refine hsame ?_
        rw [writeCall, hr]
        dsimp only
        rw [he]
        dsimp only
        rw [if_pos hgo]
      · obtain ⟨-, hpools, r', envelope, hr', -, he'⟩ := writeCall_touches hr he hgo
        refine h.kept ((writeCall_works s ref).nothingGained hr he hr' he' rfl fun hc => hc) ?_
        rw [hpools, h.source]
        exact TcpPools.holds_keeps (Exchange.write_holds _ e) _

theorem Ownership.refused (h : Ownership lost others s) (ref : RouterRef) (event : RouterEvent)
    (status : Status) :
    Ownership lost others (s.refuse ref event status) ∧
      LeavesAlone others s (s.refuse ref event status) := by
  refine h.kept (NothingGained.of_routers ref rfl rfl (refuse_works s ref event status).deliveries ?_)
    (keeps_of_eq rfl)
  exact fun other => router?_congr rfl rfl other

theorem Ownership.engaged (h : Ownership lost others s) (ref : RouterRef) (hn : ref.session = s.number)
    (cluster : Config.Cluster) (host : HostRef) (request : Request) :
    Ownership lost others (s.engage ref cluster host request).2 ∧
      LeavesAlone others s (s.engage ref cluster host request).2 := by
  obtain ⟨shared, now, t, ht, -, hpools, hgone, hgot⟩ := engage_touches s ref cluster host request
  have hworks := engage_works s ref cluster host request
  have hasked := TcpPools.ask_asked cluster host ref s.side.pools
  rw [h.source] at ht hpools
  generalize (s.engage ref cluster host request).2 = s' at hpools hgone hgot hworks
  -- Whatever the router had before, afterwards it has what its new exchange has.
  have hlink : ∀ l, s'.link? ref = some l → t.exchange.link = some l := by
    intro l hl
    cases hr : s.router? ref with
    | none =>
      rw [link?, hgone hr] at hl
      cases hl
    | some r =>
      obtain ⟨r', hr', he', -⟩ := hgot r hr
      rwa [link?_of_exchange hr' he'] at hl
  have hothers : ∀ other, other ≠ ref → s'.router? other = s.router? other :=
    fun other hne => hworks.router?_of_ne hn hne
  have hnothing : t.exchange.link = none → NothingGained ref s s' := by
    intro hnone
    refine NothingGained.of_router hworks.number hworks.source (Or.inl hworks.deliveries) hothers ?_ ?_
    · intro l hl
      rw [hlink l hl] at hnone
      cases hnone
    · intro l ha
      rw [hlink l (link?_of_awaits ha)] at hnone
      cases hnone
  have hask : TcpPools.source.ask cluster host ref s.side.pools =
    TcpPools.ask cluster host ref s.side.pools := rfl
  rw [hask] at ht hpools
  generalize TcpPools.ask cluster host ref s.side.pools = got at ht hpools hasked
  obtain ⟨answer, events, p₀⟩ := got
  dsimp only at ht hpools hasked
  cases answer with
  | pending handle =>
    have hkeeps : p₀.Keeps s'.side.pools := by
      rw [hpools, ht]
      exact TcpPools.Keeps.refl p₀
    exact h.asked (hnothing (by rw [ht]; rfl)) (hasked.toDropsIdle.trans hkeeps.dropsIdle)
  | failure reason blamed =>
    have hholds := Exchange.poolFailure_holds reason blamed now (exchangeFor cluster request.method)
    have hkeeps : p₀.Keeps s'.side.pools := by
      rw [hpools, ht]
      exact TcpPools.holds_keeps hholds p₀
    refine h.asked (hnothing ?_) (hasked.toDropsIdle.trans hkeeps.dropsIdle)
    rw [ht]
    exact hholds.link
  | ready link given =>
    obtain ⟨p₁, htakes, hrest⟩ := TcpPools.poolReady_takes ref link given shared
      (exchangeFor cluster request.method) p₀
    have htakes' : p₀.Takes ref link s'.side.pools := by
      rw [hpools, ht]
      exact htakes.keeps hrest
    obtain ⟨hopen, hlt⟩ := hasked.ready link given rfl
    have honce := h.once link
    have hway : s'.onWay link = s.onWay link := by rw [onWay, hworks.deliveries, onWay]
    refine h.takes hworks.number hworks.source (Or.inl hworks.deliveries) hothers ?_ hasked.toDropsIdle
      htakes' (h.unowned link (by omega)) ⟨by omega, by omega, by omega⟩ (Or.inl hopen)
    intro l hl
    have hcommands := (Exchange.poolReady_attaches link given shared (exchangeFor cluster request.method)).1
    have hl' := hlink l hl
    rw [ht] at hl'
    exact Option.some.inj (hl'.symm.trans hcommands)

/-! ## Routers are told something

What was on the way arrives. A connection that nobody wants any more is given back, so that it does
not get lost between the pool and a router that has gone. -/

theorem deliveries_leave {t : Task} {rest : List Task} (hq : s.queue.posted = t :: rest) :
    s.deliveries = t.delivery?.toList ++ (s.leave rest).deliveries := by
  unfold Session.deliveries
  rw [hq, List.filterMap_cons]
  cases t.delivery? with
  | none => rfl
  | some x => rfl

/-- What a router does behind something that it was told. -/
theorem NothingGained.behind {d : Delivery} {rest : List Task}
    (hq : s.queue.posted = .router ref (.deliver d) :: rest) (h : NothingGained ref (s.leave rest) s')
    (hsame : s'.deliveries = (s.leave rest).deliveries)
    (hevent : (∃ e, d = .event e) → ∀ l, s'.awaits ref l = false) : NothingGained ref s s' where
  number := h.number
  source := h.source
  told := Or.inr ⟨d, by rw [hsame]; exact deliveries_leave hq, hevent⟩
  link other l hl := h.link other l hl
  awaits other l ha := h.awaits other l ha

theorem Ownership.hostData {r : Router} {e : Exchange} {rest : List Task} {octets : Bytes}
    (h : Ownership lost others s) (hq : s.queue.posted = .router ref (.deliver (.data octets)) :: rest)
    (hr : s.router? ref = some r) (he : r.exchange = some e) :
    Ownership lost others ((s.leave rest).onHostData ref r e octets) ∧
      LeavesAlone others s ((s.leave rest).onHostData ref r e octets) := by
  have hnoEvent : ∀ s' : Session TcpPools, (∃ ev, Delivery.data octets = .event ev) →
      ∀ l, s'.awaits ref l = false := by
    rintro s' ⟨ev, hev⟩
    cases hev
  have hleft : NothingGained ref s (s.leave rest) :=
    NothingGained.behind hq ⟨rfl, rfl, Or.inl rfl, fun _ _ h => h, fun _ _ h => h⟩ rfl (hnoEvent _)
  have hr₁ : (s.leave rest).router? ref = some r := (router?_congr rfl rfl ref).trans hr
  -- A router without a connection, or behind its response, passes octets over. Otherwise the
  -- exchange goes on or lets go, and `isOver` tells which.
  by_cases hgo : (e.link.isNone || e.responseComplete) = true
  · unfold Session.onHostData
    rw [if_pos hgo]
    exact h.kept hleft (keeps_of_eq rfl)
  · obtain ⟨link, hlink⟩ := Option.isSome_iff_exists.mp (Exchange.link_isSome hgo)
    have hworks := onHostData_works hr₁ e octets
    cases ht : e.onData Exchange.lineReplies r.decoder octets false (s.leave rest).now with
    | error p =>
      unfold Session.onHostData
      rw [if_neg hgo, ht]
      refine h.kept (NothingGained.behind hq ?_ rfl (hnoEvent _)) (keeps_of_eq rfl)
      exact NothingGained.of_routers ref rfl rfl rfl fun other => router?_congr rfl rfl other
    | ok out =>
      obtain ⟨isOver, d', t⟩ := out
      have hcommands := Exchange.onData_holdsOrLetsGo ht
      obtain ⟨hpools, r₂, hr₂, hex₂, -⟩ := onHostData_work hr₁ hgo ht
      rw [show (s.leave rest).source = TcpPools.source from h.source] at hpools
      generalize (s.leave rest).onHostData ref r e octets = s₂ at *
      cases isOver with
      | false =>
        simp only [Bool.false_eq_true, if_false] at hcommands
        refine h.kept (NothingGained.behind hq (hworks.nothingGained hr₁ he hr₂ hex₂ hcommands.link ?_)
          hworks.deliveries (hnoEvent _)) ?_
        · intro hc
          rw [hc, Bool.or_true] at hgo
          exact absurd rfl hgo
        · rw [hpools]
          exact TcpPools.holds_keeps hcommands _
      | true =>
        simp only [if_true] at hcommands
        obtain ⟨how, hcommands⟩ := hcommands
        have hnone : s₂.link? ref = none := by
          rw [link?_of_exchange hr₂ hex₂, hcommands.link]
        refine h.yielded (NothingGained.behind hq (hworks.eases_of_none (session_of_router? hr₁) hnone)
          hworks.deliveries (hnoEvent _)) ((link?_of_exchange hr he).trans hlink) hnone ?_
        rw [hpools]
        exact TcpPools.letsGo_givesBack hcommands hlink _

theorem Ownership.hostEvent {r : Router} {e : Exchange} {rest : List Task} {event : ConnectionEvent}
    (h : Ownership lost others s) (hq : s.queue.posted = .router ref (.deliver (.event event)) :: rest)
    (hr : s.router? ref = some r) (he : r.exchange = some e) :
    Ownership lost others ((s.leave rest).onHostEvent ref e event) ∧
      LeavesAlone others s ((s.leave rest).onHostEvent ref e event) := by
  have hr₁ : (s.leave rest).router? ref = some r := (router?_congr rfl rfl ref).trans hr
  unfold Session.onHostEvent
  split
  · next hgo =>
    -- There is nothing that the router could wait for.
    have hawaits : ∀ l, (s.leave rest).awaits ref l = false := by
      intro l
      rw [awaits_of_exchange hr₁ he]
      rcases (Bool.or_eq_true _ _).mp hgo with hnone | hc
      · rw [Option.isNone_iff_eq_none.mp hnone]
        rfl
      · rw [hc, Bool.not_true, Bool.and_false]
    refine h.kept (NothingGained.behind hq ⟨rfl, rfl, Or.inl rfl, fun _ _ h => h, fun _ _ h => h⟩ rfl
      fun _ => hawaits) (keeps_of_eq rfl)
  · next hgo =>
    obtain ⟨link, hlink⟩ := Option.isSome_iff_exists.mp (Exchange.link_isSome hgo)
    have hc : ¬e.responseComplete = true := fun hc => hgo (by rw [hc, Bool.or_true])
    split
    · next p hp =>
      -- Only the end of a connection is ever told.
      have hclose : event.isClose = true := h.closes ref event (by
        rw [deliveries_leave hq]
        exact List.mem_cons_self)
      unfold Exchange.onEvent at hp
      rw [if_neg hc] at hp
      cases event with
      | remoteClose => cases hp
      | localClose => cases hp
      | connected => cases hclose
      | connectedZeroRtt => cases hclose
    · next t ht =>
      have hcommands := Exchange.onEvent_letsGo ht
      obtain ⟨r₂, hr₂, hex₂, -⟩ := takeStep_router? hr₁ t
      have hworks := takeStep_works (s.leave rest) ref t
      have hnone : ((s.leave rest).takeStep ref t).link? ref = none := by
        rw [link?_of_exchange hr₂ hex₂, hcommands.link]
      refine h.yielded (NothingGained.behind hq (hworks.eases_of_none (session_of_router? hr₁) hnone)
        hworks.deliveries fun _ => awaits_of_link?_none hnone)
        ((link?_of_exchange hr he).trans hlink) hnone ?_
      rw [takeStep_pools, show (s.leave rest).source = TcpPools.source from h.source]
      exact TcpPools.letsGo_givesBack hcommands hlink _

theorem Ownership.delivered {d : Delivery} {rest : List Task} (h : Ownership lost others s)
    (hq : s.queue.posted = .router ref (.deliver d) :: rest) :
    Ownership lost others ((s.leave rest).onDelivery ref d) ∧
      LeavesAlone others s ((s.leave rest).onDelivery ref d) := by
  have hworks := onDelivery_works (s.leave rest) ref d
  have hsource : (s.leave rest).source = TcpPools.source := h.source
  have hrouters : ∀ other, (s.leave rest).router? other = s.router? other :=
    fun other => router?_congr rfl rfl other
  have hd : s.deliveries = (ref, d) :: (s.leave rest).deliveries := deliveries_leave hq
  have hleft : NothingGained ref (s.leave rest) (s.leave rest) :=
    ⟨rfl, rfl, Or.inl rfl, fun _ _ h => h, fun _ _ h => h⟩
  unfold Session.onDelivery at hworks ⊢
  rw [hrouters] at hworks ⊢
  cases hfound : (s.router? ref).bind fun r => r.exchange.map (r, ·) with
  | none =>
    -- The router is gone, or has not asked for anything.
    have hlink : ∀ l, (s.leave rest).awaits ref l = false := by
      intro l
      cases ha : (s.leave rest).awaits ref l with
      | false => rfl
      | true =>
        obtain ⟨r, e, hr, he, -, -⟩ := awaits_eq_true_iff.mp ha
        rw [hrouters] at hr
        rw [hr, Option.bind_some, he] at hfound
        cases hfound
    rw [hfound] at hworks
    cases d with
    | ready link host =>
      refine h.gaveBack host (NothingGained.behind hq ?_ hworks.deliveries fun ⟨e, he⟩ => nomatch he)
        (hworks.deliveries ▸ hd) ?_
      · refine NothingGained.of_routers ref hworks.number hworks.source hworks.deliveries fun other => ?_
        exact giveBack_router? (s.leave rest) ref link other
      · show s.side.pools.GivesBack link ((s.leave rest).giveBack ref link).side.pools
        rw [giveBack_pools, hsource]
        exact TcpPools.release_givesBack s.side.pools link
    | failure reason host =>
      exact h.kept (NothingGained.behind hq hleft rfl fun _ => hlink) (keeps_of_eq rfl)
    | data octets => exact h.kept (NothingGained.behind hq hleft rfl fun _ => hlink) (keeps_of_eq rfl)
    | event event => exact h.kept (NothingGained.behind hq hleft rfl fun _ => hlink) (keeps_of_eq rfl)
  | some found =>
    obtain ⟨r, hr, hmap⟩ := Option.bind_eq_some_iff.mp hfound
    obtain ⟨e, he, rfl⟩ := Option.map_eq_some_iff.mp hmap
    have hr₁ : (s.leave rest).router? ref = some r := (hrouters ref).trans hr
    rw [hfound] at hworks
    cases d with
    | ready link host =>
      obtain ⟨p₁, htakes, hrest⟩ := TcpPools.poolReady_takes ref link host
        ((s.leave rest).source.state? link (s.leave rest).side.pools) e s.side.pools
      obtain ⟨r₂, hr₂, hex₂, -⟩ := takeStep_router? hr₁ (e.poolReady link host
        ((s.leave rest).source.state? link (s.leave rest).side.pools))
      refine h.taken host hworks.number hworks.source
        (fun other hne => (hworks.router?_of_ne (session_of_router? hr₁) hne).trans (hrouters other))
        (hworks.deliveries ▸ hd) ?_ htakes ?_
      · exact (link?_of_exchange hr₂ hex₂).trans (Exchange.poolReady_attaches link host _ e).1
      · rw [link?_of_exchange hr he]
        dsimp only
        rw [takeStep_pools, hsource]
        rw [hsource] at hrest
        cases hlink : e.link with
        | none =>
          rw [hlink] at hrest
          exact Or.inl hrest
        | some old =>
          rw [hlink] at hrest
          exact Or.inr ⟨old, rfl, hrest⟩
    | failure reason host =>
      obtain ⟨r₂, hr₂, hex₂, -⟩ := takeStep_router? hr₁ (e.poolFailure reason host (s.leave rest).now)
      have hholds := Exchange.poolFailure_holds reason host (s.leave rest).now e
      obtain ⟨timed, hex⟩ := Exchange.poolFailure_exchange reason host (s.leave rest).now e
      refine h.kept (NothingGained.behind hq (hworks.nothingGained hr₁ he hr₂ hex₂ hholds.link ?_) hworks.deliveries
        fun ⟨e, he⟩ => nomatch he) ?_
      · intro hc
        rw [hex]
        exact hc
      · dsimp only
        rw [takeStep_pools, hsource]
        exact TcpPools.holds_keeps hholds _
    | data octets => exact h.hostData hq hr he
    | event event => exact h.hostEvent hq hr he

/-! ## Routers go

A router that goes lets go of what it has, by closing it or by giving it back. Both leave the
connection without an owner. -/

theorem link?_of_router?_none (h : s.router? ref = none) : s.link? ref = none := by
  rw [link?, h]
  rfl

theorem Ownership.ended {r : Router} {e : Exchange} {t : Exchange.Step} {how : Option CloseType}
    (h : Ownership lost others s) (hr : s.router? ref = some r) (he : r.exchange = some e)
    (hcommands : t.LetsGo how e) :
    Ownership lost others (s.endRouter ref t) ∧ LeavesAlone others s (s.endRouter ref t) := by
  have hnone : (s.endRouter ref t).link? ref = none := link?_of_router?_none (endRouter_router? s ref t)
  have hgained := (endRouter_works hr t).eases_of_none (session_of_router? hr) hnone
  have hpools := endRouter_pools s ref t
  rw [h.source] at hpools
  cases hlink : e.link with
  | none =>
    refine h.kept hgained ?_
    rw [hpools]
    exact TcpPools.holds_keeps (hcommands.holds_of_none hlink) _
  | some link =>
    refine h.yielded hgained ((link?_of_exchange hr he).trans hlink) hnone ?_
    rw [hpools]
    exact TcpPools.letsGo_givesBack hcommands hlink _

theorem Ownership.destroyed (h : Ownership lost others s) (ref : RouterRef) :
    Ownership lost others (s.destroyRouter ref) ∧ LeavesAlone others s (s.destroyRouter ref) := by
  unfold Session.destroyRouter
  cases hr : s.router? ref with
  | none => exact ⟨h, LeavesAlone.refl others s⟩
  | some r =>
    dsimp only
    cases he : r.exchange with
    | none =>
      have hworks : Works ref s (s.modifyStream ref.stream (·.remember ref.slot .nothing)) :=
        (Touches.remember hr .nothing).worksQuietly
      exact h.kept (hworks.eases_of_none (session_of_router? hr)
        (link?_of_router?_none (forget_router? s ref))) (keeps_of_eq rfl)
    | some e =>
      dsimp only
      cases hc : e.responseComplete with
      | true =>
        have hnothing : Exchange.Step.Holds e { exchange := e } := ⟨rfl, fun c hc => nomatch hc⟩
        exact h.ended hr he (hnothing.letsGo (Exchange.releaseLink_letsGo false e))
      | false =>
        have hreset := Exchange.releaseLink_letsGo true e
        refine h.ended hr he (hreset.holds ((Exchange.releaseLink_letsGo false _).holds_of_none ?_))
        exact hreset.link

theorem Ownership.droppedRouter (h : Ownership lost others s) (ref : RouterRef) :
    Ownership lost others (s.dropRouter ref) ∧ LeavesAlone others s (s.dropRouter ref) := by
  unfold Session.dropRouter
  cases hfound : (s.router? ref).bind (·.exchange) with
  | none => exact ⟨h, LeavesAlone.refl others s⟩
  | some e =>
    obtain ⟨r, hr, he⟩ := Option.bind_eq_some_iff.mp hfound
    exact h.ended hr he (Exchange.releaseLink_letsGo false e)

theorem Ownership.droppedRouters (slots : List Nat) (h : Ownership lost others s) (id : StreamId) :
    Ownership lost others (slots.foldl (fun s slot => s.dropRouter (s.refTo id slot)) s) ∧
      LeavesAlone others s (slots.foldl (fun s slot => s.dropRouter (s.refTo id slot)) s) := by
  induction slots generalizing s with
  | nil => exact ⟨h, LeavesAlone.refl others s⟩
  | cons slot rest ih =>
    obtain ⟨h₁, hspares₁⟩ := h.droppedRouter (s.refTo id slot)
    obtain ⟨h₂, hspares₂⟩ := ih h₁
    exact ⟨h₂, hspares₁.trans hspares₂⟩

/-- The routers that are left when a stream is gone were there before. -/
theorem router?_of_filter {σ : Type} {s : Session σ} {id : StreamId} {r : Router}
    (h : ({ s with streams := s.streams.filter (·.id != id) } : Session σ).router? ref =
      some r) : s.router? ref = some r := by
  unfold Session.router? at h ⊢
  split at h
  · next hn =>
    rw [if_pos hn]
    by_cases hid : ref.stream = id
    · rw [hid, stream?_filter_same] at h
      cases h
    · rwa [stream?_filter_ne hid] at h
  · cases h

theorem Ownership.dropped (h : Ownership lost others s) (id : StreamId) :
    Ownership lost others (s.dropStream id) ∧ LeavesAlone others s (s.dropStream id) := by
  unfold Session.dropStream
  cases s.stream? id with
  | none => exact ⟨h, LeavesAlone.refl others s⟩
  | some x =>
    dsimp only
    obtain ⟨h₁, hspares₁⟩ := h.droppedRouters x.routers id
    generalize x.routers.foldl (fun s slot => s.dropRouter (s.refTo id slot)) s = s₁ at h₁ hspares₁
    have hgained : NothingGained { stream := 0 } s₁ { s₁ with streams := s₁.streams.filter (·.id != id) } := by
      refine ⟨rfl, rfl, Or.inl rfl, ?_, ?_⟩
      · intro r l hl
        obtain ⟨q, e, hq, he, hlink⟩ := link?_eq_some_iff.mp hl
        exact link?_eq_some_iff.mpr ⟨q, e, router?_of_filter hq, he, hlink⟩
      · intro r l ha
        obtain ⟨q, e, hq, he, hlink⟩ := awaits_eq_true_iff.mp ha
        exact awaits_eq_true_iff.mpr ⟨q, e, router?_of_filter hq, he, hlink⟩
    obtain ⟨h₂, hspares₂⟩ := h₁.kept hgained (keeps_of_eq rfl)
    exact ⟨h₂, hspares₁.trans hspares₂⟩

/-! ## Every move

One case for each kind of move. -/

theorem Ownership.passed (h : Ownership lost others s) (id : StreamId) :
    Ownership lost others (s.pass id) ∧ LeavesAlone others s (s.pass id) :=
  h.modified (fun _ => rfl) fun _ _ => rfl

/-- A task is taken up that is nothing that a router is told. -/
theorem Ownership.popped {t : Task} {rest : List Task} (h : Ownership lost others s)
    (hq : s.queue.posted = t :: rest) (ht : ∀ ref d, t ≠ .router ref (.deliver d)) :
    Ownership lost others (s.leave rest) ∧ LeavesAlone others s (s.leave rest) := by
  have hnone : t.delivery? = none := by
    cases t with
    | stream id op => rfl
    | closed => rfl
    | router ref op =>
      cases op with
      | write => rfl
      | ask op => rfl
      | deliver d => exact absurd rfl (ht ref d)
  have hd : (s.leave rest).deliveries = s.deliveries := by
    rw [deliveries_leave hq, hnone]
    rfl
  exact h.kept (NothingGained.of_routers { stream := 0 } rfl rfl hd fun other => router?_congr rfl rfl other)
    (keeps_of_eq rfl)

theorem Ownership.started (h : Ownership lost others s) (ref : RouterRef) (hn : ref.session = s.number)
    (cluster : Config.Cluster) (host : HostRef) (request : Request) :
    Ownership lost others (s.startExchange ref cluster host request) ∧
      LeavesAlone others s (s.startExchange ref cluster host request) := by
  obtain ⟨h₁, hspares₁⟩ := h.engaged ref hn cluster host request
  obtain ⟨-, heq⟩ | ⟨-, heq⟩ := startExchange_cases s ref cluster host request
  · rw [heq]
    exact ⟨h₁, hspares₁⟩
  · rw [heq]
    obtain ⟨h₂, hspares₂⟩ := h₁.wrote ref
    exact ⟨h₂, hspares₁.trans hspares₂⟩

theorem Ownership.move {R : RouterRef → Request → Prop} {D : Prop} {m : List (Session TcpPools × Task)}
    (h : Ownership lost others s) (hm : Move R D m s s') :
    Ownership lost others s' ∧ LeavesAlone others s s' := by
  cases hm with
  | aside ha => exact h.aside ha
  | began hb => exact h.began hb
  | passed hn hfree => exact h.passed _
  | refused hn hrouter event status =>
    obtain ⟨h₁, hspares₁⟩ := h.passed _
    obtain ⟨h₂, hspares₂⟩ := h₁.refused _ event status
    exact ⟨h₂, hspares₁.trans hspares₂⟩
  | engaged hn hrouter cluster host =>
    obtain ⟨h₁, hspares₁⟩ := h.passed _
    obtain ⟨h₂, hspares₂⟩ := h₁.started (s.refTo _ _) rfl cluster host _
    exact ⟨h₂, hspares₁.trans hspares₂⟩
  | wrote hq =>
    obtain ⟨h₁, hspares₁⟩ := h.popped hq fun _ _ => nofun
    obtain ⟨h₂, hspares₂⟩ := h₁.wrote _
    exact ⟨h₂, hspares₁.trans hspares₂⟩
  | popped hq ht => exact h.popped hq ht
  | delivered hq => exact h.delivered hq
  | noted _ id op => exact ⟨h, LeavesAlone.refl others s⟩
  | completed _ id => exact h.modified (fun _ => rfl) fun _ _ => rfl
  | destroyed hnumber hover => exact h.destroyed _
  | dropped _ id => exact h.dropped id

/-- Whatever a session does, each connection stays with its owner. -/
theorem Ownership.moves {R : RouterRef → Request → Prop} {D : Prop} {ms : List (Session TcpPools × Task)}
    (h : Ownership lost others s) (hms : Moves R D ms s s') :
    Ownership lost others s' ∧ LeavesAlone others s s' := by
  induction hms with
  | refl s => exact ⟨h, LeavesAlone.refl others s⟩
  | snoc _ hm ih =>
    obtain ⟨h₁, hspares₁⟩ := ih h
    obtain ⟨h₂, hspares₂⟩ := h₁.move hm
    exact ⟨h₂, hspares₁.trans hspares₂⟩

theorem Ownership.step (h : Ownership lost others s) (op : SessionOp) (hop : ∀ ref d, op ≠ .deliver ref d) :
    Ownership lost others (s.step op) ∧ LeavesAlone others s (s.step op) :=
  h.moves (step_moves s hop)

/-! ## Turns

What the loop of a connection does besides moves: it may be told things while it waits, and it gives
up at the end, when all routers go together. -/

theorem Ownership.mono {lost' : RouterRef → LinkId → Prop} (h : Ownership lost others s)
    (hlost : ∀ ref l, lost ref l → lost' ref l) : Ownership lost' others s where
  source := h.source
  once := h.once
  unowned := h.unowned
  owned := h.owned
  live ref l ha := (h.live ref l ha).imp_right (Or.imp_right (hlost ref l))
  way ref l host hmem := (h.way ref l host hmem).imp_right (hlost ref l)
  closes := h.closes

/-- A task is given up, and what it would have told is lost. The connection that it brought is then
nowhere, which is no worse than being somewhere once; its router would wait for ever, were it not
gone as well. -/
theorem Ownership.gaveUp {t : Task} {rest : List Task}
    (h : Ownership (fun _ _ => True) others (s.leave (t :: rest))) :
    Ownership (fun _ _ => True) others (s.leave rest) := by
  have hd : (s.leave (t :: rest)).deliveries = t.delivery?.toList ++ (s.leave rest).deliveries :=
    deliveries_leave rfl
  have hway : ∀ l, (s.leave rest).onWay l ≤ (s.leave (t :: rest)).onWay l := by
    intro l
    unfold onWay
    rw [hd]
    exact List.Sublist.countP_le (List.sublist_append_right _ _)
  refine ⟨h.source, ?_, ?_, h.owned, fun _ _ _ => Or.inr (Or.inr trivial),
    fun _ _ _ _ => Or.inr trivial, ?_⟩
  · intro l
    have honce : s.side.pools.idleCount l + (s.leave (t :: rest)).onWay l + others l ≤ 1 := h.once l
    have hle := hway l
    show s.side.pools.idleCount l + (s.leave rest).onWay l + others l ≤ 1
    omega
  · intro l hpos
    have hle := hway l
    have hpos' : 0 < s.side.pools.idleCount l + (s.leave rest).onWay l + others l := hpos
    refine h.unowned l ?_
    show 0 < s.side.pools.idleCount l + (s.leave (t :: rest)).onWay l + others l
    omega
  · intro r e hmem
    exact h.closes r e (hd ▸ List.mem_append_right _ hmem)

/-- Tasks are given up one after another. -/
theorem Ownership.gaveUpAll (ts : List Task) (h : Ownership (fun _ _ => True) others (s.leave ts)) :
    Ownership (fun _ _ => True) others ((ts.foldl giveUp s).leave []) ∧
      LeavesAlone others s (ts.foldl giveUp s) := by
  induction ts generalizing s with
  | nil => exact ⟨h, LeavesAlone.refl others s⟩
  | cons t rest ih =>
    rw [List.foldl_cons]
    unfold giveUp
    split
    · next ref link host =>
      have hworks := giveBack_works s ref link
      have hgained : NothingGained ref (s.leave (.router ref (.deliver (.ready link host)) :: rest))
          ((s.giveBack ref link).leave rest) := by
        refine NothingGained.behind rfl (NothingGained.of_routers ref hworks.number hworks.source rfl ?_) rfl
          fun ⟨e, he⟩ => nomatch he
        exact fun other => giveBack_router? s ref link other
      have hgives : s.side.pools.GivesBack link (s.giveBack ref link).side.pools := by
        rw [giveBack_pools, show s.source = TcpPools.source from h.source]
        exact TcpPools.release_givesBack s.side.pools link
      obtain ⟨h₁, hspares₁⟩ := h.gaveBack host hgained rfl hgives
      obtain ⟨h₂, hspares₂⟩ := ih h₁
      have hspares : LeavesAlone others s (s.giveBack ref link) :=
        ⟨hspares₁.number, hspares₁.noneRevived, hspares₁.spares⟩
      exact ⟨h₂, hspares.trans hspares₂⟩
    · exact ih h.gaveUp

/-- Idle connections, and those on their way to others, are nobody's. This is what is left of
`Ownership` when the session is gone. -/
structure Settled (others : LinkId → Nat) (p : TcpPools) : Prop where
  once : ∀ l, p.idleCount l + others l ≤ 1
  unowned : ∀ l, 0 < p.idleCount l + others l → p.owner? l = some none

theorem Ownership.settled (h : Ownership lost others s) : Settled others s.side.pools where
  once l := by
    have honce := h.once l
    omega
  unowned l hpos := h.unowned l (by omega)

theorem Ownership.abandoned (h : Ownership lost others s) :
    Settled others s.abandon.side.pools ∧ LeavesAlone others s s.abandon := by
  obtain ⟨h₁, hspares₁⟩ := (h.mono fun _ _ _ => trivial).moves (dismiss_moves (R := fun _ _ => True) s)
  have hgained : NothingGained { stream := 0 } s.dismiss
      ({ s.dismiss with queue := {} }.leave s.dismiss.queue.posted) :=
    NothingGained.of_routers _ rfl rfl rfl fun other => router?_congr rfl rfl other
  obtain ⟨h₂, hspares₂⟩ := (h₁.kept hgained (keeps_of_eq rfl)).1.gaveUpAll
  exact ⟨h₂.settled, hspares₁.trans ⟨hspares₂.number, hspares₂.noneRevived, hspares₂.spares⟩⟩

theorem Ownership.finished (h : Ownership lost others s) :
    Ownership lost others s.finish ∧ LeavesAlone others s s.finish := by
  obtain ⟨h₁, hspares₁⟩ := h.moves (runUntilIdle_moves s s.effort)
  obtain ⟨h₂, hspares₂⟩ := h₁.moves (dismiss_moves (R := fun _ _ => True) _)
  exact ⟨h₂, hspares₁.trans hspares₂⟩

theorem Ownership.lastTurned (h : Ownership lost others s) (sent : Bytes) (e : ConnectionEvent) :
    Ownership lost others (s.lastTurn sent e []).session ∧
      LeavesAlone others s (s.lastTurn sent e []).session := by
  obtain ⟨h₁, hspares₁⟩ := h.step (.event e) fun _ _ => nofun
  obtain ⟨h₂, hspares₂⟩ := h₁.finished
  exact ⟨h₂, hspares₁.trans hspares₂⟩

theorem Ownership.flushed (h : Ownership lost others s) (canSend : Bool) :
    ((s.flush canSend {}).isLast = false → Ownership lost others (s.flush canSend {}).session) ∧
      Settled others (s.flush canSend {}).session.side.pools ∧
      LeavesAlone others s (s.flush canSend {}).session := by
  obtain ⟨out, connection, htake⟩ : ∃ out connection, s.connection.take = (out, connection) :=
    ⟨_, _, rfl⟩
  have haside : RoutersUntouched s { s with connection } :=
    RoutersUntouched.same rfl rfl rfl (.refl _) rfl rfl rfl rfl
  obtain ⟨h₁, hspares₁⟩ := h.aside haside
  unfold Session.flush
  rw [htake]
  dsimp only
  split
  · obtain ⟨h₂, hspares₂⟩ := h₁.abandoned
    exact ⟨nofun, h₂, hspares₁.trans hspares₂⟩
  · simp only [interruptAll, List.foldl_nil, ite_self]
    split
    · obtain ⟨h₂, hspares₂⟩ := h₁.lastTurned [] .remoteClose
      exact ⟨fun _ => h₂, h₂.settled, hspares₁.trans hspares₂⟩
    · split
      · exact ⟨fun _ => h₁, h₁.settled, hspares₁⟩
      · split
        · obtain ⟨h₂, hspares₂⟩ := h₁.finished
          exact ⟨fun _ => h₂, h₂.settled, hspares₁.trans hspares₂⟩
        · obtain ⟨h₂, hspares₂⟩ := h₁.lastTurned out .localClose
          exact ⟨fun _ => h₂, h₂.settled, hspares₁.trans hspares₂⟩

/-- What a turn leaves behind. A session that goes on still owns its connections; in any case, idle
ones are nobody's. -/
theorem Ownership.turned (h : Ownership lost others s) (canSend : Bool) (w : Wake) :
    ((s.turn canSend w).isLast = false → Ownership lost others (s.turn canSend w).session) ∧
      Settled others (s.turn canSend w).session.side.pools ∧
      LeavesAlone others s (s.turn canSend w).session := by
  have hrun : ∀ {s₁ : Session TcpPools}, Ownership lost others s₁ → LeavesAlone others s s₁ →
      (((s₁.step .run).flush canSend {}).isLast = false →
          Ownership lost others ((s₁.step .run).flush canSend {}).session) ∧
        Settled others ((s₁.step .run).flush canSend {}).session.side.pools ∧
        LeavesAlone others s ((s₁.step .run).flush canSend {}).session := by
    intro s₁ h₁ hspares₁
    obtain ⟨h₂, hspares₂⟩ := h₁.step .run fun _ _ => nofun
    obtain ⟨h₃, hsettled, hspares₃⟩ := h₂.flushed canSend
    exact ⟨h₃, hsettled, hspares₁.trans (hspares₂.trans hspares₃)⟩
  cases w with
  | octets data =>
    obtain ⟨h₁, hspares₁⟩ := h.step (.data data) fun _ _ => nofun
    exact hrun h₁ hspares₁
  | ended =>
    obtain ⟨h₁, hspares₁⟩ := h.lastTurned [] .remoteClose
    exact ⟨fun _ => h₁, h₁.settled, hspares₁⟩
  | tick =>
    obtain ⟨h₁, hspares₁⟩ := h.step .drainCheck fun _ _ => nofun
    exact hrun h₁ hspares₁
  | work => exact hrun h (LeavesAlone.refl others s)

end

end Session

end RpcProxy

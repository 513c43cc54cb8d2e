import Mathlib.Algebra.GroupWithZero.Nat
import RpcProxy.Pool.Tcp

/-!
# Whose hands a connection is in

A connection lies idle in its pool, is on its way to a router, or is in the hands of the router that
attached itself to it. Its owner tells the last case from the others, so all that a pool does can be
said in terms of two things: the owner of each connection (`owner?`) and how often it lies idle
(`idleCount`). It should lie idle once at most, but that depends on routers as well as on pools; a
count can be followed through each function by itself, before anything is known of who calls it.

Four relations cover what routers do to pools. They may leave every connection where it is
(`Keeps`), take one (`Takes`), give one back (`GivesBack`) or ask for one (`Asked`). Three more are
for what sockets do. Each of them speaks of all connections, of the one it is about and of the
others, so that a proof about one connection and a proof about another can use the same lemma.
Whatever is done, a connection that was closed is not opened again (`NoneRevived`), and that follows
from any of the relations.

The relations leave out what does not matter to hands: what was sent, how calls are numbered, and
how much a pool may have. Those have relations of their own in other modules, over the same
functions.
-/

set_option autoImplicit false

namespace RpcProxy

/-- Whether a command leaves every connection where it is, and open if it was. -/
def LinkCommand.isUse : LinkCommand → Bool
  | .initState _ _ | .updateState _ _ | .write _ _ | .cancel _ _ => true
  | .attach _ | .close _ _ | .release _ => false

namespace TcpPools

/-- To whom the octets of a connection go, if there is such a connection. There are two levels: a
connection that is not there, and one that belongs to nobody. -/
def owner? (p : TcpPools) (link : LinkId) : Option (Option RouterRef) :=
  (p.links[link]?).map (·.owner)

/-- How often a connection lies idle, in all pools together. -/
def idleCount (p : TcpPools) (link : LinkId) : Nat := (p.pools.map (·.idle.count link)).sum

/-- Whether the pool of a connection is still there. -/
def isLodged (p : TcpPools) (link : LinkId) : Bool :=
  ((p.links[link]?).bind fun l => p.pools[l.pool]?).any (!·.gone)

/-- No connection has come back to life, and none is forgotten. -/
structure NoneRevived (p p' : TcpPools) : Prop where
  known : ∀ l, (p.owner? l).isSome → (p'.owner? l).isSome
  closed : ∀ l, (p.owner? l).isSome → p'.isOpen l = true → p.isOpen l = true

/-- Every connection stays where it is. -/
structure Keeps (p p' : TcpPools) : Prop where
  owner : ∀ l, p'.owner? l = p.owner? l
  state : ∀ l, p'.isOpen l = p.isOpen l
  idle : ∀ l, p'.idleCount l = p.idleCount l

/-- A connection was given back, perhaps closed before. Whether its pool has kept it is left
open. -/
structure GivesBack (link : LinkId) (p p' : TcpPools) : Prop where
  owner : p'.owner? link = (p.owner? link).map fun _ => none
  owners : ∀ l, l ≠ link → p'.owner? l = p.owner? l
  state : p'.isOpen link = true → p.isOpen link = true
  states : ∀ l, l ≠ link → p'.isOpen l = p.isOpen l
  idle : p'.idleCount link ≤ p.idleCount link + 1
  idles : ∀ l, l ≠ link → p'.idleCount l = p.idleCount l

/-- A router has attached itself to a connection. -/
structure Takes (ref : RouterRef) (link : LinkId) (p p' : TcpPools) : Prop where
  owner : p'.owner? link = (p.owner? link).map fun _ => some ref
  owners : ∀ l, l ≠ link → p'.owner? l = p.owner? l
  state : ∀ l, p'.isOpen l = p.isOpen l
  idle : ∀ l, p'.idleCount l = p.idleCount l

/-- Some connections that lay idle are not kept any more. -/
structure DropsIdle (p p' : TcpPools) : Prop where
  owner : ∀ l, p'.owner? l = p.owner? l
  state : ∀ l, p'.isOpen l = true → p.isOpen l = true
  states : ∀ l, p.idleCount l = 0 → p'.isOpen l = p.isOpen l
  idle : ∀ l, p'.idleCount l ≤ p.idleCount l

/-- A pool was asked for a connection. One that is handed out is open and lay idle before. Closed
ones that were found on the way are dropped from the list. -/
structure Asked (answer : PoolAnswer) (p p' : TcpPools) : Prop extends DropsIdle p p' where
  ready : ∀ link host, answer = .ready link host →
    p'.isOpen link = true ∧ p'.idleCount link < p.idleCount link

/-- A connection is closed and does not lie idle any more, as far as its pool knows. -/
structure ClosesOne (link : LinkId) (p p' : TcpPools) : Prop where
  owner : ∀ l, p'.owner? l = p.owner? l
  state : p'.isOpen link = false
  states : ∀ l, l ≠ link → p'.isOpen l = p.isOpen l
  idle : p'.idleCount link ≤ p.idleCount link
  idles : ∀ l, l ≠ link → p'.idleCount l = p.idleCount l

/-- A connection has come up that nobody has. Its pool may keep it, but need not. -/
structure AddsFree (link : LinkId) (p p' : TcpPools) : Prop where
  fresh : p.owner? link = none
  owner : p'.owner? link = some none
  owners : ∀ l, l ≠ link → p'.owner? l = p.owner? l
  states : ∀ l, l ≠ link → p'.isOpen l = p.isOpen l
  idle : p'.idleCount link ≤ p.idleCount link + 1
  idles : ∀ l, l ≠ link → p'.idleCount l = p.idleCount l

section

variable {p p' p₁ p₂ p₃ : TcpPools} {ref : RouterRef} {link : LinkId}

theorem NoneRevived.refl (p : TcpPools) : NoneRevived p p := ⟨fun _ h => h, fun _ _ h => h⟩

theorem NoneRevived.trans (h₁ : NoneRevived p₁ p₂) (h₂ : NoneRevived p₂ p₃) : NoneRevived p₁ p₃ where
  known l h := h₂.known l (h₁.known l h)
  closed l h ho := h₁.closed l h (h₂.closed l (h₁.known l h) ho)

theorem Keeps.refl (p : TcpPools) : Keeps p p := ⟨fun _ => rfl, fun _ => rfl, fun _ => rfl⟩

theorem Keeps.trans (h₁ : Keeps p₁ p₂) (h₂ : Keeps p₂ p₃) : Keeps p₁ p₃ where
  owner l := (h₂.owner l).trans (h₁.owner l)
  state l := (h₂.state l).trans (h₁.state l)
  idle l := (h₂.idle l).trans (h₁.idle l)

theorem Keeps.givesBack (h₁ : Keeps p₁ p₂) (h₂ : GivesBack link p₂ p₃) : GivesBack link p₁ p₃ where
  owner := h₁.owner link ▸ h₂.owner
  owners l hl := (h₂.owners l hl).trans (h₁.owner l)
  state h := h₁.state link ▸ h₂.state h
  states l hl := (h₂.states l hl).trans (h₁.state l)
  idle := h₁.idle link ▸ h₂.idle
  idles l hl := (h₂.idles l hl).trans (h₁.idle l)

theorem GivesBack.keeps (h₁ : GivesBack link p₁ p₂) (h₂ : Keeps p₂ p₃) : GivesBack link p₁ p₃ where
  owner := (h₂.owner link).trans h₁.owner
  owners l hl := (h₂.owner l).trans (h₁.owners l hl)
  state h := h₁.state (h₂.state link ▸ h)
  states l hl := (h₂.state l).trans (h₁.states l hl)
  idle := h₂.idle link ▸ h₁.idle
  idles l hl := (h₂.idle l).trans (h₁.idles l hl)

theorem Takes.keeps (h₁ : Takes ref link p₁ p₂) (h₂ : Keeps p₂ p₃) : Takes ref link p₁ p₃ where
  owner := (h₂.owner link).trans h₁.owner
  owners l hl := (h₂.owner l).trans (h₁.owners l hl)
  state l := (h₂.state l).trans (h₁.state l)
  idle l := (h₂.idle l).trans (h₁.idle l)

theorem DropsIdle.trans (h₁ : DropsIdle p₁ p₂) (h₂ : DropsIdle p₂ p₃) : DropsIdle p₁ p₃ where
  owner l := (h₂.owner l).trans (h₁.owner l)
  state l h := h₁.state l (h₂.state l h)
  states l hl := by
    have h := h₁.idle l
    exact (h₂.states l (by omega)).trans (h₁.states l hl)
  idle l := Nat.le_trans (h₂.idle l) (h₁.idle l)

theorem Keeps.dropsIdle (h : Keeps p p') : DropsIdle p p' where
  owner := h.owner
  state l ho := h.state l ▸ ho
  states l _ := h.state l
  idle l := Nat.le_of_eq (h.idle l)

theorem Keeps.noneRevived (h : Keeps p p') : NoneRevived p p' where
  known l hl := by rwa [h.owner l]
  closed l _ ho := by rwa [← h.state l]

theorem GivesBack.noneRevived (h : GivesBack link p p') : NoneRevived p p' where
  known l hl := by
    by_cases he : l = link
    · subst he
      rw [h.owner, Option.isSome_map]
      exact hl
    · rwa [h.owners l he]
  closed l _ ho := by
    by_cases he : l = link
    · exact he ▸ h.state (he ▸ ho)
    · rwa [← h.states l he]

theorem Takes.noneRevived (h : Takes ref link p p') : NoneRevived p p' where
  known l hl := by
    by_cases he : l = link
    · subst he
      rw [h.owner, Option.isSome_map]
      exact hl
    · rwa [h.owners l he]
  closed l _ ho := by rwa [← h.state l]

theorem DropsIdle.noneRevived (h : DropsIdle p p') : NoneRevived p p' where
  known l hl := by rwa [h.owner l]
  closed l _ ho := h.state l ho

theorem ClosesOne.noneRevived (h : ClosesOne link p p') : NoneRevived p p' where
  known l hl := by rwa [h.owner l]
  closed l _ ho := by
    by_cases he : l = link
    · rw [he, h.state] at ho
      cases ho
    · rwa [← h.states l he]

theorem AddsFree.noneRevived (h : AddsFree link p p') : NoneRevived p p' := by
  have hne : ∀ l, (p.owner? l).isSome → l ≠ link := by
    rintro l hl rfl
    rw [h.fresh] at hl
    cases hl
  constructor
  · intro l hl
    rwa [h.owners l (hne l hl)]
  · intro l hl ho
    rwa [← h.states l (hne l hl)]

theorem AddsFree.keeps (h₁ : AddsFree link p₁ p₂) (h₂ : Keeps p₂ p₃) : AddsFree link p₁ p₃ where
  fresh := h₁.fresh
  owner := (h₂.owner link).trans h₁.owner
  owners l hl := (h₂.owner l).trans (h₁.owners l hl)
  states l hl := (h₂.state l).trans (h₁.states l hl)
  idle := h₂.idle link ▸ h₁.idle
  idles l hl := (h₂.idle l).trans (h₁.idles l hl)

/-! ## Connections and pools that change

Idle connections are counted over all pools, and a change of one pool changes one summand. -/

theorem owner?_modifyLink (p : TcpPools) (link : LinkId) (f : TcpLink → TcpLink) (l : LinkId) :
    (p.modifyLink link f).owner? l =
      (p.links[l]?).map fun x => if link = l then (f x).owner else x.owner := by
  unfold owner? modifyLink
  simp only [List.getElem?_modify]
  cases p.links[l]? with
  | none => rfl
  | some x =>
    by_cases h : link = l
    · simp [h]
    · simp [h]

theorem isOpen_eq (p : TcpPools) (l : LinkId) :
    p.isOpen l = (p.links[l]?).any (·.state == .opened) := by
  unfold isOpen
  cases p.links[l]? with
  | none => rfl
  | some x => rfl

theorem isOpen_modifyLink (p : TcpPools) (link : LinkId) (f : TcpLink → TcpLink) (l : LinkId) :
    (p.modifyLink link f).isOpen l =
      (p.links[l]?).any fun x => if link = l then (f x).state == .opened else x.state == .opened := by
  rw [isOpen_eq]
  unfold modifyLink
  simp only [List.getElem?_modify]
  cases p.links[l]? with
  | none => rfl
  | some x =>
    by_cases h : link = l
    · simp [h]
    · simp [h]

/-- What becomes of a connection's owner and state does not touch others, nor the pools. -/
theorem modifyLink_keeps {f : TcpLink → TcpLink} (howner : ∀ x, (f x).owner = x.owner)
    (hstate : ∀ x, (f x).state = x.state) (p : TcpPools) (link : LinkId) :
    Keeps p (p.modifyLink link f) where
  owner l := by
    rw [owner?_modifyLink]
    simp [howner, owner?]
  state l := by
    rw [isOpen_modifyLink, isOpen_eq]
    simp [hstate]
  idle _ := rfl

theorem le_sum_map {α : Type} (g : α → Nat) {l : List α} {i : Nat} {x : α} (h : l[i]? = some x) :
    g x ≤ (l.map g).sum := by
  induction l generalizing i with
  | nil => simp at h
  | cons a rest ih =>
    rw [List.map_cons, List.sum_cons]
    cases i with
    | zero =>
      obtain rfl : a = x := by simpa using h
      omega
    | succ i =>
      have hi := ih (i := i) (by simpa using h)
      omega

theorem sum_map_modify {α : Type} (g : α → Nat) (f : α → α) {l : List α} {i : Nat} {x : α}
    (h : l[i]? = some x) : ((l.modify i f).map g).sum + g x = (l.map g).sum + g (f x) := by
  induction l generalizing i with
  | nil => simp at h
  | cons a rest ih =>
    cases i with
    | zero =>
      obtain rfl : a = x := by simpa using h
      simp only [List.modify_zero_cons, List.map_cons, List.sum_cons]
      omega
    | succ i =>
      have hi := ih (i := i) (by simpa using h)
      simp only [List.modify_succ_cons, List.map_cons, List.sum_cons]
      omega

theorem sum_map_modify_le {α : Type} (g : α → Nat) (f : α → α) (k : Nat)
    (h : ∀ x, g (f x) ≤ g x + k) (l : List α) (i : Nat) :
    ((l.modify i f).map g).sum ≤ (l.map g).sum + k := by
  induction l generalizing i with
  | nil => simp
  | cons a rest ih =>
    cases i with
    | zero =>
      have ha := h a
      simp only [List.modify_zero_cons, List.map_cons, List.sum_cons]
      omega
    | succ i =>
      have hi := ih i
      simp only [List.modify_succ_cons, List.map_cons, List.sum_cons]
      omega

theorem sum_map_modify_eq {α : Type} (g : α → Nat) (f : α → α) (h : ∀ x, g (f x) = g x)
    (l : List α) (i : Nat) : ((l.modify i f).map g).sum = (l.map g).sum := by
  induction l generalizing i with
  | nil => simp
  | cons a rest ih =>
    cases i with
    | zero => simp [h a]
    | succ i => simp [ih i]

/-- A change of a pool that leaves its idle connections alone. -/
theorem modifyPool_keeps {f : TcpPool → TcpPool} (h : ∀ x, (f x).idle = x.idle) (p : TcpPools)
    (i : Nat) : Keeps p (p.modifyPool i f) where
  owner _ := rfl
  state _ := rfl
  idle l := sum_map_modify_eq _ f (fun x => by rw [h]) p.pools i

theorem order_keeps (p : TcpPools) (o : SocketOrder) : Keeps p (p.order o) :=
  ⟨fun _ => rfl, fun _ => rfl, fun _ => rfl⟩

/-! ## What routers do

A router attaches itself, uses its connection, and gives it back or closes it. -/

theorem shut_owner? (p : TcpPools) (link : LinkId) (how : CloseType) (l : LinkId) :
    (p.shut link how).owner? l = p.owner? l := by
  unfold shut
  split
  · show (p.markClosed link).owner? l = _
    rw [markClosed, owner?_modifyLink]
    simp [owner?]
  · rfl

theorem shut_idleCount (p : TcpPools) (link : LinkId) (how : CloseType) (l : LinkId) :
    (p.shut link how).idleCount l = p.idleCount l := by
  unfold shut
  split
  · rfl
  · rfl

theorem markClosed_isOpen (p : TcpPools) (link l : LinkId) :
    (p.markClosed link).isOpen l = (p.isOpen l && l != link) := by
  rw [markClosed, isOpen_modifyLink, isOpen_eq]
  cases p.links[l]? with
  | none => rfl
  | some x =>
    by_cases h : link = l
    · simp [h]
    · simp [h, Ne.symm h]

theorem shut_isOpen (p : TcpPools) (link : LinkId) (how : CloseType) (l : LinkId) :
    (p.shut link how).isOpen l = (p.isOpen l && l != link) := by
  unfold shut
  split
  · exact markClosed_isOpen p link l
  · next h =>
    by_cases he : l = link
    · simpa [he] using h
    · simp [he]

theorem shut_givesBack (h : GivesBack link p₂ p₃) (how : CloseType) (hp : p₂ = p₁.shut link how) :
    GivesBack link p₁ p₃ := by
  subst hp
  refine ⟨?owner, ?owners, ?state, ?states, ?idle, ?idles⟩
  case owner =>
    rw [h.owner, shut_owner?]
  case owners =>
    intro l hl
    rw [h.owners l hl, shut_owner?]
  case state =>
    intro ho
    have hs := h.state ho
    simp [shut_isOpen] at hs
  case states =>
    intro l hl
    rw [h.states l hl, shut_isOpen]
    simp [hl]
  case idle =>
    have hi := h.idle
    rwa [shut_idleCount] at hi
  case idles =>
    intro l hl
    rw [h.idles l hl, shut_idleCount]

theorem release_givesBack (p : TcpPools) (link : LinkId) : GivesBack link p (p.release link) := by
  have howner : (p.modifyLink link fun x => { x with owner := none }).owner? link =
      (p.owner? link).map fun _ => none := by
    rw [owner?_modifyLink, owner?, Option.map_map]
    simp [Function.comp_def]
  have howners : ∀ l, l ≠ link →
      (p.modifyLink link fun x => { x with owner := none }).owner? l = p.owner? l := by
    intro l hl
    rw [owner?_modifyLink]
    simp [owner?, Ne.symm hl]
  have hstate : ∀ l, (p.modifyLink link fun x => { x with owner := none }).isOpen l = p.isOpen l := by
    intro l
    rw [isOpen_modifyLink, isOpen_eq]
    simp
  have hidle : ∀ l, (p.modifyLink link fun x => { x with owner := none }).idleCount l =
      p.idleCount l := fun _ => rfl
  unfold release
  dsimp only
  generalize p.modifyLink link (fun x => { x with owner := none }) = q at howner howners hstate hidle
  have hkept : GivesBack link p q :=
    ⟨howner, howners, fun h => hstate link ▸ h, fun l _ => hstate l, by rw [hidle]; omega,
      fun l _ => hidle l⟩
  -- The owner goes first, and then the pool decides whether to keep the connection.
  cases q.links[link]? with
  | none => exact hkept
  | some x =>
    dsimp only
    split
    · refine ⟨?owner, ?owners, ?state, ?states, ?idle, ?idles⟩
      case owner =>
        rw [shut_owner?, howner]
      case owners =>
        intro l hl
        rw [shut_owner?, howners l hl]
      case state =>
        intro h
        simp [shut_isOpen] at h
      case states =>
        intro l hl
        rw [shut_isOpen, hstate]
        simp [hl]
      case idle =>
        rw [shut_idleCount, hidle]
        omega
      case idles =>
        intro l hl
        rw [shut_idleCount, hidle]
    · refine ⟨howner, howners, fun h => hstate link ▸ h, fun l _ => hstate l, ?_, ?_⟩
      · rw [← hidle]
        refine sum_map_modify_le _ _ 1 (fun y => ?_) q.pools x.pool
        split
        · simp
        · simp
      · intro l hl
        refine (sum_map_modify_eq _ _ (fun y => ?_) q.pools x.pool).trans (hidle l)
        split
        · rw [List.count_cons_of_ne (Ne.symm hl)]
        · rfl

theorem perform_keeps (ref : RouterRef) {c : LinkCommand} (hc : c.isUse = true) (p : TcpPools) :
    Keeps p (perform ref c p).2 := by
  cases c with
  | initState link state | updateState link state =>
    show Keeps p (p.modifyLink link fun x => { x with shared := some state })
    refine modifyLink_keeps ?_ ?_ p link
    · exact fun _ => rfl
    · exact fun _ => rfl
  | write link data =>
    show Keeps p (if _ then _ else _)
    split
    · exact order_keeps p _
    · exact Keeps.refl p
  | cancel handle policy => exact ⟨fun _ => rfl, fun _ => rfl, fun _ => rfl⟩
  | attach link => cases hc
  | close link how => cases hc
  | release link => cases hc

theorem attach_takes (ref : RouterRef) (link : LinkId) (p : TcpPools) :
    Takes ref link p (perform ref (.attach link) p).2 := by
  refine ⟨?_, ?_, ?_, fun _ => rfl⟩
  · show (p.modifyLink link _).owner? link = _
    rw [owner?_modifyLink, owner?, Option.map_map]
    simp [Function.comp_def]
  · intro l hl
    show (p.modifyLink link _).owner? l = _
    rw [owner?_modifyLink]
    simp [owner?, Ne.symm hl]
  · intro l
    show (p.modifyLink link _).isOpen l = _
    rw [isOpen_modifyLink, isOpen_eq]
    simp

/-! ## Asking for a connection

A pool looks for an idle connection that is still open; what it finds closed on the way is dropped.
A pool that has been replaced drops all it has. -/

theorem foldl_shut (links : List LinkId) (how : CloseType) (p : TcpPools) (l : LinkId) :
    (links.foldl (fun p link => p.shut link how) p).owner? l = p.owner? l ∧
      (links.foldl (fun p link => p.shut link how) p).idleCount l = p.idleCount l ∧
      (links.foldl (fun p link => p.shut link how) p).isOpen l =
        (p.isOpen l && !links.contains l) := by
  induction links generalizing p with
  | nil => simp
  | cons link rest ih =>
    obtain ⟨howner, hidle, hopen⟩ := ih (p.shut link how)
    refine ⟨howner.trans (shut_owner? p link how l), hidle.trans (shut_idleCount p link how l), ?_⟩
    rw [List.foldl_cons, hopen, shut_isOpen, Bool.and_assoc]
    by_cases h : l = link
    · simp [h]
    · have hne : (l != link) = true := by simpa using h
      simp [h, hne]

theorem count_le_idleCount {x : TcpPool} {i : Nat} (h : p.pools[i]? = some x) (l : LinkId) :
    x.idle.count l ≤ p.idleCount l :=
  le_sum_map (fun x : TcpPool => x.idle.count l) h

theorem discard_dropsIdle (p : TcpPools) (i : Nat) : DropsIdle p (p.discard i) := by
  unfold discard
  dsimp only
  have hall := fun l => foldl_shut (((p.pools[i]?).map (·.idle)).getD []) .flush
    (p.modifyPool i fun x => { x with idle := [], gone := true }) l
  refine ⟨fun l => (hall l).1, ?_, ?_, ?_⟩
  · intro l ho
    rw [(hall l).2.2] at ho
    exact (Bool.and_eq_true _ _).mp ho |>.1
  · intro l hl
    rw [(hall l).2.2]
    -- A connection that does not lie idle is not among those that are closed.
    have hout : (((p.pools[i]?).map (·.idle)).getD []).contains l = false := by
      cases hx : p.pools[i]? with
      | none => rfl
      | some x =>
        have hle := count_le_idleCount hx l
        have hzero : x.idle.count l = 0 := by omega
        simpa using List.count_eq_zero.mp hzero
    rw [hout, Bool.not_false, Bool.and_true]
    rfl
  · intro l
    rw [(hall l).2.1]
    refine sum_map_modify_le _ _ 0 (fun x => ?_) p.pools i
    simp

theorem poolOf_dropsIdle (p : TcpPools) (host : HostRef) (most timeout : Nat) :
    DropsIdle p (p.poolOf host most timeout).2 := by
  have hfresh : ∀ (q : TcpPools) (x : TcpPool) (current : StringMap Nat), x.idle = [] →
      Keeps q { q with pools := q.pools ++ [x], current } := by
    intro q x current hx
    refine ⟨fun _ => rfl, fun _ => rfl, fun l => ?_⟩
    simp [idleCount, hx]
  unfold poolOf
  dsimp only
  split
  · exact (hfresh p _ _ rfl).dropsIdle
  · next i _ =>
    split
    · exact (Keeps.refl p).dropsIdle
    · exact (discard_dropsIdle p i).trans (hfresh _ _ _ rfl).dropsIdle

/-- What is handed out is open, and is taken out of the list. -/
theorem reusable_spec (p : TcpPools) (links : List LinkId) :
    (∀ l, (p.reusable links).2.count l ≤ links.count l) ∧
      ∀ link, (p.reusable links).1 = some link →
        p.isOpen link = true ∧ (p.reusable links).2.count link < links.count link := by
  induction links with
  | nil => simp [reusable]
  | cons i rest ih =>
    unfold reusable
    split
    · next hopen =>
      refine ⟨fun l => List.count_le_count_cons, ?_⟩
      intro link h
      obtain rfl := Option.some.inj h
      refine ⟨hopen, ?_⟩
      rw [List.count_cons_self]
      exact Nat.lt_succ_self _
    · refine ⟨fun l => Nat.le_trans (ih.1 l) List.count_le_count_cons, ?_⟩
      intro link h
      obtain ⟨ho, hlt⟩ := ih.2 link h
      exact ⟨ho, Nat.lt_of_lt_of_le hlt List.count_le_count_cons⟩

theorem idleCount_modifyPool {i : Nat} {x : TcpPool} {f : TcpPool → TcpPool}
    (h : p.pools[i]? = some x) (l : LinkId) :
    (p.modifyPool i f).idleCount l + x.idle.count l = p.idleCount l + (f x).idle.count l :=
  sum_map_modify (fun x : TcpPool => x.idle.count l) f h

theorem request_asked (p : TcpPools) (i : Nat) (router : RouterRef) :
    Asked (p.request i router).1 p (p.request i router).2.2 := by
  unfold request
  cases hx : p.pools[i]? with
  | none => exact { (Keeps.refl p).dropsIdle with ready := fun _ _ h => nomatch h }
  | some x =>
    dsimp only
    obtain ⟨hcount, hfound⟩ := reusable_spec p x.idle
    obtain ⟨found, rest, hr⟩ : ∃ found rest, p.reusable x.idle = (found, rest) := ⟨_, _, rfl⟩
    rw [hr] at hcount hfound ⊢
    dsimp only at hcount hfound ⊢
    have hidle := fun l => idleCount_modifyPool (f := fun x => { x with idle := rest }) hx l
    have hle := fun l => count_le_idleCount hx l
    -- Whatever stood in front of the one that can be used was closed, and is dropped.
    have hdrops : DropsIdle p (p.modifyPool i fun x => { x with idle := rest }) := by
      refine ⟨fun _ => rfl, fun _ h => h, fun _ _ => rfl, fun l => ?_⟩
      have h₁ := hidle l
      have h₂ := hcount l
      dsimp only at h₁
      omega
    cases found with
    | some link =>
      have hbusy : Keeps (p.modifyPool i fun x => { x with idle := rest })
          ((p.modifyPool i fun x => { x with idle := rest }).modifyPool i fun x =>
            { x with busy := x.busy + 1 }) := by
        refine modifyPool_keeps ?_ _ i
        exact fun _ => rfl
      refine { hdrops.trans hbusy.dropsIdle with ready := ?_ }
      intro link' host h
      obtain ⟨rfl, rfl⟩ := PoolAnswer.ready.inj h
      obtain ⟨ho, hlt⟩ := hfound link rfl
      refine ⟨ho, ?_⟩
      rw [hbusy.idle]
      have h₁ := hidle link
      dsimp only at h₁
      omega
    | none =>
      dsimp only
      split
      · exact { hdrops with ready := fun _ _ h => nomatch h }
      · refine { hdrops.trans (Keeps.dropsIdle ?_) with ready := fun _ _ h => nomatch h }
        have hconnecting := modifyPool_keeps (f := fun x => { x with connecting := x.connecting + 1 })
          (fun _ => rfl) (p.modifyPool i fun x => { x with idle := rest }) i
        exact ⟨hconnecting.owner, hconnecting.state, hconnecting.idle⟩

theorem ask_asked (cluster : Config.Cluster) (host : HostRef) (router : RouterRef) (p : TcpPools) :
    Asked (ask cluster host router p).1 p (ask cluster host router p).2.2 := by
  have hpool := poolOf_dropsIdle p host cluster.maxConnections cluster.connectTimeout
  unfold ask
  dsimp only
  generalize p.poolOf host cluster.maxConnections cluster.connectTimeout = q at hpool
  obtain ⟨i, q⟩ := q
  have hasked := request_asked q i router
  refine { hpool.trans hasked.toDropsIdle with ready := ?_ }
  intro link host' h
  obtain ⟨ho, hlt⟩ := hasked.ready link host' h
  exact ⟨ho, Nat.lt_of_lt_of_le hlt (hpool.idle link)⟩

/-! ## What sockets do

A socket connects, brings octets or closes. Each of these concerns one connection, and tells one
router at most. -/

theorem detach_closesOne {link : LinkId} (howner : ∀ l, p₂.owner? l = p₁.owner? l)
    (hstate : ∀ l, p₂.isOpen l = (p₁.isOpen l && l != link))
    (hidle : ∀ l, p₂.idleCount l = p₁.idleCount l) : ClosesOne link p₁ (p₂.detach link) := by
  have hcut : ClosesOne link p₁ p₂ := by
    refine ⟨howner, by simp [hstate], fun l hl => ?_, Nat.le_of_eq (hidle link), fun l _ => hidle l⟩
    have hne : (l != link) = true := by simpa using hl
    rw [hstate, hne, Bool.and_true]
  unfold detach
  cases p₂.links[link]? with
  | none => exact hcut
  | some x =>
    refine ⟨hcut.owner, hcut.state, hcut.states, ?_, ?_⟩
    · rw [← hidle]
      refine sum_map_modify_le _ _ 0 (fun y => ?_) p₂.pools x.pool
      exact List.Sublist.count_le link List.filter_sublist
    · intro l hl
      rw [← hidle]
      refine sum_map_modify_eq _ _ (fun y => ?_) p₂.pools x.pool
      exact List.count_filter (by simpa using hl)

theorem listener?_eq_some_iff {alive : RouterRef → Bool} :
    p.listener? alive link = some ref ↔ p.owner? link = some (some ref) ∧ alive ref = true := by
  unfold listener? owner?
  cases p.links[link]? with
  | none => simp
  | some x => simp [Option.filter_eq_some_iff]

theorem not_alive_of_listener?_eq_none {alive : RouterRef → Bool}
    (h : p.listener? alive link = none) (ho : p.owner? link = some (some ref)) :
    alive ref = false := by
  cases ha : alive ref with
  | false => rfl
  | true =>
    rw [listener?_eq_some_iff.mpr ⟨ho, ha⟩] at h
    cases h

/-- Octets are for the router that has the connection, or close it, or come too late. -/
theorem onData_cases (alive : RouterRef → Bool) (link : LinkId) (octets : Bytes) (p : TcpPools) :
    (p.isOpen link = false ∧ p.onData alive link octets = { pools := p }) ∨
    (p.isOpen link = true ∧ ∃ ref, p.owner? link = some (some ref) ∧ alive ref = true ∧
      p.onData alive link octets = { told := some (ref, .data octets), pools := p }) ∨
    (p.isOpen link = true ∧ (∀ ref, p.owner? link = some (some ref) → alive ref = false) ∧
      ∃ p', ClosesOne link p p' ∧ p.onData alive link octets = { pools := p' }) := by
  unfold onData
  cases hopen : p.isOpen link with
  | false => exact Or.inl ⟨rfl, rfl⟩
  | true =>
    cases hl : p.listener? alive link with
    | some ref =>
      obtain ⟨ho, ha⟩ := listener?_eq_some_iff.mp hl
      exact Or.inr (Or.inl ⟨rfl, ref, ho, ha, rfl⟩)
    | none =>
      refine Or.inr (Or.inr ⟨rfl, fun ref ho => not_alive_of_listener?_eq_none hl ho, _, ?_, rfl⟩)
      exact detach_closesOne (shut_owner? p link .noFlush) (shut_isOpen p link .noFlush)
        (shut_idleCount p link .noFlush)

/-- The end of an open connection is told to the router that has it. -/
theorem onClosed_cases (alive : RouterRef → Bool) (link : LinkId) (event : ConnectionEvent)
    (p : TcpPools) :
    (p.isOpen link = false ∧ p.onClosed alive link event = { pools := p }) ∨
    (p.isOpen link = true ∧ ∃ p', ClosesOne link p p' ∧
      ((∃ ref, p.owner? link = some (some ref) ∧ alive ref = true ∧
          p.onClosed alive link event = { told := some (ref, .event event), pools := p' }) ∨
        ((∀ ref, p.owner? link = some (some ref) → alive ref = false) ∧
          p.onClosed alive link event = { pools := p' }))) := by
  unfold onClosed
  cases hopen : p.isOpen link with
  | false => exact Or.inl ⟨rfl, rfl⟩
  | true =>
    have howner : ∀ l, (p.markClosed link).owner? l = p.owner? l := by
      intro l
      rw [markClosed, owner?_modifyLink]
      simp [owner?]
    refine Or.inr ⟨rfl, _, detach_closesOne howner (markClosed_isOpen p link) fun _ => rfl, ?_⟩
    cases hl : p.listener? alive link with
    | some ref =>
      obtain ⟨ho, ha⟩ := listener?_eq_some_iff.mp hl
      exact Or.inl ⟨ref, ho, ha, rfl⟩
    | none => exact Or.inr ⟨fun ref ho => not_alive_of_listener?_eq_none hl ho, rfl⟩

theorem append_addsFree (p : TcpPools) (pool : Nat) :
    AddsFree p.links.length p { p with links := p.links ++ [{ pool }] } ∧
      isOpen { p with links := p.links ++ [{ pool }] } p.links.length = true := by
  have hother : ∀ l, l ≠ p.links.length → (p.links ++ [({ pool } : TcpLink)])[l]? = p.links[l]? := by
    intro l hl
    by_cases h : l < p.links.length
    · rw [List.getElem?_append_left h]
    · rw [List.getElem?_append_right (by omega), List.getElem?_eq_none (by simp; omega),
        List.getElem?_eq_none (by omega)]
  refine ⟨⟨?_, ?_, ?_, ?_, Nat.le_succ _, fun _ _ => rfl⟩, ?_⟩
  · simp [owner?]
  · simp [owner?]
  · intro l hl
    simp only [owner?]
    rw [hother l hl]
  · intro l hl
    simp only [isOpen]
    rw [hother l hl]
  · simp [isOpen]

theorem keepIdle_addsFree {i : Nat} (h : AddsFree link p₁ p₂)
    (hidle : p₂.idleCount link = p₁.idleCount link) :
    AddsFree link p₁ (p₂.modifyPool i fun x => { x with idle := link :: x.idle }) := by
  refine ⟨h.fresh, h.owner, h.owners, h.states, ?_, ?_⟩
  · rw [← hidle]
    refine sum_map_modify_le _ _ 1 (fun x => ?_) p₂.pools i
    simp
  · intro l hl
    rw [← h.idles l hl]
    refine sum_map_modify_eq _ _ (fun x => ?_) p₂.pools i
    rw [List.count_cons_of_ne (Ne.symm hl)]

/-- A connection that comes up is for the router that asked for it, or nobody's. -/
theorem onConnected_cases (alive : RouterRef → Bool) (handle : HandleId) (result : ConnectResult)
    (p : TcpPools) :
    (Keeps p (p.onConnected alive handle result).pools ∧
      ∀ ref d, (p.onConnected alive handle result).told = some (ref, d) →
        alive ref = true ∧ ∃ reason host, d = .failure reason host) ∨
    (∃ link, AddsFree link p (p.onConnected alive handle result).pools ∧
      ((p.onConnected alive handle result).told = none ∨
        ∃ ref host, alive ref = true ∧
          (p.onConnected alive handle result).pools.idleCount link = p.idleCount link ∧
          (p.onConnected alive handle result).pools.isOpen link = true ∧
          (p.onConnected alive handle result).told = some (ref, .ready link host))) := by
  unfold onConnected
  cases p.requests[handle]? with
  | none => exact Or.inl ⟨Keeps.refl p, by simp⟩
  | some r =>
    dsimp only
    cases p.pools[r.pool]? with
    | none => exact Or.inl ⟨Keeps.refl p, by simp⟩
    | some pool =>
      dsimp only
      split
      · exact Or.inl ⟨Keeps.refl p, by simp⟩
      -- That one connect less is under way changes no connection.
      · have hdone : Keeps p
            ((p.modifyPool r.pool fun x => { x with connecting := x.connecting - 1 }).endRequest handle) := by
          refine (modifyPool_keeps ?_ p r.pool).trans ⟨fun _ => rfl, fun _ => rfl, fun _ => rfl⟩
          exact fun _ => rfl
        generalize (p.modifyPool r.pool fun x => { x with connecting := x.connecting - 1 }).endRequest
          handle = q at hdone
        cases result with
        | failed reason =>
          refine Or.inl ⟨hdone, ?_⟩
          intro ref d h
          dsimp only at h
          split at h
          · next hgo =>
            cases h
            exact ⟨(Bool.and_eq_true _ _).mp hgo |>.2, reason, some pool.host, rfl⟩
          · cases h
        | connected =>
          have hfresh : ∀ l, p.owner? l = q.owner? l := fun l => (hdone.owner l).symm
          obtain ⟨hadds, hopen⟩ := append_addsFree q r.pool
          have hidle : ∀ l, idleCount { q with links := q.links ++ [{ pool := r.pool }] } l =
              q.idleCount l := fun _ => rfl
          dsimp only
          generalize ({ q with links := q.links ++ [{ pool := r.pool }] } : TcpPools) = q' at *
          generalize q.links.length = link at *
          -- The connection that was made is new and belongs to nobody yet.
          have hg : AddsFree link p q' :=
            ⟨by rw [hfresh, hadds.fresh], hadds.owner,
              fun l hl => (hadds.owners l hl).trans (hdone.owner l),
              fun l hl => (hadds.states l hl).trans (hdone.state l),
              by rw [hidle, hdone.idle]; omega, fun l _ => (hidle l).trans (hdone.idle l)⟩
          have hsame : q'.idleCount link = p.idleCount link := (hidle link).trans (hdone.idle link)
          refine Or.inr ⟨link, ?_⟩
          cases r.cancelled with
          | some policy =>
            cases policy with
            | closeExcess =>
              refine ⟨⟨hg.fresh, by rw [shut_owner?, hg.owner], fun l hl => ?_, fun l hl => ?_, ?_,
                fun l hl => ?_⟩, Or.inl rfl⟩
              · rw [shut_owner?, hg.owners l hl]
              · have hne : (l != link) = true := by simpa using hl
                rw [shut_isOpen, hg.states l hl, hne, Bool.and_true]
              · rw [shut_idleCount]
                exact hg.idle
              · rw [shut_idleCount, hg.idles l hl]
            | keep => exact ⟨keepIdle_addsFree hg hsame, Or.inl rfl⟩
          | none =>
            dsimp only
            split
            · next ha =>
              have hbusy : Keeps q' (q'.modifyPool r.pool fun x => { x with busy := x.busy + 1 }) := by
                refine modifyPool_keeps ?_ q' r.pool
                exact fun _ => rfl
              refine ⟨hg.keeps hbusy, Or.inr ⟨r.router, pool.host, ha, ?_, hopen, rfl⟩⟩
              exact (hbusy.idle link).trans hsame
            · exact ⟨keepIdle_addsFree hg hsame, Or.inl rfl⟩

/-! ## What is kept

A connection that is given back is kept if it is open and its pool is still there. -/

theorem modifyLink_isLodged {f : TcpLink → TcpLink} (hf : ∀ l, (f l).pool = l.pool) (p : TcpPools)
    (i link : LinkId) : (p.modifyLink i f).isLodged link = p.isLodged link := by
  unfold isLodged modifyLink
  dsimp only
  rw [List.getElem?_modify]
  cases p.links[link]? with
  | none => rfl
  | some l =>
    by_cases hi : i = link
    · simp [hi, hf]
    · simp [hi]

theorem perform_isLodged (ref : RouterRef) {c : LinkCommand} (hc : c.isUse = true) (p : TcpPools)
    (link : LinkId) : (perform ref c p).2.isLodged link = p.isLodged link := by
  cases c with
  | initState l state | updateState l state =>
    exact modifyLink_isLodged (f := fun x => { x with shared := some state }) (fun _ => rfl) p l link
  | write l data =>
    unfold perform
    dsimp only
    split
    · rfl
    · rfl
  | cancel handle policy => rfl
  | attach l => cases hc
  | close l how => cases hc
  | release l => cases hc

/-- An open connection whose pool is there lies idle once it is given back; one whose pool is gone
is closed. -/
theorem release_kept (p : TcpPools) (link : LinkId) :
    (p.release link).isOpen link = (p.isOpen link && p.isLodged link) ∧
      (p.release link).idleCount link =
        p.idleCount link + (p.isOpen link && p.isLodged link).toNat := by
  -- Taking the owner off changes neither what is open nor what is idle.
  have hopen : (p.modifyLink link fun l => { l with owner := none }).isOpen link = p.isOpen link := by
    rw [isOpen_modifyLink, isOpen_eq]
    simp
  have hlodged : (p.modifyLink link fun l => { l with owner := none }).isLodged link =
      p.isLodged link :=
    modifyLink_isLodged (f := fun l => { l with owner := none }) (fun _ => rfl) p link link
  have hidle : (p.modifyLink link fun l => { l with owner := none }).idleCount link =
      p.idleCount link := rfl
  rw [← hopen, ← hlodged, ← hidle]
  unfold release
  dsimp only
  generalize p.modifyLink link (fun l => { l with owner := none }) = q
  cases hl : q.links[link]? with
  | none =>
    have hclosed : q.isOpen link = false := by rw [isOpen_eq, hl]; rfl
    simp [hclosed]
  | some l =>
    have hstate : q.isOpen link = (l.state == .opened) := by rw [isOpen_eq, hl]; rfl
    have hpool : q.isLodged link = (q.pools[l.pool]?).any (!·.gone) := by rw [isLodged, hl]; rfl
    rw [hpool]
    dsimp only
    cases hx : q.pools[l.pool]? with
    | none => simp [shut_isOpen, shut_idleCount]
    | some x =>
      rw [Option.all_some, Option.any_some]
      cases x.gone with
      | true => simp [shut_isOpen, shut_idleCount]
      | false =>
        have hsum := idleCount_modifyPool (p := q) (f := fun x =>
          { x with busy := x.busy - 1,
                   idle := if l.state = .opened then link :: x.idle else x.idle }) hx link
        refine ⟨(show q.isOpen link = _ from by rw [hstate]; simp), ?_⟩
        rw [hstate]
        by_cases hs : l.state = .opened
        · simp only [hs, if_true, List.count_cons_self] at hsum
          simp only [hs, Bool.false_eq_true, if_false, beq_self_eq_true, Bool.not_false,
            Bool.and_self, Bool.toNat_true, if_true]
          omega
        · simp only [hs, if_false] at hsum
          simp only [hs, Bool.false_eq_true, if_false, beq_eq_false_iff_ne.mpr hs, Bool.false_and,
            Bool.toNat_false]
          omega

end

end TcpPools

end RpcProxy

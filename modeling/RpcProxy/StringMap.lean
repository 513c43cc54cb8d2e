/-!
# Maps from text, kept in order

Properties, labels and settings are looked up by text and shown in the order of their keys. A
`StringMap` is the list of its entries with strictly increasing keys, so two maps that answer every
lookup alike are equal, and the order in which entries were added never shows.

The order on text is by code point, which is also the order of the UTF-8 octets.
-/

set_option autoImplicit false

namespace RpcProxy

/-- No entries are in order. -/
theorem StringMap.sorted_nil {α : Type} : ([] : List (String × α)).Pairwise (·.1 < ·.1) :=
  List.Pairwise.nil

/-- A finite map from text, as its entries in the order of their keys. -/
structure StringMap (α : Type) where
  /-- The entries, keys strictly increasing. -/
  entries : List (String × α) := []
  /-- The keys increase strictly. -/
  sorted : entries.Pairwise (·.1 < ·.1) := by exact RpcProxy.StringMap.sorted_nil
deriving DecidableEq, Repr

namespace StringMap

variable {α : Type}

instance : Inhabited (StringMap α) := ⟨{}⟩

/-- The map without entries. -/
def empty : StringMap α := {}

/-- The value under a key. -/
def find? (m : StringMap α) (key : String) : Option α := m.entries.lookup key

def contains (m : StringMap α) (key : String) : Bool := (m.find? key).isSome

def isEmpty (m : StringMap α) : Bool := m.entries.isEmpty

/-- The entries in the order of their keys. -/
def toList (m : StringMap α) : List (String × α) := m.entries

def keys (m : StringMap α) : List String := m.entries.map (·.1)

/-- Shows entries to a visitor, who keeps something from one to the next and may want no more. -/
def visitEntries {β : Type} (visit : β → String → α → β × Bool) (kept : β) :
    List (String × α) → β
  | [] => kept
  | (key, value) :: rest =>
    match visit kept key value with
    | (kept, true) => visitEntries visit kept rest
    | (kept, false) => kept

/-- Shows the entries to a visitor in the order of their keys. -/
def visit {β : Type} (m : StringMap α) (visitor : β → String → α → β × Bool) (kept : β) : β :=
  visitEntries visitor kept m.entries

/-- A visitor who always wants more sees every entry. -/
theorem visitEntries_eq_foldl {β : Type} {visitor : β → String → α → β × Bool}
    (h : ∀ kept key value, (visitor kept key value).2 = true) (l : List (String × α)) (kept : β) :
    visitEntries visitor kept l = l.foldl (fun kept e => (visitor kept e.1 e.2).1) kept := by
  induction l generalizing kept with
  | nil => rfl
  | cons e rest ih =>
    have hmore := h kept e.1 e.2
    rw [visitEntries, List.foldl_cons, ← ih]
    split
    · next heq => rw [heq]
    · next heq =>
      rw [heq] at hmore
      cases hmore

/-! ## Changing one entry -/

/-- Puts a value under a key of a sorted list of entries, in place of any earlier one. -/
def insertEntry (key : String) (value : α) : List (String × α) → List (String × α)
  | [] => [(key, value)]
  | (k, v) :: rest =>
    if key < k then (key, value) :: (k, v) :: rest
    else if key = k then (key, value) :: rest
    else (k, v) :: insertEntry key value rest

theorem mem_insertEntry {key : String} {value : α} {l : List (String × α)} {e : String × α}
    (h : e ∈ insertEntry key value l) : e = (key, value) ∨ e ∈ l := by
  induction l with
  | nil => exact Or.inl (List.mem_singleton.1 h)
  | cons a rest ih =>
    unfold insertEntry at h
    split at h
    · exact List.mem_cons.1 h
    · split at h
      · exact (List.mem_cons.1 h).imp id (List.mem_cons_of_mem _)
      · cases List.mem_cons.1 h with
        | inl h => exact Or.inr (h ▸ List.mem_cons_self ..)
        | inr h => exact (ih h).imp id (List.mem_cons_of_mem _)

theorem pairwise_insertEntry {key : String} {value : α} {l : List (String × α)}
    (h : l.Pairwise (·.1 < ·.1)) : (insertEntry key value l).Pairwise (·.1 < ·.1) := by
  induction l with
  | nil => exact List.pairwise_singleton ..
  | cons a rest ih =>
    obtain ⟨ha, hr⟩ := List.pairwise_cons.1 h
    unfold insertEntry
    split
    · next hlt =>
      refine List.pairwise_cons.2 ⟨fun e he => ?_, h⟩
      cases List.mem_cons.1 he with
      | inl he => exact he ▸ hlt
      | inr he => exact String.lt_trans hlt (ha e he)
    · next hge =>
      split
      · next heq => exact List.pairwise_cons.2 ⟨fun e he => heq ▸ ha e he, hr⟩
      · next hne =>
        refine List.pairwise_cons.2 ⟨fun e he => ?_, ih hr⟩
        cases mem_insertEntry he with
        | inl he =>
          subst he
          exact Std.lt_of_le_of_ne (Std.not_lt.1 hge) (Ne.symm hne)
        | inr he => exact ha e he

/-- The map with a value under a key, in place of any earlier one. -/
def insert (m : StringMap α) (key : String) (value : α) : StringMap α where
  entries := insertEntry key value m.entries
  sorted := pairwise_insertEntry m.sorted

def erase (m : StringMap α) (key : String) : StringMap α where
  entries := m.entries.filter (·.1 != key)
  sorted := m.sorted.filter _

/-- The map with the value under a key changed, starting from what `f none` gives. -/
def alter (m : StringMap α) (key : String) (f : Option α → α) : StringMap α :=
  m.insert key (f (m.find? key))

/-- The map with all given entries inserted in turn, so that the last one under a key stays. -/
def insertAll (m : StringMap α) (l : List (String × α)) : StringMap α :=
  l.foldl (fun m e => m.insert e.1 e.2) m

/-- The map of the given entries. -/
def ofList (l : List (String × α)) : StringMap α := empty.insertAll l

/-! ## Looking up what was changed -/

theorem lookup_cons (a : String × α) (l : List (String × α)) (k : String) :
    (a :: l).lookup k = if k = a.1 then some a.2 else l.lookup k := by
  obtain ⟨key, value⟩ := a
  by_cases h : k = key
  · simp [h]
  · simp [List.lookup_cons, h, beq_eq_false_iff_ne.2 h]

theorem lookup_insertEntry (key : String) (value : α) (l : List (String × α)) (k : String) :
    (insertEntry key value l).lookup k = if k = key then some value else l.lookup k := by
  induction l with
  | nil => simp [insertEntry, lookup_cons]
  | cons a rest ih =>
    unfold insertEntry
    split
    · rw [lookup_cons]
    · split
      · next heq => simp only [lookup_cons, heq]; split <;> rfl
      · next hne =>
        rw [lookup_cons, ih, lookup_cons]
        by_cases h : k = key
        · subst h
          simp [hne]
        · simp [h]

@[simp]
theorem find?_insert (m : StringMap α) (key : String) (value : α) (k : String) :
    (m.insert key value).find? k = if k = key then some value else m.find? k :=
  lookup_insertEntry key value m.entries k

theorem lookup_filter_ne (key : String) (l : List (String × α)) (k : String) :
    (l.filter (·.1 != key)).lookup k = if k = key then none else l.lookup k := by
  induction l with
  | nil => simp
  | cons a rest ih =>
    by_cases ha : a.1 = key
    · rw [List.filter_cons_of_neg (by simp [ha]), ih, lookup_cons, ha]
      split <;> rfl
    · rw [List.filter_cons_of_pos (by simp [ha]), lookup_cons, ih, lookup_cons]
      by_cases h : k = key
      · subst h
        simp [Ne.symm ha]
      · simp [h]

@[simp]
theorem find?_erase (m : StringMap α) (key k : String) :
    (m.erase key).find? k = if k = key then none else m.find? k :=
  lookup_filter_ne key m.entries k

end StringMap

end RpcProxy

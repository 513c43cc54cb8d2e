import RpcProxy.Config.Update
import RpcProxy.Proofs.Toml.Distinct
import Mathlib.Data.List.Sort
import Mathlib.Logic.Relation

/-!
# What it means that settings are the same

Settings are compared as TOML values: by length, by lookups, dates spelled as tables. This module
says what such a comparison tells about the settings themselves. Clusters that compare the same are
equal. Listeners that compare the same are `Alike`: equal in everything but the settings of their
filters, which answer every question alike, and the share of streams that is traced, which is the
same number.

Equality would be too much to ask of listeners. The settings of a filter are kept as they were read,
so two of them can differ in the order of their tables and still say the same to everybody who asks.
What matters is what a chain is built from, and that is what `Filter.Alike` lists. For everything
else, writing settings as values loses nothing (`Faithful`), which is shown for each kind of setting
and composed in the way in which the values are.

That takes settings whose tables name no key twice and of which none spells a date, `WellFormed`
ones. A date is compared as a table with one entry, and a table that had just this entry would be
found the same. `parse_wellFormed` says that a file holds no others.
-/

set_option autoImplicit false

namespace RpcProxy

/-! ## Lookups

Tables are read by key, and a key that stands twice counts once. -/

/-- With distinct keys, what stands under a key is what is found there. -/
theorem lookup_eq_some_iff_mem {α : Type} {es : List (String × α)} (hkeys : (es.map Prod.fst).Nodup)
    {key : String} {a : α} : es.lookup key = some a ↔ (key, a) ∈ es := by
  refine ⟨Toml.mem_of_lookup, fun hmem => ?_⟩
  induction es with
  | nil => simp at hmem
  | cons e es ih =>
    obtain ⟨hnew, hkeys⟩ := List.nodup_cons.1 hkeys
    rw [StringMap.lookup_cons]
    cases List.mem_cons.1 hmem with
    | inl h => simp [← h]
    | inr h =>
      have hne : key ≠ e.1 := by
        rintro rfl
        exact hnew (List.mem_map.2 ⟨_, h, rfl⟩)
      rw [if_neg hne, ih hkeys h]

theorem lookup_eq_none_iff_notMem {α : Type} {es : List (String × α)} {key : String} :
    es.lookup key = none ↔ key ∉ es.map Prod.fst := by
  rw [List.lookup_eq_none_iff]
  constructor
  · intro h hmem
    obtain ⟨e, he, rfl⟩ := List.mem_map.1 hmem
    simpa using h e he
  · intro h e he
    refine bne_iff_ne.2 ?_
    rintro rfl
    exact h (List.mem_map_of_mem he)

theorem lookup_map_snd {α β : Type} (f : α → β) (es : List (String × α)) (key : String) :
    (es.map fun e => (e.1, f e.2)).lookup key = (es.lookup key).map f := by
  induction es with
  | nil => rfl
  | cons e es ih =>
    simp only [List.map_cons, StringMap.lookup_cons, ih]
    split <;> rfl

theorem lookup_filterMap_snd {α β : Type} (f : α → Option β) {es : List (String × α)}
    (hkeys : (es.map Prod.fst).Nodup) (key : String) :
    (es.filterMap fun e => (f e.2).map (e.1, ·)).lookup key = (es.lookup key).bind f := by
  induction es with
  | nil => rfl
  | cons e es ih =>
    obtain ⟨hnew, hkeys⟩ := List.nodup_cons.1 hkeys
    rw [StringMap.lookup_cons, List.filterMap_cons]
    by_cases h : key = e.1
    · subst h
      cases hfe : f e.2 with
      | none => simpa [hfe, lookup_eq_none_iff_notMem.2 hnew] using ih hkeys
      | some b => simp [hfe]
    · cases hfe : f e.2 with
      | none => simpa [hfe, h] using ih hkeys
      | some b => simpa [hfe, h, StringMap.lookup_cons] using ih hkeys

theorem nodup_filterMap_snd {α β : Type} (f : α → Option β) {es : List (String × α)}
    (hkeys : (es.map Prod.fst).Nodup) :
    ((es.filterMap fun e => (f e.2).map (e.1, ·)).map Prod.fst).Nodup := by
  have hsub : ((es.filterMap fun e => (f e.2).map (e.1, ·)).map Prod.fst).Sublist
      (es.map Prod.fst) := by
    induction es with
    | nil => exact List.Sublist.slnil
    | cons e es ih =>
      have ih := ih (List.nodup_cons.1 hkeys).2
      cases hfe : f e.2 with
      | none => simpa [hfe] using ih.cons e.1
      | some b => simpa [hfe] using ih
  exact hkeys.sublist hsub

/-- With distinct names, a listener is found by its name. -/
theorem find?_name_of_nodup {ls : List Config.Listener} (hnodup : (ls.map (·.name)).Nodup)
    {l : Config.Listener} (hl : l ∈ ls) : ls.find? (·.name == l.name) = some l := by
  induction ls with
  | nil => cases hl
  | cons l' ls ih =>
    obtain ⟨hnew, hnodup⟩ := List.nodup_cons.1 hnodup
    cases List.mem_cons.1 hl with
    | inl heq => simp [heq]
    | inr hmem =>
      have hne : l'.name ≠ l.name := fun heq => hnew (List.mem_map.2 ⟨l, hmem, heq.symm⟩)
      rw [List.find?_cons_of_neg (by simpa using hne), ih hnodup hmem]

theorem forall₂_of_mapM {α β : Type} {f : α → Option β} {xs : List α} {ys : List β}
    (h : xs.mapM f = some ys) : List.Forall₂ (fun x y => f x = some y) xs ys := by
  induction xs generalizing ys with
  | nil =>
    cases h
    exact .nil
  | cons x xs ih =>
    rw [List.mapM_cons] at h
    obtain ⟨y, hy, h⟩ := Option.bind_eq_some_iff.1 h
    obtain ⟨ys', hys, h⟩ := Option.bind_eq_some_iff.1 h
    cases h
    exact .cons hy (ih hys)

theorem exists_of_mem_mapM {α β : Type} {f : α → Option β} {xs : List α} {ys : List β}
    (h : xs.mapM f = some ys) {y : β} (hy : y ∈ ys) : ∃ x ∈ xs, f x = some y := by
  have hall := forall₂_of_mapM h
  clear h
  induction hall with
  | nil => cases hy
  | cons hx _ ih =>
    cases List.mem_cons.1 hy with
    | inl heq => exact ⟨_, List.mem_cons_self, heq ▸ hx⟩
    | inr hmem =>
      obtain ⟨x, hx, hread⟩ := ih hmem
      exact ⟨x, List.mem_cons_of_mem _ hx, hread⟩

namespace StringMap

variable {α : Type}

theorem nodup_keys (m : StringMap α) : (m.entries.map Prod.fst).Nodup := by
  refine List.pairwise_map.2 (m.sorted.imp ?_)
  intro a b hlt heq
  exact String.lt_irrefl b.1 (heq ▸ hlt)

theorem ext_find? {m n : StringMap α} (h : ∀ key, m.find? key = n.find? key) : m = n := by
  have hantisymm : Std.Antisymm fun a b : String × α => a.1 < b.1 :=
    ⟨fun a b hab hba => absurd (String.lt_trans hab hba) (String.lt_irrefl a.1)⟩
  have hirrefl : Std.Irrefl fun a b : String × α => a.1 < b.1 := ⟨fun a => String.lt_irrefl a.1⟩
  have hentries : m.entries = n.entries := by
    refine List.Pairwise.eq_of_mem_iff m.sorted n.sorted fun e => ?_
    rw [← lookup_eq_some_iff_mem m.nodup_keys, ← lookup_eq_some_iff_mem n.nodup_keys]
    exact Eq.congr_left (h e.1)
  cases m
  cases n
  cases hentries
  rfl

theorem find?_insertAll {l : List (String × α)} (hkeys : (l.map Prod.fst).Nodup) (m : StringMap α)
    (key : String) : (m.insertAll l).find? key = (l.lookup key).or (m.find? key) := by
  induction l generalizing m with
  | nil => rfl
  | cons e l ih =>
    obtain ⟨hnew, hkeys⟩ := List.nodup_cons.1 hkeys
    have hstep := ih hkeys (m.insert e.1 e.2)
    rw [find?_insert] at hstep
    rw [lookup_cons]
    by_cases h : key = e.1
    · subst h
      simpa [insertAll, lookup_eq_none_iff_notMem.2 hnew] using hstep
    · simpa [insertAll, h] using hstep

theorem find?_ofList {l : List (String × α)} (hkeys : (l.map Prod.fst).Nodup) (key : String) :
    (ofList l).find? key = l.lookup key := by
  rw [ofList, find?_insertAll hkeys]
  cases l.lookup key <;> rfl

/-- A map from a list has nothing that the list has not. -/
theorem mem_of_find?_insertAll {l : List (String × α)} {m : StringMap α} {key : String} {a : α}
    (h : (m.insertAll l).find? key = some a) : (key, a) ∈ l ∨ m.find? key = some a := by
  induction l generalizing m with
  | nil => exact Or.inr h
  | cons e l ih =>
    cases ih (m := m.insert e.1 e.2) h with
    | inl hmem => exact Or.inl (List.mem_cons_of_mem _ hmem)
    | inr hfound =>
      rw [find?_insert] at hfound
      split at hfound
      · next heq =>
        cases hfound
        exact Or.inl (heq ▸ List.mem_cons_self ..)
      · exact Or.inr hfound

end StringMap

/-! ## Values

Values are compared as they are spelled, dates in a form of their own. Two values that compare as
equal give the same text wherever a filter reads one. -/

namespace Toml.Value

theorem sameItems_iff {as bs : List Value} :
    sameItems as bs = true ↔ List.Forall₂ (fun a b => a.same b = true) as bs := by
  induction as generalizing bs with
  | nil => cases bs <;> simp [sameItems]
  | cons a as ih => cases bs <;> simp [sameItems, ih]

theorem sameEntries_iff {es fs : List (String × Value)} : sameEntries es fs = true ↔
    ∀ e ∈ es, ∃ b, fs.lookup e.1 = some b ∧ e.2.same b = true := by
  induction es with
  | nil => simp [sameEntries]
  | cons e es ih =>
    rw [sameEntries, List.forall_mem_cons, ← ih]
    cases fs.lookup e.1 <;> simp

/-- Tables that are the same answer lookups alike. The lengths make up for the entries of the
second that nobody looked for. -/
theorem lookup_same {es fs : List (String × Value)} (hes : (es.map Prod.fst).Nodup)
    (h : (table es).same (table fs) = true) (key : String) :
    Option.Rel (fun a b => a.same b = true) (es.lookup key) (fs.lookup key) := by
  simp only [same, Bool.and_eq_true, beq_iff_eq] at h
  have hfound := sameEntries_iff.1 h.2
  cases hkey : es.lookup key with
  | some a =>
    obtain ⟨b, hb, hab⟩ := hfound (key, a) (mem_of_lookup hkey)
    rw [hb]
    exact .some hab
  | none =>
    have hsub : es.map Prod.fst ⊆ fs.map Prod.fst := by
      intro k hk
      obtain ⟨e, he, rfl⟩ := List.mem_map.1 hk
      obtain ⟨b, hb, -⟩ := hfound e he
      exact List.mem_map.2 ⟨_, mem_of_lookup hb, rfl⟩
    have hperm := (List.subperm_of_subset hes hsub).perm_of_length_le (by simp [h.1])
    have hnone := lookup_eq_none_iff_notMem.1 hkey
    rw [lookup_eq_none_iff_notMem.2 fun hmem => hnone (hperm.mem_iff.2 hmem)]
    exact .none

theorem spellDatesUnder_eq (es : List (String × Value)) :
    spellDatesUnder es = es.map fun e => (e.1, e.2.spellDates) := by
  induction es with
  | nil => rw [spellDatesUnder, List.map_nil]
  | cons e es ih => rw [spellDatesUnder, ih, List.map_cons]

/-- The dates spelled, tables that are the same still answer lookups alike. -/
theorem lookup_same_spelled {es fs : List (String × Value)} (hes : (es.map Prod.fst).Nodup)
    (h : (table es).spellDates.same (table fs).spellDates = true) (key : String) :
    Option.Rel (fun a b => a.spellDates.same b.spellDates = true)
      (es.lookup key) (fs.lookup key) := by
  rw [spellDates, spellDates, spellDatesUnder_eq, spellDatesUnder_eq] at h
  have hkeys : ((es.map fun e => (e.1, e.2.spellDates)).map Prod.fst).Nodup := by
    simpa [Function.comp_def] using hes
  have hrel := lookup_same hkeys h key
  rw [lookup_map_snd, lookup_map_snd] at hrel
  cases ha : es.lookup key <;> cases hb : fs.lookup key <;> simp_all

theorem string?_eq_of_same {v w : Value} (h : v.spellDates.same w.spellDates = true) :
    v.string? = w.string? := by
  cases v <;> cases w <;> simp_all [spellDates, same, string?]

/-- A value that, if it is a table, names no key twice and spells no date. -/
def WellFormed (v : Value) : Prop :=
  ∀ es, v.table? = some es → (es.map Prod.fst).Nodup ∧ es.head?.map Prod.fst ≠ some dateKey

/-- A date and a well-formed table are never the same, though dates are spelled as tables. -/
theorem not_same_date {d : Datetime} {fs : List (String × Value)} (hfs : (table fs).WellFormed) :
    ¬ ((datetime d).spellDates.same (table fs).spellDates = true) ∧
      ¬ ((table fs).spellDates.same (datetime d).spellDates = true) := by
  obtain ⟨-, hhead⟩ := hfs fs rfl
  rw [spellDates, spellDates, spellDatesUnder_eq]
  rcases fs with _ | ⟨f, _ | ⟨g, fs⟩⟩
  · simp [same]
  · have hf : f.1 ≠ dateKey := by simpa using hhead
    simp [same, sameEntries, StringMap.lookup_cons, hf, Ne.symm hf]
  · simp [same]

theorem texts_eq_of_same {v w : Value} (hv : v.WellFormed) (hw : w.WellFormed)
    (h : v.spellDates.same w.spellDates = true) :
    StringMap.ofList ((v.table?.getD []).filterMap fun e => e.2.string?.map (e.1, ·)) =
      StringMap.ofList ((w.table?.getD []).filterMap fun e => e.2.string?.map (e.1, ·)) := by
  cases v with
  | table es =>
    cases w with
    | table fs =>
      -- Lookups decide what is in a map of texts, and they answer alike.
      obtain ⟨hes, -⟩ := hv es rfl
      obtain ⟨hfs, -⟩ := hw fs rfl
      refine StringMap.ext_find? fun key => ?_
      simp only [table?, Option.getD_some]
      rw [StringMap.find?_ofList (nodup_filterMap_snd _ hes),
        StringMap.find?_ofList (nodup_filterMap_snd _ hfs),
        lookup_filterMap_snd _ hes, lookup_filterMap_snd _ hfs]
      have hrel := lookup_same_spelled hes h key
      generalize es.lookup key = a at hrel ⊢
      generalize fs.lookup key = b at hrel ⊢
      cases hrel with
      | none => rfl
      | some hab => exact string?_eq_of_same hab
    -- A date that is spelled as a table is the only way for values of two kinds to be found the
    -- same.
    | datetime d => exact absurd h (not_same_date hv).2
    | _ => simp [spellDates, same] at h
  | datetime d =>
    cases w with
    | table fs => exact absurd h (not_same_date hw).1
    | _ => rfl
  | _ =>
    cases w with
    | table fs => simp [spellDates, same] at h
    | _ => rfl

theorem readDatesUnder?_keys {es fs : List (String × Value)}
    (h : readDatesUnder? es = some fs) : fs.map Prod.fst = es.map Prod.fst := by
  induction es generalizing fs with
  | nil =>
    cases h
    rfl
  | cons e es ih =>
    rw [readDatesUnder?] at h
    split at h
    · next v rest _ hrest =>
      cases h
      rw [List.map_cons, List.map_cons, ih hrest]
    · cases h

/-- A table that spells a date is read as one, and the others keep their keys. -/
theorem readDates?_wellFormed {v w : Value} (hv : v.Distinct) (h : v.readDates? = some w) : w.WellFormed := by
  intro gs hgs
  unfold readDates? at h
  split at h
  · next n =>
    split at h
    · cases h
      cases hgs
    · cases h
  · obtain ⟨items, -, rfl⟩ := Option.map_eq_some_iff.1 h
    cases hgs
  · next key u rest =>
    split at h
    · split at h
      · obtain ⟨d, -, rfl⟩ := Option.map_eq_some_iff.1 h
        cases hgs
      · cases h
    -- The first key is not the one that dates are spelled with, or the table would have been read
    -- as a date.
    · next hkey =>
      split at h
      · next u' rest' _ hrest =>
        cases h
        cases hgs
        refine ⟨?_, by simpa using hkey⟩
        rw [List.map_cons, readDatesUnder?_keys hrest]
        exact hv.keys
      · cases h
  · next _ _ hcons =>
    cases h
    cases v with
    | table es =>
      cases hgs
      cases gs with
      | nil => simp
      | cons e gs => exact absurd rfl (hcons e.1 e.2 gs)
    | _ => cases hgs

end Toml.Value

/-! ## Settings that compare as equal only if they are

Most settings are written into values without loss, so that equal values come of equal settings.
Those of filters are not, hence the section that follows. -/

namespace Config

open Toml (Value)

/-- Different things are written as values that are not the same. Where this holds, a comparison of
what was written is a comparison of the things. -/
def Faithful {α : Type} (f : α → Value) : Prop := ∀ x y, (f x).same (f y) = true → x = y

theorem faithful_string : Faithful Value.string := by
  intro x y h
  simpa [Value.same] using h

theorem faithful_boolean : Faithful Value.boolean := by
  intro x y h
  simpa [Value.same] using h

theorem Faithful.eq_of_rel {α : Type} {f : α → Value} (hf : Faithful f) {x y : Option α}
    (h : Option.Rel (fun a b => a.same b = true) (x.map f) (y.map f)) : x = y := by
  cases x <;> cases y
  · rfl
  · cases h
  · cases h
  · cases h with
    | some h => exact congrArg some (hf _ _ h)

theorem Faithful.array {α : Type} {f : α → Value} (hf : Faithful f) :
    Faithful fun xs : List α => .array (xs.map f) := by
  intro xs ys h
  simp only [Value.same, Value.sameItems_iff, List.forall₂_map_left_iff,
    List.forall₂_map_right_iff] at h
  induction h with
  | nil => rfl
  | cons hxy _ ih => rw [hf _ _ hxy, ih]

theorem faithful_textMap : Faithful textMap := by
  intro m n h
  refine StringMap.ext_find? fun key => ?_
  have hkeys : ((m.toList.map fun e => (e.1, Value.string e.2)).map Prod.fst).Nodup := by
    simpa [Function.comp_def, StringMap.toList] using m.nodup_keys
  have hrel := Value.lookup_same hkeys h key
  rw [lookup_map_snd, lookup_map_snd] at hrel
  exact faithful_string.eq_of_rel hrel

theorem number?_faithful {m n : Nat} {v w : Value} (hv : number? m = some v)
    (hw : number? n = some w) (h : v.same w = true) : m = n := by
  unfold number? at hv hw
  split at hv
  · split at hw
    · cases hv
      cases hw
      simpa [Value.same, Int.ofNat_inj] using h
    · cases hw
  · cases hv

theorem OutlierDetection.eq_of_same {a b : OutlierDetection} {v w : Value}
    (hv : a.toValue? = some v) (hw : b.toValue? = some w) (h : v.same w = true) : a = b := by
  simp only [OutlierDetection.toValue?, bind, Option.bind_eq_some_iff, pure, Option.some.injEq]
    at hv hw
  obtain ⟨a₁, ha₁, a₂, ha₂, a₃, ha₃, a₄, ha₄, rfl⟩ := hv
  obtain ⟨b₁, hb₁, b₂, hb₂, b₃, hb₃, b₄, hb₄, rfl⟩ := hw
  have hrel := Value.lookup_same (by simp) h
  have h₁ := number?_faithful ha₁ hb₁ (by simpa using hrel "consecutive_failures")
  have h₂ := number?_faithful ha₂ hb₂
    (by simpa [StringMap.lookup_cons] using hrel "consecutive_local_origin_failures")
  have h₃ := number?_faithful ha₃ hb₃
    (by simpa [StringMap.lookup_cons] using hrel "success_threshold")
  have h₄ := number?_faithful ha₄ hb₄
    (by simpa [StringMap.lookup_cons] using hrel "base_ejection_time_ms")
  cases a
  cases b
  simp_all

theorem faithful_transport : Faithful fun t : Transport => .string t.name := by
  intro x y h
  cases x <;> cases y <;> simp [Value.same, Transport.name] at h ⊢

theorem faithful_protocol : Faithful fun p : Protocol => .string p.name := by
  intro x y h
  cases x <;> cases y <;> simp [Value.same, Protocol.name] at h ⊢

theorem Cluster.eq_of_same {a b : Cluster} {v w : Value} (hv : a.toValue? = some v)
    (hw : b.toValue? = some w) (h : v.same w = true) : a = b := by
  simp only [Cluster.toValue?, bind, Option.bind_eq_some_iff, pure, Option.some.injEq] at hv hw
  obtain ⟨a₁, ha₁, a₂, ha₂, a₃, ha₃, rfl⟩ := hv
  obtain ⟨b₁, hb₁, b₂, hb₂, b₃, hb₃, rfl⟩ := hw
  have hrel := Value.lookup_same (by simp) h
  have hname := faithful_string _ _ (by simpa [StringMap.lookup_cons] using hrel "name")
  have hhosts := faithful_string.array _ _ (by simpa [StringMap.lookup_cons] using hrel "hosts")
  have htransport := faithful_transport _ _
    (by simpa [StringMap.lookup_cons] using hrel "transport")
  have hprotocol := faithful_protocol _ _ (by simpa [StringMap.lookup_cons] using hrel "protocol")
  have hclose := faithful_boolean _ _
    (by simpa [StringMap.lookup_cons] using hrel "close_downstream_on_error")
  have hmax := number?_faithful ha₁ hb₁
    (by simpa [StringMap.lookup_cons] using hrel "max_connections")
  have htimeout := number?_faithful ha₂ hb₂
    (by simpa [StringMap.lookup_cons] using hrel "connect_timeout")
  have houtlier := OutlierDetection.eq_of_same ha₃ hb₃
    (by simpa [StringMap.lookup_cons] using hrel "outlier_detection")
  cases a
  cases b
  simp_all

theorem eq_of_forall₂_same {as bs : List Cluster} {vs ws : List Value}
    (hv : List.Forall₂ (fun c v => c.toValue? = some v) as vs)
    (hw : List.Forall₂ (fun c w => c.toValue? = some w) bs ws)
    (h : List.Forall₂ (fun v w => v.same w = true) vs ws) : as = bs := by
  induction hv generalizing bs ws with
  | nil =>
    cases h
    cases hw
    rfl
  | cons ha _ ih =>
    cases h with
    | cons hab hrest =>
      cases hw with
      | cons hb hbs => rw [Cluster.eq_of_same ha hb hab, ih hbs hrest]

/-- Clusters that compare the same are equal. -/
theorem eq_of_sameClusters {as bs : List Cluster} (h : sameClusters as bs = true) : as = bs := by
  unfold sameClusters sameValue at h
  split at h
  · next v w hv hw =>
    obtain ⟨vs, hvs, rfl⟩ := Option.map_eq_some_iff.1 hv
    obtain ⟨ws, hws, rfl⟩ := Option.map_eq_some_iff.1 hw
    exact eq_of_forall₂_same (forall₂_of_mapM hvs) (forall₂_of_mapM hws) (Value.sameItems_iff.1 h)
  · cases h

theorem faithful_directResponse : Faithful DirectResponse.toValue := by
  intro a b h
  have hrel := Value.lookup_same (by simp) h
  have hstatus := faithful_string _ _ (by simpa [StringMap.lookup_cons] using hrel "status")
  have hmessage := faithful_string _ _ (by simpa [StringMap.lookup_cons] using hrel "message")
  cases a
  cases b
  simp_all

theorem lookup_entryOf (key : String) (v : Option Value) (k : String) :
    (entryOf key v).lookup k = if k = key then v else none := by
  cases v <;> simp [entryOf, StringMap.lookup_cons]

theorem faithful_route : Faithful Route.toValue := by
  intro a b h
  have hrel := Value.lookup_same (by
    cases a.service <;> cases a.method <;> cases a.cluster <;> cases a.directResponse <;>
      simp [entryOf]) h
  simp only [List.lookup_append, StringMap.lookup_cons, lookup_entryOf, List.lookup_nil] at hrel
  have hname := faithful_string _ _ (by simpa using hrel "name")
  have hservice := faithful_string.eq_of_rel (by simpa using hrel "service")
  have hmethod := faithful_string.eq_of_rel (by simpa using hrel "method")
  have hproperties := faithful_textMap _ _ (by simpa using hrel "properties")
  have hcluster := faithful_string.eq_of_rel (by simpa using hrel "cluster")
  have hdirect := faithful_directResponse.eq_of_rel (by simpa using hrel "direct_response")
  have hmetadata := faithful_textMap _ _ (by simpa using hrel "metadata")
  cases a
  cases b
  simp_all

/-! ## Listeners

Listeners whose values compare as equal are alike: what a plan is built from is equal, or is alike
where it is a table of settings. -/

/-- Filters of one name whose settings answer alike. -/
structure Filter.Alike (a b : Filter) : Prop where
  /-- The names are equal. -/
  name : a.name = b.name
  /-- The texts are equal. -/
  string? (key : String) : a.string? key = b.string? key
  /-- The tables of texts are equal. -/
  stringMap (key : String) : a.stringMap key = b.stringMap key

def Filter.WellFormed (f : Filter) : Prop := ∀ key v, f.settings.find? key = some v → v.WellFormed

theorem Filter.alike_of_same {a b : Filter} (ha : a.WellFormed) (hb : b.WellFormed)
    (h : a.toValue.same b.toValue = true) : a.Alike b := by
  have hrel := Value.lookup_same (by simp) h
  have hname := faithful_string _ _ (by simpa [StringMap.lookup_cons] using hrel "name")
  have hsettings : (Value.table a.settings.toList).spellDates.same
      (Value.table b.settings.toList).spellDates = true := by
    simpa [StringMap.lookup_cons] using hrel "config"
  -- Every question that a filter is asked is a lookup in its settings.
  have hfound (key : String) : Option.Rel (fun v w => v.spellDates.same w.spellDates = true)
      (a.settings.find? key) (b.settings.find? key) :=
    Value.lookup_same_spelled a.settings.nodup_keys hsettings key
  refine ⟨hname, fun key => ?_, fun key => ?_⟩
  · unfold Filter.string?
    have hkey := hfound key
    generalize a.settings.find? key = v at hkey ⊢
    generalize b.settings.find? key = w at hkey ⊢
    cases hkey with
    | none => rfl
    | some hvw => exact Value.string?_eq_of_same hvw
  · unfold Filter.stringMap
    have hkey := hfound key
    cases hv : a.settings.find? key with
    | none =>
      rw [hv] at hkey
      cases hw : b.settings.find? key with
      | none => rfl
      | some w =>
        rw [hw] at hkey
        cases hkey
    | some v =>
      rw [hv] at hkey
      cases hw : b.settings.find? key with
      | none =>
        rw [hw] at hkey
        cases hkey
      | some w =>
        rw [hw] at hkey
        cases hkey with
        | some hvw => exact Value.texts_eq_of_same (ha key v hv) (hb key w hw) hvw

/-- Equal but for the share of streams, which is the same number. -/
structure Tracing.Alike (a b : Tracing) : Prop where
  /-- Numbers that compare as equal lead from one share to the other. -/
  randomSampling : Relation.ReflTransGen (fun x y : Float => (x == y) = true)
    a.randomSampling b.randomSampling
  /-- The directions are equal. -/
  operation : a.operation = b.operation
  /-- The amounts of detail are equal. -/
  verbose : a.verbose = b.verbose
  /-- The longest paths are equal. -/
  maxPathLength : a.maxPathLength = b.maxPathLength
  customTags : a.customTags = b.customTags

theorem Tracing.alike_of_same {a b : Tracing} {v w : Value} (hv : a.toValue? = some v)
    (hw : b.toValue? = some w) (h : v.same w = true) : a.Alike b := by
  simp only [Tracing.toValue?, bind, Option.bind_eq_some_iff, pure, Option.some.injEq] at hv hw
  obtain ⟨m, hm, rfl⟩ := hv
  obtain ⟨n, hn, rfl⟩ := hw
  have hrel := Value.lookup_same (by simp) h
  have hoperation : (Value.string a.operation.name).same (.string b.operation.name) = true := by
    simpa [StringMap.lookup_cons] using hrel "operation_name"
  refine ⟨.single ?_, ?_,
    faithful_boolean _ _ (by simpa [StringMap.lookup_cons] using hrel "verbose"),
    number?_faithful hm hn (by simpa [StringMap.lookup_cons] using hrel "max_path_tag_length"),
    faithful_textMap _ _ (by simpa [StringMap.lookup_cons] using hrel "custom_tags")⟩
  · simpa [StringMap.lookup_cons, Value.same] using hrel "random_sampling"
  · cases ha : a.operation <;> cases hb : b.operation <;>
      simp [ha, hb, Value.same, Operation.name] at hoperation ⊢

structure Listener.Alike (a b : Listener) : Prop where
  /-- The names are equal. -/
  name : a.name = b.name
  codec : a.codec = b.codec
  /-- The labels of the counters are equal. -/
  statLabel : a.statLabel = b.statLabel
  tracing : Option.Rel Tracing.Alike a.tracing b.tracing
  filters : List.Forall₂ Filter.Alike a.filters b.filters
  routes : a.routes = b.routes

def Listener.WellFormed (l : Listener) : Prop := ∀ f ∈ l.filters, f.WellFormed

theorem Listener.toValue?_lookup {l : Listener} {v : Value} (h : l.toValue? = some v) :
    ∃ es, v = .table es ∧ (es.map Prod.fst).Nodup ∧
      es.lookup "name" = some (.string l.name) ∧
      es.lookup "codec" = some (.string l.codec) ∧
      es.lookup "stat_prefix" = l.statLabel.map .string ∧
      Option.Rel (fun t v => t.toValue? = some v) l.tracing (es.lookup "tracing") ∧
      es.lookup "filters" = some (.array (l.filters.map Filter.toValue)) ∧
      es.lookup "routes" = some (.array (l.routes.map Route.toValue)) := by
  unfold Listener.toValue? at h
  dsimp only at h
  split at h
  · next t ht =>
    obtain ⟨w, hw, h⟩ := Option.bind_eq_some_iff.1 h
    cases h
    refine ⟨_, rfl, by cases l.statLabel <;> simp [entryOf], ?_⟩
    simp [List.lookup_append, StringMap.lookup_cons, lookup_entryOf, ht, hw]
  · next ht =>
    cases h
    refine ⟨_, rfl, by cases l.statLabel <;> simp [entryOf], ?_⟩
    simp [List.lookup_append, StringMap.lookup_cons, lookup_entryOf, ht]

theorem Filter.forall₂_alike_of_same {as bs : List Filter} (ha : ∀ f ∈ as, f.WellFormed)
    (hb : ∀ f ∈ bs, f.WellFormed)
    (h : List.Forall₂ (fun f g => f.toValue.same g.toValue = true) as bs) :
    List.Forall₂ Filter.Alike as bs := by
  induction h with
  | nil => exact .nil
  | cons hfg _ ih =>
    obtain ⟨hf, ha⟩ := List.forall_mem_cons.1 ha
    obtain ⟨hg, hb⟩ := List.forall_mem_cons.1 hb
    exact .cons (Filter.alike_of_same hf hg hfg) (ih ha hb)

/-- Listeners that compare the same work alike. -/
theorem alike_of_sameListener {a b : Listener} (ha : a.WellFormed) (hb : b.WellFormed)
    (h : sameListener a b = true) : a.Alike b := by
  unfold sameListener sameValue at h
  split at h
  · next v w hv hw =>
    obtain ⟨es, rfl, hkeys, hname, hcodec, hlabel, htracing, hfilters, hroutes⟩ :=
      Listener.toValue?_lookup hv
    obtain ⟨fs, rfl, -, hname', hcodec', hlabel', htracing', hfilters', hroutes'⟩ :=
      Listener.toValue?_lookup hw
    have hrel := Value.lookup_same hkeys h
    -- Each field is found under its key, and is faithful but for tracing and the filters.
    refine ⟨faithful_string _ _ (by simpa [hname, hname'] using hrel "name"),
      faithful_string _ _ (by simpa [hcodec, hcodec'] using hrel "codec"),
      faithful_string.eq_of_rel (by simpa [hlabel, hlabel'] using hrel "stat_prefix"), ?_, ?_,
      faithful_route.array _ _ (by simpa [hroutes, hroutes'] using hrel "routes")⟩
    · have ht := hrel "tracing"
      generalize es.lookup "tracing" = v at htracing ht
      generalize fs.lookup "tracing" = w at htracing' ht
      generalize a.tracing = t at htracing ⊢
      generalize b.tracing = u at htracing' ⊢
      cases htracing with
      | none =>
        cases ht
        cases htracing'
        exact .none
      | some hv =>
        cases ht with
        | some hvw =>
          cases htracing' with
          | some hw => exact .some (Tracing.alike_of_same hv hw hvw)
    · have hf : (Value.array (a.filters.map Filter.toValue)).same
          (.array (b.filters.map Filter.toValue)) = true := by
        simpa [hfilters, hfilters'] using hrel "filters"
      simp only [Value.same, Value.sameItems_iff, List.forall₂_map_left_iff,
        List.forall₂_map_right_iff] at hf
      exact Filter.forall₂_alike_of_same ha hb hf
  · cases h

/-! ## Settings from a file

What a file can bring in. A table names no key twice and does not look like a date that is spelled
out, which is what the comparison needs. -/

theorem entries?_distinct {v : Value} {es : List (String × Value)} (hv : v.Distinct)
    (h : entries? v = some es) : ∀ e ∈ es, e.2.Distinct := by
  cases v with
  | table es =>
    cases h
    exact hv.entries
  | datetime d =>
    cases h
    intro e he
    cases List.mem_singleton.1 he
    exact .scalar (by simp) (by simp)
  | _ => cases h

/-- The fields of a value are distinct if it is. -/
theorem fields?_distinct {names : List String} {v : Value} {f : Fields} (hv : v.Distinct)
    (h : fields? names v = some f) : ∀ e ∈ f.entries, e.2.Distinct := by
  unfold fields? at h
  split at h
  · cases h
    intro e he
    exact hv.items e.2 (List.of_mem_zip he).2
  · obtain ⟨es, hes, rfl⟩ := Option.map_eq_some_iff.1 h
    exact entries?_distinct hv hes

theorem Fields.distinct_of_withDefault {α : Type} {f : Fields} {name : String}
    {read : Value → Option α} {fallback x : α} (hf : ∀ e ∈ f.entries, e.2.Distinct)
    (h : f.withDefault name read fallback = some x) :
    x = fallback ∨ ∃ v, v.Distinct ∧ read v = some x := by
  unfold Fields.withDefault at h
  split at h
  · next v hv => exact Or.inr ⟨v, hf _ (Toml.mem_of_lookup hv), h⟩
  · cases h
    exact Or.inl rfl

theorem exists_of_list? {α : Type} {item? : Value → Option α} {v : Value} {xs : List α}
    (hv : v.Distinct) (h : list? item? v = some xs) :
    ∀ x ∈ xs, ∃ w, w.Distinct ∧ item? w = some x := by
  cases v with
  | array vs =>
    intro x hx
    obtain ⟨w, hw, hread⟩ := exists_of_mem_mapM h hx
    exact ⟨w, hv.items w hw, hread⟩
  | _ => cases h

section

-- What is known of every value without repeated keys once its dates are read.
variable {P : Value → Prop} (hP : ∀ v w : Value, v.Distinct → v.readDates? = some w → P w)

include hP

theorem Filter.ofValue?_settings {v : Value} {f : Filter} (hv : v.Distinct)
    (h : Filter.ofValue? v = some f) : ∀ key u, f.settings.find? key = some u → P u := by
  simp only [Filter.ofValue?, bind, Option.bind_eq_some_iff, pure, Option.some.injEq] at h
  obtain ⟨fs, hfs, name, -, settings, hsettings, rfl⟩ := h
  intro key u hu
  cases Fields.distinct_of_withDefault (fields?_distinct hv hfs) hsettings with
  | inl hdefault =>
    cases hdefault
    cases hu
  | inr hread =>
    obtain ⟨w, hw, hmap⟩ := hread
    simp only [map?, bind, Option.bind_eq_some_iff, pure, Option.some.injEq] at hmap
    obtain ⟨es, hes, entries, hentries, rfl⟩ := hmap
    have hmem : (key, u) ∈ entries := by
      cases StringMap.mem_of_find?_insertAll hu with
      | inl h => exact h
      | inr h => cases h
    obtain ⟨e, he, hread⟩ := exists_of_mem_mapM hentries hmem
    obtain ⟨u', hu', heq⟩ := Option.map_eq_some_iff.1 hread
    cases heq
    exact hP _ _ (entries?_distinct hw hes e he) hu'

theorem Listener.ofValue?_settings {v : Value} {l : Listener} (hv : v.Distinct)
    (h : Listener.ofValue? v = some l) :
    ∀ f ∈ l.filters, ∀ key u, f.settings.find? key = some u → P u := by
  simp only [Listener.ofValue?, bind, Option.bind_eq_some_iff, pure, Option.some.injEq] at h
  obtain ⟨fs, hfs, _, -, _, -, _, -, _, -, _, -, _, -, filters, hfilters, _, -, rfl⟩ := h
  cases Fields.distinct_of_withDefault (fields?_distinct hv hfs) hfilters with
  | inl hdefault => simp [hdefault]
  | inr hread =>
    obtain ⟨w, hw, hlist⟩ := hread
    intro f hf
    obtain ⟨u, hu, hread⟩ := exists_of_list? hw hlist f hf
    exact Filter.ofValue?_settings hP hu hread

/-- The settings of filters that a file holds were read from values without repeated keys. -/
theorem parse_settings {text : String} {c : Config} (h : parse text = .ok c) :
    ∀ l ∈ c.listeners, ∀ f ∈ l.filters, ∀ key u, f.settings.find? key = some u → P u := by
  unfold parse at h
  split at h
  · cases h
  · next c' hread =>
    split at h
    · cases h
    · cases h
      obtain ⟨v, hv, hread⟩ := Option.bind_eq_some_iff.1 hread
      simp only [ofValue?, bind, Option.bind_eq_some_iff, pure, Option.some.injEq] at hread
      obtain ⟨fs, hfs, _, -, _, -, _, -, listeners, hlisteners, _, -, rfl⟩ := hread
      have hfields := fields?_distinct (Toml.parse?_distinct hv) hfs
      cases Fields.distinct_of_withDefault hfields hlisteners with
      | inl hdefault => simp [hdefault]
      | inr hread =>
        obtain ⟨w, hw, hlist⟩ := hread
        intro l hl
        obtain ⟨u, hu, hread⟩ := exists_of_list? hw hlist l hl
        exact Listener.ofValue?_settings hP hu hread

end

/-- The filters of all listeners have well-formed settings. -/
def WellFormed (c : Config) : Prop := ∀ l ∈ c.listeners, l.WellFormed

/-- The settings that a file holds are well-formed. -/
theorem parse_wellFormed {text : String} {c : Config} (h : parse text = .ok c) : c.WellFormed :=
  parse_settings (fun _ _ => Value.readDates?_wellFormed) h

theorem names_of_listenerFault?_eq_none {clusters seen : List String}
    {ls : List Listener} (h : listenerFault? clusters seen ls = none) :
    (ls.map (·.name)).Nodup ∧ ∀ l ∈ ls, l.name ∉ seen := by
  induction ls generalizing seen with
  | nil => simp
  | cons l ls ih =>
    rw [listenerFault?] at h
    split at h
    · cases h
    · next hnew =>
      split at h
      · cases h
      · obtain ⟨-, h⟩ := Option.or_eq_none_iff.1 h
        obtain ⟨-, h⟩ := Option.or_eq_none_iff.1 h
        obtain ⟨hnodup, hseen⟩ := ih h
        refine ⟨List.nodup_cons.2 ⟨fun hmem => ?_, hnodup⟩, List.forall_mem_cons.2
          ⟨by simpa using hnew, fun l' hl' hmem => ?_⟩⟩
        · obtain ⟨l', hl', heq⟩ := List.mem_map.1 hmem
          exact hseen l' hl' (by simp [heq])
        · exact hseen l' hl' (List.mem_cons_of_mem _ hmem)

end Config

theorem parse_valid {text : String} {c : Config} (h : Config.parse text = .ok c) : c.Valid := by
  unfold Config.parse at h
  split at h
  · cases h
  · split at h
    · cases h
    · next hfault =>
      cases h
      exact hfault

end RpcProxy

import RpcProxy.Proofs.Config.Sameness
import Mathlib.Data.List.Perm.Lattice

/-!
# What an update says of two configurations

An update is found by two searches, one for every new listener among the old ones and one for every
old listener among the new ones, and by a comparison of what the settings come to when written. The
comparison counts entries and looks for those of the one table in the other. This module says what
comes of it. Two values without repeated keys are found the same exactly when they agree: the same
scalars, items and lookups at every depth (`same_iff_agree`). That is a relation that has no
direction and sees no order of entries, so neither has the comparison.

The condition on keys cannot be dropped. The comparison looks for the entries of one table in the
other and counts them; a table that names a key twice has as many entries as another with one key
more, and the comparison would depend on which of the two comes first. Files hold no such tables
(`parse_distinct`).

Numbers are compared as floating-point numbers are, so one that is not a number agrees with nothing,
not even with itself. `Agree` has the relation between numbers as a parameter for that reason: with
equality it is what rearranging a table keeps, and with the comparison of numbers it is what a
comparison finds.

The names of the listeners are then parted into those that are new, those that are gone, those whose
settings agree and those whose settings do not (`between_exact`).
-/

set_option autoImplicit false

namespace RpcProxy

namespace Toml.Value

/-! ## Values that agree

Agreement as a relation that does not depend on the order of entries. The comparison of the program
decides it, if keys stand once. -/

/-- The same value but for the order of the entries of tables, with numbers compared by `R`. -/
inductive Agree (R : Float → Float → Prop) : Value → Value → Prop where
  | string (s : String) : Agree R (.string s) (.string s)
  | integer (n : Int) : Agree R (.integer n) (.integer n)
  | float {x y : Float} (h : R x y) : Agree R (.float x) (.float y)
  | boolean (b : Bool) : Agree R (.boolean b) (.boolean b)
  | datetime (d : Datetime) : Agree R (.datetime d) (.datetime d)
  | array {vs ws : List Value} (hlength : vs.length = ws.length)
      (h : ∀ (i : Nat) v w, vs[i]? = some v → ws[i]? = some w → Agree R v w) :
      Agree R (.array vs) (.array ws)
  | table {es fs : List (String × Value)}
      (hkeys : ∀ key, (es.lookup key).isSome = (fs.lookup key).isSome)
      (h : ∀ key v w, es.lookup key = some v → fs.lookup key = some w → Agree R v w) :
      Agree R (.table es) (.table fs)

/-- Numbers that compare as equal. -/
def SameNumber (x y : Float) : Prop := (x == y) = true

/-- The same value with the entries of its tables in another order. -/
def Rearranged (v w : Value) : Prop := w.Distinct ∧ v.Agree Eq w

namespace Agree

variable {R S T : Float → Float → Prop} {u v w : Value}

theorem symm (hR : ∀ x y, R x y → R y x) (h : Agree R v w) : Agree R w v := by
  induction h with
  | string s => exact .string s
  | integer n => exact .integer n
  | float h => exact .float (hR _ _ h)
  | boolean b => exact .boolean b
  | datetime d => exact .datetime d
  | array hlength _ ih => exact .array hlength.symm fun i w v hw hv => ih i v w hv hw
  | table hkeys _ ih =>
    exact .table (fun key => (hkeys key).symm) fun key w v hw hv => ih key v w hv hw

theorem trans (hRS : ∀ x y z, R x y → S y z → T x z) (huv : Agree R u v) (hvw : Agree S v w) :
    Agree T u w := by
  induction huv generalizing w with
  | string s => cases hvw; exact .string s
  | integer n => cases hvw; exact .integer n
  | float h => cases hvw with | float h' => exact .float (hRS _ _ _ h h')
  | boolean b => cases hvw; exact .boolean b
  | datetime d => cases hvw; exact .datetime d
  | array hlength _ ih =>
    cases hvw with
    | array hlength' h' =>
      refine .array (hlength.trans hlength') fun i a c ha hc => ?_
      obtain ⟨hi, -⟩ := List.getElem?_eq_some_iff.1 ha
      have hb := List.getElem?_eq_getElem (hlength ▸ hi)
      exact ih i a _ ha hb (h' i _ c hb hc)
  | table hkeys _ ih =>
    cases hvw with
    | table hkeys' h' =>
      refine .table (fun key => (hkeys key).trans (hkeys' key)) fun key a c ha hc => ?_
      obtain ⟨b, hb⟩ := Option.isSome_iff_exists.1 ((hkeys key).symm.trans (ha ▸ rfl))
      exact ih key a b ha hb (h' key b c hb hc)

end Agree

variable {v w : Value}

theorem isSome_lookup_iff {α : Type} {es : List (String × α)} {key : String} :
    (es.lookup key).isSome = true ↔ key ∈ es.map Prod.fst := by
  rw [Option.isSome_iff_ne_none, ne_eq, lookup_eq_none_iff_notMem, not_not]

theorem agree_of_same (hv : v.Distinct) (h : v.same w = true) : v.Agree SameNumber w := by
  -- The induction is on the value without repeated keys: the comparison looks up its entries in the
  -- other.
  induction hv generalizing w with
  | @scalar v ha ht =>
    cases v with
    | array items => exact absurd rfl (ha items)
    | table es => exact absurd rfl (ht es)
    | string s => cases w <;> simp only [same, Bool.false_eq_true, beq_iff_eq] at h; exact h ▸ .string s
    | integer n => cases w <;> simp [same] at h; exact h ▸ .integer n
    | float x => cases w <;> simp only [same, Bool.false_eq_true] at h; exact .float h
    | boolean b => cases w <;> simp [same] at h; exact h ▸ .boolean b
    | datetime d => cases w <;> simp [same] at h; exact h ▸ .datetime d
  | array _ ih =>
    cases w with
    | array ws =>
      have hall := List.forall₂_iff_get.1 (sameItems_iff.1 (by simpa [same] using h))
      refine .array hall.1 fun i a b ha hb => ?_
      obtain ⟨hi, rfl⟩ := List.getElem?_eq_some_iff.1 ha
      obtain ⟨hi', rfl⟩ := List.getElem?_eq_some_iff.1 hb
      exact ih _ (List.getElem_mem hi) (hall.2 i hi hi')
    | _ => simp [same] at h
  | @table es hkeys _ ih =>
    cases w with
    | table fs =>
      have hrel := lookup_same hkeys h
      refine .table (fun key => ?_) fun key a b ha hb => ?_
      · have hab := hrel key
        generalize es.lookup key = a, fs.lookup key = b at hab ⊢
        cases hab <;> rfl
      · have hab := hrel key
        rw [ha, hb] at hab
        cases hab with
        | some hab => exact ih (key, a) (mem_of_lookup ha) hab
    | _ => simp [same] at h

theorem same_of_agree (hv : v.Distinct) (hw : w.Distinct) (h : v.Agree SameNumber w) :
    v.same w = true := by
  induction h with
  | string | integer | boolean | datetime => simp [same]
  | float h => exact h
  | array hlength _ ih =>
    rw [same, sameItems_iff, List.forall₂_iff_get]
    refine ⟨hlength, fun i hi hi' => ?_⟩
    exact ih i _ _ (List.getElem?_eq_getElem hi) (List.getElem?_eq_getElem hi')
      (hv.items _ (List.getElem_mem hi)) (hw.items _ (List.getElem_mem hi'))
  | @table es fs hkeys _ ih =>
    rw [same, Bool.and_eq_true, beq_iff_eq, sameEntries_iff]
    constructor
    · have hperm : (es.map Prod.fst).Perm (fs.map Prod.fst) :=
        (List.perm_ext_iff_of_nodup hv.keys hw.keys).2 fun key => by
          rw [← isSome_lookup_iff, ← isSome_lookup_iff, hkeys key]
      simpa using hperm.length_eq
    · intro e he
      have ha := (lookup_eq_some_iff_mem hv.keys).2 he
      obtain ⟨b, hb⟩ := Option.isSome_iff_exists.1 ((hkeys e.1).symm.trans (ha ▸ rfl))
      exact ⟨b, hb, ih e.1 e.2 b ha hb (hv.entries e he) (hw.entries (e.1, b) (mem_of_lookup hb))⟩

/-- What the comparison finds the same is what agrees. -/
theorem same_iff_agree (hv : v.Distinct) (hw : w.Distinct) :
    v.same w = true ↔ v.Agree SameNumber w :=
  ⟨agree_of_same hv, same_of_agree hv hw⟩

/-! ## Numbers

Numbers are compared as numbers and not as they are written, and it does not matter which comes
first. -/

open Float.Model in
theorem compare_swap (a b : UnpackedFloat) : b.compare a = (a.compare b).map Ordering.swap := by
  have hint (m n : Int) : (compare m n).swap = compare n m := Std.OrientedCmp.eq_swap.symm
  have hnat (m n : Nat) : (compare m n).swap = compare n m := Std.OrientedCmp.eq_swap.symm
  -- Only finite numbers of one sign are compared by more than their kinds and signs.
  rcases a with ⟨_ | _⟩ | _ | ⟨_ | _⟩ | ⟨_ | _, m, e, h⟩ <;>
    rcases b with ⟨_ | _⟩ | _ | ⟨_ | _⟩ | ⟨_ | _, n, k, h'⟩ <;>
    first
    | rfl
    | dsimp only [UnpackedFloat.compare]
      simp [Ordering.swap_then, hint, hnat]

theorem SameNumber.symm {x y : Float} (h : SameNumber x y) : SameNumber y x := by
  have hxy : x.toModel.unpack.compare y.toModel.unpack = some .eq := beq_iff_eq.1 h
  show (y.toModel.unpack.compare x.toModel.unpack == some .eq) = true
  rw [compare_swap, hxy]
  rfl

/-- In which order tables have their entries makes no difference. -/
theorem same_rearranged {v' w' : Value} (hv : v.Distinct) (hw : w.Distinct) (hv' : v.Rearranged v')
    (hw' : w.Rearranged w') : v'.same w' = v.same w := by
  have hback {a b : Value} (h : a.Agree Eq b) : b.Agree Eq a := h.symm fun _ _ => Eq.symm
  have hagree {a a' b b' : Value} (ha : a.Agree Eq a') (hb : b.Agree Eq b')
      (h : a'.Agree SameNumber b') : a.Agree SameNumber b := by
    have hleft : a.Agree SameNumber b' := ha.trans (by rintro _ _ _ rfl h; exact h) h
    exact hleft.trans (by rintro _ _ _ h rfl; exact h) (hback hb)
  rw [Bool.eq_iff_iff, same_iff_agree hv'.1 hw'.1, same_iff_agree hv hw]
  exact ⟨hagree hv'.2 hw'.2, hagree (hback hv'.2) (hback hw'.2)⟩

/-! ## Values without repeated keys

The condition is kept by all that is done to values on the way to a comparison. -/

namespace Distinct

theorem string (s : String) : (Value.string s).Distinct := .scalar (by simp) (by simp)

theorem integer (n : Int) : (Value.integer n).Distinct := .scalar (by simp) (by simp)

theorem float (x : Float) : (Value.float x).Distinct := .scalar (by simp) (by simp)

theorem boolean (b : Bool) : (Value.boolean b).Distinct := .scalar (by simp) (by simp)

theorem map {α : Type} {f : α → Value} (h : ∀ a, (f a).Distinct) (as : List α) :
    (Value.array (as.map f)).Distinct :=
  .array fun v hv => by
    obtain ⟨a, -, rfl⟩ := List.mem_map.1 hv
    exact h a

end Distinct

theorem spellDatesIn_eq (vs : List Value) : spellDatesIn vs = vs.map spellDates := by
  induction vs with
  | nil => rw [spellDatesIn, List.map_nil]
  | cons v vs ih => rw [spellDatesIn, ih, List.map_cons]

theorem Distinct.spellDates (hv : v.Distinct) : v.spellDates.Distinct := by
  induction hv with
  | @scalar v ha ht =>
    cases v with
    | array items => exact absurd rfl (ha items)
    | table es => exact absurd rfl (ht es)
    | datetime d =>
      rw [Value.spellDates]
      exact .table (List.nodup_singleton dateKey) fun e he => List.mem_singleton.1 he ▸ .string _
    | string | integer | float | boolean =>
      exact .scalar (by simp [Value.spellDates]) (by simp [Value.spellDates])
  | array _ ih =>
    rw [Value.spellDates, spellDatesIn_eq]
    refine .array fun w hw => ?_
    obtain ⟨v, hv, rfl⟩ := List.mem_map.1 hw
    exact ih v hv
  | table hkeys _ ih =>
    rw [Value.spellDates, spellDatesUnder_eq]
    refine .table (by simpa [Function.comp_def] using hkeys) fun e he => ?_
    obtain ⟨e', he', rfl⟩ := List.mem_map.1 he
    exact ih e' he'

theorem exists_of_mem_readDatesIn? {vs ws : List Value} (h : readDatesIn? vs = some ws) :
    ∀ w ∈ ws, ∃ v ∈ vs, v.readDates? = some w := by
  induction vs generalizing ws with
  | nil =>
    cases h
    simp
  | cons v vs ih =>
    rw [readDatesIn?] at h
    split at h
    · next w ws' hw hws =>
      cases h
      refine List.forall_mem_cons.2 ⟨⟨v, List.mem_cons_self, hw⟩, fun w' hw' => ?_⟩
      obtain ⟨v', hv', hread⟩ := ih hws w' hw'
      exact ⟨v', List.mem_cons_of_mem v hv', hread⟩
    · cases h

theorem exists_of_mem_readDatesUnder? {es fs : List (String × Value)}
    (h : readDatesUnder? es = some fs) : ∀ f ∈ fs, ∃ e ∈ es, e.2.readDates? = some f.2 := by
  induction es generalizing fs with
  | nil =>
    cases h
    simp
  | cons e es ih =>
    rw [readDatesUnder?] at h
    split at h
    · next w rest hw hrest =>
      cases h
      refine List.forall_mem_cons.2 ⟨⟨e, List.mem_cons_self, hw⟩, fun f hf => ?_⟩
      obtain ⟨e', he', hread⟩ := ih hrest f hf
      exact ⟨e', List.mem_cons_of_mem e he', hread⟩
    · cases h

theorem Distinct.readDates? (hv : v.Distinct) (h : v.readDates? = some w) : w.Distinct := by
  -- Reading dates keeps the keys of a table, or replaces it by a date.
  induction hv generalizing w with
  | @scalar v ha ht =>
    cases v with
    | array items => exact absurd rfl (ha items)
    | table es => exact absurd rfl (ht es)
    | integer n =>
      rw [Value.readDates?] at h
      split at h
      · cases h
        exact .integer n
      · cases h
    | string | float | boolean | datetime =>
      cases h
      exact .scalar ha ht
  | array _ ih =>
    rw [Value.readDates?] at h
    obtain ⟨ws, hws, rfl⟩ := Option.map_eq_some_iff.1 h
    refine .array fun w hw => ?_
    obtain ⟨v, hv, hread⟩ := exists_of_mem_readDatesIn? hws w hw
    exact ih v hv hread
  | @table es hkeys _ ih =>
    cases es with
    | nil =>
      cases h
      exact .table hkeys (by simp)
    | cons e es =>
      unfold Value.readDates? at h
      split at h
      · split at h
        · obtain ⟨d, -, rfl⟩ := Option.map_eq_some_iff.1 h
          exact .scalar (by simp) (by simp)
        · cases h
      · split at h
        · next u rest hu hrest =>
          cases h
          obtain ⟨hfirst, hothers⟩ := List.forall_mem_cons.1 ih
          refine .table (by rwa [List.map_cons, readDatesUnder?_keys hrest]) ?_
          refine List.forall_mem_cons.2 ⟨hfirst hu, fun f hf => ?_⟩
          obtain ⟨e', he', hread⟩ := exists_of_mem_readDatesUnder? hrest f hf
          exact hothers e' he' hread
        · cases h

end Toml.Value

namespace Config

open Toml (Value)

/-! ## Settings as they are written

Settings are compared by the values that they are written as, and these repeat no key. -/

/-- No table in the settings of the filters names a key twice. -/
def Listener.Distinct (l : Listener) : Prop :=
  ∀ f ∈ l.filters, ∀ key v, f.settings.find? key = some v → v.Distinct

/-- No table in the settings of any filter names a key twice. -/
def Distinct (c : Config) : Prop := ∀ l ∈ c.listeners, l.Distinct

/-- The settings that a file holds name no key twice. -/
theorem parse_distinct {text : String} {c : Config} (h : parse text = .ok c) : c.Distinct :=
  parse_settings (fun _ _ => Value.Distinct.readDates?) h

theorem number?_distinct {n : Nat} {v : Value} (h : number? n = some v) : v.Distinct := by
  unfold number? at h
  split at h
  · cases h
    exact .integer n
  · cases h

theorem textMap_distinct (m : StringMap String) : (textMap m).Distinct := by
  refine .table (by simpa [Function.comp_def, StringMap.toList] using m.nodup_keys) fun e he => ?_
  obtain ⟨e', -, rfl⟩ := List.mem_map.1 he
  exact .string _

theorem entryOf_distinct {key : String} {o : Option Value} (h : ∀ v, o = some v → v.Distinct) :
    ∀ e ∈ entryOf key o, e.2.Distinct := by
  cases o with
  | none => simp [entryOf]
  | some v => simpa [entryOf] using h v rfl

theorem entryOf_map_distinct {α : Type} {key : String} {f : α → Value} (h : ∀ a, (f a).Distinct)
    (o : Option α) : ∀ e ∈ entryOf key (o.map f), e.2.Distinct :=
  entryOf_distinct fun v hv => by
    obtain ⟨a, -, rfl⟩ := Option.map_eq_some_iff.1 hv
    exact h a

theorem DirectResponse.toValue_distinct (d : DirectResponse) : d.toValue.Distinct :=
  .table (by simp) (by simp [Value.Distinct.string])

theorem Route.toValue_distinct (r : Route) : r.toValue.Distinct := by
  refine .table ?_ ?_
  · cases r.service <;> cases r.method <;> cases r.cluster <;> cases r.directResponse <;>
      simp [entryOf]
  · simp only [List.forall_mem_append, List.forall_mem_singleton]
    exact ⟨⟨⟨⟨⟨⟨.string _, entryOf_map_distinct .string _⟩, entryOf_map_distinct .string _⟩,
      textMap_distinct _⟩, entryOf_map_distinct .string _⟩,
      entryOf_map_distinct DirectResponse.toValue_distinct _⟩, textMap_distinct _⟩

theorem Filter.toValue_distinct {f : Filter}
    (hf : ∀ key v, f.settings.find? key = some v → v.Distinct) : f.toValue.Distinct := by
  have hsettings : (Value.table f.settings.toList).Distinct := by
    refine .table f.settings.nodup_keys fun e he => hf e.1 e.2 ?_
    exact (lookup_eq_some_iff_mem f.settings.nodup_keys).2 he
  exact .table (by simp) (by simp [Value.Distinct.string, hsettings.spellDates])

theorem Tracing.toValue?_distinct {t : Tracing} {v : Value} (h : t.toValue? = some v) :
    v.Distinct := by
  obtain ⟨length, hlength, h⟩ := Option.bind_eq_some_iff.1 h
  cases h
  exact .table (by simp) (by simp [Value.Distinct.string, Value.Distinct.float,
    Value.Distinct.boolean, textMap_distinct, number?_distinct hlength])

theorem Listener.exists_of_toValue? {l : Listener} {v : Value} (h : l.toValue? = some v) :
    ∃ tracing : Option Value, (∀ w, tracing = some w → ∃ t : Tracing, t.toValue? = some w) ∧
      v = .table (
        [("name", .string l.name), ("address", .string l.address), ("codec", .string l.codec)] ++
        entryOf "stat_prefix" (l.statLabel.map .string) ++ [("drain_close", .boolean l.drainClose)] ++
        entryOf "tracing" tracing ++ [("filters", .array (l.filters.map Filter.toValue)),
          ("routes", .array (l.routes.map Route.toValue))]) := by
  unfold Listener.toValue? at h
  dsimp only at h
  split at h
  · next t ht =>
    obtain ⟨w, hw, h⟩ := Option.bind_eq_some_iff.1 h
    cases h
    exact ⟨some w, fun _ hw' => ⟨t, Option.some.inj hw' ▸ hw⟩, rfl⟩
  · cases h
    exact ⟨none, by simp, rfl⟩

theorem Listener.toValue?_distinct {l : Listener} {v : Value} (hl : l.Distinct)
    (h : l.toValue? = some v) : v.Distinct := by
  obtain ⟨tracing, htracing, rfl⟩ := exists_of_toValue? h
  have hfilters : (Value.array (l.filters.map Filter.toValue)).Distinct := .array fun v hv => by
    obtain ⟨f, hf, rfl⟩ := List.mem_map.1 hv
    exact Filter.toValue_distinct (hl f hf)
  refine .table (by cases l.statLabel <;> cases tracing <;> simp [entryOf]) ?_
  simp only [List.forall_mem_append, List.forall_mem_cons, List.not_mem_nil, false_implies,
    implies_true, and_true]
  refine ⟨⟨⟨⟨⟨.string _, .string _, .string _⟩, entryOf_map_distinct .string _⟩, .boolean _⟩,
    entryOf_distinct fun w hw => ?_⟩, hfilters, .map Route.toValue_distinct _⟩
  obtain ⟨t, ht⟩ := htracing w hw
  exact Tracing.toValue?_distinct ht

/-- The settings of two listeners can be written, and agree. Settings that cannot be written count
as changed, even against themselves. -/
def Listener.Agrees (a b : Listener) : Prop :=
  ∃ v w, a.toValue? = some v ∧ b.toValue? = some w ∧ v.Agree Value.SameNumber w

variable {a b : Listener}

theorem sameListener_iff (ha : a.Distinct) (hb : b.Distinct) :
    sameListener a b = true ↔ a.Agrees b := by
  unfold sameListener sameValue Listener.Agrees
  cases hv : a.toValue? with
  | none => simp
  | some v =>
    cases hw : b.toValue? with
    | none => simp
    | some w =>
      rw [Value.same_iff_agree (Listener.toValue?_distinct ha hv) (Listener.toValue?_distinct hb hw)]
      simp

theorem Listener.Agrees.symm (h : a.Agrees b) : b.Agrees a := by
  obtain ⟨v, w, hv, hw, hvw⟩ := h
  exact ⟨w, v, hw, hv, hvw.symm fun _ _ => Value.SameNumber.symm⟩

/-- It makes no difference in which order the tables of settings are written. -/
theorem sameListener_rearranged {v v' w w' : Value} (ha : a.Distinct) (hb : b.Distinct)
    (hv : a.toValue? = some v) (hw : b.toValue? = some w) (hv' : v.Rearranged v')
    (hw' : w.Rearranged w') : v'.same w' = sameListener a b := by
  rw [sameListener, hv, hw]
  exact Value.same_rearranged (Listener.toValue?_distinct ha hv) (Listener.toValue?_distinct hb hw)
    hv' hw'

theorem sameClusters_comm (as bs : List Cluster) : sameClusters as bs = sameClusters bs as := by
  have hsymm {as bs : List Cluster} (h : sameClusters as bs = true) : sameClusters bs as = true := by
    obtain rfl := eq_of_sameClusters h
    exact h
  exact Bool.eq_iff_iff.2 ⟨hsymm, hsymm⟩

/-! ## Updates

What an update says of each name, for two configurations in any order. -/

def names (c : Config) : List String := c.listeners.map (·.name)

/-- What an update tells about two configurations. -/
structure Update.Exact (before after : Config) (u : Update) : Prop where
  /-- The names that are new, in the new order. -/
  added : u.added = after.names.filter (· ∉ before.names)
  /-- The names that are gone, in the old order. -/
  removed : u.removed = before.names.filter (· ∉ after.names)
  /-- The names of listeners whose settings do not agree, in the new order. -/
  changed : ∀ name, name ∈ u.changed ↔ ∃ a ∈ before.listeners, ∃ b ∈ after.listeners,
    a.name = name ∧ b.name = name ∧ ¬ a.Agrees b
  changed_sublist : u.changed.Sublist after.names
  /-- No name is told twice. -/
  nodup : (u.added ++ u.removed ++ u.changed).Nodup

variable {before after : Config}

theorem mem_names {c : Config} {name : String} :
    name ∈ c.names ↔ ∃ l ∈ c.listeners, l.name = name := List.mem_map

theorem changeOf_eq_added_iff {l : Listener} :
    changeOf before.listeners l = .added ↔ l.name ∉ before.names := by
  unfold changeOf
  cases hfind : before.listeners.find? (·.name == l.name) with
  | none =>
    refine iff_of_true rfl fun hmem => ?_
    obtain ⟨old, hold, hname⟩ := mem_names.1 hmem
    exact List.find?_eq_none.1 hfind old hold (beq_iff_eq.2 hname)
  | some old =>
    have hname : old.name = l.name := by simpa using List.find?_some hfind
    have hmem : l.name ∈ before.names :=
      mem_names.2 ⟨old, List.mem_of_find?_eq_some hfind, hname⟩
    refine iff_of_false ?_ (not_not.2 hmem)
    dsimp only
    split <;> simp

theorem changeOf_eq_changed_iff {l : Listener} (hnames : before.names.Nodup) :
    changeOf before.listeners l = .changed ↔
      ∃ old ∈ before.listeners, old.name = l.name ∧ sameListener old l = false := by
  unfold changeOf
  cases hfind : before.listeners.find? (·.name == l.name) with
  | none =>
    refine iff_of_false (by simp) ?_
    rintro ⟨old, hold, hname, -⟩
    exact List.find?_eq_none.1 hfind old hold (beq_iff_eq.2 hname)
  | some found =>
    have honly : ∀ old ∈ before.listeners, old.name = l.name → old = found := by
      intro old hold hname
      have hfound := find?_name_of_nodup hnames hold
      rw [hname, hfind] at hfound
      exact (Option.some.inj hfound).symm
    constructor
    · intro h
      have hname : found.name = l.name := by simpa using List.find?_some hfind
      refine ⟨found, List.mem_of_find?_eq_some hfind, hname, Bool.eq_false_iff.2 fun hsame => ?_⟩
      simp [hsame] at h
    · rintro ⟨old, hold, hname, hsame⟩
      rw [← honly old hold hname]
      simp [hsame]

theorem between_added (before after : Config) :
    (Update.between before after).added = after.names.filter (· ∉ before.names) := by
  show (after.listeners.filter _).map _ = (after.listeners.map _).filter _
  rw [List.filter_map]
  refine congrArg (List.map _) (List.filter_congr fun l _ => ?_)
  rw [Bool.eq_iff_iff, beq_iff_eq, changeOf_eq_added_iff]
  simp

theorem between_removed (before after : Config) :
    (Update.between before after).removed = before.names.filter (· ∉ after.names) := by
  show (before.listeners.filter _).map _ = (before.listeners.map _).filter _
  rw [List.filter_map]
  refine congrArg (List.map _) (List.filter_congr fun old _ => ?_)
  have hany : after.listeners.any (·.name == old.name) = true ↔ old.name ∈ after.names := by
    simp [mem_names]
  show (!after.listeners.any (·.name == old.name)) = decide (old.name ∉ after.names)
  rw [Bool.eq_iff_iff, Bool.not_eq_true', ← Bool.not_eq_true, hany, decide_eq_true_iff]

theorem mem_between_changed (hnames : before.names.Nodup) (hbefore : before.Distinct)
    (hafter : after.Distinct) {name : String} : name ∈ (Update.between before after).changed ↔
      ∃ a ∈ before.listeners, ∃ b ∈ after.listeners, a.name = name ∧ b.name = name ∧ ¬ a.Agrees b := by
  have hdiffer {a b : Listener} (ha : a ∈ before.listeners) (hb : b ∈ after.listeners) :
      sameListener a b = false ↔ ¬ a.Agrees b := by
    rw [← sameListener_iff (hbefore a ha) (hafter b hb), Bool.not_eq_true]
  show name ∈ (after.listeners.filter _).map _ ↔ _
  simp only [List.mem_map, List.mem_filter, beq_iff_eq, changeOf_eq_changed_iff hnames]
  constructor
  · rintro ⟨b, ⟨hb, a, ha, hname, hsame⟩, rfl⟩
    exact ⟨a, ha, b, hb, hname, rfl, (hdiffer ha hb).1 hsame⟩
  · rintro ⟨a, ha, b, hb, hname, rfl, hsame⟩
    exact ⟨b, ⟨hb, a, ha, hname, (hdiffer ha hb).2 hsame⟩, rfl⟩

theorem between_changed_sublist (before after : Config) :
    (Update.between before after).changed.Sublist after.names :=
  List.filter_sublist.map _

/-- Two configurations whose listeners have names of their own and whose settings name no key
twice. -/
structure Comparable (before after : Config) : Prop where
  names_before : before.names.Nodup
  names_after : after.names.Nodup
  distinct_before : before.Distinct
  distinct_after : after.Distinct

namespace Comparable

/-- Configurations that were read from files can be compared. -/
theorem of_parse {old new : String} (hold : parse old = .ok before) (hnew : parse new = .ok after) :
    Comparable before after where
  names_before := (names_of_listenerFault?_eq_none (Option.or_eq_none_iff.1 (parse_valid hold)).2).1
  names_after := (names_of_listenerFault?_eq_none (Option.or_eq_none_iff.1 (parse_valid hnew)).2).1
  distinct_before := parse_distinct hold
  distinct_after := parse_distinct hnew

variable (h : Comparable before after)

include h

theorem symm : Comparable after before :=
  ⟨h.names_after, h.names_before, h.distinct_after, h.distinct_before⟩

theorem mem_changed {name : String} : name ∈ (Update.between before after).changed ↔
    ∃ a ∈ before.listeners, ∃ b ∈ after.listeners, a.name = name ∧ b.name = name ∧ ¬ a.Agrees b :=
  mem_between_changed h.names_before h.distinct_before h.distinct_after

theorem exact : (Update.between before after).Exact before after where
  added := between_added before after
  removed := between_removed before after
  changed _ := h.mem_changed
  changed_sublist := between_changed_sublist before after
  nodup := by
    have hchanged := h.names_after.sublist (between_changed_sublist before after)
    rw [between_added, between_removed]
    refine List.nodup_append'.2 ⟨List.nodup_append'.2 ⟨h.names_after.filter _,
      h.names_before.filter _, fun name hadded hremoved => ?_⟩, hchanged, fun name hmem hboth => ?_⟩
    · exact of_decide_eq_true (List.mem_filter.1 hadded).2 (List.mem_filter.1 hremoved).1
    · obtain ⟨a, ha, b, hb, hname, hname', -⟩ := h.mem_changed.1 hboth
      cases List.mem_append.1 hmem with
      | inl hadded =>
        exact of_decide_eq_true (List.mem_filter.1 hadded).2 (mem_names.2 ⟨a, ha, hname⟩)
      | inr hremoved =>
        exact of_decide_eq_true (List.mem_filter.1 hremoved).2 (mem_names.2 ⟨b, hb, hname'⟩)

/-- Looked at the other way round, the same listeners have changed. -/
theorem mem_changed_comm {name : String} : name ∈ (Update.between after before).changed ↔
    name ∈ (Update.between before after).changed := by
  rw [h.mem_changed, h.symm.mem_changed]
  constructor
  · rintro ⟨b, hb, a, ha, hname, hname', hnot⟩
    exact ⟨a, ha, b, hb, hname', hname, fun hagrees => hnot hagrees.symm⟩
  · rintro ⟨a, ha, b, hb, hname, hname', hnot⟩
    exact ⟨b, hb, a, ha, hname', hname, fun hagrees => hnot hagrees.symm⟩

theorem perm {before' after' : Config} (hbefore : before.listeners.Perm before'.listeners)
    (hafter : after.listeners.Perm after'.listeners) : Comparable before' after' where
  names_before := (hbefore.map _).nodup_iff.1 h.names_before
  names_after := (hafter.map _).nodup_iff.1 h.names_after
  distinct_before l hl := h.distinct_before l (hbefore.mem_iff.2 hl)
  distinct_after l hl := h.distinct_after l (hafter.mem_iff.2 hl)

/-- The order of listeners does not matter. -/
theorem changed_perm {before' after' : Config} (hbefore : before.listeners.Perm before'.listeners)
    (hafter : after.listeners.Perm after'.listeners) :
    (Update.between before' after').changed.Perm (Update.between before after).changed := by
  have h' := h.perm hbefore hafter
  refine (List.perm_ext_iff_of_nodup
    (h'.names_after.sublist (between_changed_sublist before' after'))
    (h.names_after.sublist (between_changed_sublist before after))).2 fun name => ?_
  rw [h.mem_changed, h'.mem_changed]
  simp only [hbefore.mem_iff, hafter.mem_iff]

end Comparable

/-- An update tells how two configurations differ, and nothing else: which listeners are new, which
are gone, and which have settings that do not agree, each once. The other way round, what was new is
gone, what was gone is new and the same has changed. Neither the order of listeners nor the order in
which tables of settings are written makes a difference. -/
theorem between_exact {before after : Config} (h : Comparable before after) :
    let u := Update.between before after
    let back := Update.between after before
    u.Exact before after ∧
    (back.added = u.removed ∧ back.removed = u.added ∧
      (∀ name, name ∈ back.changed ↔ name ∈ u.changed) ∧
      back.clustersChanged = u.clustersChanged) ∧
    (∀ before' after' : Config, before.listeners.Perm before'.listeners →
      after.listeners.Perm after'.listeners →
      (Update.between before' after').changed.Perm u.changed) ∧
    ∀ a ∈ before.listeners, ∀ b ∈ after.listeners, ∀ v v' w w', a.toValue? = some v →
      b.toValue? = some w → v.Rearranged v' → w.Rearranged w' → v'.same w' = sameListener a b := by
  refine ⟨h.exact, ⟨?_, ?_, fun name => h.mem_changed_comm, ?_⟩, fun _ _ => h.changed_perm, ?_⟩
  · exact (between_added after before).trans (between_removed before after).symm
  · exact (between_removed after before).trans (between_added before after).symm
  · exact congrArg not (sameClusters_comm after.clusters before.clusters)
  · intro a ha b hb v v' w w' hv hw hv' hw'
    exact sameListener_rearranged (h.distinct_before a ha) (h.distinct_after b hb) hv hw hv' hw'

/-- One listener is gone and one is new; one has been set to close its connections late, and one has
settings in another order. -/
theorem between_exact_four_listeners :
    let users (tags : List (String × Value)) : Listener := {
      name := "users", address := "localhost:1"
      filters := [{ name := "header", settings := .ofList [("tags", .table tags)] }] }
    let before : Config := { listeners := [users [("x", .integer 1), ("y", .string "2")],
      { name := "orders", address := "localhost:2" }, { name := "old", address := "localhost:3" }] }
    let after : Config := { listeners := [{ name := "new", address := "localhost:3" },
      { name := "orders", address := "localhost:2", drainClose := false },
      users [("y", .string "2"), ("x", .integer 1)]] }
    let u := Update.between before after
    let back := Update.between after before
    (u.added = ["new"] ∧ u.removed = ["old"] ∧ u.changed = ["orders"]) ∧ Comparable before after ∧
      u.Exact before after ∧ back.added = u.removed ∧ back.removed = u.added ∧
      (∀ name, name ∈ back.changed ↔ name ∈ u.changed) ∧
      back.clustersChanged = u.clustersChanged := by
  intro users before after u back
  -- The order of the tags must not matter, but a key that stands there twice would.
  have husers {tags : List (String × Value)} (htags : (Value.table tags).Distinct) :
      (users tags).Distinct := by
    intro f hf key v hv
    obtain rfl := List.mem_singleton.1 hf
    cases StringMap.mem_of_find?_insertAll hv with
    | inl hmem =>
      cases List.mem_singleton.1 hmem
      exact htags
    | inr hfound => cases hfound
  have hplain {l : Listener} (hl : l.filters = []) : l.Distinct := fun f hf => nomatch hl ▸ hf
  have h : Comparable before after := {
    names_before := by decide
    names_after := by decide
    distinct_before := by
      simp only [Distinct, before, List.forall_mem_cons]
      exact ⟨husers (.table (by decide) (by simp [Value.Distinct.integer, Value.Distinct.string])),
        hplain rfl, hplain rfl, by simp⟩
    distinct_after := by
      simp only [Distinct, after, List.forall_mem_cons]
      exact ⟨hplain rfl, hplain rfl,
        husers (.table (by decide) (by simp [Value.Distinct.integer, Value.Distinct.string])), by simp⟩ }
  obtain ⟨hexact, ⟨hadded, hremoved, hchanged, hclusters⟩, -, -⟩ := between_exact h
  exact ⟨by decide +kernel, h, hexact, hadded, hremoved, hchanged, hclusters⟩

end Config

end RpcProxy

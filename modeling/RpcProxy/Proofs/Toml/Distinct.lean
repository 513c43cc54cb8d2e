import RpcProxy.Toml.Document
import Mathlib.Data.List.Nodup

/-!
# Documents name no key twice

A table is kept as a list of entries, and a list can hold one key twice. No table of a document
does: `parse?_distinct` says so of every table at every depth, however it came about (headers,
arrays of tables, dotted keys, inline tables). While a document is read its tables are `Table`s;
what is said of them is said of the values they come to.

An entry is put into a table somewhere along a path, and the tables on the way are changed by it. So
the lemma about paths (`within_distinct`) is about any change at their end that leaves a distinct
table, and all ways in which tables come about are cases of it. For the readers of values there is
`Reader.Yields`, with which a reader is taken apart in the way in which it was put together.
-/

set_option autoImplicit false

namespace RpcProxy.Toml

/-- No table in a value names a key twice. -/
inductive Value.Distinct : Value → Prop where
  /-- A value without parts. -/
  | scalar {v : Value} (ha : ∀ items, v ≠ .array items) (ht : ∀ es, v ≠ .table es) : Distinct v
  | array {items : List Value} (h : ∀ v ∈ items, Distinct v) : Distinct (.array items)
  /-- A table of such values with distinct keys. -/
  | table {es : List (String × Value)} (hkeys : (es.map Prod.fst).Nodup)
      (h : ∀ e ∈ es, Distinct e.2) : Distinct (.table es)

namespace Value.Distinct

theorem items {vs : List Value} (h : (Value.array vs).Distinct) : ∀ v ∈ vs, v.Distinct := by
  cases h with
  | scalar ha _ => exact absurd rfl (ha vs)
  | array h => exact h

theorem keys {es : List (String × Value)} (h : (Value.table es).Distinct) :
    (es.map Prod.fst).Nodup := by
  cases h with
  | scalar _ ht => exact absurd rfl (ht es)
  | table hkeys _ => exact hkeys

theorem entries {es : List (String × Value)} (h : (Value.table es).Distinct) :
    ∀ e ∈ es, e.2.Distinct := by
  cases h with
  | scalar _ ht => exact absurd rfl (ht es)
  | table _ h => exact h

end Value.Distinct

/-! ## Tables that grow -/

theorem itemValues_eq (ts : List Table) : itemValues ts = ts.map Table.value := by
  induction ts with
  | nil => rw [itemValues, List.map_nil]
  | cons t ts ih => rw [itemValues, ih, List.map_cons]

theorem entryValues_eq (es : List (String × Node)) :
    entryValues es = es.map fun e => (e.1, e.2.toValue) := by
  induction es with
  | nil => rw [entryValues, List.map_nil]
  | cons e es ih => rw [entryValues, ih, List.map_cons]

/-- What is asked of the entries of a table that grows. -/
theorem Table.distinct_iff {es : List (String × Node)} {i d : Bool} :
    (Table.mk es i d).value.Distinct ↔
      (es.map Prod.fst).Nodup ∧ ∀ e ∈ es, e.2.toValue.Distinct := by
  rw [Table.value, entryValues_eq]
  have hkeys : (es.map fun e => (e.1, e.2.toValue)).map Prod.fst = es.map Prod.fst := by
    simp [Function.comp_def]
  constructor
  · intro h
    refine ⟨hkeys ▸ h.keys, fun e he => ?_⟩
    exact h.entries (e.1, e.2.toValue) (List.mem_map_of_mem he)
  · rintro ⟨hnodup, h⟩
    refine .table (hkeys ▸ hnodup) fun e he => ?_
    obtain ⟨e', he', rfl⟩ := List.mem_map.1 he
    exact h e' he'

theorem Node.tables_distinct_iff {ts : List Table} :
    (Node.tables ts).toValue.Distinct ↔ ∀ t ∈ ts, t.value.Distinct := by
  rw [Node.toValue, itemValues_eq]
  constructor
  · intro h t ht
    exact h.items t.value (List.mem_reverse.2 (List.mem_map_of_mem ht))
  · intro h
    refine .array fun v hv => ?_
    obtain ⟨t, ht, rfl⟩ := List.mem_map.1 (List.mem_reverse.1 hv)
    exact h t ht

theorem mem_of_lookup {α : Type} {es : List (String × α)} {key : String} {a : α}
    (h : es.lookup key = some a) : (key, a) ∈ es := by
  obtain ⟨before, after, rfl, -⟩ := List.lookup_eq_some_iff.1 h
  simp

namespace Table

theorem distinct_mk_nil (i d : Bool) : (Table.mk [] i d).value.Distinct :=
  distinct_iff.2 ⟨List.nodup_nil, by simp⟩

theorem find?_distinct {t : Table} {key : String} {n : Node} (ht : t.value.Distinct)
    (h : t.find? key = some n) : n.toValue.Distinct := by
  obtain ⟨es, i, d⟩ := t
  exact (distinct_iff.1 ht).2 (key, n) (mem_of_lookup h)

theorem put_distinct {t : Table} {key : String} {n : Node} (ht : t.value.Distinct)
    (hn : n.toValue.Distinct) : (t.put key n).value.Distinct := by
  obtain ⟨es, i, d⟩ := t
  obtain ⟨hkeys, hes⟩ := distinct_iff.1 ht
  simp only [put]
  split
  · have hsame : (es.map fun e => if e.1 == key then (key, n) else e).map Prod.fst =
        es.map Prod.fst := by
      rw [List.map_map]
      refine List.map_congr_left fun e _ => ?_
      by_cases h : e.1 = key <;> simp [h]
    refine distinct_iff.2 ⟨hsame ▸ hkeys, fun e he => ?_⟩
    obtain ⟨e', he', rfl⟩ := List.mem_map.1 he
    split
    · exact hn
    · exact hes e' he'
  · next hnew =>
    have hfresh : key ∉ es.map Prod.fst := by simpa using hnew
    refine distinct_iff.2 ⟨?_, fun e he => ?_⟩
    · rw [List.map_append]
      refine List.nodup_append.2 ⟨hkeys, by simp, fun a ha b hb heq => hfresh ?_⟩
      rwa [heq, List.mem_singleton.1 hb] at ha
    · cases List.mem_append.1 he with
      | inl he => exact hes e he
      | inr he => exact List.mem_singleton.1 he ▸ hn

theorem erase_distinct {t : Table} (key : String) (ht : t.value.Distinct) :
    (t.erase key).value.Distinct := by
  obtain ⟨es, i, d⟩ := t
  obtain ⟨hkeys, hes⟩ := distinct_iff.1 ht
  refine distinct_iff.2 ⟨?_, fun e he => hes e (List.mem_of_mem_filter he)⟩
  exact hkeys.sublist (List.filter_sublist.map Prod.fst)

theorem define_distinct {t : Table} (ht : t.value.Distinct) : t.define.value.Distinct := by
  obtain ⟨es, i, d⟩ := t
  exact distinct_iff.2 (distinct_iff.1 ht)

/-- What is done at the end of a path is done to a distinct table and leaves one, so the tables on
the way stay distinct too. -/
theorem within_distinct {byDots : Bool} {f : Table → Option Table}
    (hf : ∀ t t', t.value.Distinct → f t = some t' → t'.value.Distinct) {path : List String}
    {t t' : Table} (ht : t.value.Distinct) (h : within byDots f path t = some t') :
    t'.value.Distinct := by
  induction path generalizing t t' with
  | nil => exact hf t t' ht h
  | cons key path ih =>
    simp only [within] at h
    split at h
    · obtain ⟨child, hchild, h⟩ := Option.bind_eq_some_iff.1 h
      cases h
      exact put_distinct ht (ih (distinct_mk_nil _ _) hchild)
    · next child hfind =>
      split at h
      · cases h
      · obtain ⟨child', hchild, h⟩ := Option.bind_eq_some_iff.1 h
        cases h
        exact put_distinct ht (ih (find?_distinct ht hfind) hchild)
    · next last before hfind =>
      obtain ⟨last', hlast, h⟩ := Option.bind_eq_some_iff.1 h
      cases h
      have htables := Node.tables_distinct_iff.1 (find?_distinct ht hfind)
      refine put_distinct ht (Node.tables_distinct_iff.2 fun t ht => ?_)
      cases List.mem_cons.1 ht with
      | inl ht => exact ht ▸ ih (htables last (by simp)) hlast
      | inr ht => exact htables t (by simp [ht])
    · cases h

theorem openTable_distinct {key : String} {t t' : Table} (ht : t.value.Distinct)
    (h : openTable key t = some t') : t'.value.Distinct := by
  unfold openTable at h
  split at h
  · cases h
    exact put_distinct ht (distinct_mk_nil false false)
  · next child hfind =>
    split at h
    · cases h
      exact put_distinct (erase_distinct key ht) (define_distinct (find?_distinct ht hfind))
    · cases h
  · cases h

theorem openItem_distinct {key : String} {t t' : Table} (ht : t.value.Distinct)
    (h : openItem key t = some t') : t'.value.Distinct := by
  unfold openItem at h
  split at h
  · cases h
    refine put_distinct ht (Node.tables_distinct_iff.2 fun t ht => ?_)
    exact List.mem_singleton.1 ht ▸ distinct_mk_nil _ _
  · next ts hfind =>
    cases h
    refine put_distinct ht (Node.tables_distinct_iff.2 fun t' ht' => ?_)
    cases List.mem_cons.1 ht' with
    | inl h => exact h ▸ distinct_mk_nil _ _
    | inr h => exact Node.tables_distinct_iff.1 (find?_distinct ht hfind) t' h
  · cases h

theorem assign_distinct {key : List String} {v : Value} {t t' : Table} (hv : v.Distinct)
    (ht : t.value.Distinct) (h : t.assign key v = some t') : t'.value.Distinct := by
  unfold assign at h
  split at h
  · cases h
  · refine within_distinct (fun u u' hu hdef => ?_) ht h
    unfold define? at hdef
    split at hdef
    · cases hdef
    · split at hdef
      · cases hdef
        exact put_distinct hu hv
      · cases hdef

end Table

/-! ## Readers -/

/-- Whatever a reader reads has a property. -/
def Reader.Yields {α : Type} (r : Reader α) (P : α → Prop) : Prop :=
  ∀ cs a cs', r cs = some (a, cs') → P a

namespace Reader.Yields

variable {α β : Type} {P : β → Prop}

theorem pure {b : β} (h : P b) : Reader.Yields (Pure.pure b) P := by
  intro cs a cs' heq
  cases heq
  exact h

theorem failure : Reader.Yields (Alternative.failure : Reader β) P := by
  intro cs a cs' heq
  cases heq

/-- A reader behind another one may count on what that one yields. -/
theorem bind {r : Reader α} {f : α → Reader β} {Q : α → Prop} (hr : r.Yields Q)
    (hf : ∀ a, Q a → (f a).Yields P) : Reader.Yields (r >>= f) P := by
  intro cs b cs' heq
  obtain ⟨⟨a, mid⟩, ha, hb⟩ := Option.bind_eq_some_iff.1 heq
  exact hf a (hr cs a mid ha) mid b cs' hb

/-- A reader behind another one, of which nothing need be known. -/
theorem after {r : Reader α} {f : α → Reader β} (hf : ∀ a, (f a).Yields P) :
    Reader.Yields (r >>= f) P :=
  bind (fun _ _ _ _ => trivial) fun a _ => hf a

theorem orElse {r r' : Reader β} (hr : r.Yields P) (hr' : r'.Yields P) :
    Reader.Yields (r <|> r') P := by
  intro cs b cs' heq
  cases h : r cs with
  | none =>
    refine hr' cs b cs' ?_
    rw [← heq]
    exact (congrArg (fun o => o <|> r' cs) h).symm
  | some x =>
    refine hr cs b cs' ?_
    rw [← heq]
    exact h.trans (congrArg (fun o => o <|> r' cs) h).symm

end Reader.Yields

theorem number_distinct : number.Yields Value.Distinct := by
  have scalar (α : Type) (r : Reader α) (f : α → Value) (ha : ∀ x items, f x ≠ .array items)
      (ht : ∀ x es, f x ≠ .table es) : Reader.Yields (do return f (← r)) Value.Distinct :=
    .after fun x => .pure (.scalar (ha x) (ht x))
  refine .orElse (scalar _ _ .datetime ?_ ?_) (.orElse (scalar _ _ .float ?_ ?_)
    (.orElse (scalar _ _ .float ?_ ?_) (scalar _ _ .integer ?_ ?_)))
  all_goals simp

/-- Values, items and entries call on each other, with less fuel every time. -/
theorem nested_distinct (fuel : Nat) :
    (∀ depth, (value depth fuel).Yields Value.Distinct) ∧
    (∀ depth done, (∀ v ∈ done, v.Distinct) →
      (arrayItems depth done fuel).Yields fun vs => ∀ v ∈ vs, v.Distinct) ∧
    (∀ depth (t : Table), t.value.Distinct →
      (inlineEntries depth t fuel).Yields fun t' => t'.value.Distinct) := by
  -- The three readers call each other with less fuel, so they are proved together by induction on
  -- it.
  induction fuel with
  | zero => exact ⟨fun _ => .failure, fun _ _ _ => .failure, fun _ _ _ => .failure⟩
  | succ fuel ih =>
    obtain ⟨hvalue, hitems, hentries⟩ := ih
    refine ⟨fun depth => ?_, fun depth done hdone => ?_, fun depth t ht => ?_⟩
    · rw [value]
      refine .after fun next => ?_
      split
      · exact .after fun s => .pure (.scalar (by simp) (by simp))
      · exact .after fun s => .pure (.scalar (by simp) (by simp))
      · exact .after fun _ => .pure (.scalar (by simp) (by simp))
      · exact .after fun _ => .pure (.scalar (by simp) (by simp))
      · exact .after fun _ => .after fun _ =>
          .bind (hitems (depth - 1) [] (by simp)) fun vs hvs => .pure (.array hvs)
      · refine .after fun _ => .after fun _ => .after fun _ => .after fun closed => ?_
        split
        · exact .pure (.table List.nodup_nil (by simp))
        · exact .bind (hentries (depth - 1) _ (Table.distinct_mk_nil _ _)) fun t ht => .pure ht
      · exact number_distinct
    · rw [arrayItems]
      refine .after fun _ => .after fun closed => ?_
      split
      · exact .pure fun v hv => hdone v (List.mem_reverse.1 hv)
      · refine .bind (hvalue depth) fun v hv => .after fun _ => .after fun comma => ?_
        have hmore : ∀ w ∈ v :: done, w.Distinct := List.forall_mem_cons.2 ⟨hv, hdone⟩
        split
        · exact hitems depth (v :: done) hmore
        · exact .after fun _ => .pure fun w hw => hmore w (List.mem_reverse.1 hw)
    · rw [inlineEntries]
      refine .after fun key => .after fun _ => .after fun _ => .bind (hvalue depth) fun v hv =>
        .after fun _ => ?_
      split
      · exact .failure
      · next t' hassign =>
        -- Assigning under a key that is there already is an error, so the keys stay distinct.
        have ht' : t'.value.Distinct := Table.assign_distinct hv ht hassign
        refine .after fun comma => ?_
        split
        · exact hentries depth t' ht'
        · exact .after fun _ => .pure ht'

/-! ## Documents -/

theorem Draft.assign_distinct {d d' : Draft} {key : List String} {v : Value} (hv : v.Distinct)
    (hd : d.root.value.Distinct) (h : d.assign key v = some d') : d'.root.value.Distinct := by
  obtain ⟨root, hroot, h⟩ := Option.bind_eq_some_iff.1 h
  cases h
  exact Table.within_distinct (fun _ _ ht => Table.assign_distinct hv ht) hd hroot

theorem Draft.header_distinct {d d' : Draft} {path : List String} {item : Bool}
    (hd : d.root.value.Distinct) (h : d.header path item = some d') : d'.root.value.Distinct := by
  unfold Draft.header at h
  split at h
  · cases h
  · obtain ⟨root, hroot, h⟩ := Option.bind_eq_some_iff.1 h
    cases h
    refine Table.within_distinct (fun t t' ht hopen => ?_) hd hroot
    cases item with
    | true => exact Table.openItem_distinct ht hopen
    | false => exact Table.openTable_distinct ht hopen

theorem line_distinct {fuel : Nat} {d : Draft} (hd : d.root.value.Distinct) :
    (line fuel d).Yields fun d' => d'.root.value.Distinct := by
  rw [line]
  refine .after fun _ => .after fun next => ?_
  split
  · exact .pure hd
  · exact .after fun _ => .pure hd
  · exact .after fun _ => .pure hd
  · exact .after fun _ => .pure hd
  · refine .after fun _ => .after fun bracket => .after fun path => .after fun _ => ?_
    dsimp only
    split
    · refine .after fun _ => .after fun _ => ?_
      split
      · next d' hheader => exact .pure (Draft.header_distinct hd hheader)
      · exact .failure
    · refine .after fun _ => ?_
      split
      · next d' hheader => exact .pure (Draft.header_distinct hd hheader)
      · exact .failure
  · refine .after fun key => .after fun _ => .after fun _ =>
      .bind ((nested_distinct fuel).1 maxDepth) fun v hv => .after fun _ => ?_
    split
    · next d' hassign => exact .pure (Draft.assign_distinct hv hd hassign)
    · exact .failure

theorem document_distinct {fuel : Nat} {d : Draft} (hd : d.root.value.Distinct)
    (lines : List Char) : (document fuel d lines).Yields fun d' => d'.root.value.Distinct := by
  induction lines generalizing d with
  | nil => exact .pure hd
  | cons c lines ih =>
    rw [document]
    refine .after fun next => ?_
    split
    · exact .pure hd
    · exact .bind (line_distinct hd) fun d' hd' => ih hd'

/-- No table of a document names a key twice. -/
theorem parse?_distinct {text : String} {v : Value} (h : parse? text = some v) : v.Distinct := by
  unfold parse? at h
  simp only at h
  split at h
  · next d hread =>
    cases h
    exact document_distinct (Table.distinct_mk_nil false false) _ _ d [] hread
  · cases h

end RpcProxy.Toml

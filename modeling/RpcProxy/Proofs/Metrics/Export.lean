import Mathlib.Algebra.BigOperators.Group.List.Basic
import Mathlib.Algebra.Ring.Nat
import Mathlib.Data.List.Perm.Basic
import Mathlib.Data.List.Induction
import Mathlib.Data.List.Nodup
import RpcProxy.Metrics.Router
import RpcProxy.Proofs.Config.Sameness
import RpcProxy.Proofs.Wire.ReadBack

/-!
# Reading exported counters back

The export is in the Prometheus text format: one sample a line, the value of a label in quotes,
where a backslash stands in front of a quote and of another backslash, and a newline is written as
`\n`. The export itself escapes nothing. So it says what was counted exactly as long as no label
needs an escape (`export_reads_iff`).

One direction is a matter of reading line by line. The other is not: a label with a quote or a
newline can make its line fall apart in ways that happen to be samples of something, and nothing
that is said of one line shows that the right ones are missing. It is a matter of length. Whoever
reads a sample has read at least as many characters as the sample takes when it is written well. All
samples together were written with the characters of their labels alone, so there is nothing left
for an escape.

The reader here is written for the format and not for the export, and knows nothing of what was
counted.
-/

set_option autoImplicit false

namespace RpcProxy

/-! ## The format

What a reader of the format makes of a text: each line that is no comment and not blank is a sample,
if it can be read. -/

namespace Exposition

/-- A sample of a metric with one label. -/
structure Sample where
  metric : String
  /-- The name of the label. -/
  key : String
  label : String
  count : Nat
deriving DecidableEq, Repr

/-- Reads the value of a label up to its closing quote. A backslash in front of any other character
is an error. -/
def label? : List Char → Option (List Char × List Char)
  | [] => none
  | '"' :: rest => some ([], rest)
  | '\n' :: _ => none
  | '\\' :: '\\' :: rest => (label? rest).map fun (cs, rest) => ('\\' :: cs, rest)
  | '\\' :: '"' :: rest => (label? rest).map fun (cs, rest) => ('"' :: cs, rest)
  | '\\' :: 'n' :: rest => (label? rest).map fun (cs, rest) => ('\n' :: cs, rest)
  | '\\' :: _ => none
  | c :: rest => (label? rest).map fun (cs, rest) => (c :: cs, rest)

/-- Reads a count: digits up to the end. -/
def count? (ds : List Char) : Option Nat :=
  if !ds.isEmpty && ds.all Char.isDigit then some (Nat.ofDigitChars 10 ds 0) else none

/-- Reads what follows the name of a label. -/
def value? : List Char → Option (List Char × Nat)
  | '"' :: rest =>
    match label? rest with
    | some (label, '\x7d' :: ' ' :: ds) => (count? ds).map (label, ·)
    | _ => none
  | _ => none

/-- Reads a line that is a sample. Comments are none. -/
def sample? (line : List Char) : Option Sample := do
  if line.head? = some '#' then none
  let (metric, rest) ← Text.splitOnce? '\x7b' line
  let (key, rest) ← Text.splitOnce? '=' rest
  let (label, count) ← value? rest
  return { metric := .ofList metric, key := .ofList key, label := .ofList label, count }

def samples (text : String) : List Sample := (text.toList.splitOn '\n').filterMap sample?

/-- Whether a character has to be escaped in the value of a label. -/
def isSpecial (c : Char) : Bool := c == '"' || c == '\\' || c == '\n'

/-- Whether a label can stand in quotes as it is. -/
def isPlain (label : String) : Bool := label.toList.all (!isSpecial ·)

end Exposition

/-! ## What was counted

The counts that are expected, read off the events directly. -/

/-- What an event counts, if it is no observation: the metric, the name of its label and the
value. -/
def RouterEvent.counted? : RouterEvent → Option (String × String × String)
  | .routeMissing label => some ("conduit_router_route_missing_total", "service", label)
  | .unknownCluster label => some ("conduit_router_unknown_cluster_total", "cluster", label)
  | .noHealthyHost label => some ("conduit_router_no_healthy_upstream_total", "cluster", label)
  | .connected label => some ("conduit_upstream_cx_total", "host", label)
  | .overflow label => some ("conduit_upstream_cx_overflow_total", "host", label)
  | .connectFailed label => some ("conduit_upstream_cx_connect_fail_total", "host", label)
  | .replySuccess label => some ("conduit_upstream_resp_reply_success_total", "host", label)
  | .replyError label => some ("conduit_upstream_resp_reply_error_total", "host", label)
  | .exception label => some ("conduit_upstream_resp_exception_total", "host", label)
  | .invalidType label => some ("conduit_upstream_resp_invalid_type_total", "host", label)
  | .decodingError label => some ("conduit_upstream_resp_decoding_error_total", "host", label)
  | .localException label => some ("conduit_upstream_resp_local_exception_total", "cluster", label)
  | .drainClose label => some ("conduit_upstream_cx_drain_close_total", "cluster", label)
  | .requestSize .. | .responseSize .. | .responseTime .. => none

/-- How often a label of a metric was counted. -/
def RouterEvent.times (es : List RouterEvent) (metric key label : String) : Nat :=
  es.countP fun e => e.counted? == some (metric, key, label)

/-- Samples that tell what was counted: every label that was, each once, with its count. -/
structure Exposition.Tells (es : List RouterEvent) (rows : List Sample) : Prop where
  once : rows.Nodup
  rows : ∀ r, r ∈ rows ↔ 0 < r.count ∧ r.count = RouterEvent.times es r.metric r.key r.label

/-! ## What is written well is read back

A label without special characters is read as it was written. -/

namespace Exposition

variable {v ds rest line : List Char} {r : Sample} {n : Nat}

theorem label?_plain (hv : ∀ c ∈ v, isSpecial c = false) (rest : List Char) :
    label? (v ++ '"' :: rest) = some (v, rest) := by
  induction v with
  | nil => rfl
  | cons c v ih =>
    obtain ⟨hc, hv⟩ := List.forall_mem_cons.1 hv
    have hquote : c ≠ '"' := by
      rintro rfl
      cases hc
    have hback : c ≠ '\\' := by
      rintro rfl
      cases hc
    have hline : c ≠ '\n' := by
      rintro rfl
      cases hc
    rw [List.cons_append, label?, ih hv]
    · rfl
    · exact hquote
    · exact hline
    · exact fun _ h => absurd h hback
    · exact fun _ h => absurd h hback
    · exact fun _ h => absurd h hback
    · exact hback

theorem count?_digits (n : Nat) : count? (toString n).toList = some n := by
  have hdigits : (toString n).toList = Nat.toDigits 10 n := Nat.toList_repr
  have hall : (Nat.toDigits 10 n).all Char.isDigit = true :=
    List.all_eq_true.2 fun c hc => Nat.isDigit_of_mem_toDigits (by decide) (by decide) hc
  have hsome : (Nat.toDigits 10 n).isEmpty = false := List.isEmpty_eq_false_iff.2 Nat.toDigits_ne_nil
  rw [hdigits, count?, hall, hsome, Nat.ofDigitChars_ten_toDigits]
  rfl

theorem sample_toList (name key label : String) (n : Nat) :
    (Export.sample name [(key, label)] n).toList = name.toList ++ '\x7b' :: (key.toList ++ '=' ::
      ('"' :: (label.toList ++ '"' :: '\x7d' :: ' ' :: (toString n).toList))) := by
  simp [Export.sample]

theorem newline_not_mem_sample {name key label : String} (hname : '\n' ∉ name.toList)
    (hkey : '\n' ∉ key.toList) (hlabel : '\n' ∉ label.toList) (n : Nat) :
    '\n' ∉ (Export.sample name [(key, label)] n).toList := by
  have hdigits : '\n' ∉ Nat.toDigits 10 n := fun hmem =>
    absurd (Nat.isDigit_of_mem_toDigits (by decide) (by decide) hmem) (by decide)
  simp [sample_toList, hname, hkey, hlabel, hdigits]

theorem sample?_written {name key label : String} (hname : '\x7b' ∉ name.toList)
    (hhash : name.toList.head? ≠ some '#') (hsome : name ≠ "") (hkey : '=' ∉ key.toList)
    (hlabel : isPlain label = true) (n : Nat) :
    sample? (Export.sample name [(key, label)] n).toList = some ⟨name, key, label, n⟩ := by
  have hplain : ∀ c ∈ label.toList, isSpecial c = false := by
    intro c hc
    simpa using List.all_eq_true.1 hlabel c hc
  have hhead : (Export.sample name [(key, label)] n).toList.head? ≠ some '#' := by
    rw [sample_toList]
    cases hcs : name.toList with
    | nil => exact absurd (String.toList_eq_nil_iff.1 hcs) hsome
    | cons c cs => rwa [hcs] at hhash
  unfold sample?
  rw [if_neg hhead, sample_toList]
  simp only [Text.splitOnce?_append hname, Text.splitOnce?_append hkey, value?,
    label?_plain hplain, count?_digits, Option.map_some, Option.bind_eq_bind, Option.bind_some,
    String.ofList_toList, Option.pure_def]

/-! ## The length of a sample

A label with special characters is not read back as it is, which could not be shown by looking at
one sample: the lines it makes could be read as others. So characters are counted. What can be read
of a line weighs no more than the line, and what was to be told weighs more. -/

/-- The length of a label that is written well: one character more for each that is escaped. -/
def weight (label : List Char) : Nat := label.length + label.countP isSpecial

/-- The length of a sample that is written well. The rest of the sum are braces, quotes, the equals
sign and the space. -/
def Sample.cost (r : Sample) : Nat :=
  r.metric.toList.length + r.key.toList.length + 6 + weight r.label.toList +
    (toString r.count).toList.length

theorem weight_cons (c : Char) (cs : List Char) :
    weight (c :: cs) = weight cs + 1 + (if isSpecial c then 1 else 0) := by
  unfold weight
  rw [List.length_cons, List.countP_cons]
  omega

/-- What was read of a label is as long as the label is when it is written well. -/
theorem length_of_label? (h : label? line = some (v, rest)) :
    line.length = weight v + 1 + rest.length := by
  fun_induction label? line generalizing v rest with
  | case1 => cases h
  | case2 rest' =>
    cases h
    simp only [List.length_cons, weight, List.length_nil, List.countP_nil]
    omega
  | case3 => cases h
  -- A backslash with what follows it costs two characters.
  | case4 rest' ih | case5 rest' ih | case6 rest' ih =>
    obtain ⟨⟨v', rest''⟩, hread, heq⟩ := Option.map_eq_some_iff.1 h
    cases heq
    have hlength := ih hread
    simp only [List.length_cons, weight_cons, isSpecial, hlength]
    simp only [beq_self_eq_true, Bool.or_true, Bool.true_or, if_true]
    omega
  | case7 => cases h
  | case8 c rest' hquote hline _ _ _ hback ih =>
    obtain ⟨⟨v', rest''⟩, hread, heq⟩ := Option.map_eq_some_iff.1 h
    cases heq
    have hlength := ih hread
    have hplain : isSpecial c = false := by
      simp only [isSpecial, Bool.or_eq_false_iff, beq_eq_false_iff_ne]
      exact ⟨⟨hquote, hback⟩, hline⟩
    simp only [List.length_cons, weight_cons, hplain, hlength, Bool.false_eq_true, if_false]
    omega

theorem ofDigitChars_lt (hds : ∀ c ∈ ds, c.isDigit = true) (k : Nat) :
    Nat.ofDigitChars 10 ds k < (k + 1) * 10 ^ ds.length := by
  induction ds generalizing k with
  | nil =>
    rw [Nat.ofDigitChars_nil]
    simp
  | cons c ds ih =>
    obtain ⟨hc, hds⟩ := List.forall_mem_cons.1 hds
    have hdigit : c.toNat - 48 < 10 := by
      have hrange := (Char.isDigit_iff_toNat.1 hc).2
      have hnine : '9'.toNat = 57 := rfl
      omega
    rw [Nat.ofDigitChars_cons, List.length_cons, Nat.pow_succ]
    refine Nat.lt_of_lt_of_le (ih hds _) ?_
    calc (10 * k + (c.toNat - '0'.toNat) + 1) * 10 ^ ds.length
        ≤ ((k + 1) * 10) * 10 ^ ds.length := by
          refine Nat.mul_le_mul_right _ ?_
          have : '0'.toNat = 48 := rfl
          omega
      _ = (k + 1) * (10 ^ ds.length * 10) := by rw [Nat.mul_assoc, Nat.mul_comm 10]

/-- A count may be written with zeros in front, but not shorter than it is. -/
theorem length_of_count? (h : count? ds = some n) : (toString n).toList.length ≤ ds.length := by
  unfold count? at h
  split at h
  · next hds =>
    obtain ⟨hsome, hall⟩ := Bool.and_eq_true_iff.1 hds
    obtain rfl := Option.some.inj h
    have hpos : 0 < ds.length := by
      refine List.length_pos_of_ne_nil fun hnil => ?_
      rw [hnil] at hsome
      cases hsome
    have hlt := ofDigitChars_lt (List.all_eq_true.1 hall) 0
    rw [Nat.zero_add, Nat.one_mul] at hlt
    rw [show (toString (Nat.ofDigitChars 10 ds 0)).toList = _ from Nat.toList_repr]
    exact (Nat.length_toDigits_le_iff (by decide) hpos).2 hlt
  · cases h

theorem length_of_splitOnce? {c : Char} {a b : List Char}
    (h : Text.splitOnce? c line = some (a, b)) : line.length = a.length + 1 + b.length := by
  rw [(Text.splitOnce?_eq_some h).1, List.length_append, List.length_cons]
  omega

theorem length_of_value? (h : value? line = some (v, n)) :
    weight v + 4 + (toString n).toList.length ≤ line.length := by
  unfold value? at h
  split at h
  · next rest =>
    split at h
    · next label ds hlabel =>
      obtain ⟨count, hcount, heq⟩ := Option.map_eq_some_iff.1 h
      cases heq
      have hlength := length_of_label? hlabel
      have hdigits := length_of_count? hcount
      simp only [List.length_cons] at hlength ⊢
      omega
    · cases h
  · cases h

/-- Whoever reads a sample reads at least as many characters as it takes when it is written well. -/
theorem cost_le_of_sample? (h : sample? line = some r) : r.cost ≤ line.length := by
  unfold sample? at h
  split at h
  · cases h
  · obtain ⟨⟨metric, rest⟩, hmetric, h⟩ := Option.bind_eq_some_iff.1 h
    obtain ⟨⟨key, rest'⟩, hkey, h⟩ := Option.bind_eq_some_iff.1 h
    obtain ⟨⟨label, n⟩, hvalue, h⟩ := Option.bind_eq_some_iff.1 h
    cases h
    have h₁ := length_of_splitOnce? hmetric
    have h₂ := length_of_splitOnce? hkey
    have h₃ := length_of_value? hvalue
    simp only [Sample.cost, String.toList_ofList]
    omega

/-! ## Lines

The text is cut at its line ends, some of which may stand in labels. -/

/-- What is read of text that was written as one line, which it is not if it has a newline. -/
def samplesOf (line : String) : List Sample := (line.toList.splitOn '\n').filterMap sample?

theorem samples_text (lines : List String) :
    samples (Export.text lines) = lines.flatMap samplesOf := by
  induction lines with
  | nil => rfl
  | cons line rest ih =>
    have htext : (Export.text (line :: rest)).toList =
        line.toList ++ '\n' :: (Export.text rest).toList := by
      simp [Export.text]
    unfold samples at ih ⊢
    rw [htext, List.splitOn_append_cons_self, List.filterMap_append, ih, List.flatMap_cons]
    rfl

theorem samplesOf_line {line : String} (h : '\n' ∉ line.toList) :
    samplesOf line = (sample? line.toList).toList := by
  rw [samplesOf, List.splitOn_eq_singleton h]
  cases hread : sample? line.toList with
  | none => simp [hread]
  | some r => simp [hread]

theorem samplesOf_comment {line : String} (hline : '\n' ∉ line.toList)
    (hhash : line.toList.head? = some '#') : samplesOf line = [] := by
  rw [samplesOf_line hline, sample?, if_pos hhash]
  rfl

/-- However text falls into lines, no more is read than was written. -/
theorem cost_samplesOf_le (line : String) :
    ((samplesOf line).map Sample.cost).sum ≤ line.length := by
  -- Splitting at line ends makes nothing longer.
  have hparts : ∀ cs : List Char, ((cs.splitOn '\n').map List.length).sum ≤ cs.length := by
    intro cs
    induction cs with
    | nil => exact Nat.le_refl 0
    | cons c cs ih =>
      rw [List.splitOn_cons_eq_if_modifyHead]
      split
      · simp only [List.map_cons, List.length_nil, List.sum_cons, List.length_cons]
        omega
      · cases hsplit : cs.splitOn '\n' with
        | nil => exact absurd hsplit (List.splitOn_ne_nil _ _)
        | cons first more =>
          rw [hsplit] at ih
          simp only [List.modifyHead_cons, List.map_cons, List.length_cons, List.sum_cons] at ih ⊢
          omega
  -- A part that is no sample costs nothing; one that is costs at most its length.
  have hreads : ∀ parts : List (List Char),
      ((parts.filterMap sample?).map Sample.cost).sum ≤ (parts.map List.length).sum := by
    intro parts
    induction parts with
    | nil => exact Nat.le_refl 0
    | cons part parts ih =>
      cases hread : sample? part with
      | none =>
        rw [List.filterMap_cons_none hread, List.map_cons, List.sum_cons]
        omega
      | some r =>
        have hcost := cost_le_of_sample? hread
        rw [List.filterMap_cons_some hread, List.map_cons, List.sum_cons, List.map_cons, List.sum_cons]
        omega
  exact Nat.le_trans (hreads _) (hparts _)

theorem cost_eq_length (name key label : String) (n : Nat) :
    (Sample.mk name key label n).cost =
      (Export.sample name [(key, label)] n).length + label.toList.countP isSpecial := by
  rw [← String.length_toList, sample_toList]
  simp only [Sample.cost, weight, List.length_append, List.length_cons]
  omega

theorem isPlain_iff {label : String} :
    isPlain label = true ↔ label.toList.countP isSpecial = 0 := by
  simp [isPlain, List.countP_eq_zero]

end Exposition

/-! ## What the counters hold

Each family has the counts of the events that belong to it. -/

namespace RouterStats

open Exposition

/-- A counter with its name, the name of its label and what it counts. -/
abbrev Family := String × String × String × LabelledCounter

def metric (f : Family) : String := "conduit_" ++ f.1 ++ "_total"

def familySamples (f : Family) : List Sample :=
  f.2.2.2.toList.map fun entry => ⟨metric f, f.2.1, entry.1, entry.2⟩

def samples (s : RouterStats) : List Sample := s.counters.flatMap familySamples

/-- A counter behind an event. -/
def bump (e : RouterEvent) (f : Family) : Family :=
  match e.counted? with
  | some (m, key, label) =>
    if (m, key) = (metric f, f.2.1) then (f.1, f.2.1, f.2.2.1, f.2.2.2.inc label) else f
  | none => f

theorem record_counters (s : RouterStats) (e : RouterEvent) :
    (s.record e).counters = s.counters.map (bump e) := by
  cases e <;> simp [counters, record, bump, RouterEvent.counted?, metric]

/-- A counter shows how often each label was counted by some events. -/
def Counted (es : List RouterEvent) (f : Family) : Prop :=
  ∀ label, f.2.2.2.counts.find? label =
    let n := RouterEvent.times es (metric f) f.2.1 label
    if n = 0 then none else some n

theorem bump_metric (e : RouterEvent) (f : Family) :
    metric (bump e f) = metric f ∧ (bump e f).2.1 = f.2.1 := by
  unfold bump
  split
  · split
    · exact ⟨rfl, rfl⟩
    · exact ⟨rfl, rfl⟩
  · exact ⟨rfl, rfl⟩

theorem Counted.bump {es : List RouterEvent} {f : Family} (h : Counted es f) (e : RouterEvent) :
    Counted (es ++ [e]) (bump e f) := by
  intro label
  -- The new event counts in at most one family, for one label.
  have htimes : RouterEvent.times (es ++ [e]) (metric f) f.2.1 label =
      RouterEvent.times es (metric f) f.2.1 label +
        if e.counted? = some (metric f, f.2.1, label) then 1 else 0 := by
    unfold RouterEvent.times
    rw [List.countP_append, List.countP_singleton]
    simp only [beq_iff_eq]
  have hother : e.counted? ≠ some (metric f, f.2.1, label) →
      f.2.2.2.counts.find? label = let n := RouterEvent.times (es ++ [e]) (metric f) f.2.1 label
        if n = 0 then none else some n := by
    intro hne
    rw [htimes, if_neg hne, Nat.add_zero]
    exact h label
  dsimp only
  rw [(bump_metric e f).1, (bump_metric e f).2]
  unfold RouterStats.bump
  split
  · next m key label' hcounted =>
    split
    · next hfamily =>
      obtain ⟨rfl, rfl⟩ := Prod.mk.inj hfamily
      simp only [LabelledCounter.inc, StringMap.alter, StringMap.find?_insert, h label']
      by_cases hlabel : label = label'
      · subst hlabel
        rw [htimes, hcounted]
        by_cases hzero : RouterEvent.times es (metric f) f.2.1 label = 0
        · simp [hzero]
        · simp [hzero]
      · rw [if_neg hlabel]
        refine hother fun heq => hlabel ?_
        rw [hcounted] at heq
        simpa using heq.symm
    · next hfamily =>
      refine hother fun heq => hfamily ?_
      rw [hcounted] at heq
      simp_all
  · next hcounted => exact hother fun heq => by simp [hcounted] at heq

theorem counted_record (es : List RouterEvent) :
    ∀ f ∈ (es.foldl record start).counters, Counted es f := by
  induction es using List.reverseRec with
  | nil =>
    intro f hf label
    simp only [List.foldl_nil, start, counters, List.mem_cons, List.not_mem_nil, or_false] at hf
    rcases hf with rfl | rfl | rfl | rfl | rfl | rfl | rfl | rfl | rfl | rfl | rfl | rfl | rfl <;> rfl
  | append_singleton es e ih =>
    intro f hf
    rw [List.foldl_append, List.foldl_cons, List.foldl_nil, record_counters] at hf
    obtain ⟨g, hg, rfl⟩ := List.mem_map.1 hf
    exact (ih g hg).bump e

theorem metrics_nodup (s : RouterStats) : (s.counters.map metric).Nodup := by
  simp [counters, metric]

theorem exists_family (s : RouterStats) {e : RouterEvent} {m key label : String}
    (h : e.counted? = some (m, key, label)) : ∃ f ∈ s.counters, metric f = m ∧ f.2.1 = key := by
  cases e <;> simp only [RouterEvent.counted?, Option.some.injEq, Prod.mk.injEq, reduceCtorEq] at h <;>
    obtain ⟨rfl, rfl, -⟩ := h <;> simp [counters, metric]

theorem times_pos {es : List RouterEvent} {m key label : String} :
    0 < RouterEvent.times es m key label ↔ ∃ e ∈ es, e.counted? = some (m, key, label) := by
  simp [RouterEvent.times, List.countP_pos_iff]

/-- The counters hold what was counted. -/
theorem tells_samples (es : List RouterEvent) : Tells es (es.foldl record start).samples := by
  have hcounted := counted_record es
  generalize es.foldl record start = s at hcounted
  -- A family has an entry for each label that was counted, with how often it was.
  have hentry : ∀ f ∈ s.counters, ∀ label n, (label, n) ∈ f.2.2.2.toList ↔
      0 < n ∧ n = RouterEvent.times es (metric f) f.2.1 label := by
    intro f hf label n
    have hfind := hcounted f hf label
    refine Iff.trans (lookup_eq_some_iff_mem f.2.2.2.counts.nodup_keys).symm ?_
    show f.2.2.2.counts.find? label = some n ↔ _
    rw [hfind]
    dsimp only
    split
    · next hzero => exact ⟨nofun, fun h => by omega⟩
    · next hsome =>
      refine ⟨fun h => ?_, fun h => congrArg some h.2.symm⟩
      obtain rfl := Option.some.inj h
      exact ⟨Nat.pos_of_ne_zero hsome, rfl⟩
  constructor
  · refine List.nodup_flatMap.2 ⟨fun f _ => ?_, ?_⟩
    · refine (List.Nodup.of_map Prod.fst f.2.2.2.counts.nodup_keys).map ?_
      rintro ⟨l, n⟩ ⟨l', n'⟩ heq
      obtain ⟨-, -, hlabel, hcount⟩ := Sample.mk.inj heq
      exact Prod.ext hlabel hcount
    · refine (List.pairwise_map.1 (metrics_nodup s)).imp fun {f g} hne r hf hg => hne ?_
      obtain ⟨a, -, rfl⟩ := List.mem_map.1 hf
      obtain ⟨b, -, heq⟩ := List.mem_map.1 hg
      exact (congrArg Sample.metric heq).symm
  · intro r
    constructor
    · intro hr
      obtain ⟨f, hf, hr⟩ := List.mem_flatMap.1 hr
      obtain ⟨⟨label, n⟩, hmem, rfl⟩ := List.mem_map.1 hr
      exact (hentry f hf label n).1 hmem
    · rintro ⟨hpos, heq⟩
      obtain ⟨e, -, he⟩ := times_pos.1 (heq ▸ hpos)
      obtain ⟨f, hf, hmetric, hkey⟩ := exists_family s he
      refine List.mem_flatMap.2 ⟨f, hf, List.mem_map.2 ⟨(r.label, r.count), ?_, ?_⟩⟩
      · rw [hentry f hf, hmetric, hkey]
        exact ⟨hpos, heq⟩
      · rw [hmetric, hkey]

/-! ## What is read of the export

Either all labels are plain and all is read back, or the weights differ and something is missing. -/

theorem histograms_record {es : List RouterEvent} (h : ∀ e ∈ es, e.counted?.isSome = true)
    (s : RouterStats) : (es.foldl record s).histograms = s.histograms := by
  induction es generalizing s with
  | nil => rfl
  | cons e es ih =>
    obtain ⟨he, hes⟩ := List.forall_mem_cons.1 h
    rw [List.foldl_cons, ih hes]
    cases e <;> first | rfl | cases he

/-- The comments of a metric. -/
theorem samplesOf_header {name help kind : String} (hname : '\n' ∉ name.toList)
    (hhelp : '\n' ∉ help.toList) (hkind : '\n' ∉ kind.toList) :
    (Export.header name help kind).flatMap samplesOf = [] := by
  have hfirst : samplesOf ("# HELP " ++ name ++ " " ++ help) = [] :=
    samplesOf_comment (by simp [hname, hhelp]) (by simp)
  have hsecond : samplesOf ("# TYPE " ++ name ++ " " ++ kind) = [] :=
    samplesOf_comment (by simp [hname, hkind]) (by simp)
  rw [Export.header, List.flatMap_cons, List.flatMap_cons, hfirst, hsecond]
  rfl

/-- Whether a character may stand in a name. -/
def isNameChar (c : Char) : Bool := c.isAlphanum || c == '_'

theorem metric_chars (s : RouterStats) {f : Family} (hf : f ∈ s.counters) :
    (∀ c ∈ (metric f).toList, isNameChar c = true) ∧ (∀ c ∈ f.2.1.toList, isNameChar c = true) ∧
      '\n' ∉ f.2.2.1.toList := by
  have hchars : f.1.toList.all isNameChar = true ∧ f.2.1.toList.all isNameChar = true ∧
      f.2.2.1.toList.all (· != '\n') = true := by
    simp only [counters, List.mem_cons, List.not_mem_nil, or_false] at hf
    rcases hf with rfl | rfl | rfl | rfl | rfl | rfl | rfl | rfl | rfl | rfl | rfl | rfl | rfl <;>
      dsimp only <;> refine ⟨?_, ?_, ?_⟩ <;> rw [String.toList_ofList] <;> rfl
  simp only [List.all_eq_true] at hchars
  obtain ⟨hname, hkey, hhelp⟩ := hchars
  refine ⟨fun c hc => ?_, hkey, fun hmem => absurd (hhelp _ hmem) (by decide)⟩
  have hends : "conduit_".toList.all isNameChar = true ∧ "_total".toList.all isNameChar = true := by
    refine ⟨?_, ?_⟩ <;> rw [String.toList_ofList] <;> rfl
  simp only [List.all_eq_true] at hends
  rw [metric, String.toList_append, String.toList_append, List.mem_append, List.mem_append] at hc
  obtain (hc | hc) | hc := hc
  · exact hends.1 c hc
  · exact hname c hc
  · exact hends.2 c hc

/-- The names that counters and labels go by are written as they are. -/
theorem counters_names (s : RouterStats) {f : Family} (hf : f ∈ s.counters) :
    '\n' ∉ (metric f).toList ∧ '\n' ∉ f.2.2.1.toList ∧ '\x7b' ∉ (metric f).toList ∧
      (metric f).toList.head? ≠ some '#' ∧ metric f ≠ "" ∧ '=' ∉ f.2.1.toList ∧
      '\n' ∉ f.2.1.toList := by
  obtain ⟨hname, hkey, hhelp⟩ := metric_chars s hf
  refine ⟨fun h => absurd (hname _ h) (by decide), hhelp, fun h => absurd (hname _ h) (by decide),
    fun h => absurd (hname _ (List.mem_of_head? h)) (by decide), ?_,
    fun h => absurd (hkey _ h) (by decide), fun h => absurd (hkey _ h) (by decide)⟩
  exact fun h => absurd (String.append_eq_empty_iff.1 h).2 (by decide)

theorem samplesOf_counterLines (s : RouterStats) {f : Family} (hf : f ∈ s.counters) :
    (counterLines f).flatMap samplesOf = f.2.2.2.toList.flatMap fun entry =>
      samplesOf (Export.sample (metric f) [(f.2.1, entry.1)] entry.2) := by
  obtain ⟨hname, hhelp, -⟩ := counters_names s hf
  have hlines : counterLines f = Export.header (metric f) f.2.2.1 "counter" ++
      f.2.2.2.toList.map fun entry => Export.sample (metric f) [(f.2.1, entry.1)] entry.2 := rfl
  rw [hlines, List.flatMap_append, samplesOf_header hname hhelp (by simp), List.nil_append,
    List.flatMap_map]

theorem histogramLines_empty (name label help : String) (bounds : List Float) :
    histogramLines (name, label, help, { bounds }) =
      Export.header ("conduit_" ++ name) help "histogram" :=
  List.append_nil _

/-- Everything that is read is read of the samples, if nothing was observed. -/
theorem samples_lines {es : List RouterEvent} (h : ∀ e ∈ es, e.counted?.isSome = true) :
    Exposition.samples (Export.text (es.foldl record start).lines) =
      (es.foldl record start).counters.flatMap fun f => f.2.2.2.toList.flatMap fun entry =>
        samplesOf (Export.sample (metric f) [(f.2.1, entry.1)] entry.2) := by
  -- The histograms are empty, and their headers are no samples.
  have hnothing : ((List.intercalate [""]
      ((es.foldl record start).histograms.map histogramLines)).flatMap samplesOf) = [] := by
    rw [histograms_record h]
    have hheader : ∀ f ∈ start.histograms, (histogramLines f).flatMap samplesOf = [] := by
      intro f hf
      simp only [start, histograms, List.mem_cons, List.not_mem_nil, or_false] at hf
      rcases hf with rfl | rfl | rfl <;> rw [histogramLines_empty] <;>
        exact samplesOf_header (by simp) (by simp) (by simp)
    have hempty : samplesOf "" = [] := rfl
    generalize hparts : start.histograms = parts at hheader
    clear hparts
    induction parts with
    | nil => rfl
    | cons f parts ih =>
      obtain ⟨hf, hrest⟩ := List.forall_mem_cons.1 hheader
      cases parts with
      | nil => simpa [List.intercalate] using hf
      | cons g parts =>
        have hcons : List.intercalate [""] ((f :: g :: parts).map histogramLines) =
            histogramLines f ++ "" :: List.intercalate [""] ((g :: parts).map histogramLines) := by
          simp [List.intercalate]
        rw [hcons, List.flatMap_append, hf, List.flatMap_cons, hempty, ih hrest]
        rfl
  rw [samples_text, lines, List.flatMap_append, hnothing, List.append_nil, List.flatMap_assoc]
  refine List.flatMap_congr fun f hf => ?_
  rw [List.flatMap_append, samplesOf_counterLines _ hf]
  exact List.append_nil _

/-- The samples that a label needs no escape for are read back as they were written. -/
theorem samplesOf_plain (s : RouterStats) {f : Family} (hf : f ∈ s.counters) {label : String}
    (h : isPlain label = true) (n : Nat) :
    samplesOf (Export.sample (metric f) [(f.2.1, label)] n) = [⟨metric f, f.2.1, label, n⟩] := by
  obtain ⟨hname, -, hbrace, hhash, hsome, hkey, hkeyLine⟩ := counters_names s hf
  have hlabel : '\n' ∉ label.toList := by
    intro hmem
    have hspecial := List.all_eq_true.1 h _ hmem
    exact absurd hspecial (by decide)
  rw [samplesOf_line (newline_not_mem_sample hname hkeyLine hlabel n),
    sample?_written hbrace hhash hsome hkey h n]
  rfl

/-- The length of everything that is written for samples. -/
def written (s : RouterStats) : Nat :=
  (s.counters.map fun f => (f.2.2.2.toList.map fun entry =>
    (Export.sample (metric f) [(f.2.1, entry.1)] entry.2).length).sum).sum

theorem sum_map_le {α : Type} {f g : α → Nat} (h : ∀ a, f a ≤ g a) (l : List α) :
    (l.map f).sum ≤ (l.map g).sum := by
  induction l with
  | nil => exact Nat.le_refl 0
  | cons a l ih => exact Nat.add_le_add (h a) ih

/-- What is read of the samples costs no more than was written for them. -/
theorem cost_le_written (s : RouterStats) :
    ((s.counters.flatMap fun f => f.2.2.2.toList.flatMap fun entry =>
      samplesOf (Export.sample (metric f) [(f.2.1, entry.1)] entry.2)).map Sample.cost).sum ≤
      s.written := by
  rw [List.map_flatMap, List.flatMap_def, List.sum_flatten, List.map_map, written]
  refine sum_map_le (fun f => ?_) s.counters
  dsimp only [Function.comp]
  rw [List.map_flatMap, List.flatMap_def, List.sum_flatten, List.map_map]
  refine sum_map_le (fun entry => ?_) f.2.2.2.toList
  rw [Function.comp_apply]
  exact cost_samplesOf_le (Export.sample (metric f) [(f.2.1, entry.1)] entry.2)

/-- The samples cost what was written for them and, for each character that needs one, an escape. -/
theorem cost_samples (s : RouterStats) :
    (s.samples.map Sample.cost).sum = s.written +
      (s.samples.map fun r => r.label.toList.countP isSpecial).sum := by
  have hfamily : ∀ f : Family, ((familySamples f).map Sample.cost).sum =
      (f.2.2.2.toList.map fun entry =>
        (Export.sample (metric f) [(f.2.1, entry.1)] entry.2).length).sum +
      ((familySamples f).map fun r => r.label.toList.countP isSpecial).sum := by
    intro f
    rw [familySamples, List.map_map, List.map_map, ← List.sum_map_add]
    exact congrArg List.sum (List.map_congr_left fun entry _ => cost_eq_length _ _ _ _)
  rw [samples, List.map_flatMap, List.map_flatMap, List.flatMap_def, List.flatMap_def,
    List.sum_flatten, List.sum_flatten, List.map_map, List.map_map, written, ← List.sum_map_add]
  exact congrArg List.sum (List.map_congr_left fun f _ => hfamily f)

end RouterStats

/-- Reading the export of counters tells what was counted exactly as long as no label needs an
escape: that is, as long as none has a quote, a backslash or a newline. -/
theorem RouterStats.export_reads_iff (es : List RouterEvent)
    (hcounters : ∀ e ∈ es, e.counted?.isSome = true) :
    Exposition.Tells es (Exposition.samples (Export.text (es.foldl record start).lines)) ↔
      ∀ e ∈ es, ∀ metric key label, e.counted? = some (metric, key, label) →
        Exposition.isPlain label = true := by
  have htells := tells_samples es
  rw [samples_lines hcounters]
  generalize es.foldl record start = s at htells
  constructor
  · intro hread e he metric key label hcounted
    -- The same samples were read as were written, so they cost the same.
    have hperm : List.Perm _ s.samples := (List.perm_ext_iff_of_nodup hread.once htells.once).2
      fun r => (hread.rows r).trans (htells.rows r).symm
    have hcost := (hperm.map Exposition.Sample.cost).sum_nat
    have hle := cost_le_written s
    rw [hcost, cost_samples] at hle
    have hnone : (s.samples.map fun r => r.label.toList.countP Exposition.isSpecial).sum = 0 := by
      omega
    have hpos : 0 < RouterEvent.times es metric key label := times_pos.2 ⟨e, he, hcounted⟩
    have hmem := (htells.rows ⟨metric, key, label, _⟩).2 ⟨hpos, rfl⟩
    rw [Exposition.isPlain_iff]
    exact List.sum_eq_zero_iff_forall_eq_nat.1 hnone _ (List.mem_map.2 ⟨_, hmem, rfl⟩)
  · intro hplain
    have hread : (s.counters.flatMap fun f => f.2.2.2.toList.flatMap fun entry =>
        Exposition.samplesOf (Export.sample (metric f) [(f.2.1, entry.1)] entry.2)) = s.samples := by
      refine List.flatMap_congr fun f hf => ?_
      rw [familySamples, List.map_eq_flatMap]
      refine List.flatMap_congr fun entry hentry => ?_
      have hmem : Exposition.Sample.mk (metric f) f.2.1 entry.1 entry.2 ∈ s.samples :=
        List.mem_flatMap.2 ⟨f, hf, List.mem_map.2 ⟨entry, hentry, rfl⟩⟩
      obtain ⟨hpos, heq⟩ := (htells.rows _).1 hmem
      obtain ⟨e, he, hcounted⟩ := times_pos.1 (heq ▸ hpos)
      exact samplesOf_plain s hf (hplain e he _ _ _ hcounted) entry.2
    rw [hread]
    exact htells

/-- Two services and a host are read back; a quote in the name of a service is not. -/
theorem RouterStats.export_reads_iff_two_services :
    (Exposition.Tells [.routeMissing "orders", .connected "users/h:1", .routeMissing "orders"]
      (Exposition.samples (Export.text (([.routeMissing "orders", .connected "users/h:1",
        .routeMissing "orders"] : List RouterEvent).foldl record start).lines))) ∧
    ¬Exposition.Tells [.routeMissing "a\"b"]
      (Exposition.samples (Export.text (([.routeMissing "a\"b"] : List RouterEvent).foldl record
        start).lines)) := by
  refine ⟨(export_reads_iff _ (by decide)).2 ?_, fun h => ?_⟩
  · intro e he metric key label hcounted
    simp only [List.mem_cons, List.not_mem_nil, or_false] at he
    rcases he with rfl | rfl | rfl <;> cases hcounted <;> decide
  · have hplain := (export_reads_iff _ (by decide)).1 h _ List.mem_cons_self _ _ _ rfl
    exact absurd hplain (by decide)

end RpcProxy

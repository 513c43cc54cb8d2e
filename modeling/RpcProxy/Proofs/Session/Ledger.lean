import Mathlib.Algebra.GroupWithZero.Nat
import Mathlib.Data.List.Perm.Subperm
import RpcProxy.Session.Run

/-!
# The ledger of a session

Six counters, the list of streams in flight and two flags on every stream tell the same story in
different words. A `Ledger` keeps only those words of a session, and `Ledger.Sound` says what makes
them one story: the numbers ascend, the flags agree with the list, and the gauge shows its length.

Only four things ever happen to a ledger: a stream begins (`start`), it is over and leaves
(`finish`), it gets a status before that (`answer`), and it is dropped (`drop`). Each of them keeps
the ledger sound, and `finish` counts a stream that was in flight exactly once. Nothing here knows
about filters, routers or connections, so when one of these changes, what has to be looked at again
is whether the session still does the four things, and not whether they add up.

A stream is over before it leaves, and both are looked up anew. So there are two steps in `finish`,
each with a guard of its own, and between them the ledger is not sound: the stream is over and still
in flight. They are always made together, and `Sound.finish_of_open` says what they come to.

Soundness does not say how a stream ended. `Balanced` adds that: every stream is in flight, or was
answered, was reset or was completed directly. The last kind leaves no trace in any counter, so
their number is given from outside, as that of the tasks that have completed a stream.
-/

set_option autoImplicit false

namespace RpcProxy

def LabelledCounter.total (c : LabelledCounter) : Nat := (c.toList.map (·.2)).sum

theorem StringMap.lookup_eq_none_of_lt {α : Type} {key : String} {l : List (String × α)}
    (h : ∀ e ∈ l, key < e.1) : l.lookup key = none := by
  induction l with
  | nil => rfl
  | cons a rest ih =>
    have hne : key ≠ a.1 := fun he => absurd (h a List.mem_cons_self) (he ▸ String.lt_irrefl _)
    rw [StringMap.lookup_cons, if_neg hne]
    exact ih fun e he => h e (List.mem_cons_of_mem _ he)

theorem StringMap.sum_insertEntry (key : String) (n : Nat) {l : List (String × Nat)}
    (h : l.Pairwise (·.1 < ·.1)) :
    ((StringMap.insertEntry key n l).map (·.2)).sum + (l.lookup key).getD 0 =
      (l.map (·.2)).sum + n := by
  induction l with
  | nil => simp [StringMap.insertEntry]
  | cons a rest ih =>
    obtain ⟨ha, hr⟩ := List.pairwise_cons.mp h
    unfold StringMap.insertEntry
    split
    · next hlt =>
      -- The key belongs before all keys, so it is not there.
      have hnone : (a :: rest).lookup key = none := by
        refine StringMap.lookup_eq_none_of_lt fun e he => ?_
        rcases List.mem_cons.mp he with rfl | he
        · exact hlt
        · exact String.lt_trans hlt (ha e he)
      rw [hnone]
      simp only [List.map_cons, List.sum_cons, Option.getD_none]
      omega
    · split
      · next heq =>
        rw [StringMap.lookup_cons, if_pos heq]
        simp only [List.map_cons, List.sum_cons, Option.getD_some]
        omega
      · next hne =>
        rw [StringMap.lookup_cons, if_neg hne]
        have := ih hr
        simp only [List.map_cons, List.sum_cons]
        omega

/-- One event more under any label is one event more. -/
theorem LabelledCounter.total_inc (c : LabelledCounter) (label : String) :
    (c.inc label).total = c.total + 1 := by
  have h := StringMap.sum_insertEntry label ((c.counts.find? label).getD 0 + 1)
    c.counts.sorted
  simp only [LabelledCounter.total, LabelledCounter.toList, LabelledCounter.inc, StringMap.alter,
    StringMap.insert, StringMap.toList] at *
  simp only [StringMap.find?] at *
  omega

/-- What a ledger has of a stream. -/
structure Mark where
  id : StreamId
  /-- Whether it is marked as being in flight. -/
  inserted : Bool
  completed : Bool
  status : Option StatusCode

def Stream.mark (x : Stream) : Mark :=
  { id := x.id, inserted := x.inserted, completed := x.isCompleted, status := x.info.status }

/-- The streams of a session and the counters that tell of them. Counters that tell nothing of how
single streams begin and end, such as that of decoding errors, have no place here. -/
structure Ledger where
  /-- The number of the next stream. -/
  next : Nat
  active : List StreamId
  marks : List Mark
  requests : Nat
  /-- The gauge of streams in flight. -/
  gauge : Gauge
  /-- The gauge of open connections. -/
  links : Gauge
  resets : Nat
  byStatus : LabelledCounter
  /-- Streams whose time was taken. -/
  timed : Nat

/-- The ledger of a session. -/
def Session.ledger {σ : Type} (s : Session σ) : Ledger where
  next := s.nextId
  active := s.active
  marks := s.streams.map Stream.mark
  requests := s.stats.requests.total
  gauge := s.stats.activeRequests
  links := s.stats.activeConnections
  resets := s.stats.resets.total
  byStatus := s.stats.byStatus
  timed := s.stats.duration.count

namespace Ledger

def mark? (l : Ledger) (id : StreamId) : Option Mark := l.marks.find? (·.id == id)

def edit (l : Ledger) (id : StreamId) (f : Mark → Mark) : Ledger :=
  { l with marks := l.marks.map fun m => if m.id = id then f m else m }

/-- A stream begins. -/
def start (l : Ledger) : Ledger :=
  { l with
    next := l.next + 1
    active := l.active ++ [l.next]
    marks := l.marks ++ [{ id := l.next, inserted := true, completed := false, status := none }]
    requests := l.requests + 1
    gauge := l.gauge.inc }

/-- A stream is over, and is counted unless it was over before. -/
def complete (l : Ledger) (id : StreamId) : Ledger :=
  match l.mark? id with
  | none => l
  | some m =>
    if m.completed then l
    else
      { l.edit id fun m => { m with completed := true } with
        timed := l.timed + 1
        byStatus := match m.status with
          | some code => l.byStatus.inc code.name
          | none => l.byStatus }

/-- A stream leaves the streams in flight, unless it has left before. -/
def leave (l : Ledger) (id : StreamId) : Ledger :=
  match l.mark? id with
  | none => l
  | some m =>
    if !m.inserted then l
    else
      let l := l.edit id fun m => { m with inserted := false }
      if l.active.contains id then
        { l with active := l.active.erase id, gauge := l.gauge.dec }
      else l

/-- A stream is over and leaves. -/
def finish (l : Ledger) (id : StreamId) : Ledger := (l.complete id).leave id

/-- A stream gets the status of its reply. -/
def answer (l : Ledger) (id : StreamId) (code : StatusCode) : Ledger :=
  l.edit id fun m => { m with status := some code }

def countReset (l : Ledger) : Ledger := { l with resets := l.resets + 1 }

/-- A stream is there no longer. -/
def drop (l : Ledger) (id : StreamId) : Ledger := { l with marks := l.marks.filter (·.id != id) }

/-! ## Soundness

A ledger is sound if its numbers fit its marks. -/

/-- The numbers ascend, the flags agree with the streams in flight, and so does what was counted
since the ledger `b`, before the first stream began. A listener's counters go on counting from one
connection to the next, so `b` need not be empty. -/
structure Sound (b l : Ledger) : Prop where
  /-- The streams in flight are in the order of their numbers. -/
  ascending : l.active.Pairwise (· < ·)
  /-- The streams that are there are in the order of their numbers. -/
  ordered : (l.marks.map (·.id)).Pairwise (· < ·)
  /-- Numbers are given out in order. -/
  below : ∀ m ∈ l.marks, m.id < l.next
  /-- Numbers have 64 bits. -/
  fits : l.next < 2 ^ 64
  /-- A stream in flight is there. -/
  present : ∀ id ∈ l.active, ∃ m ∈ l.marks, m.id = id
  /-- Exactly the streams in flight are marked so. -/
  flagged : ∀ m ∈ l.marks, m.inserted = true ↔ m.id ∈ l.active
  /-- Exactly the streams in flight are not over. -/
  open_iff : ∀ m ∈ l.marks, m.completed = false ↔ m.id ∈ l.active
  /-- The gauge shows how many streams are in flight, unless it has gone round. -/
  gauged : b.gauge.value.toNat + l.next < 2 ^ 64 →
    l.gauge.value.toNat = b.gauge.value.toNat + l.active.length
  /-- Every stream was counted when it began. -/
  counted : l.requests = b.requests + l.next
  /-- Every stream that is not in flight any more was counted when it ended. -/
  timed_add : l.timed + l.active.length = b.timed + l.next
  /-- Streams leave the connection as open as it was. -/
  linked : l.links = b.links

variable {b l : Ledger} {id : StreamId} {m : Mark}

theorem mark?_mem (h : l.mark? id = some m) : m ∈ l.marks := List.mem_of_find?_eq_some h

theorem mark?_id (h : l.mark? id = some m) : m.id = id := by
  have := List.find?_some h
  simpa using this

theorem Sound.mark?_of_mem (hl : Sound b l) (hm : m ∈ l.marks) : l.mark? m.id = some m := by
  have hord := hl.ordered
  unfold mark?
  generalize l.marks = ms at hm hord
  induction ms with
  | nil => cases hm
  | cons a rest ih =>
    rw [List.map_cons, List.pairwise_cons] at hord
    rcases List.mem_cons.mp hm with rfl | hm
    · simp
    · have hlt : a.id < m.id := hord.1 _ (List.mem_map_of_mem hm)
      have hne : (a.id == m.id) = false := beq_false_of_ne (Nat.ne_of_lt hlt)
      rw [List.find?_cons, hne]
      exact ih hm hord.2

theorem edit_marks_ids (l : Ledger) (id : StreamId) {f : Mark → Mark}
    (hf : ∀ m, (f m).id = m.id) : (l.edit id f).marks.map (·.id) = l.marks.map (·.id) := by
  simp only [edit, List.map_map]
  refine List.map_congr_left fun m _ => ?_
  simp only [Function.comp]
  split
  · exact hf m
  · rfl

theorem mem_edit {f : Mark → Mark} {m' : Mark} (h : m' ∈ (l.edit id f).marks) :
    ∃ m ∈ l.marks, (m.id = id ∧ m' = f m) ∨ (m.id ≠ id ∧ m' = m) := by
  obtain ⟨m, hm, rfl⟩ := List.mem_map.mp h
  refine ⟨m, hm, ?_⟩
  split
  · next he => exact Or.inl ⟨he, rfl⟩
  · next he => exact Or.inr ⟨he, rfl⟩

theorem mark?_edit {f : Mark → Mark} (hf : ∀ m, (f m).id = m.id) (id' : StreamId) :
    (l.edit id f).mark? id' = (l.mark? id').map fun m => if m.id = id then f m else m := by
  simp only [mark?, edit, List.find?_map]
  congr 1
  refine congrFun (congrArg _ (funext fun m => ?_)) _
  simp only [Function.comp]
  split
  · rw [hf]
  · rfl

theorem mark?_edit_same {f : Mark → Mark} (hf : ∀ m, (f m).id = m.id)
    (h : l.mark? id = some m) : (l.edit id f).mark? id = some (f m) := by
  rw [mark?_edit hf, h, Option.map_some, if_pos (mark?_id h)]

theorem Sound.nodup (hl : Sound b l) : l.active.Nodup := hl.ascending.imp Nat.ne_of_lt

theorem Sound.length_le (hl : Sound b l) : l.active.length ≤ l.next := by
  have hsub : l.active ⊆ List.range l.next := by
    intro id hid
    obtain ⟨m, hm, rfl⟩ := hl.present id hid
    exact List.mem_range.mpr (hl.below m hm)
  simpa using (hl.nodup.subperm hsub).length_le

/-- A change that only concerns the status of a stream. -/
theorem Sound.edit {f : Mark → Mark} (hl : Sound b l) (hid : ∀ m, (f m).id = m.id)
    (hins : ∀ m, (f m).inserted = m.inserted) (hcom : ∀ m, (f m).completed = m.completed) :
    Sound b (l.edit id f) where
  ascending := hl.ascending
  ordered := by
    rw [edit_marks_ids l id hid]
    exact hl.ordered
  below := by
    intro m' hm'
    obtain ⟨m, hm, ⟨-, rfl⟩ | ⟨-, rfl⟩⟩ := mem_edit hm'
    · exact (hid m).symm ▸ hl.below m hm
    · exact hl.below m' hm
  fits := hl.fits
  present := by
    intro id' hid'
    have hmem : id' ∈ (l.edit id f).marks.map (·.id) := by
      rw [edit_marks_ids l id hid]
      exact List.mem_map.mpr (hl.present id' hid')
    exact List.mem_map.mp hmem
  flagged := by
    intro m' hm'
    obtain ⟨m, hm, ⟨-, rfl⟩ | ⟨-, rfl⟩⟩ := mem_edit hm'
    · rw [hins, hid]
      exact hl.flagged m hm
    · exact hl.flagged m' hm
  open_iff := by
    intro m' hm'
    obtain ⟨m, hm, ⟨-, rfl⟩ | ⟨-, rfl⟩⟩ := mem_edit hm'
    · rw [hcom, hid]
      exact hl.open_iff m hm
    · exact hl.open_iff m' hm
  gauged := hl.gauged
  counted := hl.counted
  timed_add := hl.timed_add
  linked := hl.linked

/-! ## A stream begins, and is dropped

A new mark, and a mark that goes. -/

theorem Sound.start (hl : Sound b l) (hfits : l.next + 1 < 2 ^ 64) : Sound b l.start where
  ascending := by
    refine List.pairwise_append.mpr ⟨hl.ascending, List.pairwise_singleton _ _, ?_⟩
    intro a ha b hb
    obtain ⟨m, hm, rfl⟩ := hl.present a ha
    rw [List.mem_singleton.mp hb]
    exact hl.below m hm
  ordered := by
    simp only [Ledger.start, List.map_append, List.map_cons, List.map_nil]
    refine List.pairwise_append.mpr ⟨hl.ordered, List.pairwise_singleton _ _, ?_⟩
    intro a ha b hb
    obtain ⟨m, hm, rfl⟩ := List.mem_map.mp ha
    rw [List.mem_singleton.mp hb]
    exact hl.below m hm
  below := by
    intro m hm
    rcases List.mem_append.mp hm with hm | hm
    · exact Nat.lt_succ_of_lt (hl.below m hm)
    · rw [List.mem_singleton.mp hm]
      exact Nat.lt_succ_self l.next
  fits := hfits
  present := by
    intro id hid
    rcases List.mem_append.mp hid with hid | hid
    · obtain ⟨m, hm, he⟩ := hl.present id hid
      exact ⟨m, List.mem_append_left _ hm, he⟩
    · exact ⟨_, List.mem_append_right _ List.mem_cons_self, (List.mem_singleton.mp hid).symm⟩
  flagged := by
    intro m hm
    rcases List.mem_append.mp hm with hm | hm
    · have hne : m.id ≠ l.next := Nat.ne_of_lt (hl.below m hm)
      simpa [Ledger.start, hne] using hl.flagged m hm
    · simp [Ledger.start, List.mem_singleton.mp hm]
  open_iff := by
    intro m hm
    rcases List.mem_append.mp hm with hm | hm
    · have hne : m.id ≠ l.next := Nat.ne_of_lt (hl.below m hm)
      simpa [Ledger.start, hne] using hl.open_iff m hm
    · simp [Ledger.start, List.mem_singleton.mp hm]
  gauged := by
    intro hroom
    -- No more streams are in flight than ever began, so the gauge does not go round.
    have hroom : b.gauge.value.toNat + (l.next + 1) < 2 ^ 64 := hroom
    have h := hl.gauged (by omega)
    have hle := hl.length_le
    simp only [Ledger.start, Gauge.inc, UInt64.toNat_add, List.length_append, List.length_singleton]
    have : (1 : UInt64).toNat = 1 := rfl
    omega
  counted := congrArg (· + 1) hl.counted
  timed_add := by
    have h := hl.timed_add
    simp only [Ledger.start, List.length_append, List.length_singleton]
    omega
  linked := hl.linked

theorem Sound.drop (hl : Sound b l) (hid : id ∉ l.active) : Sound b (l.drop id) where
  ascending := hl.ascending
  ordered := hl.ordered.sublist (List.filter_sublist.map _)
  below := fun m hm => hl.below m (List.mem_filter.mp hm).1
  fits := hl.fits
  present := by
    intro id' hid'
    obtain ⟨m, hm, rfl⟩ := hl.present id' hid'
    refine ⟨m, List.mem_filter.mpr ⟨hm, ?_⟩, rfl⟩
    exact bne_iff_ne.mpr fun he => hid (he ▸ hid')
  flagged := fun m hm => hl.flagged m (List.mem_filter.mp hm).1
  open_iff := fun m hm => hl.open_iff m (List.mem_filter.mp hm).1
  gauged := hl.gauged
  counted := hl.counted
  timed_add := hl.timed_add
  linked := hl.linked

/-! ## A stream is over

The mark is set and the stream leaves those in flight. Both can have been done before, and the cases
differ in what is counted. -/

/-- A stream that is not in flight has left, so it cannot be finished again. -/
theorem Sound.finish_of_over (hl : Sound b l) (hover : ∀ m, l.mark? id = some m → m.completed = true) :
    l.finish id = l := by
  unfold finish
  have hc : l.complete id = l := by
    unfold complete
    split
    · rfl
    · next m hm => rw [if_pos (hover m hm)]
  rw [hc]
  unfold leave
  split
  · rfl
  · next m hm =>
    have hmem := mark?_mem hm
    have hout : m.id ∉ l.active := by
      rw [← hl.open_iff m hmem, hover m hm]
      decide
    have hins : m.inserted = false := by
      rw [← Bool.not_eq_true, hl.flagged m hmem]
      exact hout
    rw [hins]
    rfl

/-- What is counted for a stream that is over. One without a status is counted under none. -/
def recorded (m : Mark) (byStatus : LabelledCounter) : LabelledCounter :=
  match m.status with
  | some code => byStatus.inc code.name
  | none => byStatus

/-- The ledger once a stream in flight is over and has left: the two steps of `finish` in one. -/
def settle (l : Ledger) (id : StreamId) (byStatus : LabelledCounter) : Ledger :=
  { l.edit id fun m => { m with completed := true, inserted := false } with
    active := l.active.erase id
    gauge := l.gauge.dec
    timed := l.timed + 1
    byStatus }

theorem Sound.finish_of_open (hl : Sound b l) (hm : l.mark? id = some m)
    (ho : m.completed = false) : l.finish id = l.settle id (recorded m l.byStatus) := by
  have hmem := mark?_mem hm
  have hid := mark?_id hm
  have hin : m.id ∈ l.active := (hl.open_iff m hmem).mp ho
  have hins : m.inserted = true := (hl.flagged m hmem).mpr hin
  have hc : l.complete id =
      { l.edit id fun m => { m with completed := true } with
        timed := l.timed + 1
        byStatus := recorded m l.byStatus } := by
    unfold complete
    rw [hm]
    simp only [ho]
    rfl
  have hm' : (l.complete id).mark? id = some { m with completed := true } := by
    rw [hc]
    exact mark?_edit_same (f := fun m => { m with completed := true }) (fun _ => rfl) hm
  have hcon : (l.complete id).active.contains id = true := by
    rw [hc, List.contains_iff_mem]
    exact hid ▸ hin
  unfold finish leave
  rw [hm']
  simp only [hins, Bool.not_true, Bool.false_eq_true, if_false]
  have hcon' : ((l.complete id).edit id fun m => { m with inserted := false }).active.contains id =
      true := hcon
  rw [if_pos hcon', hc]
  -- Both edits concern the same mark, so they are one.
  unfold settle
  congr 1
  simp only [Ledger.edit, List.map_map]
  refine List.map_congr_left fun m _ => ?_
  by_cases he : m.id = id
  · simp only [Function.comp, he, if_true]
  · simp only [Function.comp, he, if_false]

theorem Sound.settle (hl : Sound b l) (hin : id ∈ l.active) (byStatus : LabelledCounter) :
    Sound b (l.settle id byStatus) where
  ascending := hl.ascending.sublist List.erase_sublist
  ordered := by
    have h := edit_marks_ids l id
      (f := fun m => { m with completed := true, inserted := false }) fun _ => rfl
    exact h.symm ▸ hl.ordered
  below := by
    intro m' hm'
    obtain ⟨m, hm, ⟨-, rfl⟩ | ⟨-, rfl⟩⟩ := mem_edit hm'
    · exact hl.below m hm
    · exact hl.below m' hm
  fits := hl.fits
  present := by
    intro id' hid'
    have h := edit_marks_ids l id
      (f := fun m => { m with completed := true, inserted := false }) fun _ => rfl
    have hmem : id' ∈ (l.settle id byStatus).marks.map (·.id) := by
      refine h.symm ▸ List.mem_map.mpr (hl.present id' ?_)
      exact List.mem_of_mem_erase hid'
    exact List.mem_map.mp hmem
  flagged := by
    intro m' hm'
    obtain ⟨m, hm, ⟨he, rfl⟩ | ⟨he, rfl⟩⟩ := mem_edit hm'
    · simp [Ledger.settle, hl.nodup.mem_erase_iff, he]
    · simp [Ledger.settle, hl.nodup.mem_erase_iff, he, hl.flagged m' hm]
  open_iff := by
    intro m' hm'
    obtain ⟨m, hm, ⟨he, rfl⟩ | ⟨he, rfl⟩⟩ := mem_edit hm'
    · simp [Ledger.settle, hl.nodup.mem_erase_iff, he]
    · simp [Ledger.settle, hl.nodup.mem_erase_iff, he, hl.open_iff m' hm]
  gauged := by
    intro hroom
    have hg := hl.gauged hroom
    -- One is in flight, so that the gauge is above zero and can go down.
    have hpos : 0 < l.active.length := List.length_pos_of_mem hin
    have hone : (1 : UInt64).toNat = 1 := rfl
    have hne : l.gauge.value ≠ 0 := by
      intro h0
      rw [h0, UInt64.toNat_zero] at hg
      omega
    have hle : (1 : UInt64) ≤ l.gauge.value := by
      rw [UInt64.le_iff_toNat_le]
      omega
    simp only [Ledger.settle, Gauge.dec, if_neg hne, UInt64.toNat_sub_of_le _ _ hle,
      List.length_erase_of_mem hin]
    omega
  counted := hl.counted
  timed_add := by
    have h := hl.timed_add
    have hpos : 0 < l.active.length := List.length_pos_of_mem hin
    simp only [Ledger.settle, List.length_erase_of_mem hin]
    show l.timed + 1 + (l.active.length - 1) = b.timed + l.next
    omega
  linked := hl.linked

/-! ## The balance

The ledger against the one that the connection began with. -/

def isOpen (l : Ledger) (id : StreamId) : Bool := (l.mark? id).any (!·.completed)

/-- A stream ends by being reset. -/
def reset (l : Ledger) (id : StreamId) : Ledger :=
  (if l.isOpen id then l.countReset else l).finish id

/-- A stream ends by being answered. -/
def reply (l : Ledger) (id : StreamId) (code : StatusCode) : Ledger :=
  (l.answer id code).finish id

/-- A sound ledger in which every stream that began is in flight or has ended in exactly one way:
it was answered, it was reset, or it is among the `direct` streams that were completed directly. -/
structure Balanced (b l : Ledger) (direct : Nat) : Prop extends Sound b l where
  /-- A stream in flight has no status yet. -/
  blank : ∀ m ∈ l.marks, m.completed = false → m.status = none
  /-- Every stream is counted once. -/
  conserved : l.active.length + l.byStatus.total + l.resets + direct =
    b.byStatus.total + b.resets + l.next

variable {direct : Nat}

theorem Balanced.start (hl : Balanced b l direct) (hfits : l.next + 1 < 2 ^ 64) :
    Balanced b l.start direct where
  toSound := hl.toSound.start hfits
  blank := by
    intro m hm ho
    rcases List.mem_append.mp hm with hm | hm
    · exact hl.blank m hm ho
    · rw [List.mem_singleton.mp hm]
  conserved := by
    have h := hl.conserved
    simp only [Ledger.start, List.length_append, List.length_singleton]
    omega

theorem Balanced.drop (hl : Balanced b l direct) (hid : id ∉ l.active) :
    Balanced b (l.drop id) direct where
  toSound := hl.toSound.drop hid
  blank := fun m hm => hl.blank m (List.mem_filter.mp hm).1
  conserved := hl.conserved

theorem settle_conserved {byStatus : LabelledCounter} {resets ways total : Nat}
    (hin : id ∈ l.active) (h : l.active.length + byStatus.total + resets + ways = total + 1) :
    (l.active.erase id).length + byStatus.total + resets + ways = total := by
  have hpos : 0 < l.active.length := List.length_pos_of_mem hin
  rw [List.length_erase_of_mem hin]
  omega

theorem settle_blank {byStatus : LabelledCounter}
    (hb : ∀ m ∈ l.marks, m.id ≠ id → m.completed = false → m.status = none) :
    ∀ m ∈ (l.settle id byStatus).marks, m.completed = false → m.status = none := by
  intro m' hm' ho
  obtain ⟨m, hm, ⟨-, rfl⟩ | ⟨hne, rfl⟩⟩ := mem_edit hm'
  · cases ho
  · exact hb m' hm hne ho

theorem isOpen_iff : l.isOpen id = true ↔ ∃ m, l.mark? id = some m ∧ m.completed = false := by
  unfold isOpen
  cases l.mark? id with
  | none => simp
  | some m => simp

theorem over_of_not_isOpen (h : ¬l.isOpen id = true) :
    ∀ m, l.mark? id = some m → m.completed = true := by
  intro m hm
  cases hc : m.completed with
  | true => rfl
  | false => exact absurd (isOpen_iff.mpr ⟨m, hm, hc⟩) h

/-- A stream that ends without a word counts as completed directly, unless it was over before. -/
theorem Balanced.finish (hl : Balanced b l direct) :
    Balanced b (l.finish id) (direct + (l.isOpen id).toNat) := by
  by_cases ho : l.isOpen id = true
  · obtain ⟨m, hm, hc⟩ := isOpen_iff.mp ho
    have hmem := mark?_mem hm
    have hin : id ∈ l.active := mark?_id hm ▸ (hl.open_iff m hmem).mp hc
    have hrec : recorded m l.byStatus = l.byStatus := by
      rw [recorded, hl.blank m hmem hc]
    rw [hl.toSound.finish_of_open hm hc, hrec, ho]
    refine ⟨hl.toSound.settle hin _, settle_blank fun m hm _ => hl.blank m hm, ?_⟩
    refine settle_conserved hin ?_
    have h := hl.conserved
    show l.active.length + l.byStatus.total + l.resets + (direct + 1) =
      b.byStatus.total + b.resets + l.next + 1
    omega
  · rw [hl.toSound.finish_of_over (over_of_not_isOpen ho), eq_false_of_ne_true ho]
    exact hl

/-- A stream that is reset counts as reset, unless it was over before. -/
theorem Balanced.reset (hl : Balanced b l direct) : Balanced b (l.reset id) direct := by
  unfold Ledger.reset
  by_cases ho : l.isOpen id = true
  · obtain ⟨m, hm, hc⟩ := isOpen_iff.mp ho
    have hmem := mark?_mem hm
    have hin : id ∈ l.active := mark?_id hm ▸ (hl.open_iff m hmem).mp hc
    have hsound : Sound b l.countReset := { hl.toSound with }
    have hrec : recorded m l.countReset.byStatus = l.byStatus := by
      rw [recorded, hl.blank m hmem hc]
      rfl
    rw [if_pos ho, hsound.finish_of_open hm hc, hrec]
    refine ⟨hsound.settle hin _, settle_blank fun m hm _ => hl.blank m hm, ?_⟩
    refine settle_conserved (l := l) hin ?_
    have h := hl.conserved
    show l.active.length + l.byStatus.total + (l.resets + 1) + direct =
      b.byStatus.total + b.resets + l.next + 1
    omega
  · rw [if_neg ho, hl.toSound.finish_of_over (over_of_not_isOpen ho)]
    exact hl

/-- A stream that is answered counts under its status, unless it was over before. -/
theorem Balanced.reply (hl : Balanced b l direct) (code : StatusCode) :
    Balanced b (l.reply id code) direct := by
  unfold Ledger.reply
  have hsound : Sound b (l.answer id code) :=
    hl.toSound.edit (fun _ => rfl) (fun _ => rfl) (fun _ => rfl)
  by_cases ho : l.isOpen id = true
  · obtain ⟨m, hm, hc⟩ := isOpen_iff.mp ho
    have hmem := mark?_mem hm
    have hin : id ∈ l.active := mark?_id hm ▸ (hl.open_iff m hmem).mp hc
    have hm' : (l.answer id code).mark? id = some { m with status := some code } :=
      mark?_edit_same (f := fun m => { m with status := some code }) (fun _ => rfl) hm
    rw [hsound.finish_of_open hm' hc]
    refine ⟨hsound.settle hin _, settle_blank ?_, ?_⟩
    · intro m' hm' hne
      obtain ⟨m, hm, ⟨he, rfl⟩ | ⟨-, rfl⟩⟩ := mem_edit hm'
      · exact absurd he hne
      · exact hl.blank m' hm
    · refine settle_conserved (l := l) hin ?_
      have h := hl.conserved
      have hinc : (recorded { m with status := some code } (l.answer id code).byStatus) =
          l.byStatus.inc code.name := rfl
      have htotal := l.byStatus.total_inc code.name
      rw [hinc]
      show l.active.length + (l.byStatus.inc code.name).total + l.resets + direct =
        b.byStatus.total + b.resets + l.next + 1
      omega
  · have hover := over_of_not_isOpen ho
    have hover' : ∀ m, (l.answer id code).mark? id = some m → m.completed = true := by
      intro m' hm'
      rw [answer, mark?_edit (f := fun m => { m with status := some code }) fun _ => rfl] at hm'
      obtain ⟨m, hm, rfl⟩ := Option.map_eq_some_iff.mp hm'
      rw [if_pos (mark?_id hm)]
      exact hover m hm
    rw [hsound.finish_of_over hover']
    refine ⟨hsound, ?_, hl.conserved⟩
    -- Only the mark of a stream that is over got a status.
    intro m' hm' hc
    obtain ⟨m, hm, ⟨he, rfl⟩ | ⟨-, rfl⟩⟩ := mem_edit hm'
    · have := hover m (he ▸ hl.toSound.mark?_of_mem hm)
      exact absurd hc (by simp [this])
    · exact hl.blank m' hm hc

end Ledger

end RpcProxy

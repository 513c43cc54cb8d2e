import RpcProxy.Proofs.Wire.Pieces
import RpcProxy.Proofs.Wire.ReadBack

/-!
# Octets arrive in reads

A reader decodes after every read and keeps what is not finished for the next one (`decodeEach`).
Two things are to be known about it.

Cuts between reads are not seen, as long as lines fit: the reports up to the first failure are those
for all the octets at once, and so is what is kept (`reports_of_cut`). Everything comes from one
law, `decode_append`: without a failure, decoding goes on behind what was kept. Behind a failure the
reports may differ, since a read that fails throws away what has come and the next one begins anew;
whoever cuts the octets elsewhere has thrown away more or less.

Whether a line fits is only looked at while it is not finished. A line that is finished by the read
that brings its newline is judged by what it holds, however long it is (`decode_eq_judge`), so it is
refused for its length exactly if too much of it came in earlier reads (`limit_binds_unfinished`).
-/

set_option autoImplicit false

namespace RpcProxy.Wire

/-- What a reader reports for each read, and what it keeps in the end, `buffer` being what it has
kept so far. -/
def decodeEach (buffer : Bytes) : List Bytes → List (List Event) × Bytes
  | [] => ([], buffer)
  | piece :: pieces =>
    let (report, left) := decode (buffer ++ piece)
    let (reports, last) := decodeEach left pieces
    (report :: reports, last)

/-- The reports up to the first failure, and with it. -/
def upToFailure : List Event → List Event
  | [] => []
  | .failure :: _ => [.failure]
  | .request r :: events => .request r :: upToFailure events

/-- No line is too long, the unfinished one at the end included. -/
def LinesFit (octets : Bytes) : Prop :=
  ∀ line ∈ octets.splitOn Bytes.newline, line.length ≤ maxLine

/-- What is reported for lines of which the last is not finished: that one is judged by its length,
and the others by what they hold. -/
def judge : List Bytes → List Event
  | [] => []
  | [tail] => if tail.length > maxLine then [.failure] else []
  | line :: next :: lines => (readLine line).reports (judge (next :: lines))

variable {buffer held line rest more octets : Bytes} {pieces : List Bytes}

/-! ## One read

What one read makes of the octets that wait and those that came. -/

/-- Finished lines are judged by what they hold, and the last one by its length. -/
theorem decode_eq_judge (octets : Bytes) :
    (decode octets).1 = judge (octets.splitOn Bytes.newline) := by
  induction octets using Bytes.linesInduction with
  | unfinished bs h =>
    rw [decode_open h, List.splitOn_eq_singleton h, judge]
    split <;> rfl
  | line line rest h ih =>
    rw [decode_finished h, List.splitOn_append_cons_self_of_not_mem h, ih]
    cases hrest : rest.splitOn Bytes.newline with
    | nil => exact absurd hrest (List.splitOn_ne_nil _ _)
    | cons next lines => rfl

/-- What is kept is no whole line, and no more than a line may have. -/
theorem decode_keeps (octets : Bytes) :
    Bytes.newline ∉ (decode octets).2 ∧ (decode octets).2.length ≤ maxLine := by
  induction octets using Bytes.linesInduction with
  | unfinished bs h =>
    rw [decode_open h]
    split
    · exact ⟨List.not_mem_nil, Nat.zero_le _⟩
    · next hshort => exact ⟨h, Nat.not_lt.mp hshort⟩
  | line line rest h ih =>
    rw [decode_finished h]
    dsimp only
    split
    · exact ⟨List.not_mem_nil, Nat.zero_le _⟩
    · exact ih

/-- If nothing fails, a finished line and what is behind it are decoded one after the other. -/
theorem decode_finished_quiet (hline : Bytes.newline ∉ line)
    (h : .failure ∉ (decode (line ++ Bytes.newline :: rest)).1) :
    readLine line ≠ .malformed ∧ .failure ∉ (decode rest).1 ∧
      (decode (line ++ Bytes.newline :: rest)).2 = (decode rest).2 := by
  rw [decode_finished hline] at h ⊢
  cases hread : readLine line with
  | malformed =>
    rw [hread] at h
    exact absurd List.mem_cons_self h
  | blank =>
    rw [hread] at h
    exact ⟨nofun, h, rfl⟩
  | request r =>
    rw [hread] at h
    exact ⟨nofun, fun hmem => h (List.mem_cons_of_mem _ hmem), rfl⟩

/-- If nothing fails, what is kept is what stands behind the last newline. -/
theorem getLast?_splitOn (h : .failure ∉ (decode octets).1) :
    (octets.splitOn Bytes.newline).getLast? = some (decode octets).2 := by
  induction octets using Bytes.linesInduction with
  | unfinished bs hbs =>
    rw [decode_open hbs] at h ⊢
    split at h
    · exact absurd List.mem_cons_self h
    · next hshort => rw [if_neg hshort, List.splitOn_eq_singleton hbs, List.getLast?_singleton]
  | line line rest hline ih =>
    obtain ⟨-, hquiet, hleft⟩ := decode_finished_quiet hline h
    rw [List.splitOn_append_cons_self_of_not_mem hline, hleft, List.getLast?_cons, ih hquiet]
    rfl

/-! ## Lines that fit

A line that is short enough is reported when it is complete, in whatever pieces it comes. -/

theorem linesFit_line (hline : Bytes.newline ∉ line) :
    LinesFit (line ++ Bytes.newline :: rest) ↔ line.length ≤ maxLine ∧ LinesFit rest := by
  unfold LinesFit
  rw [List.splitOn_append_cons_self_of_not_mem hline, List.forall_mem_cons]

/-- A line that fits is not too long before its end has come. -/
theorem LinesFit.unfinished (h : LinesFit (held ++ more)) (hheld : Bytes.newline ∉ held) :
    held.length ≤ maxLine := by
  by_cases hmem : Bytes.newline ∈ more
  · obtain ⟨first, behind, rfl, hfirst⟩ := List.eq_append_cons_of_mem hmem
    have hline : Bytes.newline ∉ held ++ first := by simp [hheld, hfirst]
    rw [← List.append_assoc, linesFit_line hline, List.length_append] at h
    omega
  · have hline : Bytes.newline ∉ held ++ more := by simp [hheld, hmem]
    have hfits := h _ (by rw [List.splitOn_eq_singleton hline]; exact List.mem_singleton_self _)
    rw [List.length_append] at hfits
    omega

/-- Without a failure, decoding goes on behind what was kept, and lines still fit if they did. -/
theorem decode_append (h : .failure ∉ (decode octets).1) (more : Bytes) :
    decode (octets ++ more) = ((decode octets).1 ++ (decode ((decode octets).2 ++ more)).1,
      (decode ((decode octets).2 ++ more)).2) ∧
    (LinesFit (octets ++ more) → LinesFit ((decode octets).2 ++ more)) := by
  induction octets using Bytes.linesInduction with
  | unfinished bs hbs =>
    rw [decode_open hbs] at h ⊢
    split at h
    · exact absurd List.mem_cons_self h
    · next hshort =>
      rw [if_neg hshort]
      exact ⟨rfl, id⟩
  | line line rest hline ih =>
    obtain ⟨hread, hquiet, hleft⟩ := decode_finished_quiet hline h
    obtain ⟨hgoes, hfits⟩ := ih hquiet
    rw [hleft, List.append_assoc, List.cons_append, linesFit_line hline]
    refine ⟨?_, fun hfitting => hfits hfitting.2⟩
    rw [decode_finished hline, decode_finished hline, hgoes, if_neg hread]
    cases hcontent : readLine line with
    | malformed => exact absurd hcontent hread
    | blank => rfl
    | request r => rfl

/-- A failure throws away what is behind it, as long as it is not about a length. -/
theorem decode_append_of_failure (h : .failure ∈ (decode octets).1)
    (hfits : LinesFit (octets ++ more)) : decode (octets ++ more) = decode octets := by
  induction octets using Bytes.linesInduction with
  | unfinished bs hbs =>
    rw [decode_unfinished hbs (hfits.unfinished hbs)] at h
    exact absurd h List.not_mem_nil
  | line line rest hline ih =>
    rw [List.append_assoc, List.cons_append] at hfits ⊢
    rw [decode_finished hline] at h ⊢
    rw [decode_finished hline]
    cases hcontent : readLine line with
    | malformed => rfl
    | blank =>
      rw [hcontent] at h
      rw [ih h ((linesFit_line hline).mp hfits).2]
    | request r =>
      rw [hcontent] at h
      have hmem : .failure ∈ (decode rest).1 := (List.mem_cons.mp h).resolve_left nofun
      rw [ih hmem ((linesFit_line hline).mp hfits).2]

/-! ## One read after another

Reads are put together, up to the first failure; what comes behind a failure is not looked at. -/

theorem decodeEach_cons (buffer piece : Bytes) (pieces : List Bytes) :
    decodeEach buffer (piece :: pieces) =
      ((decode (buffer ++ piece)).1 :: (decodeEach (decode (buffer ++ piece)).2 pieces).1,
        (decodeEach (decode (buffer ++ piece)).2 pieces).2) := rfl

theorem upToFailure_append (requests : List Request) (events : List Event) :
    upToFailure (requests.map .request ++ events) = requests.map .request ++ upToFailure events := by
  induction requests with
  | nil => rfl
  | cons r requests ih => exact congrArg (Event.request r :: ·) ih

theorem mem_of_mem_upToFailure {event : Event} {events : List Event} (h : event ∈ upToFailure events) :
    event ∈ events := by
  induction events with
  | nil => exact h
  | cons first events ih =>
    cases first with
    | failure => exact List.mem_cons.mpr (Or.inl (List.mem_singleton.mp h))
    | request r => exact List.mem_cons.mpr ((List.mem_cons.mp h).imp_right ih)

/-- A read that fails is the last one that counts. -/
theorem upToFailure_report (h : .failure ∈ (decode octets).1) (events : List Event) :
    upToFailure ((decode octets).1 ++ events) = (decode octets).1 := by
  obtain ⟨requests, hall | ⟨hall, -⟩⟩ := decode_cases octets
  · rw [hall] at h
    simp at h
  · rw [hall, List.append_assoc, upToFailure_append]
    rfl

/-- A read without a failure counts in full. -/
theorem upToFailure_quiet (h : .failure ∉ (decode octets).1) (events : List Event) :
    upToFailure ((decode octets).1 ++ events) = (decode octets).1 ++ upToFailure events := by
  obtain ⟨requests, hall | ⟨hall, -⟩⟩ := decode_cases octets
  · rw [hall, upToFailure_append]
  · rw [hall] at h
    simp at h

/-- A read that nothing follows counts in full. -/
theorem upToFailure_decode (octets : Bytes) (buffer : Bytes) :
    upToFailure ((decode octets).1 ++ (decodeEach buffer []).1.flatten) = (decode octets).1 := by
  by_cases hfails : .failure ∈ (decode octets).1
  · exact upToFailure_report hfails _
  · exact (upToFailure_quiet hfails _).trans (List.append_nil _)

/-- Reads are decoded as if their octets had come at once. -/
theorem decodeEach_flatten (hfitting : LinesFit (held ++ pieces.flatten)) (hheld : Bytes.newline ∉ held) :
    upToFailure (decodeEach held pieces).1.flatten = (decode (held ++ pieces.flatten)).1 ∧
      (.failure ∉ (decode (held ++ pieces.flatten)).1 →
        (decodeEach held pieces).2 = (decode (held ++ pieces.flatten)).2) := by
  induction pieces generalizing held with
  | nil =>
    have hopen := decode_unfinished hheld (hfitting.unfinished hheld)
    rw [List.flatten_nil, List.append_nil, hopen]
    exact ⟨rfl, fun _ => rfl⟩
  | cons piece pieces ih =>
    rw [List.flatten_cons, ← List.append_assoc] at hfitting ⊢
    rw [decodeEach_cons, List.flatten_cons]
    by_cases hfails : .failure ∈ (decode (held ++ piece)).1
    · rw [decode_append_of_failure hfails hfitting]
      exact ⟨upToFailure_report hfails _, fun h => absurd hfails h⟩
    · obtain ⟨hgoes, hfits⟩ := decode_append hfails pieces.flatten
      obtain ⟨hreports, hleft⟩ := ih (hfits hfitting) (decode_keeps _).1
      rw [hgoes, upToFailure_quiet hfails, hreports]
      refine ⟨rfl, fun h => hleft fun hmem => h (List.mem_append_right _ hmem)⟩

theorem mem_decodeEach {report : List Event} (h : report ∈ (decodeEach held pieces).1) :
    ∃ octets, report = (decode octets).1 := by
  induction pieces generalizing held with
  | nil => exact absurd h List.not_mem_nil
  | cons piece pieces ih =>
    rcases List.mem_cons.mp h with rfl | h
    · exact ⟨_, rfl⟩
    · exact ih h

/-- How octets are cut into reads does not matter: up to the first failure the reports are those for
all octets at once, and without a failure what stands behind the last newline is kept. A read
reports at most one failure, as the last thing. -/
theorem reports_of_cut (hcut : pieces.flatten = octets) (hfits : LinesFit octets) :
    upToFailure (decodeEach [] pieces).1.flatten = (decode octets).1 ∧
      (.failure ∉ (decodeEach [] pieces).1.flatten →
        (decodeEach [] pieces).2 = (decode octets).2 ∧
        (octets.splitOn Bytes.newline).getLast? = some (decodeEach [] pieces).2) ∧
      ∀ report ∈ (decodeEach [] pieces).1, ∃ requests : List Request,
        report = requests.map .request ∨ report = requests.map .request ++ [.failure] := by
  subst hcut
  have hstart : LinesFit ([] ++ pieces.flatten) := hfits
  obtain ⟨hreports, hleft⟩ := decodeEach_flatten hstart List.not_mem_nil
  rw [List.nil_append] at hreports hleft
  refine ⟨hreports, fun hquiet => ?_, fun report hmem => ?_⟩
  · have hnone : .failure ∉ (decode pieces.flatten).1 := fun hmem =>
      hquiet (mem_of_mem_upToFailure (hreports ▸ hmem))
    rw [hleft hnone]
    exact ⟨rfl, getLast?_splitOn hnone⟩
  · obtain ⟨octets, rfl⟩ := mem_decodeEach hmem
    obtain ⟨requests, hall | ⟨hall, -⟩⟩ := decode_cases octets
    · exact ⟨requests, Or.inl hall⟩
    · exact ⟨requests, Or.inr hall⟩

/-- The reads cut a character in two and a line end in two, and one of them is empty. -/
theorem reports_of_cut_inside_character :
    let octets := Bytes.ofText "a b k=é\r\nx"
    let pieces : List Bytes := [[97, 32, 98, 32, 107, 61, 195], [169, 13], [], [10, 120]]
    pieces.flatten = octets ∧ LinesFit octets ∧
      upToFailure (decodeEach [] pieces).1.flatten =
        [.request { service := "a", method := "b", properties := .ofList [("k", "é")] }] ∧
      (decodeEach [] pieces).2 = [120] := by
  intro octets pieces
  have hcut : pieces.flatten = octets := by decide +kernel
  have hfits : LinesFit octets := by
    unfold LinesFit
    decide +kernel
  obtain ⟨hreports, hleft, -⟩ := reports_of_cut hcut hfits
  refine ⟨hcut, hfits, hreports.trans (by decide +kernel), ?_⟩
  exact (hleft (by decide +kernel)).1.trans (by decide +kernel)

/-! ## The limit

The length is looked at where no line is complete. A line that never ends is given up, and one that
came with its end is not. -/

/-- What is kept between reads is no whole line, and no more than a line may have. -/
theorem decodeEach_keeps (hheld : Bytes.newline ∉ held ∧ held.length ≤ maxLine) (pieces : List Bytes) :
    Bytes.newline ∉ (decodeEach held pieces).2 ∧ (decodeEach held pieces).2.length ≤ maxLine := by
  induction pieces generalizing held with
  | nil => exact hheld
  | cons piece pieces ih => exact ih (decode_keeps _)

/-- Reads that bring no newline are kept, as long as they fit. -/
theorem decodeEach_waits (hopen : Bytes.newline ∉ held ++ pieces.flatten)
    (hshort : (held ++ pieces.flatten).length ≤ maxLine) (later : List Bytes) :
    decodeEach held (pieces ++ later) =
      (pieces.map (fun _ => []) ++ (decodeEach (held ++ pieces.flatten) later).1,
        (decodeEach (held ++ pieces.flatten) later).2) := by
  induction pieces generalizing held with
  | nil =>
    rw [List.flatten_nil, List.append_nil]
    rfl
  | cons piece pieces ih =>
    rw [List.flatten_cons, ← List.append_assoc] at hopen hshort ⊢
    have hnow : Bytes.newline ∉ held ++ piece := fun hmem => hopen (List.mem_append_left _ hmem)
    have hfits : (held ++ piece).length ≤ maxLine := by
      rw [List.length_append] at hshort
      omega
    rw [List.cons_append, decodeEach_cons, decode_unfinished hnow hfits, ih hopen hshort]
    rfl

/-- Reads that bring no newline are given up once they do not fit any more. -/
theorem decodeEach_gives_up (hopen : Bytes.newline ∉ held ++ pieces.flatten)
    (hheld : held.length ≤ maxLine) (hlong : maxLine < (held ++ pieces.flatten).length)
    (later : List Bytes) : upToFailure (decodeEach held (pieces ++ later)).1.flatten = [.failure] := by
  induction pieces generalizing held with
  | nil =>
    rw [List.flatten_nil, List.append_nil] at hlong
    omega
  | cons piece pieces ih =>
    rw [List.flatten_cons, ← List.append_assoc] at hopen hlong
    have hnow : Bytes.newline ∉ held ++ piece := fun hmem => hopen (List.mem_append_left _ hmem)
    rw [List.cons_append, decodeEach_cons, decode_open hnow]
    by_cases hfits : (held ++ piece).length > maxLine
    · rw [if_pos hfits]
      rfl
    · rw [if_neg hfits]
      exact ih hopen (Nat.not_lt.mp hfits) hlong

/-- However octets have come before, what is held of a line when the next read comes is not longer
than a line may be, and that read reports finished lines for what they hold. So a line is given up
for its length exactly if more than that of it has come before the read that brings its newline, and
is else judged by what it holds, however much of it comes with that newline. -/
theorem limit_binds_unfinished {before pieces : List Bytes} {last rest : Bytes}
    (hline : Bytes.newline ∉ pieces.flatten ++ last) :
    ∃ held, (decodeEach [] before).2 = held ∧ Bytes.newline ∉ held ∧ held.length ≤ maxLine ∧
      (∀ piece, (decode (held ++ piece)).1 = judge ((held ++ piece).splitOn Bytes.newline)) ∧
      upToFailure (decodeEach held (pieces ++ [last ++ Bytes.newline :: rest])).1.flatten =
        if maxLine < (held ++ pieces.flatten).length then [.failure]
        else (readLine (held ++ pieces.flatten ++ last)).reports (decode rest).1 := by
  have hstart : Bytes.newline ∉ ([] : Bytes) ∧ ([] : Bytes).length ≤ maxLine :=
    ⟨List.not_mem_nil, Nat.zero_le _⟩
  have hkeeps := decodeEach_keeps hstart before
  refine ⟨_, rfl, hkeeps.1, hkeeps.2, fun piece => decode_eq_judge _, ?_⟩
  generalize (decodeEach [] before).2 = held at hkeeps
  have hwhole : Bytes.newline ∉ held ++ pieces.flatten ++ last := by
    rw [List.append_assoc]
    exact List.not_mem_append hkeeps.1 hline
  have hopen : Bytes.newline ∉ held ++ pieces.flatten := fun hmem =>
    hwhole (List.mem_append_left _ hmem)
  split
  · next hlong => exact decodeEach_gives_up hopen hkeeps.2 hlong _
  · next hshort =>
    have hquiet : (pieces.map fun _ => ([] : List Event)).flatten = [] := by simp
    rw [decodeEach_waits hopen (Nat.not_lt.mp hshort), List.flatten_append, hquiet, List.nil_append,
      decodeEach_cons, List.flatten_cons, upToFailure_decode, ← List.append_assoc,
      decode_finished hwhole]

theorem trimEnd_eq_self {p : Char → Bool} {cs : List Char} (h : ∀ c ∈ cs, p c = false) :
    Text.trimEnd p cs = cs := by
  unfold Text.trimEnd
  cases hlast : cs.reverse with
  | nil => exact (List.reverse_eq_nil_iff.mp hlast).symm
  | cons c rest =>
    have hmem : c ∈ cs := List.mem_reverse.mp (hlast ▸ List.mem_cons_self)
    rw [List.dropWhile_cons_of_neg (by simp [h c hmem]), ← hlast, List.reverse_reverse]

/-- A line can be a request however long it is. -/
theorem readLine_padded (n : Nat) :
    readLine (Bytes.ofText (String.ofList ("a b k=".toList ++ List.replicate n 'x'))) =
      .request { service := "a", method := "b",
                 properties := .ofList [("k", String.ofList (List.replicate n 'x'))] } := by
  obtain ⟨padding, hpadding, hx⟩ : ∃ cs, List.replicate n 'x' = cs ∧ ∀ c ∈ cs, c = 'x' :=
    ⟨_, rfl, fun c hc => List.eq_of_mem_replicate hc⟩
  rw [hpadding]
  -- However long it is, the padding is one word, so that the line has three.
  have hproperty : isWritable ("k", String.ofList padding) = true := by
    have hkey : "k" ≠ "" ∧ Text.isWord "k" = true ∧ '=' ∉ "k".toList := by decide
    refine isWritable_iff.mpr ⟨hkey.1, hkey.2.1, hkey.2.2, Text.isWord_ofList.mpr fun c hc => ?_⟩
    rw [hx c hc]
    rfl
  have hruns : ∀ w ∈ [['b'], wordOf ("k", String.ofList padding)], Text.IsRun w :=
    List.forall_mem_cons.mpr ⟨⟨by decide, List.forall_mem_singleton.mpr rfl⟩,
      List.forall_mem_singleton.mpr (isRun_wordOf hproperty)⟩
  have hline : "a b k=".toList ++ padding =
      ['a'] ++ Text.spaced [['b'], wordOf ("k", String.ofList padding)] := by
    simp [Text.spaced, wordOf]
  have hend : Text.trimEnd (· == '\r') ("a b k=".toList ++ padding) = "a b k=".toList ++ padding := by
    refine trimEnd_eq_self fun c hc => ?_
    have hstart : ∀ c ∈ "a b k=".toList, (c == '\r') = false := by simp
    rcases List.mem_append.mp hc with hc | hc
    · exact hstart c hc
    · rw [hx c hc]
      rfl
  have hblank : ("a b k=".toList ++ padding).all Text.isBlank = false := by
    rw [List.all_append]
    rfl
  have hread := mapM_readProperty? (List.forall_mem_singleton.mpr hproperty)
  unfold readLine
  rw [Bytes.toText?_ofText]
  dsimp only
  rw [String.toList_ofList, hend, hblank, if_neg Bool.false_ne_true, hline,
    Request.parse?_words ⟨by decide, List.forall_mem_singleton.mpr rfl⟩ hruns, readProperties?]
  rw [List.map_cons, List.map_nil] at hread
  rw [hread]
  rfl

theorem length_padded (n : Nat) :
    (Bytes.ofText (String.ofList ("a b k=".toList ++ List.replicate n 'x'))).length = 6 + n := by
  have hx : (String.utf8EncodeChar 'x').length = 1 := rfl
  have hstart : ("a b k=".toList.flatMap String.utf8EncodeChar).length = 6 := rfl
  rw [Bytes.ofText_eq, String.toList_ofList, List.flatMap_append, List.length_append, hstart,
    List.length_flatMap, List.map_replicate, hx, List.sum_replicate_nat, Nat.mul_one]

/-- A line that comes in one read is a request, though it is longer than a line may be. -/
theorem limit_binds_unfinished_one_read :
    let text := String.ofList ("a b k=".toList ++ List.replicate maxLine 'x')
    let line := Bytes.ofText text
    Bytes.newline ∉ ([] : List Bytes).flatten ++ line ∧ maxLine < line.length ∧
      upToFailure (decodeEach [] [line ++ [Bytes.newline]]).1.flatten =
        [.request { service := "a", method := "b",
                    properties := .ofList [("k", String.ofList (List.replicate maxLine 'x'))] }] := by
  intro text line
  have hline : Bytes.newline ∉ ([] : List Bytes).flatten ++ line := by
    rw [List.flatten_nil, List.nil_append]
    intro hmem
    have htext := Bytes.newline_mem_ofText hmem
    rw [String.toList_ofList] at htext
    rcases List.mem_append.mp htext with hmem | hmem
    · exact absurd hmem (by decide)
    · have hne : '\n' ≠ 'x' := by decide
      exact hne (List.eq_of_mem_replicate hmem)
  have hlong : maxLine < line.length := by
    rw [length_padded]
    omega
  obtain ⟨held, rfl, -, -, -, hreports⟩ := @limit_binds_unfinished [] [] line [] hline
  have hnone : (decode []).1 = [] := by decide +kernel
  refine ⟨hline, hlong, hreports.trans ?_⟩
  rw [if_neg (by decide), decodeEach, List.flatten_nil, List.nil_append, List.nil_append,
    readLine_padded, hnone, LineContent.reports]

end RpcProxy.Wire

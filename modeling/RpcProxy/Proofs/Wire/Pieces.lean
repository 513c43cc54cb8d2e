import RpcProxy.Wire

/-!
# Lines that come in pieces

A reader gets the octets of a client in pieces, and a piece may end anywhere. What it has decoded at
any time depends only on the octets that have come: `decode_pieces` says that it has decoded the
lines that are whole, and keeps the octets of the one that is not. So no cut between pieces is ever
seen.

Lines have to be short enough for this. An unfinished line is given up when it is too long, and how
much of a line is unfinished depends on where it is cut.

The octets that are still to come are part of the statement. It is made for a client whose whole
input is known to be lines with requests, and tells for each piece where in that input the reader
is; a reader cannot know that, but a proof about all its pieces can.
-/

set_option autoImplicit false

namespace RpcProxy

theorem Bytes.splitLine?_line {line : Bytes} (h : Bytes.newline ∉ line) (rest : Bytes) :
    Bytes.splitLine? (line ++ Bytes.newline :: rest) = some (line, rest) := by
  have hline : ∀ b ∈ line, (b != Bytes.newline) = true := by
    intro b hb
    simpa using fun he : b = Bytes.newline => h (he ▸ hb)
  unfold Bytes.splitLine?
  rw [List.dropWhile_append_of_pos hline, List.takeWhile_append_of_pos hline]
  simp

theorem Bytes.splitLine?_eq_none {bs : Bytes} (h : Bytes.newline ∉ bs) : bs.splitLine? = none := by
  have hall : ∀ b ∈ bs, (b != Bytes.newline) = true := by
    intro b hb
    simpa using fun he : b = Bytes.newline => h (he ▸ hb)
  have hnone : (bs ++ []).dropWhile (· != Bytes.newline) = [] := List.dropWhile_append_of_pos hall
  rw [List.append_nil] at hnone
  unfold Bytes.splitLine?
  rw [hnone]

theorem Bytes.newline_not_mem_of_splitLine? {bs : Bytes} (h : bs.splitLine? = none) :
    Bytes.newline ∉ bs := by
  intro hmem
  obtain ⟨first, behind, hbs, hfirst⟩ := List.eq_append_cons_of_mem hmem
  rw [hbs, splitLine?_line hfirst] at h
  cases h

/-- The first line ends at the first newline. -/
theorem Bytes.splitLine?_eq_some {bs line rest : Bytes} (h : bs.splitLine? = some (line, rest)) :
    bs = line ++ Bytes.newline :: rest ∧ Bytes.newline ∉ line := by
  by_cases hmem : Bytes.newline ∈ bs
  · obtain ⟨first, behind, hbs, hfirst⟩ := List.eq_append_cons_of_mem hmem
    rw [hbs, splitLine?_line hfirst] at h
    obtain ⟨rfl, rfl⟩ := Prod.mk.inj (Option.some.inj h)
    exact ⟨hbs, hfirst⟩
  · rw [splitLine?_eq_none hmem] at h
    cases h

/-- Octets are lines, each with its end, and an unfinished line behind them. -/
@[elab_as_elim]
theorem Bytes.linesInduction {motive : Bytes → Prop}
    (unfinished : ∀ bs, Bytes.newline ∉ bs → motive bs)
    (line : ∀ line rest, Bytes.newline ∉ line → motive rest → motive (line ++ Bytes.newline :: rest))
    (bs : Bytes) : motive bs := by
  induction hlen : bs.length using Nat.strongRecOn generalizing bs with
  | _ n ih =>
    by_cases hmem : Bytes.newline ∈ bs
    · obtain ⟨first, behind, rfl, hfirst⟩ := List.eq_append_cons_of_mem hmem
      refine line first behind hfirst (ih behind.length ?_ behind rfl)
      rw [← hlen, List.length_append, List.length_cons]
      omega
    · exact unfinished bs hmem

namespace Wire

/-- A line that is a request, and that no reader gives up before its end has come. -/
structure Whole (line : Bytes) (r : Request) : Prop where
  single : Bytes.newline ∉ line
  short : line.length ≤ maxLine
  reads : readLine line = .request r

def sent (lines : List Bytes) : Bytes := lines.flatMap (· ++ [Bytes.newline])

/-- What is reported for a line, `behind` being what is reported for those behind it. -/
def LineContent.reports (behind : List Event) : LineContent → List Event
  | .malformed => [.failure]
  | .blank => behind
  | .request r => .request r :: behind

/-- A line that is not finished is judged by its length. -/
theorem decode_open {bs : Bytes} (h : Bytes.newline ∉ bs) :
    decode bs = if bs.length > maxLine then ([.failure], []) else ([], bs) := by
  rw [decode]
  split
  · rfl
  · next hsplit =>
    rw [Bytes.splitLine?_eq_none h] at hsplit
    cases hsplit

/-- A line that is finished is judged by what it holds. -/
theorem decode_finished {line : Bytes} (h : Bytes.newline ∉ line) (rest : Bytes) :
    decode (line ++ Bytes.newline :: rest) = ((readLine line).reports (decode rest).1,
      if readLine line = .malformed then [] else (decode rest).2) := by
  rw [decode]
  split
  · next hsplit =>
    rw [Bytes.splitLine?_line h] at hsplit
    cases hsplit
  · next hsplit =>
    rw [Bytes.splitLine?_line h] at hsplit
    cases hsplit
    cases readLine line with
    | malformed => rfl
    | blank => rfl
    | request r => rfl

theorem decode_unfinished {bs : Bytes} (h : Bytes.newline ∉ bs) (hshort : bs.length ≤ maxLine) :
    decode bs = ([], bs) := by
  rw [decode_open h, if_neg (Nat.not_lt.mpr hshort)]

theorem decode_line {line : Bytes} {r : Request} (h : Whole line r) (rest : Bytes) :
    decode (line ++ Bytes.newline :: rest) = (.request r :: (decode rest).1, (decode rest).2) := by
  rw [decode_finished h.single, h.reads]
  rfl

/-- What is decoded are requests, and behind them perhaps a failure that throws the rest away. -/
theorem decode_cases (buffer : Bytes) :
    ∃ requests : List Request, (decode buffer).1 = requests.map .request ∨
      (decode buffer).1 = requests.map .request ++ [.failure] ∧ (decode buffer).2 = [] := by
  induction buffer using Bytes.linesInduction with
  | unfinished bs h =>
    rw [decode_open h]
    split
    · exact ⟨[], Or.inr ⟨rfl, rfl⟩⟩
    · exact ⟨[], Or.inl rfl⟩
  | line line rest h ih =>
    rw [decode_finished h]
    cases readLine line with
    | malformed => exact ⟨[], Or.inr ⟨rfl, rfl⟩⟩
    | blank => exact ih
    | request r =>
      obtain ⟨requests, hall | ⟨hall, hleft⟩⟩ := ih
      · exact ⟨r :: requests, Or.inl (congrArg (Event.request r :: ·) hall)⟩
      · exact ⟨r :: requests, Or.inr ⟨congrArg (Event.request r :: ·) hall, hleft⟩⟩

/-- The octets that have come are cut somewhere: behind lines that are whole, and perhaps in the
middle of the next one. -/
theorem cut {lines : List Bytes} {data rest : Bytes} (h : data ++ rest = sent lines) :
    ∃ first last kept, lines = first ++ last ∧ data = sent first ++ kept ∧ kept ++ rest = sent last ∧
      (kept = [] ∨ ∃ line more, last = line :: more ∧ kept <+: line) := by
  induction lines generalizing data with
  | nil =>
    obtain ⟨rfl, rfl⟩ := List.append_eq_nil_iff.mp h
    exact ⟨[], [], [], rfl, rfl, rfl, Or.inl rfl⟩
  | cons line lines ih =>
    have hsent : sent (line :: lines) = (line ++ [Bytes.newline]) ++ sent lines := rfl
    rw [hsent] at h
    rcases List.append_eq_append_iff.mp h with ⟨more, hline, hrest⟩ | ⟨more, hdata, hrest⟩
    · -- The first line is not whole: the cut is before its end, or right behind it.
      rcases List.eq_nil_or_concat more with rfl | ⟨body, last, rfl⟩
      · rw [List.append_nil] at hline
        refine ⟨[line], lines, [], rfl, ?_, hrest, Or.inl rfl⟩
        rw [← hline]
        simp [sent]
      · rw [List.concat_eq_append, ← List.append_assoc] at hline
        obtain ⟨hbody, -⟩ := List.append_inj' hline rfl
        exact ⟨[], line :: lines, data, rfl, rfl, h, Or.inr ⟨line, lines, rfl, body, hbody.symm⟩⟩
    · obtain ⟨first, last, kept, rfl, hcut, hkept, hend⟩ := ih hrest.symm
      refine ⟨line :: first, last, kept, rfl, ?_, hkept, hend⟩
      rw [hdata, hcut]
      simp [sent]

theorem decode_sent {lines : List (Bytes × Request)} (h : ∀ l ∈ lines, Whole l.1 l.2) (rest : Bytes) :
    decode (sent (lines.map (·.1)) ++ rest) =
      (lines.map (.request ·.2) ++ (decode rest).1, (decode rest).2) := by
  induction lines with
  | nil => rfl
  | cons l lines ih =>
    have hsent : sent ((l :: lines).map (·.1)) ++ rest =
        l.1 ++ Bytes.newline :: (sent (lines.map (·.1)) ++ rest) := by
      simp [sent]
    rw [hsent, decode_line (h l List.mem_cons_self), ih fun l hl => h l (List.mem_cons_of_mem _ hl)]
    rfl

/-- Of the octets that have come, whatever they will be followed by, the whole lines are decoded and
the rest is kept. -/
theorem decode_pieces {lines : List (Bytes × Request)} (h : ∀ l ∈ lines, Whole l.1 l.2)
    {data rest : Bytes} (hcome : data ++ rest = sent (lines.map (·.1))) :
    ∃ first last kept, lines = first ++ last ∧ decode data = (first.map (.request ·.2), kept) ∧
      kept ++ rest = sent (last.map (·.1)) ∧ Bytes.newline ∉ kept := by
  obtain ⟨first', last', kept, hlines, hdata, hkept, hend⟩ := cut hcome
  obtain ⟨first, last, rfl, rfl, rfl⟩ := List.map_eq_append_iff.mp hlines
  have hfirst : ∀ l ∈ first, Whole l.1 l.2 := fun l hl => h l (List.mem_append_left _ hl)
  obtain ⟨hsingle, hshort⟩ : Bytes.newline ∉ kept ∧ kept.length ≤ maxLine := by
    rcases hend with rfl | ⟨line, more, hlast, hbegins⟩
    · exact ⟨List.not_mem_nil, Nat.zero_le _⟩
    · obtain ⟨l, ls, rfl, rfl, -⟩ := List.map_eq_cons_iff.mp hlast
      have hwhole := h l (List.mem_append_right _ List.mem_cons_self)
      exact ⟨fun hmem => hwhole.single (hbegins.subset hmem),
        Nat.le_trans hbegins.length_le hwhole.short⟩
  refine ⟨first, last, kept, rfl, ?_, hkept, hsingle⟩
  rw [hdata, decode_sent hfirst, decode_unfinished hsingle hshort]
  exact congrArg (Prod.mk · kept) (List.append_nil _)

end Wire

end RpcProxy

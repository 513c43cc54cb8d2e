import RpcProxy.Trace

/-!
# Cut paths

The limit on a path in a span counts octets, and a character takes one to four of them. The place to
cut at is found by going back from the limit one octet at a time, and no step of that knows how wide
the characters around it are. What it finds is said once, by `borderBefore?_last`: the last place at
or before the limit that is not inside a character. As every start of a text ends at such a place,
the path is cut to the longest start that fits (`truncatePath_longest`), whatever the mix of widths.

The search can fail in principle, if it finds no such place down to the beginning. It never does, as
the beginning is one; so a path is always cut, if only to nothing when its first character is wider
than the limit.
-/

set_option autoImplicit false

namespace RpcProxy

variable {s kept : String} {most : Nat}

/-! ## The search -/

/-- The search finds a place at or before the octet that it starts at, and passes by no other. -/
theorem borderBefore?_last {i : Nat} {p : s.Pos} (h : borderBefore? s i = some p) :
    p.offset.byteIdx ≤ i ∧ ∀ q : s.Pos, q.offset.byteIdx ≤ i → q ≤ p := by
  fun_induction borderBefore? s i with
  | case1 i hborder =>
    cases h
    exact ⟨Nat.le_refl _, fun q hq => hq⟩
  | case2 hinside => cases h
  | case3 i hinside ih =>
    obtain ⟨hle, hlast⟩ := ih h
    refine ⟨Nat.le_succ_of_le hle, fun q hq => hlast q ?_⟩
    -- A place is not inside a character, so it is not the octet that was just passed by.
    have hne : q.offset.byteIdx ≠ i + 1 := by
      intro heq
      exact hinside (heq ▸ String.Pos.Raw.isValid_eq_true_iff.2 q.isValid)
    omega

/-! ## The longest start that fits -/

/-- The longest start of a text that takes at most so many octets. -/
structure LongestStart (s : String) (most : Nat) (kept : String) : Prop where
  start : ∃ rest, s = kept ++ rest
  /-- It takes no more octets than that. -/
  fits : kept.utf8ByteSize ≤ most
  /-- Every other start that takes no more is a start of it. -/
  longest : ∀ other rest, s = other ++ rest → other.utf8ByteSize ≤ most →
    ∃ more, kept = other ++ more

namespace LongestStart

/-- A text that fits is the longest start of itself. -/
theorem whole (h : s.utf8ByteSize ≤ most) : LongestStart s most s where
  start := ⟨"", (String.append_empty).symm⟩
  fits := h
  longest _ rest hs _ := ⟨rest, hs⟩

/-- The text before the last place that is not behind the limit is the longest start that fits. -/
theorem sliceTo {p : s.Pos} (hle : p.offset.byteIdx ≤ most)
    (hlast : ∀ q : s.Pos, q.offset.byteIdx ≤ most → q ≤ p) :
    LongestStart s most (s.sliceTo p).copy where
  start := ⟨(s.sliceFrom p).copy, p.splits.eq_append⟩
  fits := by
    have hsize : p.offset = (s.sliceTo p).copy.rawEndPos := p.splits.offset_eq_rawEndPos
    rw [hsize] at hle
    exact hle
  longest := by
    rintro other rest rfl hfits
    have hsplits := String.Pos.splits_append_rawEndPos (s := other) (t := rest)
    obtain ⟨more, hkept, -⟩ := (hsplits.le_iff_exists_eq_append p.splits).1 (hlast _ hfits)
    exact ⟨more, hkept⟩

/-- It ends at a place that is not inside a character. -/
theorem border (h : LongestStart s most kept) : kept.rawEndPos.IsValid s := by
  obtain ⟨rest, hrest⟩ := h.start
  exact String.Pos.Raw.isValid_iff_exists_append.2 ⟨kept, rest, hrest, rfl⟩

/-- The character behind it would be too much. -/
theorem next_over (h : LongestStart s most kept) {c : Char} {rest : String}
    (hs : s = kept ++ (String.singleton c ++ rest)) : most < kept.utf8ByteSize + c.utf8Size := by
  refine Nat.lt_of_not_le fun hfits => ?_
  obtain ⟨more, hmore⟩ := h.longest (kept ++ String.singleton c) rest
    (by rw [hs, String.append_assoc])
    (by rw [String.utf8ByteSize_append, String.utf8ByteSize_singleton]; omega)
  have hsize := congrArg String.utf8ByteSize hmore
  have hwide := c.utf8Size_pos
  simp only [String.utf8ByteSize_append, String.utf8ByteSize_singleton] at hsize
  omega

/-- It is all of the text, or there is a character behind it. -/
theorem eq_or_next (h : LongestStart s most kept) :
    kept = s ∨ ∃ c rest, s = kept ++ (String.singleton c ++ rest) := by
  obtain ⟨rest, hs⟩ := h.start
  by_cases hend : rest.startPos = rest.endPos
  · rw [String.startPos_eq_endPos_iff.1 hend, String.append_empty] at hs
    exact .inl hs.symm
  · obtain ⟨more, hmore⟩ := String.eq_singleton_append hend
    exact .inr ⟨_, more, hmore ▸ hs⟩

end LongestStart

/-! ## Paths -/

/-- A path that does not fit is cut where the search ends, and the search always ends. -/
theorem truncatePath_eq (path : String) (most : Nat) :
    ∃ p, borderBefore? path most = some p ∧
      truncatePath path most =
        if path.utf8ByteSize ≤ most then path else (path.sliceTo p).copy := by
  obtain ⟨p, hp⟩ := Option.isSome_iff_exists.1 (isSome_borderBefore? path most)
  refine ⟨p, hp, ?_⟩
  simp only [truncatePath, hp, Option.get_some]

/-- A path is cut to its longest start of at most `most` octets. It ends between two characters, and
if anything is missing, the next character would be too much. The search for its end never goes
below octet 0. -/
theorem truncatePath_longest (path : String) (most : Nat) :
    LongestStart path most (truncatePath path most) ∧
      (truncatePath path most).rawEndPos.IsValid path ∧
      (truncatePath path most = path ∨
        ∃ c rest, path = truncatePath path most ++ (String.singleton c ++ rest) ∧
          most < (truncatePath path most).utf8ByteSize + c.utf8Size) ∧
      ∃ p, borderBefore? path most = some p ∧ p.offset.byteIdx ≤ most ∧
        truncatePath path most =
          if path.utf8ByteSize ≤ most then path else (path.sliceTo p).copy := by
  obtain ⟨p, hp, hcut⟩ := truncatePath_eq path most
  obtain ⟨hle, hlast⟩ := borderBefore?_last hp
  have hlongest : LongestStart path most (truncatePath path most) := by
    rw [hcut]
    split
    · next hfits => exact .whole hfits
    · exact .sliceTo hle hlast
  refine ⟨hlongest, hlongest.border, ?_, p, hp, hle, hcut⟩
  obtain hall | ⟨c, rest, hrest⟩ := hlongest.eq_or_next
  · exact .inl hall
  · exact .inr ⟨c, rest, hrest, hlongest.next_over hrest⟩

-- One character of each width, cut at every limit.
example : (List.range 11).map (truncatePath "/é€😀") =
    ["", "/", "/", "/é", "/é", "/é", "/é€", "/é€", "/é€", "/é€", "/é€😀"] := by decide

end RpcProxy

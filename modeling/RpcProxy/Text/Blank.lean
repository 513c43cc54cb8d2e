/-!
# Blank characters and words

Two classes of blanks are in use. `isBlank` is the Unicode property White_Space: it decides what
is trimmed at the start of a response line and whether a request line is empty. `isSeparator` is
the narrower class of the five ASCII blanks, which alone divide a line into words; the vertical tab
and every blank beyond ASCII stay inside a word.
-/

set_option autoImplicit false

namespace RpcProxy.Text

/-- The Unicode property White_Space. -/
def isBlank (c : Char) : Bool :=
  let n := c.toNat
  (9 ≤ n && n ≤ 13) || n == 0x20 || n == 0x85 || n == 0xA0 || n == 0x1680 ||
    (0x2000 ≤ n && n ≤ 0x200A) || n == 0x2028 || n == 0x2029 || n == 0x202F || n == 0x205F ||
    n == 0x3000

/-- The blanks that divide a line into words: tab, newline, form feed, carriage return, space. -/
def isSeparator (c : Char) : Bool :=
  let n := c.toNat
  n == 9 || n == 10 || n == 12 || n == 13 || n == 32

theorem isBlank_of_isSeparator {c : Char} (h : isSeparator c = true) : isBlank c = true := by
  simp only [isSeparator, Bool.or_eq_true, beq_iff_eq] at h
  simp only [isBlank, Bool.or_eq_true, Bool.and_eq_true, decide_eq_true_eq, beq_iff_eq]
  omega

/-! ## Words -/

/-- The maximal runs of characters that are no separators, in order. -/
def words (cs : List Char) : List (List Char) :=
  match _h : cs.dropWhile isSeparator with
  | [] => []
  | c :: rest =>
    (c :: rest.takeWhile (!isSeparator ·)) :: words (rest.dropWhile (!isSeparator ·))
termination_by cs.length
decreasing_by
  have h1 := (List.dropWhile_suffix (l := cs) isSeparator).length_le
  have h2 := (List.dropWhile_suffix (l := rest) (!isSeparator ·)).length_le
  rw [_h, List.length_cons] at h1
  omega

/-- The text before the first `c` and the text after it, if `c` occurs. -/
def splitOnce? (c : Char) (cs : List Char) : Option (List Char × List Char) :=
  match cs.dropWhile (· != c) with
  | [] => none
  | _ :: rest => some (cs.takeWhile (· != c), rest)

/-- The parts of a text in front of and behind the first `c`; there is nothing behind it if `c` does
not occur. -/
def cut (c : Char) (s : String) : String × String :=
  match splitOnce? c s.toList with
  | some (a, b) => (String.ofList a, String.ofList b)
  | none => (s, "")

/-- A text without the blanks that it starts with. -/
def trimStart (cs : List Char) : List Char := cs.dropWhile isBlank

/-- A text without the characters in `p` that it ends with. -/
def trimEnd (p : Char → Bool) (cs : List Char) : List Char :=
  (cs.reverse.dropWhile p).reverse

/-! ## Names -/

/-- The lower case of a character, as far as it can make a text equal to an ASCII name: the ASCII
letters, and the Kelvin sign, which is the one character beyond ASCII whose lower case is ASCII. -/
def lower (c : Char) : Char := if c.toNat = 0x212A then 'k' else c.toLower

/-- A name with its letters in lower case. -/
def lowerName (s : String) : String := String.ofList (s.toList.map lower)

end RpcProxy.Text

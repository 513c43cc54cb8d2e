/-!
# Octets

Everything that crosses a connection is a list of octets. Text travels as UTF-8: `Bytes.ofText`
writes it and `Bytes.toText?` reads it, and the one fact the rest of the library needs about the
two is `toText?_eq_some_iff`: reading answers a text exactly when the octets are what writing that
text gives.

Lines end at the first newline octet (`splitLine?`), and a length travels as four octets, most
significant first (`ofLength`, `toLength`).
-/

set_option autoImplicit false

namespace RpcProxy

/-- A sequence of octets. -/
abbrev Bytes := List UInt8

namespace Bytes

/-- The octet that ends a line. -/
def newline : UInt8 := 10

/-! ## Text -/

def ofText (s : String) : Bytes := s.toUTF8.data.toList

/-- The text whose UTF-8 octets these are, if they are well-formed UTF-8. -/
def toText? (bs : Bytes) : Option String := String.fromUTF8? ⟨bs.toArray⟩

/-- Reading accepts exactly what writing produces. -/
theorem toText?_eq_some_iff {bs : Bytes} {s : String} : toText? bs = some s ↔ bs = ofText s := by
  unfold toText? ofText String.fromUTF8?
  constructor
  · intro h
    split at h
    · cases h
      simp [String.fromUTF8]
    · cases h
  · rintro rfl
    have : (⟨s.toUTF8.data.toList.toArray⟩ : ByteArray) = s.toByteArray := by simp
    rw [this]
    rw [dif_pos s.isValidUTF8]
    rfl

@[simp]
theorem toText?_ofText (s : String) : toText? (ofText s) = some s :=
  toText?_eq_some_iff.2 rfl

/-! ## Lines -/

/-- The octets before the first newline and those after it, if there is a newline. -/
def splitLine? (bs : Bytes) : Option (Bytes × Bytes) :=
  match bs.dropWhile (· != newline) with
  | [] => none
  | _ :: rest => some (bs.takeWhile (· != newline), rest)

/-- What follows a line is shorter than the whole. -/
theorem length_lt_of_splitLine? {bs line rest : Bytes} (h : splitLine? bs = some (line, rest)) :
    rest.length < bs.length := by
  unfold splitLine? at h
  have hle := (List.dropWhile_suffix (l := bs) (· != newline)).length_le
  split at h
  · cases h
  · next heq =>
    simp only [Option.some.injEq, Prod.mk.injEq] at h
    obtain ⟨-, rfl⟩ := h
    rw [heq, List.length_cons] at hle
    omega

/-! ## Lengths -/

/-- A length as four octets, most significant first, modulo `2 ^ 32`. -/
def ofLength (n : Nat) : Bytes :=
  [UInt8.ofNat (n / 16777216), UInt8.ofNat (n / 65536), UInt8.ofNat (n / 256), UInt8.ofNat n]

/-- The number that four octets spell, most significant first. -/
def toLength (a b c d : UInt8) : Nat :=
  a.toNat * 16777216 + b.toNat * 65536 + c.toNat * 256 + d.toNat

end Bytes

end RpcProxy

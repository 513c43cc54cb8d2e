import RpcProxy.Exchange.ReplyDecoder
import RpcProxy.Proofs.Wire.Pieces

/-!
# Replies arrive in reads

A decoder looks for a whole frame after every read. `result_of_cut` says that it does not matter how
the octets of a reply are cut into reads: what the decoder comes to, and all that it shows of it, is
what it comes to when the octets arrive at once.

The reason is that more octets never change what was found in those before (`nextFrame_append`): a
frame is taken from the front, and a length that is too long stays so. There is one exception. A
line without a frame is given up while its newline is still to come, so the line must not be too
long for that; in one read the same line would have been taken, however long.

Two decoders that have read the same need not be equal. One that was given everything at once has
what is behind the frame in its buffer, and one that was given it read by read has never seen that.
So they are compared by what they show (`Result`), with the buffer left out.
-/

set_option autoImplicit false

namespace RpcProxy.ReplyDecoder

open Config (Transport)

/-- Takes octets read by read, up to the first read that makes a reply or shows that there is none.
Reads that would come behind that are nobody's. -/
def feedEach (d : ReplyDecoder) : List Bytes → ReplyStatus × ReplyDecoder
  | [] => (.moreData, d)
  | piece :: pieces =>
    match d.feed piece with
    | (.moreData, d) => d.feedEach pieces
    | answer => answer

/-- What a decoder has come to, as far as others see it. -/
structure Result where
  status : ReplyStatus
  response : Option Response
  success : Bool
  /-- What it says about itself. -/
  envelope : Envelope
  /-- Why it could not be read. -/
  error : Option ReplyError
deriving DecidableEq

def result (answer : ReplyStatus × ReplyDecoder) : Result where
  status := answer.1
  response := answer.2.response
  success := answer.2.success
  envelope := answer.2.envelope
  error := answer.2.error

/-- A line without a frame is not too long. -/
def LineFits (transport : Transport) (octets : Bytes) : Prop :=
  transport = .unframed → ∀ line rest, octets.splitLine? = some (line, rest) →
    line.length ≤ Wire.maxLine

variable {d : ReplyDecoder} {transport : Transport} {seen more octets frame rest : Bytes}
  {pieces : List Bytes} {e : ReplyError}

/-! ## Frames -/

/-- A frame is taken from the front, and what comes later is behind it. -/
theorem nextFrame_append (h : nextFrame transport seen = .ok (some (frame, rest))) (more : Bytes) :
    nextFrame transport (seen ++ more) = .ok (some (frame, rest ++ more)) := by
  cases transport with
  | framed =>
    unfold nextFrame at h
    dsimp only at h
    split at h
    · next a b c d behind =>
      split at h
      · cases h
      · next hfits =>
        split at h
        · cases h
        · next hwhole =>
          cases h
          -- The frame is there as a whole, so that what follows it is not looked at.
          have hlen : Bytes.toLength a b c d ≤ behind.length := Nat.not_lt.mp hwhole
          simp only [nextFrame, List.cons_append]
          rw [if_neg hfits, if_neg (by rw [List.length_append]; omega),
            List.take_append_of_le_length hlen, List.drop_append_of_le_length hlen]
    · cases h
  | unframed =>
    unfold nextFrame at h
    dsimp only at h
    split at h
    · next line behind hsplit =>
      cases h
      obtain ⟨rfl, hline⟩ := Bytes.splitLine?_eq_some hsplit
      simp only [nextFrame]
      rw [List.append_assoc, List.cons_append, Bytes.splitLine?_line hline]
    · split at h
      · cases h
      · cases h

/-- Octets without a newline are in front of the first one that comes later. -/
theorem length_le_of_splitLine? {line : Bytes} (hseen : Bytes.newline ∉ seen)
    (h : (seen ++ more).splitLine? = some (line, rest)) : seen.length ≤ line.length := by
  obtain ⟨hbs, -⟩ := Bytes.splitLine?_eq_some h
  rcases List.append_eq_append_iff.mp hbs with ⟨mid, rfl, -⟩ | ⟨mid, rfl, hmid⟩
  · rw [List.length_append]
    omega
  · cases mid with
    | nil => simp
    | cons b mid =>
      obtain ⟨rfl, -⟩ := List.cons.inj hmid
      exact absurd (List.mem_append_right _ List.mem_cons_self) hseen

/-- Octets that cannot become a frame do not become one by what comes later. -/
theorem nextFrame_append_of_error (h : nextFrame transport seen = .error e)
    (hfits : LineFits transport (seen ++ more)) : nextFrame transport (seen ++ more) = .error e := by
  cases transport with
  | framed =>
    unfold nextFrame at h
    dsimp only at h
    split at h
    · next a b c d behind =>
      split at h
      · next hlong =>
        cases h
        simp only [nextFrame, List.cons_append]
        rw [if_pos hlong]
      · split at h
        · cases h
        · cases h
    · cases h
  | unframed =>
    unfold nextFrame at h
    dsimp only at h
    split at h
    · cases h
    · next hnone =>
      split at h
      · next hlong =>
        cases h
        simp only [nextFrame]
        split
        · next line behind hsplit =>
          -- The line would end behind what was too long already.
          have hle := length_le_of_splitLine? (Bytes.newline_not_mem_of_splitLine? hnone) hsplit
          have hshort := hfits rfl line behind hsplit
          omega
        · rw [if_pos (by rw [List.length_append]; omega)]
      · cases h

/-! ## Reads -/

/-- The octets of a read decide in front of what comes later, unless they only make more of a
frame. -/
theorem result_feed_append (hfits : LineFits d.transport (d.buffer ++ (seen ++ more))) :
    (nextFrame d.transport (d.buffer ++ seen) = .ok none ∧
      d.feed seen = (.moreData, { d with buffer := d.buffer ++ seen }) ∧
      d.feed (seen ++ more) = feed { d with buffer := d.buffer ++ seen } more) ∨
    ((d.feed seen).1 ≠ .moreData ∧ result (d.feed (seen ++ more)) = result (d.feed seen)) := by
  rw [← List.append_assoc] at hfits
  unfold feed
  rw [← List.append_assoc]
  dsimp only
  cases hfound : nextFrame d.transport (d.buffer ++ seen) with
  | error e =>
    rw [nextFrame_append_of_error hfound hfits]
    exact Or.inr ⟨nofun, rfl⟩
  | ok found =>
    cases found with
    | none => exact Or.inl ⟨rfl, rfl, rfl⟩
    | some split =>
      obtain ⟨frame, rest⟩ := split
      rw [nextFrame_append hfound]
      dsimp only
      cases readReply frame with
      | error e => exact Or.inr ⟨nofun, rfl⟩
      | ok reply => exact Or.inr ⟨nofun, rfl⟩

/-- While there is no frame, reads come to what their octets come to at once. -/
theorem result_feedEach (hnone : nextFrame d.transport d.buffer = .ok none)
    (hfits : LineFits d.transport (d.buffer ++ pieces.flatten)) :
    result (d.feedEach pieces) = result (d.feed pieces.flatten) := by
  induction pieces generalizing d with
  | nil =>
    unfold feed
    rw [List.flatten_nil, List.append_nil]
    dsimp only
    rw [hnone]
    rfl
  | cons piece pieces ih =>
    rw [List.flatten_cons] at hfits ⊢
    rw [feedEach]
    obtain ⟨hnone, hmore, hgoes⟩ | ⟨hdone, hsame⟩ := result_feed_append hfits
    · rw [hmore, hgoes]
      rw [← List.append_assoc] at hfits
      exact ih hnone hfits
    · rw [hsame]
      generalize d.feed piece = answer at hdone
      obtain ⟨status, d'⟩ := answer
      cases status with
      | moreData => exact absurd rfl hdone
      | complete => rfl
      | reset => rfl

/-- How the octets of a reply are cut into reads does not matter: what the decoder comes to, and
what it then shows, is what it is for all octets at once. A line without a frame has to be short
enough to be waited for. -/
theorem result_of_cut {protocol : Config.Protocol} (hcut : pieces.flatten = octets)
    (hfits : LineFits transport octets) :
    result ((start transport protocol).feedEach pieces) =
      result ((start transport protocol).feed octets) := by
  subst hcut
  refine result_feedEach ?_ hfits
  cases transport with
  | framed => rfl
  | unframed => rfl

/-- The reads cut the length in two and a character in two, and one of them is empty. -/
theorem result_of_cut_inside_length :
    let octets := Transport.framed.frame (Bytes.ofText "ok \"é\" seq=7\n")
    let pieces : List Bytes := [octets.take 3, [], (octets.drop 3).take 6, octets.drop 9]
    pieces.flatten = octets ∧ LineFits .framed octets ∧
      result ((start .framed .binary).feedEach pieces) =
        { status := .complete
          response := some { status := { message := "é" } }
          success := true
          envelope := { sequence := some 7, kind := some .reply, protocol := some .binary }
          error := none } := by
  intro octets pieces
  have hcut : pieces.flatten = octets := by decide +kernel
  have hfits : LineFits .framed octets := nofun
  exact ⟨hcut, hfits, (result_of_cut hcut hfits).trans (by decide +kernel)⟩

end RpcProxy.ReplyDecoder

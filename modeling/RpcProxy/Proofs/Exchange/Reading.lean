import RpcProxy.Proofs.Exchange.ConnectionCommands

/-!
# What an exchange reads

An exchange reads its reply through a decoder, which keeps octets until they make a whole frame.
`HasRead` says what the exchange has read so far, and `HasRead.onData` what more octets come to. As
long as all of them together are no whole frame, they are kept. Else the exchange lets go of its
connection, and `Answers` tells whether it does so without closing it: the first frame must be a
reply of a host that wants to stay. What is behind that frame stays in a buffer that nobody looks at
again, and decides nothing.

A decoder is put to its start when the first octets come, and not when the exchange begins. Until
then its buffer may hold octets of another call, so `HasRead` speaks of the buffer only from then
on.
-/

set_option autoImplicit false

namespace RpcProxy

theorem Bytes.splitLine?_suffix {bs line rest : Bytes} (h : bs.splitLine? = some (line, rest)) :
    rest <:+ bs := by
  unfold Bytes.splitLine? at h
  split at h
  · cases h
  · next head tail heq =>
    cases h
    have hdrop := List.dropWhile_suffix (l := bs) (· != newline)
    rw [heq] at hdrop
    exact (List.suffix_cons head rest).trans hdrop

namespace ReplyDecoder

/-- Octets begin with a whole reply of a host that wants to stay, and `rest` is behind it. -/
def Answers (transport : Config.Transport) (seen rest : Bytes) : Prop :=
  ∃ frame kind r, nextFrame transport seen = .ok (some (frame, rest)) ∧
    readReply frame = .ok (kind, r) ∧ r.get? drainingKey ≠ some "true"

theorem nextFrame_nil (transport : Config.Transport) : nextFrame transport [] = .ok none := by
  cases transport with
  | framed => rfl
  | unframed => rfl

/-- The frame is taken from the front, whatever is behind it. -/
theorem nextFrame_suffix {transport : Config.Transport} {seen frame rest : Bytes}
    (h : nextFrame transport seen = .ok (some (frame, rest))) : rest <:+ seen := by
  cases transport with
  | framed =>
    unfold nextFrame at h
    dsimp only at h
    split at h
    · next a b c d tail =>
      split at h
      · cases h
      · split at h
        · cases h
        · cases h
          exact (List.drop_suffix _ tail).trans (List.suffix_append [a, b, c, d] tail)
    · cases h
  | unframed =>
    unfold nextFrame at h
    dsimp only at h
    split at h
    · next hsplit =>
      cases h
      exact Bytes.splitLine?_suffix hsplit
    · split at h
      · cases h
      · cases h

/-- Octets are kept for later as long as they make no whole frame. Once they do, or cannot any more,
the connection stays open if they begin with a reply, whatever is behind it. -/
theorem feed_verdict {d d' : ReplyDecoder} {data : Bytes} {status : ReplyStatus}
    (h : d.feed data = (status, d')) :
    (nextFrame d.transport (d.buffer ++ data) = .ok none ∧ status = .moreData ∧
      d' = { d with buffer := d.buffer ++ data }) ∨
    (nextFrame d.transport (d.buffer ++ data) ≠ .ok none ∧ status ≠ .moreData ∧
      (Exchange.closing status d'.envelope.draining = none ↔
        ∃ rest, Answers d.transport (d.buffer ++ data) rest)) := by
  obtain ⟨hnone, hf⟩ | ⟨buffer, err, hsome, hread, hf⟩ | ⟨frame, rest, kind, r, hsome, hread, hf⟩ :=
    d.feed_cases data
  · obtain ⟨rfl, rfl⟩ := Prod.mk.inj (h.symm.trans hf)
    exact Or.inl ⟨hnone, rfl, rfl⟩
  · obtain ⟨rfl, rfl⟩ := Prod.mk.inj (h.symm.trans hf)
    refine Or.inr ⟨hsome, by decide, ⟨fun hc => ?_, ?_⟩⟩
    · simp [Exchange.closing] at hc
    · rintro ⟨rest, frame, kind, r, hframe, hreply, -⟩
      rw [hread frame rest hframe] at hreply
      cases hreply
  · obtain ⟨rfl, rfl⟩ := Prod.mk.inj (h.symm.trans hf)
    refine Or.inr ⟨by simp [hsome], by decide, ?_⟩
    have hdraining : (accept { d with buffer := rest } kind r).envelope.draining =
        (r.get? drainingKey == some "true") := rfl
    rw [Exchange.closing, hdraining]
    constructor
    · intro hc
      refine ⟨rest, frame, kind, r, hsome, hread, fun hd => ?_⟩
      simp [hd] at hc
    · rintro ⟨rest', frame', kind', r', hframe, hreply, hd⟩
      cases hsome.symm.trans hframe
      cases hread.symm.trans hreply
      simp [hd]

end ReplyDecoder

namespace Exchange

open ReplyDecoder (nextFrame Answers)

/-- What an exchange that holds a connection has read from it, `d` being its decoder: no more than
the beginning of a frame. -/
structure HasRead (e : Exchange) (d : ReplyDecoder) (octets : Bytes) : Prop where
  buffer : (if e.responseStarted then d.buffer else []) = octets
  transport : e.responseStarted = true → d.transport = e.transport
  unfinished : nextFrame e.transport octets = .ok none

variable {e e' : Exchange} {d d' : ReplyDecoder} {octets data : Bytes} {t : Step}

/-- Nothing is read before the response begins. -/
theorem HasRead.fresh (h : e.responseStarted = false) : HasRead e d [] where
  buffer := by rw [h]; rfl
  transport hs := by rw [h] at hs; cases hs
  unfinished := ReplyDecoder.nextFrame_nil e.transport

theorem HasRead.eq_nil (h : HasRead e d octets) (hs : e.responseStarted = false) : octets = [] := by
  rw [← h.buffer, hs]
  rfl

/-- More octets come. As long as all of them together are no whole frame, they are kept. Else the
connection is let go of, and it is not closed before if they begin with a reply. -/
theorem HasRead.onData {now : Instant} {isOver : Bool} (h : HasRead e d octets) (he : Holding e)
    (ht : e.onData lineReplies d data false now = .ok (isOver, d', t)) :
    (nextFrame e.transport (octets ++ data) = .ok none ∧ isOver = false ∧ t.Holds e ∧
      HasRead t.exchange d' (octets ++ data)) ∨
    (nextFrame e.transport (octets ++ data) ≠ .ok none ∧ isOver = true ∧
      ∃ how, t.LetsGo how e ∧ (how = none ↔ ∃ rest, Answers e.transport (octets ++ data) rest)) := by
  rw [he.onData_eq] at ht
  generalize hgot : onResponseData lineReplies d data now _ = got at ht
  obtain ⟨status, d₁, t₁⟩ := got
  have hcommands := onResponseData_holdsOrLetsGo hgot
  cases ht
  simp only [onResponseData, lineReplies] at hgot
  generalize hstart : (if (!e.responseStarted) = true then
    ReplyDecoder.start e.transport e.protocol.kind else d) = d₀ at hgot
  obtain ⟨status₁, d₁, hfed⟩ : ∃ status₁ d₁, d₀.feed data = (status₁, d₁) := ⟨_, _, rfl⟩
  rw [hfed] at hgot
  cases hgot
  -- A new decoder has read nothing, and the old one has kept all that it read.
  have hbuffer : d₀.buffer = octets := by
    rw [← h.buffer, ← hstart]
    cases e.responseStarted with
    | true => rfl
    | false => rfl
  have htransport : d₀.transport = e.transport := by
    rw [← hstart]
    cases hs : e.responseStarted with
    | true => exact h.transport hs
    | false => rfl
  have hverdict := ReplyDecoder.feed_verdict hfed
  rw [hbuffer, htransport] at hverdict
  obtain ⟨hnone, rfl, rfl⟩ | ⟨hsome, hs, hclosing⟩ := hverdict
  · rw [if_pos rfl] at hcommands
    exact Or.inl ⟨hnone, rfl, ⟨hcommands.link, hcommands.uses⟩, ⟨rfl, fun _ => rfl, hnone⟩⟩
  · rw [if_neg hs] at hcommands
    refine Or.inr ⟨hsome, decide_eq_true hs, _, ⟨hcommands.link, hcommands.parts⟩, hclosing⟩

end Exchange

end RpcProxy

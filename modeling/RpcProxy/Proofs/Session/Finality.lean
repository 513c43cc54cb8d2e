import RpcProxy.Proofs.Session.StreamTeardown

/-!
# Streams end once

`Orderly` is what holds of the streams of a session at every moment: a stream that is over has left
the streams in flight and has no router any more, and what was logged at the ends of streams is what
all streams that began and are not in flight leave there, each once. It holds of a connection that
was just accepted and is kept by every life step (`LifeStep.orderly`), so it holds after every run
and at every moment in between.

That a stream ends once cannot be read off the stream, which is put away some time after its end,
and a second end would look like the first. What does not go away is the log. So the ends are
counted there, and compared with what the streams that have begun must have left (`tally`): the
number of streams is known, and so are those still in flight, which have said nothing yet. A stream
that ended twice, or not at all, would upset the sum.

The sum is kept only while the connection is served. A dismissal drops streams in flight without
ending them, and from then on nothing is said any more (`LifeStep.told_of_dismissed`), so the count
stays what it was.

`opened_finality` draws the conclusions. Whatever is asked of a stream that is over or was reset, at
once or by a task, leaves the whole session as it is, but for the mark of a reset (`Final`); later
runs find the stream unchanged or not at all.
-/

set_option autoImplicit false

namespace RpcProxy

/-- Whether the connection is not served any more once something has happened. -/
def SessionOp.isDismissal : SessionOp → Bool
  | .dismiss => true
  | _ => false

theorem SessionOp.eq_of_isDismissal {op : SessionOp} (h : op.isDismissal = true) : op = .dismiss := by
  cases op with
  | dismiss => rfl
  | _ => cases h

/-- What some streams leave in the log when they end, counted together. Filters may say something
else for each stream, so it is a sum over streams and not a product. -/
def Plan.due (plan : Plan) (f : EndNotice) (ids : List StreamId) : Nat :=
  (ids.map fun id => (plan.endNotices id).count f).sum

namespace Plan

variable {plan : Plan} {f : EndNotice}

theorem due_append (ids : List StreamId) (id : StreamId) :
    plan.due f (ids ++ [id]) = plan.due f ids + (plan.endNotices id).count f := by
  simp [due]

theorem due_cons (id : StreamId) (ids : List StreamId) :
    plan.due f (id :: ids) = (plan.endNotices id).count f + plan.due f ids := by
  simp [due]

theorem due_erase {ids : List StreamId} {id : StreamId} (h : id ∈ ids) :
    plan.due f ids = (plan.endNotices id).count f + plan.due f (ids.erase id) := by
  induction ids with
  | nil => cases h
  | cons other rest ih =>
    by_cases he : other = id
    · rw [he, List.erase_cons_head, due_cons]
    · have hrest : id ∈ rest := (List.mem_cons.mp h).resolve_left (Ne.symm he)
      rw [List.erase_cons_tail (by simpa using he), due_cons, due_cons, ih hrest]
      omega

end Plan

/-- What holds of a stream at every moment. -/
structure Stream.Sound (plan : Plan) (x : Stream) : Prop where
  /-- Its filters are those of the plan, if it has any. -/
  parts : ∀ p ∈ x.parts, p ∈ plan.parts
  /-- What they keep in mind suits them. -/
  memorySuits : x.MemorySuits
  /-- It has a span until it is over, if there are to be any. -/
  span : x.isCompleted = false → x.span.isSome = plan.tracing.isSome
  /-- When it is over, it has left and its routers are gone. -/
  departed : x.isCompleted = true → x.inserted = false ∧ x.Unrouted

/-- The same stream later on. It may have been reset since; if it was over, that is all. The mark of
a reset is the one thing that is still set on a stream that is over, and nobody looks at it then. -/
structure Stream.Later (x y : Stream) : Prop where
  /-- A reset is not taken back. -/
  reset : x.isReset = true → y.isReset = true
  /-- A stream that is over stays what it is. -/
  fixed : x.isCompleted = true → y = { x with isReset := y.isReset }

theorem Stream.Later.refl (x : Stream) : x.Later x := ⟨fun h => h, fun _ => rfl⟩

theorem Stream.Later.trans {x y z : Stream} (h₁ : x.Later y) (h₂ : y.Later z) : x.Later z where
  reset := fun h => h₂.reset (h₁.reset h)
  fixed := by
    intro hover
    have hy := h₁.fixed hover
    have hz := h₂.fixed (by rw [hy]; exact hover)
    rw [hy] at hz
    exact hz

theorem Stream.SameStage.later {plan : Plan} {x y : Stream} (h : x.SameStage y) (hx : x.Sound plan) :
    x.Later y where
  reset := by
    rw [h.isReset]
    exact fun hr => hr
  fixed := by
    intro hover
    rw [h.fixed hover (hx.departed hover).2]

theorem Stream.SameStage.sound {plan : Plan} {x y : Stream} (h : x.SameStage y) (hx : x.Sound plan) :
    y.Sound plan where
  parts := by
    rw [h.parts]
    exact hx.parts
  memorySuits := h.memorySuits hx.memorySuits
  span := by
    rw [h.isCompleted, h.span]
    exact hx.span
  departed := by
    rw [h.isCompleted, h.inserted]
    intro hover
    exact ⟨(hx.departed hover).1, fun slot => h.routers slot ((hx.departed hover).2 slot)⟩

namespace Session

variable {σ : Type}

/-- What holds of the streams of a session at every moment. The parameter `f` is what is counted;
all else does not depend on it. `inFlight` and `there` say the same of a stream from its two sides,
the stream itself and the list of streams in flight, and each of them is needed: the first for a
stream that is found, the second for a number. -/
structure Orderly (plan : Plan) (f : EndNotice) (s : Session σ) : Prop where
  settled : s.plan = plan
  /-- Numbers are given out in order. -/
  known : ∀ id x, s.stream? id = some x → id < s.nextId
  sound : ∀ id x, s.stream? id = some x → x.Sound plan
  /-- Streams have all filters as long as no promise is broken. -/
  whole : s.panic = none → ∀ id x, s.stream? id = some x → x.parts = plan.parts
  /-- Streams in flight have numbers. -/
  bound : ∀ id ∈ s.active, id < s.nextId
  /-- No two streams in flight have the same number. -/
  nodup : s.active.Nodup
  /-- While the connection is served, a stream that is not over is in flight and was not reset. -/
  inFlight : s.isServed = true → ∀ id x, s.stream? id = some x → x.isCompleted = false →
    x.inserted = true ∧ x.isReset = false ∧ id ∈ s.active
  /-- While the connection is served, a stream in flight is there and is not over. -/
  there : s.isServed = true → ∀ id ∈ s.active, ∃ x, s.stream? id = some x ∧ x.isCompleted = false
  /-- All streams that began and are not in flight have said once what they say at the end. -/
  tally : s.isServed = true → s.panic = none →
    told f s + plan.due f s.active = plan.due f (List.range s.nextId)

section

variable {plan : Plan} {f : EndNotice} {s s' s₁ s₂ s₃ : Session σ} {id : StreamId} {x : Stream}

theorem Orderly.allParts {P : Part → Prop} (h : Orderly plan f s) (hP : ∀ p ∈ plan.parts, P p) :
    s.AllParts P :=
  fun id x hx p hp => hP p ((h.sound id x hx).parts p hp)

/-! ## What life steps keep

One lemma for each step that can happen to a stream. The count of what was told is the difficult
part: it has to go up by what the stream owed, once. -/

theorem Orderly.noEnds (h : Orderly plan f s) (hf : ∀ p ∈ plan.parts, p.Withholds f)
    (hc : NoEnds f s s') : Orderly plan f s' where
  settled := hc.plan.trans h.settled
  known := by
    intro id y hy
    obtain ⟨x, hx, -⟩ := hc.sameStage_of hy
    rw [hc.nextId]
    exact h.known id x hx
  sound := by
    intro id y hy
    obtain ⟨x, hx, hk⟩ := hc.sameStage_of hy
    exact hk.sound (h.sound id x hx)
  whole := by
    intro hp id y hy
    obtain ⟨x, hx, hk⟩ := hc.sameStage_of hy
    exact hk.parts.trans (h.whole (hc.panic hp) id x hx)
  bound := by
    rw [hc.active, hc.nextId]
    exact h.bound
  nodup := by
    rw [hc.active]
    exact h.nodup
  inFlight := by
    intro hs id y hy hlive
    obtain ⟨x, hx, hk⟩ := hc.sameStage_of hy
    rw [hc.isServed] at hs
    rw [hk.isCompleted] at hlive
    rw [hk.inserted, hk.isReset, hc.active]
    exact h.inFlight hs id x hx hlive
  there := by
    intro hs id hin
    rw [hc.isServed] at hs
    rw [hc.active] at hin
    obtain ⟨x, hx, hlive⟩ := h.there hs id hin
    obtain ⟨y, hy, hk⟩ := hc.sameStage id x hx
    exact ⟨y, hy, hk.isCompleted.trans hlive⟩
  tally := by
    intro hs hp
    rw [hc.isServed] at hs
    -- Nothing was said that counts, and the streams in flight are the same.
    rw [hc.told (h.allParts hf), hc.active, hc.nextId]
    exact h.tally hs (hc.panic hp)

theorem Starts.stream?_eq (hb : Starts s x s') (h : ∀ id y, s.stream? id = some y → id < s.nextId)
    (id : StreamId) : s'.stream? id = if id = s.nextId then some x else s.stream? id := by
  rw [stream?_append hb.streams, hb.id]
  by_cases hid : id = s.nextId
  · cases hx : s.stream? id with
    | none => simp [hid]
    | some y => exact absurd (h id y hx) (by rw [hid]; exact Nat.lt_irrefl _)
  · rw [if_neg hid, if_neg (Ne.symm hid), Option.or_none]

theorem Orderly.began (h : Orderly plan f s) (hb : Starts s x s') : Orderly plan f s' := by
  have hlook := hb.stream?_eq h.known
  have hnew : ∀ {id : StreamId} {y : Stream}, s'.stream? id = some y →
      id = s.nextId ∧ y = x ∨ s.stream? id = some y := by
    intro id y hy
    rw [hlook] at hy
    split at hy
    · next hid => exact Or.inl ⟨hid, (Option.some.inj hy).symm⟩
    · exact Or.inr hy
  have hfresh : s.nextId ∉ s.active := fun hin => Nat.lt_irrefl _ (h.bound _ hin)
  refine ⟨hb.plan.trans h.settled, ?known, ?sound, ?whole, ?bound, ?nodup, ?inFlight, ?there, ?tally⟩
  case known =>
    intro id y hy
    rw [hb.nextId]
    rcases hnew hy with ⟨rfl, -⟩ | hy
    · exact Nat.lt_succ_self _
    · exact Nat.lt_succ_of_lt (h.known id y hy)
  case sound =>
    intro id y hy
    rcases hnew hy with ⟨-, rfl⟩ | hy
    · refine ⟨?_, hb.memorySuits, fun _ => ?_, fun hover => ?_⟩
      · rw [← h.settled]
        exact hb.parts
      · rw [← h.settled]
        exact hb.span
      · rw [hb.isCompleted] at hover
        cases hover
    · exact h.sound id y hy
  case whole =>
    intro hp id y hy
    rcases hnew hy with ⟨-, rfl⟩ | hy
    · rw [← h.settled]
      exact hb.whole hp
    · exact h.whole (hb.panic hp) id y hy
  case bound =>
    intro id hin
    rw [hb.active] at hin
    rw [hb.nextId]
    rcases List.mem_append.mp hin with hin | hin
    · exact Nat.lt_succ_of_lt (h.bound id hin)
    · rw [List.mem_singleton.mp hin, hb.id]
      exact Nat.lt_succ_self _
  case nodup =>
    rw [hb.active, List.nodup_append]
    refine ⟨h.nodup, by simp, fun a ha b hbm => ?_⟩
    rw [List.mem_singleton.mp hbm, hb.id]
    rintro rfl
    exact hfresh ha
  case inFlight =>
    intro hs id y hy hlive
    rw [hb.active]
    rcases hnew hy with ⟨rfl, rfl⟩ | hy
    · exact ⟨hb.inserted, hb.isReset, List.mem_append_right _ (by simp [hb.id])⟩
    · obtain ⟨hin, hreset, hmem⟩ := h.inFlight (hb.isServed ▸ hs) id y hy hlive
      exact ⟨hin, hreset, List.mem_append_left _ hmem⟩
  case there =>
    intro hs id hin
    rw [hb.active] at hin
    rw [hlook]
    rcases List.mem_append.mp hin with hin | hin
    · rw [if_neg fun (he : id = s.nextId) => hfresh (he ▸ hin)]
      exact h.there (hb.isServed ▸ hs) id hin
    · rw [List.mem_singleton.mp hin, hb.id, if_pos rfl]
      exact ⟨x, rfl, hb.isCompleted⟩
  case tally =>
    intro hs hp
    -- The new stream is counted on both sides: among those that began, and among those in flight.
    rw [hb.told, hb.active, hb.nextId, hb.id, List.range_succ, Plan.due_append, Plan.due_append,
      ← Nat.add_assoc, h.tally (hb.isServed ▸ hs) (hb.panic hp)]

theorem Orderly.ended (h : Orderly plan f s) (hs : s.isServed = true) (hx : s.stream? id = some x)
    (hlive : x.isCompleted = false) (he : Ended f id x s s') (hactive : s'.active = s.active.erase id)
    (hout : ∀ y, s'.stream? id = some y → y.inserted = false) : Orderly plan f s' := by
  obtain ⟨y, hy, hparts, hsuits, hover, hgone⟩ := he.finished
  have hsx := h.sound id x hx
  have hin : id ∈ s.active := (h.inFlight hs id x hx hlive).2.2
  -- Either it is the stream that has ended, or nothing has happened to it.
  have hcases : ∀ {other : StreamId} {w : Stream}, s'.stream? other = some w →
      other = id ∧ w = y ∨ other ≠ id ∧ ∃ z, s.stream? other = some z ∧ z.SameStage w := by
    intro other w hw
    by_cases hne : other = id
    · rw [hne, hy] at hw
      exact Or.inl ⟨hne, (Option.some.inj hw).symm⟩
    · exact Or.inr ⟨hne, he.sameStage_of hne hw⟩
  refine ⟨he.plan.trans h.settled, ?known, ?sound, ?whole, ?bound, ?nodup, ?inFlight, ?there, ?tally⟩
  case known =>
    intro other w hw
    rw [he.nextId]
    rcases hcases hw with ⟨rfl, -⟩ | ⟨-, z, hz, -⟩
    · exact h.known _ x hx
    · exact h.known other z hz
  case sound =>
    intro other w hw
    rcases hcases hw with ⟨-, rfl⟩ | ⟨-, z, hz, hk⟩
    · refine ⟨?_, hsuits, fun hnot => ?_, fun _ => ⟨hout _ hy, hgone⟩⟩
      · rw [hparts]
        exact hsx.parts
      · rw [hover] at hnot
        cases hnot
    · exact hk.sound (h.sound other z hz)
  case whole =>
    intro hp other w hw
    rcases hcases hw with ⟨-, rfl⟩ | ⟨-, z, hz, hk⟩
    · exact hparts.trans (h.whole (he.panic hp) id x hx)
    · exact hk.parts.trans (h.whole (he.panic hp) other z hz)
  case bound =>
    intro other hmem
    rw [hactive] at hmem
    rw [he.nextId]
    exact h.bound other (List.mem_of_mem_erase hmem)
  case nodup =>
    rw [hactive]
    exact h.nodup.erase id
  case inFlight =>
    intro _ other w hw hnot
    rcases hcases hw with ⟨-, rfl⟩ | ⟨hne, z, hz, hk⟩
    · rw [hover] at hnot
      cases hnot
    · rw [hk.isCompleted] at hnot
      rw [hk.inserted, hk.isReset, hactive, List.mem_erase_of_ne hne]
      exact h.inFlight hs other z hz hnot
  case there =>
    intro _ other hmem
    rw [hactive] at hmem
    have hne : other ≠ id := fun heq => h.nodup.not_mem_erase (heq ▸ hmem)
    obtain ⟨z, hz, hzlive⟩ := h.there hs other (List.mem_of_mem_erase hmem)
    obtain ⟨w, hw, hk⟩ := he.sameStage other z hne hz
    exact ⟨w, hw, hk.isCompleted.trans hzlive⟩
  case tally =>
    intro _ hp
    have htally := h.tally hs (he.panic hp)
    rw [Plan.due_erase hin] at htally
    have hsaid : chainEndNotices x.span.isSome x.parts id = plan.endNotices id := by
      rw [hsx.span hlive, h.whole (he.panic hp) id x hx]
      rfl
    rw [he.told, hactive, he.nextId, hsaid]
    omega

/-- The mark of a reset is set on a stream that is over, or while the connection is not served. -/
theorem Orderly.flag (h : Orderly plan f s)
    (hok : s.isServed = true → ∀ x, s.stream? id = some x → x.isCompleted = true) :
    Orderly plan f (s.flag id) := by
  have hback : ∀ {other : StreamId} {w : Stream}, (s.flag id).stream? other = some w →
      ∃ z, s.stream? other = some z ∧ (w = z ∨ other = id ∧ w = { z with isReset := true }) := by
    intro other w hw
    rw [stream?_flag] at hw
    obtain ⟨z, hz, rfl⟩ := Option.map_eq_some_iff.mp hw
    refine ⟨z, hz, ?_⟩
    split
    · next hid => exact Or.inr ⟨(stream?_id hz).symm.trans hid, rfl⟩
    · exact Or.inl rfl
  -- No stream in flight is marked by this alone, which is what `hok` is for.
  refine ⟨h.settled, ?known, ?sound, ?whole, h.bound, h.nodup, ?inFlight, ?there, h.tally⟩
  case known =>
    intro other w hw
    obtain ⟨z, hz, -⟩ := hback hw
    exact h.known other z hz
  case sound =>
    intro other w hw
    obtain ⟨z, hz, rfl | ⟨-, rfl⟩⟩ := hback hw
    · exact h.sound other _ hz
    · have hsz := h.sound other z hz
      exact ⟨hsz.parts, hsz.memorySuits, hsz.span, hsz.departed⟩
  case whole =>
    intro hp other w hw
    obtain ⟨z, hz, rfl | ⟨-, rfl⟩⟩ := hback hw
    · exact h.whole hp other _ hz
    · exact h.whole hp other z hz
  case inFlight =>
    intro hs other w hw hlive
    obtain ⟨z, hz, rfl | ⟨rfl, rfl⟩⟩ := hback hw
    · exact h.inFlight hs other _ hz hlive
    · have hlive : z.isCompleted = false := hlive
      rw [hok hs z hz] at hlive
      cases hlive
  case there =>
    intro hs other hin
    obtain ⟨z, hz, hlive⟩ := h.there hs other hin
    have hne : other ≠ id := by
      rintro rfl
      rw [hok hs z hz] at hlive
      cases hlive
    exact ⟨z, (stream?_flag_ne hne).trans hz, hlive⟩

theorem Orderly.dropped (h : Orderly plan f s) (hid : id ∉ s.active) :
    Orderly plan f (s.dropStream id) := by
  obtain ⟨hb, hactive, hnone, htold⟩ := dropStream_besides (f := f) s id
  have hback : ∀ {other : StreamId} {w : Stream}, (s.dropStream id).stream? other = some w →
      ∃ z, s.stream? other = some z ∧ z.SameStage w := by
    intro other w hw
    refine hb.sameStage_of (fun heq => ?_) hw
    rw [heq, hnone] at hw
    cases hw
  -- The stream that goes was not in flight, so neither side of the count changes.
  refine ⟨hb.plan.trans h.settled, ?known, ?sound, ?whole, ?bound, ?nodup, ?inFlight, ?there, ?tally⟩
  case known =>
    intro other w hw
    obtain ⟨z, hz, -⟩ := hback hw
    rw [hb.nextId]
    exact h.known other z hz
  case sound =>
    intro other w hw
    obtain ⟨z, hz, hk⟩ := hback hw
    exact hk.sound (h.sound other z hz)
  case whole =>
    intro hp other w hw
    obtain ⟨z, hz, hk⟩ := hback hw
    exact hk.parts.trans (h.whole (hb.panic hp) other z hz)
  case bound =>
    rw [hactive, hb.nextId]
    exact h.bound
  case nodup =>
    rw [hactive]
    exact h.nodup
  case inFlight =>
    intro hs other w hw hlive
    obtain ⟨z, hz, hk⟩ := hback hw
    rw [hk.isCompleted] at hlive
    rw [hk.inserted, hk.isReset, hactive]
    exact h.inFlight (hb.isServed ▸ hs) other z hz hlive
  case there =>
    intro hs other hin
    rw [hactive] at hin
    obtain ⟨z, hz, hlive⟩ := h.there (hb.isServed ▸ hs) other hin
    obtain ⟨w, hw, hk⟩ := hb.sameStage other z (fun heq => hid (heq ▸ hin)) hz
    exact ⟨w, hw, hk.isCompleted.trans hlive⟩
  case tally =>
    intro hs hp
    rw [htold, hactive, hb.nextId]
    exact h.tally (hb.isServed ▸ hs) (hb.panic hp)

theorem Orderly.dismissed (h : Orderly plan f s) (g : ListenerStats → ListenerStats) :
    Orderly plan f { s.measure g with isServed := false, active := [] } where
  settled := h.settled
  known := h.known
  sound := h.sound
  whole := h.whole
  bound := fun _ hin => nomatch hin
  nodup := List.nodup_nil
  inFlight := fun hs => nomatch hs
  there := fun hs => nomatch hs
  tally := fun hs => nomatch hs

/-! ## Ends

Finishing and resetting, with the cases in which nothing happens because the stream was over
before. -/

theorem Orderly.finishStream_cases (h : Orderly plan f s) (hs : s.isServed = true) (id : StreamId) :
    s.finishStream id = s ∨ ∃ x, s.stream? id = some x ∧ x.isCompleted = false ∧
      Ended f id x s (s.finishStream id) ∧ (s.finishStream id).active = s.active.erase id ∧
      ∀ y, (s.finishStream id).stream? id = some y → y.inserted = false := by
  cases hx : s.stream? id with
  | none =>
    refine Or.inl (finishStream_of_over fun x hx' => ?_).2
    rw [hx] at hx'
    cases hx'
  | some x =>
    cases hover : x.isCompleted with
    | true =>
      refine Or.inl (finishStream_of_over fun y hy => ?_).2
      obtain rfl := Option.some.inj (hx.symm.trans hy)
      exact ⟨hover, ((h.sound id x hx).departed hover).1⟩
    | false =>
      obtain ⟨hin, -, hmem⟩ := h.inFlight hs id x hx hover
      exact Or.inr ⟨x, rfl, hover, finishStream_ended hx hover (h.sound id x hx).memorySuits hin hmem⟩

theorem Orderly.resetStream_cases (h : Orderly plan f s) (id : StreamId) :
    s.resetStream id = s ∨
    (∃ x, s.stream? id = some x ∧ x.isCompleted = true ∧ s.resetStream id = s.flag id) ∨
    (s.isServed = false ∧
      s.resetStream id = (s.flag id).measure fun m => { m with resets := m.resets.inc }) ∨
    s.isServed = true ∧ ∃ x, s.stream? id = some x ∧ x.isCompleted = false ∧
      Ended f id x s (s.resetStream id) ∧ (s.resetStream id).active = s.active.erase id ∧
      ∀ y, (s.resetStream id).stream? id = some y → y.inserted = false := by
  cases hx : s.stream? id with
  | none =>
    refine Or.inl (resetStream_of_reset fun x hx' => ?_)
    rw [hx] at hx'
    cases hx'
  | some x =>
    cases hreset : x.isReset with
    | true =>
      refine Or.inl (resetStream_of_reset fun y hy => ?_)
      obtain rfl := Option.some.inj (hx.symm.trans hy)
      exact hreset
    | false =>
      cases hover : x.isCompleted with
      | true =>
        have hleft := ((h.sound id x hx).departed hover).1
        exact Or.inr (Or.inl ⟨x, rfl, hover, resetStream_of_over hx hreset hover hleft⟩)
      | false =>
        cases hs : s.isServed with
        | false => exact Or.inr (Or.inr (Or.inl ⟨rfl, resetStream_of_dismissed hx hreset hover hs⟩))
        | true =>
          obtain ⟨hin, -, hmem⟩ := h.inFlight hs id x hx hover
          exact Or.inr (Or.inr (Or.inr ⟨rfl, x, rfl, hover,
            resetStream_ended hx hreset hover (h.sound id x hx).memorySuits hin hmem hs⟩))

/-- Every life step keeps streams in order. -/
theorem LifeStep.orderly (h : Orderly plan f s) (hf : ∀ p ∈ plan.parts, p.Withholds f)
    (hb : LifeStep f s s') : Orderly plan f s' := by
  cases hb with
  | noEnds hc => exact h.noEnds hf hc
  | began hb => exact h.began hb
  | finished hs id =>
    rcases h.finishStream_cases hs id with he | ⟨x, hx, hlive, he, hactive, hout⟩
    · rw [he]
      exact h
    · exact h.ended hs hx hlive he hactive hout
  | reset id =>
    rcases h.resetStream_cases id with he | ⟨x, hx, hover, he⟩ | ⟨hs, he⟩ |
      ⟨hs, x, hx, hlive, he, hactive, hout⟩
    · rw [he]
      exact h
    · rw [he]
      refine h.flag fun _ y hy => ?_
      obtain rfl := Option.some.inj (hx.symm.trans hy)
      exact hover
    · rw [he]
      refine Orderly.noEnds (h.flag fun hs' => ?_) hf (measure_noEnds _ _)
      rw [hs] at hs'
      cases hs'
    · exact h.ended hs hx hlive he hactive hout
  | dropped hid => exact h.dropped hid

/-! ## What stays

A stream that is over is not changed again. That is shown of each step and carried over runs, since
an end can be followed by anything. -/

/-- Streams stay what they are or go, and none comes back. Unlike `Orderly` this compares two
states, however far apart, and is what a later look at a stream is judged by. -/
structure NoneReturns (s s' : Session σ) : Prop where
  /-- Numbers are not given out twice. -/
  nextId : s.nextId ≤ s'.nextId
  /-- A promise that was broken stays broken. -/
  panic : s'.panic = none → s.panic = none
  /-- A stream that is gone stays away. -/
  gone : ∀ id, id < s.nextId → s.stream? id = none → s'.stream? id = none
  /-- A stream that is there is there later, or it is gone. -/
  stays : ∀ id x, s.stream? id = some x →
    s'.stream? id = none ∨ ∃ y, s'.stream? id = some y ∧ x.Later y

theorem NoneReturns.refl (s : Session σ) : NoneReturns s s :=
  ⟨Nat.le_refl _, fun h => h, fun _ _ h => h, fun _ x h => Or.inr ⟨x, h, Stream.Later.refl x⟩⟩

theorem NoneReturns.trans (hknown : ∀ id x, s₁.stream? id = some x → id < s₁.nextId) (h₁ : NoneReturns s₁ s₂)
    (h₂ : NoneReturns s₂ s₃) : NoneReturns s₁ s₃ where
  nextId := Nat.le_trans h₁.nextId h₂.nextId
  panic := fun h => h₁.panic (h₂.panic h)
  gone := fun id hid h => h₂.gone id (Nat.lt_of_lt_of_le hid h₁.nextId) (h₁.gone id hid h)
  stays := by
    intro id x hx
    rcases h₁.stays id x hx with hy | ⟨y, hy, hxy⟩
    · exact Or.inl (h₂.gone id (Nat.lt_of_lt_of_le (hknown id x hx) h₁.nextId) hy)
    · rcases h₂.stays id y hy with hz | ⟨z, hz, hyz⟩
      · exact Or.inl hz
      · exact Or.inr ⟨z, hz, hxy.trans hyz⟩

/-- One stream has ended or is gone, and the others stay. -/
theorem Orderly.besides (h : Orderly plan f s) (hb : Besides id s s')
    (hid : ∀ x, s.stream? id = some x →
      s'.stream? id = none ∨ ∃ y, s'.stream? id = some y ∧ x.Later y) : NoneReturns s s' where
  nextId := Nat.le_of_eq hb.nextId.symm
  panic := hb.panic
  gone := fun other _ hnone => hb.gone other hnone
  stays := by
    intro other z hz
    by_cases hne : other = id
    · subst hne
      exact hid z hz
    · obtain ⟨y, hy, hk⟩ := hb.sameStage other z hne hz
      exact Or.inr ⟨y, hy, hk.later (h.sound other z hz)⟩

theorem Orderly.lasts_ended (h : Orderly plan f s) (hs : s.isServed = true)
    (hx : s.stream? id = some x) (hlive : x.isCompleted = false) (he : Ended f id x s s') :
    NoneReturns s s' := by
  refine h.besides he.toBesides fun z hz => ?_
  obtain rfl := Option.some.inj (hx.symm.trans hz)
  obtain ⟨y, hy, -⟩ := he.finished
  have hreset := (h.inFlight hs id x hx hlive).2.1
  refine Or.inr ⟨y, hy, fun hr => ?_, fun hover => ?_⟩
  · rw [hreset] at hr
    cases hr
  · rw [hlive] at hover
    cases hover

theorem flag_noneReturns (s : Session σ) (id : StreamId) : NoneReturns s (s.flag id) where
  nextId := Nat.le_refl _
  panic := fun h => h
  gone := by
    intro other _ hnone
    rw [stream?_flag, hnone]
    rfl
  stays := by
    intro other x hx
    rw [stream?_flag, hx]
    refine Or.inr ⟨_, rfl, ?_⟩
    dsimp only
    split
    · exact ⟨fun _ => rfl, fun _ => rfl⟩
    · exact Stream.Later.refl x

theorem Orderly.lasts_noEnds (h : Orderly plan f s) (hc : NoEnds f s s') : NoneReturns s s' where
  nextId := Nat.le_of_eq hc.nextId.symm
  panic := hc.panic
  gone := fun other _ hnone => hc.gone other hnone
  stays := by
    intro other z hz
    obtain ⟨y, hy, hk⟩ := hc.sameStage other z hz
    exact Or.inr ⟨y, hy, hk.later (h.sound other z hz)⟩

theorem LifeStep.lasts (h : Orderly plan f s) (hb : LifeStep f s s') : NoneReturns s s' := by
  cases hb with
  | noEnds hc => exact h.lasts_noEnds hc
  | began hb =>
    have hlook := hb.stream?_eq h.known
    refine ⟨by rw [hb.nextId]; exact Nat.le_succ _, hb.panic, fun id hid hnone => ?_, fun id y hy => ?_⟩
    · rw [hlook, if_neg (Nat.ne_of_lt hid), hnone]
    · refine Or.inr ⟨y, ?_, Stream.Later.refl y⟩
      rw [hlook, if_neg (Nat.ne_of_lt (h.known id y hy)), hy]
  | finished hs id =>
    -- A stream that is finished was over already, and nothing happens, or ends now.
    rcases h.finishStream_cases hs id with he | ⟨x, hx, hlive, he, -, -⟩
    · rw [he]
      exact NoneReturns.refl s
    · exact h.lasts_ended hs hx hlive he
  | reset id =>
    rcases h.resetStream_cases id with he | ⟨x, hx, hover, he⟩ | ⟨hs, he⟩ |
      ⟨hs, x, hx, hlive, he, -, -⟩
    · rw [he]
      exact NoneReturns.refl s
    · rw [he]
      exact flag_noneReturns s id
    · rw [he]
      have hflag := flag_noneReturns s id
      exact ⟨hflag.nextId, hflag.panic, hflag.gone, hflag.stays⟩
    · exact h.lasts_ended hs hx hlive he
  | dropped hid =>
    obtain ⟨hb, -, hnone, -⟩ := dropStream_besides (f := f) s _
    exact h.besides hb fun _ _ => Or.inl hnone

/-- Streams are dropped behind a dismissal, and what they are till then does not change. -/
theorem dismissed_noneReturns (s : Session σ) (g : ListenerStats → ListenerStats) :
    NoneReturns s { s.measure g with isServed := false, active := [] } :=
  ⟨Nat.le_refl _, fun h => h, fun _ _ h => h, fun _ x hx => Or.inr ⟨x, hx, Stream.Later.refl x⟩⟩

theorem LifeStep.isServed (h : Orderly plan f s) (hb : LifeStep f s s') : s'.isServed = s.isServed := by
  cases hb with
  | noEnds hc => exact hc.isServed
  | began hb => exact hb.isServed
  | finished hs id =>
    rcases h.finishStream_cases hs id with he | ⟨x, -, -, he, -, -⟩
    · rw [he]
    · exact he.isServed
  | reset id =>
    rcases h.resetStream_cases id with he | ⟨x, -, -, he⟩ | ⟨-, he⟩ | ⟨-, x, -, -, he, -, -⟩
    · rw [he]
    · rw [he]
      rfl
    · rw [he]
      rfl
    · exact he.isServed
  | dropped hid => exact (dropStream_besides (f := f) s _).1.isServed

/-- A session that is not served any more says nothing that is said at the end. -/
theorem LifeStep.told_of_dismissed (h : Orderly plan f s) (hf : ∀ p ∈ plan.parts, p.Withholds f)
    (hs : s.isServed = false) (hb : LifeStep f s s') : told f s' = told f s := by
  cases hb with
  | noEnds hc => exact hc.told (h.allParts hf)
  | began hb => exact hb.told f
  | finished hserved id =>
    rw [hs] at hserved
    cases hserved
  | reset id =>
    rcases h.resetStream_cases id with he | ⟨x, -, -, he⟩ | ⟨-, he⟩ | ⟨hserved, -⟩
    · rw [he]
    · rw [he]
      rfl
    · rw [he]
      rfl
    · rw [hs] at hserved
      cases hserved
  | dropped hid => exact (dropStream_besides s _).2.2.2

/-! ## Runs

From steps to runs, and from runs to all that happens to a session. -/

theorem LifeSteps.orderly (h : Orderly plan f s) (hf : ∀ p ∈ plan.parts, p.Withholds f)
    (hb : LifeSteps f s s') : Orderly plan f s' ∧ NoneReturns s s' ∧ s'.isServed = s.isServed := by
  induction hb with
  | refl => exact ⟨h, NoneReturns.refl s, rfl⟩
  | tail _ hb ih =>
    obtain ⟨ho, hl, hs⟩ := ih
    exact ⟨hb.orderly ho hf, hl.trans h.known (hb.lasts ho), (hb.isServed ho).trans hs⟩

theorem LifeSteps.told_of_dismissed (h : Orderly plan f s) (hf : ∀ p ∈ plan.parts, p.Withholds f)
    (hs : s.isServed = false) (hb : LifeSteps f s s') : told f s' = told f s := by
  induction hb with
  | refl => rfl
  | tail hb hlast ih =>
    obtain ⟨ho, -, hserved⟩ := LifeSteps.orderly h hf hb
    exact (hlast.told_of_dismissed ho hf (hserved.trans hs)).trans ih

/-- A dismissal and all that follows say nothing that is said at the end. -/
theorem Orderly.dismiss (h : Orderly plan f s) (hf : ∀ p ∈ plan.parts, p.Withholds f) :
    Orderly plan f s.dismiss ∧ NoneReturns s s.dismiss ∧ s.dismiss.isServed = false ∧
      told f s.dismiss = told f s := by
  cases hs : s.isServed with
  | false =>
    have hsame : s.dismiss = s := by
      unfold Session.dismiss
      rw [hs]
      rfl
    rw [hsame]
    exact ⟨h, NoneReturns.refl s, hs, rfl⟩
  | true =>
    obtain ⟨g, hb⟩ := dismiss_lifeSteps (f := f) hs
    have hbase := h.dismissed g
    obtain ⟨ho, hl, hserved⟩ := LifeSteps.orderly hbase hf hb
    have htold := LifeSteps.told_of_dismissed hbase hf rfl hb
    exact ⟨ho, (dismissed_noneReturns s g).trans h.known hl, hserved, htold⟩

theorem Orderly.step (h : Orderly plan f s) (hf : ∀ p ∈ plan.parts, p.Withholds f) (op : SessionOp) :
    Orderly plan f (s.step op) ∧ NoneReturns s (s.step op) := by
  by_cases hop : op = .dismiss
  · rw [hop]
    exact ⟨(h.dismiss hf).1, (h.dismiss hf).2.1⟩
  · obtain ⟨ho, hl, -⟩ := LifeSteps.orderly h hf (step_lifeSteps s hop)
    exact ⟨ho, hl⟩

theorem Orderly.after (h : Orderly plan f s) (hf : ∀ p ∈ plan.parts, p.Withholds f)
    (ops : List SessionOp) : Orderly plan f (s.after ops) ∧ NoneReturns s (s.after ops) := by
  induction ops generalizing s with
  | nil => exact ⟨h, NoneReturns.refl s⟩
  | cons op rest ih =>
    obtain ⟨ho, hl⟩ := h.step hf op
    obtain ⟨ho', hl'⟩ := ih ho
    exact ⟨ho', hl.trans h.known hl'⟩

theorem Orderly.history (h : Orderly plan f s) (hf : ∀ p ∈ plan.parts, p.Withholds f)
    {ops : List SessionOp} {m : Session σ × Task} (hm : m ∈ s.history ops) : Orderly plan f m.1 := by
  induction ops generalizing s with
  | nil => cases hm
  | cons op rest ih =>
    rcases List.mem_append.mp hm with hm | hm
    · exact (LifeSteps.orderly h hf (takenIn_lifeSteps hm)).1
    · exact ih (h.step hf op).1 hm

theorem Orderly.served_after (h : Orderly plan f s) (hf : ∀ p ∈ plan.parts, p.Withholds f)
    {ops : List SessionOp} (hops : .dismiss ∉ ops) : (s.after ops).isServed = s.isServed := by
  induction ops generalizing s with
  | nil => rfl
  | cons op rest ih =>
    obtain ⟨hop, hrest⟩ := not_or.mp (mt List.mem_cons.mpr hops)
    obtain ⟨ho, -, hs⟩ := LifeSteps.orderly h hf (step_lifeSteps s fun he => hop he.symm)
    exact (ih ho hrest).trans hs

theorem Orderly.told_after (h : Orderly plan f s) (hf : ∀ p ∈ plan.parts, p.Withholds f)
    (hs : s.isServed = false) (ops : List SessionOp) : told f (s.after ops) = told f s := by
  induction ops generalizing s with
  | nil => rfl
  | cons op rest ih =>
    by_cases hop : op = .dismiss
    · subst hop
      obtain ⟨ho, -, hserved, htold⟩ := h.dismiss hf
      exact (ih ho hserved).trans htold
    · have hb := step_lifeSteps (f := f) s hop
      obtain ⟨ho, -, hserved⟩ := LifeSteps.orderly h hf hb
      exact (ih ho (hserved.trans hs)).trans (LifeSteps.told_of_dismissed h hf hs hb)

/-- What happens from a dismissal on says nothing that is said at the end. -/
theorem Orderly.told_dropWhile (h : Orderly plan f s) (hf : ∀ p ∈ plan.parts, p.Withholds f)
    (ops : List SessionOp) : told f (s.after (ops.dropWhile (!·.isDismissal))) = told f s := by
  have hhead := List.head?_dropWhile_not (!·.isDismissal) ops
  cases hops : ops.dropWhile (!·.isDismissal) with
  | nil => rfl
  | cons op rest =>
    rw [hops] at hhead
    have hdismissal : op.isDismissal = true := by simpa using hhead
    obtain rfl := SessionOp.eq_of_isDismissal hdismissal
    obtain ⟨ho, -, hserved, htold⟩ := h.dismiss hf
    exact (ho.told_after hf hserved rest).trans htold

/-! ## Nothing happens to a stream that has ended

The last word on a stream: what is asked of it later is absorbed. -/

/-- What is asked of a stream that is over or was reset has no effect, but for the mark of a reset.
Nor is it completed or finished again. Without a connection that is served, a stream can have been
reset and not be over; but then nothing completes it. Asking for the end of the client's connection
is left out, since it is not about the stream. -/
def Final (s : Session σ) : Prop :=
  ∀ id x, s.stream? id = some x → x.isCompleted = true ∨ x.isReset = true →
    (∀ op, op ≠ .resetConnection →
      s.perform id op = s ∨ op = .reset ∧ s.perform id op = s.flag id) ∧
    (x.isCompleted = true ∨ s.isServed = true → s.completeStream id = s ∧ s.finishStream id = s)

theorem Orderly.final (h : Orderly plan f s) : Final s := by
  intro id x hx hend
  have hclosed : x.isLive = false := by
    unfold Stream.isLive
    rcases hend with he | he
    · simp [he]
    · simp [he]
  -- While the connection is served, a stream that was reset has ended with it.
  have hover : x.isCompleted = true ∨ s.isServed = true → x.isCompleted = true := by
    intro hor
    cases hc : x.isCompleted with
    | true => rfl
    | false =>
      have hs := hor.resolve_left (by simp [hc])
      have hreset := (h.inFlight hs id x hx hc).2.1
      simp [hc, hreset] at hend
  have hagain : x.isCompleted = true ∨ s.isServed = true →
      s.completeStream id = s ∧ s.finishStream id = s := by
    intro hor
    refine finishStream_of_over fun y hy => ?_
    obtain rfl := Option.some.inj (hx.symm.trans hy)
    exact ⟨hover hor, ((h.sound id x hx).departed (hover hor)).1⟩
  refine ⟨fun op hop => ?_, hagain⟩
  cases op with
  | continueDecoding => exact Or.inl (by simp [Session.perform, Session.continueDecoding, hx, hclosed])
  | continueEncoding => exact Or.inl (by simp [Session.perform, Session.continueEncoding, hx, hclosed])
  | localReply status update =>
    exact Or.inl (by simp [Session.perform, Session.localReply, hx, hclosed])
  | respond r => exact Or.inl (by simp [Session.perform, Session.respond, hx, hclosed])
  | complete =>
    refine Or.inl ?_
    show (if s.isServed then s.finishStream id else s) = s
    split
    · next hs => exact (hagain (Or.inr hs)).2
    · rfl
  | reset =>
    have hreset : x.isReset = true → s.resetStream id = s := fun hr => resetStream_of_reset fun y hy => by
      obtain rfl := Option.some.inj (hx.symm.trans hy)
      exact hr
    cases hr : x.isReset with
    | true => exact Or.inl (hreset hr)
    | false =>
      have hc := hend.resolve_right (by simp [hr])
      exact Or.inr ⟨rfl, resetStream_of_over hx hr hc ((h.sound id x hx).departed hc).1⟩
  | resetConnection => exact absurd rfl hop

end

/-! ## Connections

A connection begins without streams, so that all of this holds of it. -/

theorem opened_orderly (number : Nat) (plan : Plan) (flags : Flags) (source : PoolSource σ)
    (side : HostSide σ) (stats : ListenerStats) (clock : Clock) (f : EndNotice) :
    Orderly plan f (opened number plan flags source side stats clock) where
  settled := rfl
  known := fun _ _ h => nomatch h
  sound := fun _ _ h => nomatch h
  whole := fun _ _ _ h => nomatch h
  bound := fun _ h => nomatch h
  nodup := List.nodup_nil
  inFlight := fun _ _ _ h => nomatch h
  there := fun _ _ h => nomatch h
  tally := fun _ _ => rfl

/-- Streams end once, and their end is final. A connection was opened, and things have happened to
it in any order; `flying` is how far it got before it was dismissed, if it was. As long as no
promise is broken, what filters withhold until the end was logged as often as the streams that began
and were not in flight any more leave it there: each filter of each of them was told once, on the
side of requests if they pass it, and each span has ended once. A stream that is over has no router
left. What is asked of a stream that is over or was reset has no effect, now or whenever a task was
taken up on the way. And whatever happens later, a stream that is over is still there with nothing
changed but the mark of a reset, or it is gone. -/
theorem opened_finality (number : Nat) (plan : Plan) (flags : Flags) (source : PoolSource σ)
    (side : HostSide σ) (stats : ListenerStats) (clock : Clock) (ops : List SessionOp) :
    let s₀ := opened number plan flags source side stats clock
    let flying := s₀.after (ops.takeWhile (!·.isDismissal))
    let s := s₀.after ops
    (∀ f, (∀ p ∈ plan.parts, p.Withholds f) → s.panic = none →
      told f s + plan.due f flying.active = plan.due f (List.range flying.nextId)) ∧
    (∀ id x, s.stream? id = some x → (x.isCompleted = true → x.Unrouted) ∧
      (s.isServed = true → (x.isCompleted = true ↔ id ∉ s.active))) ∧
    Final s ∧ (∀ m ∈ s₀.history ops, Final m.1) ∧
    ∀ id x, s.stream? id = some x → ∀ later,
      (s.after later).stream? id = none ∨ ∃ y, (s.after later).stream? id = some y ∧ x.Later y := by
  intro s₀ flying s
  have horderly : ∀ f, Orderly plan f s₀ := opened_orderly number plan flags source side stats clock
  -- No filter ends a span, so what does not speak of endNotices is read off with that one.
  have hspan : ∀ p ∈ plan.parts, p.Withholds .span := fun p _ b text _ h => nomatch h
  have hs : Orderly plan .span s := ((horderly .span).after hspan ops).1
  refine ⟨fun f hf hp => ?_, fun id x hx => ⟨fun hover => ((hs.sound id x hx).departed hover).2, ?_⟩,
    hs.final, fun m hm => ((horderly .span).history hspan hm).final, fun id x hx later => ?_⟩
  · have hrun : s = flying.after (ops.dropWhile (!·.isDismissal)) := by
      show ops.foldl step s₀ = _
      rw [← List.takeWhile_append_dropWhile (p := (!·.isDismissal)) (l := ops),
        List.foldl_append, List.takeWhile_append_dropWhile]
      rfl
    have hops : SessionOp.dismiss ∉ ops.takeWhile (!·.isDismissal) := fun hmem => by
      have hall := List.all_eq_true.mp List.all_takeWhile _ hmem
      cases hall
    have hflying : Orderly plan f flying := ((horderly f).after hf _).1
    have hserved : flying.isServed = true := (horderly f).served_after hf hops
    have hpanic : flying.panic = none := (hflying.after hf _).2.panic (hrun ▸ hp)
    rw [hrun, hflying.told_dropWhile hf]
    exact hflying.tally hserved hpanic
  · intro hserved
    refine ⟨fun hover hin => ?_, fun hout => ?_⟩
    · obtain ⟨y, hy, hlive⟩ := hs.there hserved id hin
      obtain rfl := Option.some.inj (hx.symm.trans hy)
      rw [hover] at hlive
      cases hlive
    · cases hc : x.isCompleted with
      | true => rfl
      | false => exact absurd (hs.inFlight hserved id x hx hc).2.2 hout
  · exact (hs.after hspan later).2.stays id x hx

/-- A filter that both requests and responses pass is told on the side of requests only. The stream
is completed, reset and, since the filter asks for it at the end, completed once more; only the
first end is told to anybody. -/
theorem opened_finality_dual_filter :
    let b : Behaviour := { onEnd := fun id => { asks := [(id, .complete)], notes := ["over"] },
                           onResponseEnd := fun _ => { notes := ["response over"] } }
    let plan : Plan := { label := "edge", parts := [⟨.both, .plain b⟩] }
    let s₀ := opened 0 plan {} TcpPools.source { pools := {} } (.start "edge" 0) {}
    let ops : List SessionOp := [.request { service := "users", method := "get" },
      .stream 0 .complete, .stream 0 .reset, .ask 0 .complete, .run]
    let s := s₀.after ops
    (∀ p ∈ plan.parts, p.Withholds (.note "over") ∧ p.Withholds (.note "response over")) ∧
      s.panic = none ∧ s.nextId = 1 ∧ s.active = [] ∧
      told (.note "over") s = 1 ∧ told (.note "response over") s = 0 := by
  intro b plan s₀ ops s
  have hwithholds : ∀ text, ∀ p ∈ plan.parts, p.Withholds (.note text) := by
    intro text p hp b' text' hkind _
    obtain rfl := List.mem_singleton.mp hp
    obtain rfl := FilterKind.plain.inj hkind
    simp [b]
  have hpanic : s.panic = none := by decide +kernel
  have hnext : s.nextId = 1 := by decide +kernel
  have hactive : s.active = [] := by decide +kernel
  have htally := fun text => (opened_finality 0 plan {} TcpPools.source { pools := {} }
    (.start "edge" 0) {} ops).1 (.note text) (hwithholds text) hpanic
  -- One stream was begun and it is over, so that the tally is about that one.
  have htold : ∀ text, told (.note text) s = plan.due (.note text) [0] := by
    intro text
    have h : told (.note text) s + plan.due (.note text) s.active =
      plan.due (.note text) (List.range s.nextId) := htally text
    have hnone : plan.due (.note text) [] = 0 := rfl
    have hone : List.range 1 = [0] := rfl
    rw [hnext, hactive, hnone, hone, Nat.add_zero] at h
    exact h
  refine ⟨fun p hp => ⟨hwithholds _ p hp, hwithholds _ p hp⟩, hpanic, hnext, hactive, ?_, ?_⟩
  · rw [htold]
    decide +kernel
  · rw [htold]
    decide +kernel

end Session

end RpcProxy

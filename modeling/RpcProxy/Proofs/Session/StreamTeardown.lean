import RpcProxy.Proofs.Session.StreamLifecycle

/-!
# The end of a stream

A stream that is completed is marked as over, its span ends, and its filters are told, those that
requests pass first. `Stream.teardown_perm` says that this reaches each filter once, whatever sides
the filters stand on, and `destroySlots_all` that no router is left behind. `Ended` sums up what the
end of a stream does to a session; finishing and resetting a stream in flight both come to it, and
for a stream that is over both come to nothing.

A filter that stands on both sides of a chain is one place, and would be told twice if the two sides
were gone through one after the other. The second pass leaves those out that the first has told;
that the two passes make up all places is a permutation, so it is proved of places and carried over
to what is said by counting.

Filters are told while the list of filters is changed under way, as each router takes its leave. So
what is left to be told is found by place, in a stream that is looked up anew each time, and the
induction keeps what does not change of it: its parts, and that what filters keep in mind suits
them.
-/

set_option autoImplicit false

namespace RpcProxy

theorem Side.encodes_of_not_decodes {side : Side} (h : side.decodes = false) :
    side.encodes = true := by
  cases side with
  | decoder => cases h
  | encoder => rfl
  | both => cases h

namespace Stream

/-- The places of the filters in the order in which they are told that the stream is over. A place
is in it once. -/
def teardown (x : Stream) : List Nat :=
  x.decoders ++ x.encoders.filter fun i => !(x.slots[i]?).any (·.part.side.decodes)

/-- Each filter is told once. -/
theorem teardown_perm (x : Stream) : x.teardown.Perm (List.range x.slots.length) := by
  have hrest : (x.encoders.filter fun i => !(x.slots[i]?).any (·.part.side.decodes)).Perm
      ((List.range x.slots.length).filter fun i => !(x.slots[i]?).any (·.part.side.decodes)) := by
    unfold Stream.encoders
    rw [List.filter_reverse, List.filter_filter]
    refine (List.reverse_perm _).trans (List.Perm.of_eq (List.filter_congr fun i hi => ?_))
    have hlt : i < x.slots.length := List.mem_range.mp hi
    rw [List.getElem?_eq_getElem hlt]
    -- A filter that requests do not pass is there for responses.
    cases hside : x.slots[i].part.side.decodes with
    | false => simp [hside, Side.encodes_of_not_decodes hside]
    | true => simp [hside]
  exact (List.Perm.append_left _ hrest).trans (List.filter_append_perm _ _)

/-- What the filter at a place leaves in the log when the stream ends. -/
def endNoticesAt (x : Stream) (i : Nat) : List EndNotice :=
  ((x.slots[i]?).map (·.part.endNotices x.id)).getD []

theorem count_teardown (f : EndNotice) (x : Stream) :
    (x.teardown.flatMap x.endNoticesAt).count f =
      (x.parts.flatMap (·.endNotices x.id)).count f := by
  have hall : (List.range x.slots.length).map x.endNoticesAt =
      x.slots.map (·.part.endNotices x.id) := by
    refine List.ext_getElem? fun i => ?_
    rw [List.getElem?_map, List.getElem?_map]
    by_cases hi : i < x.slots.length
    · simp [hi, endNoticesAt]
    · simp [hi]
  rw [(x.teardown_perm.flatMap_right x.endNoticesAt).count_eq, List.flatMap_def, hall,
    Stream.parts, List.flatMap_map, List.flatMap_def]

end Stream

namespace Session

variable {σ : Type} {f : EndNotice} {s s' : Session σ} {id : StreamId} {x y : Stream}

/-! ## Filters are told

Filters are told in the order of the request path, those that see responses only behind them. -/

theorem destroySlot_sameStreams (s : Session σ) (x : Stream) (slot : Nat) :
    SameStreams s (s.destroySlot x slot) := by
  unfold Session.destroySlot
  split
  · exact SameStreams.refl s
  · exact afterFilter_sameStreams s _
  · exact .same rfl rfl rfl rfl (fun h => h) rfl
  · exact SameStreams.refl s
  · exact (destroyRouter_works s _).sameStreams

theorem destroySlot_told (hsuits : x.MemorySuits) (slot : Nat) :
    told f (s.destroySlot x slot) = told f s + (x.endNoticesAt slot).count f := by
  unfold Session.destroySlot Stream.endNoticesAt
  split
  · next h => simp [h]
  · next side b memory h =>
    rw [told_afterFilter, h]
    rfl
  · next side sink entry started h =>
    rw [told_note, h]
    simp [LogEvent.endNotice?, Part.endNotices, List.count_singleton]
  · next side sink memory hnot h =>
    obtain ⟨entry, started, hm⟩ := (hsuits _ (List.mem_of_getElem? h)).line sink rfl
    exact absurd hm (hnot entry started)
  · next side generation memory h =>
    rw [(destroyRouter_works s _).told, h]
    rfl

/-- A router that is told is gone. -/
theorem destroySlot_router {slot : Nat} {z : Slot} (hz : x.slots[slot]? = some z)
    (hrouter : z.part.isRouter = true) (hy : (s.destroySlot x slot).stream? x.id = some y) :
    y.router? slot = none := by
  obtain ⟨⟨side, kind⟩, memory⟩ := z
  cases kind with
  | plain b => cases hrouter
  | accessLog sink => cases hrouter
  | router generation =>
    have hd : s.destroySlot x slot = s.destroyRouter (s.refTo x.id slot) := by
      unfold Session.destroySlot
      rw [hz]
    obtain ⟨htouch, hnone⟩ := destroyRouter_touches s (s.refTo x.id slot)
    rw [hd] at hy
    have hnumber : (s.refTo x.id slot).session = (s.destroyRouter (s.refTo x.id slot)).number := by
      obtain ⟨g, side, notes, panic, -, h⟩ := htouch
      rw [h]
      rfl
    unfold Session.router? at hnone
    rw [if_pos hnumber] at hnone
    have hslot : ((s.destroyRouter (s.refTo x.id slot)).stream? x.id).bind (·.router? slot) = none :=
      hnone
    rwa [hy] at hslot

/-- All filters at some places are told. -/
theorem destroyAll (hsuits : x.MemorySuits) (slots : List Nat) (s : Session σ) :
    SameStreams s (slots.foldl (fun s i => s.destroySlot x i) s) ∧
      told f (slots.foldl (fun s i => s.destroySlot x i) s) =
        told f s + (slots.flatMap x.endNoticesAt).count f ∧
      ∀ slot ∈ slots, ∀ z, x.slots[slot]? = some z → z.part.isRouter = true → ∀ y,
        (slots.foldl (fun s i => s.destroySlot x i) s).stream? x.id = some y →
          y.router? slot = none := by
  induction slots generalizing s with
  | nil => exact ⟨SameStreams.refl s, by simp, by simp⟩
  | cons i rest ih =>
    obtain ⟨hsame, htold, hgone⟩ := ih (s.destroySlot x i)
    rw [List.foldl_cons]
    refine ⟨(destroySlot_sameStreams s x i).trans hsame, ?_, ?_⟩
    · rw [htold, destroySlot_told hsuits, List.flatMap_cons, List.count_append, Nat.add_assoc]
    · intro slot hslot z hz hrouter y hy
      by_cases hmem : slot ∈ rest
      · exact hgone slot hmem z hz hrouter y hy
      · obtain rfl : slot = i := by
          rcases List.mem_cons.mp hslot with h | h
          · exact h
          · exact absurd h hmem
        obtain ⟨w, hw, hk⟩ := hsame.sameStage_of hy
        exact hk.routers slot (destroySlot_router hz hrouter hw)

/-! ## A stream is over

What a stream owed is told, its routers are gone, and others are at the stage that they were in. -/

/-- Nothing has happened to streams but one. Other streams may have what they keep in mind changed,
as when a router of theirs is told something, and stay at the same stage. -/
structure Besides (id : StreamId) (s s' : Session σ) : Prop where
  /-- The plan stays. -/
  plan : s'.plan = s.plan
  /-- The connection is served if it was. -/
  isServed : s'.isServed = s.isServed
  /-- No stream has begun. -/
  nextId : s'.nextId = s.nextId
  /-- A promise that was broken stays broken. -/
  panic : s'.panic = none → s.panic = none
  /-- A stream that is not there does not come back. -/
  gone : ∀ other, s.stream? other = none → s'.stream? other = none
  /-- Another stream stays, at its stage. -/
  sameStage : ∀ other z, other ≠ id → s.stream? other = some z →
    ∃ y, s'.stream? other = some y ∧ z.SameStage y

/-- The stream `x` has ended: its filters were told, its routers are gone, and it has left the
streams in flight. What was said at the end is counted for one kind of notice at a time. -/
structure Ended (f : EndNotice) (id : StreamId) (x : Stream) (s s' : Session σ) : Prop
    extends Besides id s s' where
  finished : ∃ y, s'.stream? id = some y ∧
    y.parts = x.parts ∧ y.MemorySuits ∧ y.isCompleted = true ∧ y.Unrouted
  /-- What is said at the end was said once. -/
  told : told f s' = told f s + (chainEndNotices x.span.isSome x.parts id).count f

theorem Besides.sameStage_of (h : Besides id s s') {other : StreamId} (hne : other ≠ id)
    (hy : s'.stream? other = some y) : ∃ z, s.stream? other = some z ∧ z.SameStage y := by
  cases hz : s.stream? other with
  | none =>
    rw [h.gone other hz] at hy
    cases hy
  | some z =>
    obtain ⟨w, hw, hk⟩ := h.sameStage other z hne hz
    rw [hy] at hw
    obtain rfl := Option.some.inj hw
    exact ⟨z, rfl, hk⟩

theorem recordEnd_told (s : Session σ) (x : Stream) :
    told f (s.recordEnd x) = told f s + (if x.span.isSome then [EndNotice.span] else []).count f := by
  unfold Session.recordEnd
  dsimp only
  split
  · next h =>
    rw [told_note, h]
    simp only [LogEvent.endNotice?, Option.isSome_some, if_true, List.count_singleton,
      Option.some.injEq, beq_iff_eq]
    rfl
  · next h =>
    rw [h]
    rfl

theorem recordEnd_sameStreams (s : Session σ) (x : Stream) : SameStreams s (s.recordEnd x) := by
  unfold Session.recordEnd
  dsimp only
  split
  · exact .same rfl rfl rfl rfl (fun h => h) rfl
  · exact .same rfl rfl rfl rfl (fun h => h) rfl

theorem recordEnd_streams (s : Session σ) (x : Stream) : (s.recordEnd x).streams = s.streams := by
  unfold Session.recordEnd
  dsimp only
  split
  · rfl
  · rfl

/-- When all its filters were told, no router of a stream is left. -/
theorem destroySlots_all (hsuits : x.MemorySuits) (hy : s.stream? x.id = some y) (hparts : y.parts = x.parts)
    (hy' : y.MemorySuits) :
    SameStreams s (s.destroySlots x) ∧
      told f (s.destroySlots x) = told f s + (x.parts.flatMap (·.endNotices x.id)).count f ∧
      ∃ z, (s.destroySlots x).stream? x.id = some z ∧ y.SameStage z ∧ z.Unrouted := by
  obtain ⟨hsame, htold, hgone⟩ := destroyAll (f := f) hsuits x.teardown s
  obtain ⟨z, hz, hk⟩ := hsame.sameStage x.id y hy
  refine ⟨hsame, htold.trans (by rw [Stream.count_teardown]), z, hz, hk, fun slot => ?_⟩
  cases hr : z.router? slot with
  | none => rfl
  | some r =>
    -- Only a router has a router in mind, and all routers were told.
    obtain ⟨w, hw, hrouter⟩ : ∃ w, z.slots[slot]? = some w ∧ w.part.isRouter = true := by
      unfold Stream.router? at hr
      split at hr
      · next part r' hslot =>
        exact ⟨_, hslot, (hk.memorySuits hy' _ (List.mem_of_getElem? hslot)).router r' rfl⟩
      · cases hr
    have hpart := Stream.part_congr (hk.parts.trans hparts) slot
    rw [hw] at hpart
    obtain ⟨v, hv, hvw⟩ := Option.map_eq_some_iff.mp hpart.symm
    have hslot : slot ∈ x.teardown :=
      x.teardown_perm.mem_iff.mpr (List.mem_range.mpr (List.getElem?_eq_some_iff.mp hv).1)
    have hnone := hgone slot hslot v hv (by rw [hvw]; exact hrouter) z hz
    rw [hr] at hnone
    cases hnone

theorem completeStream_ended (hx : s.stream? id = some x) (hlive : x.isCompleted = false)
    (hsuits : x.MemorySuits) : Ended f id x s (s.completeStream id) ∧
      (s.completeStream id).active = s.active ∧
      ∀ y, (s.completeStream id).stream? id = some y → y.inserted = x.inserted := by
  obtain rfl := stream?_id hx
  have hrecorded := recordEnd_sameStreams s x
  have htold₁ := recordEnd_told (f := f) s x
  have hstreams := recordEnd_streams s x
  unfold Session.completeStream
  rw [hx]
  simp only [hlive, Bool.false_eq_true, if_false]
  generalize s.recordEnd x = s₁ at *
  generalize hmark : (fun y : Stream =>
    { y with isCompleted := true, info := y.info.complete s₁.now, span := none }) = mark
  have hid : ∀ y, (mark y).id = y.id := by
    intro y
    rw [← hmark]
  have hlook : ∀ other, (s₁.modifyStream x.id mark).stream? other =
      (s.stream? other).map fun y => if y.id = x.id then mark y else y := by
    intro other
    rw [stream?_modifyStream hid, Session.stream?, hstreams]
    rfl
  have hmarked : (s₁.modifyStream x.id mark).stream? x.id = some (mark x) := by
    rw [hlook, hx, Option.map_some, if_pos rfl]
  have hslots : (mark x).slots = x.slots ∧ (mark x).isCompleted = true ∧
      (mark x).inserted = x.inserted := by
    rw [← hmark]
    exact ⟨rfl, rfl, rfl⟩
  have hmsuits : (mark x).MemorySuits := by
    unfold Stream.MemorySuits
    rw [hslots.1]
    exact hsuits
  have hmparts : (mark x).parts = x.parts := by
    unfold Stream.parts
    rw [hslots.1]
  -- The stream is marked as over before anybody is told, so whatever filters ask for now finds it
  -- over.
  obtain ⟨hsame, htold₂, z, hz, hk, hgone⟩ :=
    destroySlots_all (f := f) hsuits hmarked hmparts hmsuits
  refine ⟨⟨⟨hsame.plan.trans hrecorded.plan, hsame.isServed.trans hrecorded.isServed,
    hsame.nextId.trans hrecorded.nextId, fun h => hrecorded.panic (hsame.panic h), ?_, ?_⟩,
    ⟨z, hz, hk.parts.trans hmparts, hk.memorySuits hmsuits, hk.isCompleted.trans hslots.2.1, hgone⟩, ?_⟩,
    hsame.active.trans hrecorded.active, ?_⟩
  · intro other hnone
    refine hsame.gone other ?_
    rw [hlook, hnone]
    rfl
  · intro other w hne hw
    refine hsame.sameStage other w ?_
    rw [hlook, hw, Option.map_some, if_neg fun h => hne ((stream?_id hw).symm.trans h)]
  · have htold₃ : told f (s₁.modifyStream x.id mark) = told f s₁ := rfl
    rw [htold₂, htold₃, htold₁, chainEndNotices, List.count_append, Nat.add_assoc]
  · intro y hy
    obtain rfl := Option.some.inj (hz.symm.trans hy)
    exact hk.inserted.trans hslots.2.2

/-- A stream that is over and has left is not finished again. -/
theorem finishStream_of_over (h : ∀ x, s.stream? id = some x →
    x.isCompleted = true ∧ x.inserted = false) :
    s.completeStream id = s ∧ s.finishStream id = s := by
  have hcomplete : s.completeStream id = s := by
    unfold Session.completeStream
    split
    · rfl
    · next x hx => rw [if_pos (h x hx).1]
  refine ⟨hcomplete, ?_⟩
  unfold Session.finishStream
  dsimp only
  rw [hcomplete]
  split
  · rfl
  · next x hx => simp [(h x hx).2]

/-- A stream that has ended leaves the streams in flight. -/
theorem Ended.leave {s₁ s₂ : Session σ} (h : Ended f id x s s₁)
    (hplan : s₂.plan = s₁.plan) (hserved : s₂.isServed = s₁.isServed)
    (hnext : s₂.nextId = s₁.nextId) (hpanic : s₂.panic = s₁.panic) (hlog : s₂.log = s₁.log)
    (hstreams : s₂.streams = (s₁.modifyStream id fun y => { y with inserted := false }).streams) :
    Ended f id x s s₂ ∧ ∀ y, s₂.stream? id = some y → y.inserted = false := by
  have hlook : ∀ other, s₂.stream? other =
      (s₁.stream? other).map fun y => if y.id = id then { y with inserted := false } else y :=
    fun other => stream?_of_map (fun y => by split <;> rfl) hstreams other
  obtain ⟨y, hy, hparts, hsuits, hover, hgone⟩ := h.finished
  have hyleft : s₂.stream? id = some { y with inserted := false } := by
    rw [hlook, hy, Option.map_some, if_pos (stream?_id hy)]
  refine ⟨⟨⟨hplan.trans h.plan, hserved.trans h.isServed, hnext.trans h.nextId,
    fun hp => h.panic (hpanic ▸ hp), ?_, ?_⟩, ⟨_, hyleft, hparts, hsuits, hover, hgone⟩, ?_⟩, ?_⟩
  · intro other hnone
    rw [hlook, h.gone other hnone]
    rfl
  · intro other z hne hz
    obtain ⟨w, hw, hk⟩ := h.sameStage other z hne hz
    refine ⟨w, ?_, hk⟩
    rw [hlook, hw, Option.map_some, if_neg fun he => hne ((stream?_id hw).symm.trans he)]
  · rw [← h.told, Session.told, hlog]
    rfl
  · intro z hz
    obtain rfl := Option.some.inj (hyleft.symm.trans hz)
    rfl

theorem finishStream_ended (hx : s.stream? id = some x) (hlive : x.isCompleted = false)
    (hsuits : x.MemorySuits) (hinserted : x.inserted = true) (hin : id ∈ s.active) :
    Ended f id x s (s.finishStream id) ∧ (s.finishStream id).active = s.active.erase id ∧
      ∀ y, (s.finishStream id).stream? id = some y → y.inserted = false := by
  obtain ⟨hended, hactive, hleft⟩ := completeStream_ended (f := f) hx hlive hsuits
  obtain ⟨y, hy, -⟩ := hended.finished
  have hyin : y.inserted = true := (hleft y hy).trans hinserted
  unfold Session.finishStream
  dsimp only
  generalize s.completeStream id = s₁ at *
  have hcontains : (s₁.modifyStream id fun x => { x with inserted := false }).active.contains id := by
    show s₁.active.contains id = true
    rw [hactive]
    exact List.contains_iff_mem.mpr hin
  have hlast : ∀ s₂ : Session σ, s₂.plan = s₁.plan → s₂.isServed = s₁.isServed →
      s₂.nextId = s₁.nextId → s₂.panic = s₁.panic → s₂.log = s₁.log →
      s₂.streams = (s₁.modifyStream id fun y => { y with inserted := false }).streams →
      s₂.active = s₁.active.erase id → Ended f id x s s₂ ∧ s₂.active = s.active.erase id ∧
        ∀ y, s₂.stream? id = some y → y.inserted = false := by
    intro s₂ hplan hserved hnext hpanic hlog hstreams herased
    obtain ⟨h, hout⟩ := hended.leave hplan hserved hnext hpanic hlog hstreams
    exact ⟨h, herased.trans (congrArg (·.erase id) hactive), hout⟩
  rw [hy]
  dsimp only
  rw [hyin, if_neg (by simp), if_pos hcontains]
  -- The connection may be closed behind the last stream; streams and log do not see it.
  unfold Session.closeIfDrained
  split
  · exact hlast _ rfl rfl rfl rfl rfl rfl rfl
  · exact hlast _ rfl rfl rfl rfl rfl rfl rfl

/-! ## A stream is reset

A stream that was reset before, or is over, has nothing more to tell. -/

theorem stream?_flag (s : Session σ) (id other : StreamId) :
    (s.flag id).stream? other =
      (s.stream? other).map fun x => if x.id = id then { x with isReset := true } else x :=
  stream?_modifyStream (f := fun x => { x with isReset := true }) (fun _ => rfl) other

theorem stream?_flag_same (hx : s.stream? id = some x) :
    (s.flag id).stream? id = some { x with isReset := true } := by
  rw [stream?_flag, hx, Option.map_some, if_pos (stream?_id hx)]

theorem stream?_flag_ne {other : StreamId} (h : other ≠ id) :
    (s.flag id).stream? other = s.stream? other := by
  rw [stream?_flag]
  cases hx : s.stream? other with
  | none => rfl
  | some x => rw [Option.map_some, if_neg fun he => h ((stream?_id hx).symm.trans he)]

/-- The mark alone is set on a stream that is over. -/
theorem resetStream_of_over (hx : s.stream? id = some x) (hreset : x.isReset = false)
    (hover : x.isCompleted = true) (hleft : x.inserted = false) : s.resetStream id = s.flag id := by
  have hsame : (s.flag id).finishStream id = s.flag id := by
    refine (finishStream_of_over fun y hy => ?_).2
    rw [stream?_flag_same hx] at hy
    obtain rfl := Option.some.inj hy
    exact ⟨hover, hleft⟩
  unfold Session.resetStream
  rw [hx]
  simp only [hreset, hover, Bool.false_eq_true, if_false, if_true]
  split
  · exact hsame
  · rfl

/-- Without a connection that is served, a stream is marked and its reset is counted. -/
theorem resetStream_of_dismissed (hx : s.stream? id = some x) (hreset : x.isReset = false)
    (hlive : x.isCompleted = false) (hserved : s.isServed = false) :
    s.resetStream id = (s.flag id).measure fun m => { m with resets := m.resets.inc } := by
  unfold Session.resetStream
  rw [hx]
  simp only [hreset, hlive, Bool.false_eq_true, if_false]
  rw [if_neg]
  · rfl
  · show ¬s.isServed = true
    simp [hserved]

theorem resetStream_of_reset (h : ∀ x, s.stream? id = some x → x.isReset = true) :
    s.resetStream id = s := by
  unfold Session.resetStream
  split
  · rfl
  · next x hx => rw [if_pos (h x hx)]

theorem resetStream_ended (hx : s.stream? id = some x) (hreset : x.isReset = false)
    (hlive : x.isCompleted = false) (hsuits : x.MemorySuits) (hinserted : x.inserted = true)
    (hin : id ∈ s.active) (hserved : s.isServed = true) :
    Ended f id x s (s.resetStream id) ∧ (s.resetStream id).active = s.active.erase id ∧
      ∀ y, (s.resetStream id).stream? id = some y → y.inserted = false := by
  have heq : s.resetStream id =
      ((s.flag id).measure fun m => { m with resets := m.resets.inc }).finishStream id := by
    unfold Session.resetStream
    rw [hx]
    simp only [hreset, hlive, Bool.false_eq_true, if_false]
    exact if_pos hserved
  rw [heq]
  obtain ⟨h, hactive, hout⟩ := finishStream_ended (f := f)
    (s := (s.flag id).measure fun m => { m with resets := m.resets.inc })
    (stream?_flag_same hx) hlive hsuits hinserted hin
  refine ⟨⟨⟨h.plan, h.isServed, h.nextId, h.panic, fun other hnone => h.gone other ?_,
    fun other z hne hz => h.sameStage other z hne ?_⟩, h.finished, h.told⟩, hactive, hout⟩
  · show (s.flag id).stream? other = none
    rw [stream?_flag, hnone]
    rfl
  · exact (stream?_flag_ne hne).trans hz

/-! ## A stream is dropped

Only a stream that is over is dropped, so that nobody hears of it. -/

theorem dropRouters_sameStreams (slots : List Nat) (s : Session σ) (id : StreamId) :
    SameStreams s (slots.foldl (fun s slot => s.dropRouter (s.refTo id slot)) s) ∧
      told f (slots.foldl (fun s slot => s.dropRouter (s.refTo id slot)) s) = told f s := by
  induction slots generalizing s with
  | nil => exact ⟨SameStreams.refl s, rfl⟩
  | cons slot rest ih =>
    have hworks := dropRouter_works s (s.refTo id slot)
    obtain ⟨hsame, htold⟩ := ih (s.dropRouter (s.refTo id slot))
    exact ⟨hworks.sameStreams.trans hsame, htold.trans hworks.told⟩

/-- A stream that is dropped is gone, and nothing is said. -/
theorem dropStream_besides (s : Session σ) (id : StreamId) :
    Besides id s (s.dropStream id) ∧ (s.dropStream id).active = s.active ∧
      (s.dropStream id).stream? id = none ∧ told f (s.dropStream id) = told f s := by
  unfold Session.dropStream
  split
  · next hnone =>
    have hsame := SameStreams.refl s
    exact ⟨⟨rfl, rfl, rfl, fun h => h, hsame.gone, fun other z _ => hsame.sameStage other z⟩, rfl, hnone,
      rfl⟩
  · next x _ =>
    obtain ⟨hsame, htold⟩ := dropRouters_sameStreams (f := f) x.routers s id
    generalize x.routers.foldl (fun s slot => s.dropRouter (s.refTo id slot)) s = s₁ at *
    refine ⟨⟨hsame.plan, hsame.isServed, hsame.nextId, hsame.panic, ?_, ?_⟩, hsame.active,
      stream?_filter_same s₁ id, htold⟩
    · intro other hnone
      by_cases hne : other = id
      · rw [hne]
        exact stream?_filter_same s₁ id
      · exact (stream?_filter_ne hne).trans (hsame.gone other hnone)
    · intro other z hne hz
      obtain ⟨y, hy, hk⟩ := hsame.sameStage other z hz
      exact ⟨y, (stream?_filter_ne hne).trans hy, hk⟩

end Session

end RpcProxy

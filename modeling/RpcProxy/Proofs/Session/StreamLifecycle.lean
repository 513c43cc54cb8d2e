import Mathlib.Algebra.GroupWithZero.Nat
import Mathlib.Logic.Relation
import RpcProxy.Proofs.Session.RouterWork

/-!
# The lives of streams

As far as the lives of its streams are concerned, a session does few things: a stream begins, it is
finished, it is reset, it is dropped, and in between the messages of streams that are not over move
on (`NoEnds`). `LifeStep` lists them, and `step_lifeSteps` takes everything that can happen to a
session apart into life steps, except for its dismissal.

The moves of a session (`Move`) would not do here. They forget what is written to the log and
whatever routers do not see of a stream, which is nearly all of it, while finality is about just
that: a stream that is over must stay the same in every field (`SameStage.fixed`), and what its end
leaves in the log must be there once. So life steps keep an eye on every field of a stream that is
over, and on the log, and say nothing about pools.

The end of a stream shows in the log. What it leaves there, times and statuses aside, is a
`EndNotice`: a note of a filter, a line of an access log, the end of a span. Lines are counted by
`told`, and since a filter may note the same text while messages pass it, a count means something
only for endNotices that the filters withhold until the end (`Part.Withholds`). Hence the parameter
of `NoEnds`: work between beginnings and ends says nothing that all filters withhold. For spans and
access logs nothing has to be asked, since messages never write those.

A session that is dismissed drops streams that are in flight, and they never end. This is the one
thing that is not made of life steps, since `LifeStep.dropped` asks that the stream has left the
streams in flight; `dismiss_lifeSteps` says what is left of it: the session stops being served, and
then its streams go.
-/

set_option autoImplicit false

namespace RpcProxy

/-! ## What the end of a stream leaves in the log

A filter may leave a note at the end of a stream, and the session ends its span. Both are counted in
the log, and each filter has to withhold its note until then for the count to mean anything. -/

/-- What the end of a stream leaves in the log, times and statuses aside. Those depend on when the
stream ends and how; that there is one line for each filter and one end of the span does not. -/
inductive EndNotice where
  | note (text : String)
  /-- A line of an access log. -/
  | line (file : Option String)
  | span
deriving DecidableEq, Repr

/-- What an event of the log would be at the end of a stream. -/
def LogEvent.endNotice? : LogEvent → Option EndNotice
  | .note text => some (.note text)
  | .access file _ => some (.line file)
  | .spanEnd _ _ => some .span
  | .spanStart _ _ _ _ | .pool _ => none

/-- What a filter leaves in the log when a stream ends. It is told once: on the side of requests if
they pass it, whether responses pass it or not. -/
def Part.endNotices (p : Part) (id : StreamId) : List EndNotice :=
  match p.kind with
  | .plain b => (b.atEnd p.side id).notes.map .note
  | .accessLog sink => [.line sink.file]
  | .router _ => []

/-- What a stream that has a span, or none, and a chain of filters leaves in the log when it
ends. -/
def chainEndNotices (traced : Bool) (parts : List Part) (id : StreamId) : List EndNotice :=
  (if traced then [.span] else []) ++ parts.flatMap (·.endNotices id)

/-- What a stream leaves in the log when it ends. -/
def Plan.endNotices (plan : Plan) (id : StreamId) : List EndNotice :=
  chainEndNotices plan.tracing.isSome plan.parts id

/-- A filter does not log this while messages pass it. What it logs when the stream ends is not
restricted: that is where the notice is to come from. -/
def Part.Withholds (p : Part) (f : EndNotice) : Prop :=
  ∀ b text, p.kind = .plain b → f = .note text →
    (∀ view r, text ∉ (b.onRequest view r).notes) ∧
      ∀ view number r, text ∉ (b.onResponse view number r).notes

/-! ## What a stream is made of

The part of a stream that only beginnings and ends change. What a filter keeps in mind is not part
of it, except that it has to be of the right kind for the filter. -/

/-- What a filter keeps in mind suits it. A line of an access log is written from what the filter
has noted when the stream began, so a filter of that kind without its notes would end a stream
silently. -/
structure Slot.MemorySuits (y : Slot) : Prop where
  line : ∀ sink, y.part.kind = .accessLog sink → ∃ entry started, y.memory = .access entry started
  router : ∀ r, y.memory = .router r → y.part.isRouter = true

namespace Stream

def parts (x : Stream) : List Part := x.slots.map (·.part)

/-- What filters keep in mind suits them. -/
def MemorySuits (x : Stream) : Prop := ∀ y ∈ x.slots, y.MemorySuits

/-- None of the routers of a stream is there any more. -/
def Unrouted (x : Stream) : Prop := ∀ slot, x.router? slot = none

/-- The same stream somewhat later, neither begun nor ended nor reset in between. As long as the
stream is not over, its messages, cursors and notes may be others. Once it is over and its routers
are gone, it is the same altogether; both are needed, since a router may be told something between
the mark and its destruction. -/
structure SameStage (x y : Stream) : Prop where
  /-- It has the same number. -/
  id : y.id = x.id
  /-- The filters are the same. -/
  parts : y.parts = x.parts
  /-- What filters keep in mind still suits them. -/
  memorySuits : x.MemorySuits → y.MemorySuits
  /-- It is over if it was before. -/
  isCompleted : y.isCompleted = x.isCompleted
  /-- It is reset if it was before. -/
  isReset : y.isReset = x.isReset
  /-- It is among the streams in flight if it was before. -/
  inserted : y.inserted = x.inserted
  /-- It has the span that it had. -/
  span : y.span = x.span
  /-- Routers that are gone stay so. -/
  routers : ∀ slot, x.router? slot = none → y.router? slot = none
  /-- A stream that is over does not change at all. -/
  fixed : x.isCompleted = true → x.Unrouted → y = x

variable {x y z : Stream}

theorem SameStage.refl (x : Stream) : x.SameStage x :=
  ⟨rfl, rfl, fun h => h, rfl, rfl, rfl, rfl, fun _ h => h, fun _ _ => rfl⟩

theorem SameStage.trans (h₁ : x.SameStage y) (h₂ : y.SameStage z) : x.SameStage z where
  id := h₂.id.trans h₁.id
  parts := h₂.parts.trans h₁.parts
  memorySuits := fun h => h₂.memorySuits (h₁.memorySuits h)
  isCompleted := h₂.isCompleted.trans h₁.isCompleted
  isReset := h₂.isReset.trans h₁.isReset
  inserted := h₂.inserted.trans h₁.inserted
  span := h₂.span.trans h₁.span
  routers := fun slot h => h₂.routers slot (h₁.routers slot h)
  fixed := by
    intro hover hnone
    obtain rfl := h₁.fixed hover hnone
    exact h₂.fixed hover hnone

/-- Messages, cursors and notes of a stream that is not over may change. -/
theorem SameStage.live {y : Stream} (hlive : x.isCompleted = false) (hid : y.id = x.id)
    (hslots : y.slots = x.slots) (hcompleted : y.isCompleted = x.isCompleted)
    (hreset : y.isReset = x.isReset) (hinserted : y.inserted = x.inserted)
    (hspan : y.span = x.span) : x.SameStage y where
  id := hid
  parts := by rw [Stream.parts, hslots]; rfl
  memorySuits := by
    intro h
    unfold Stream.MemorySuits
    rw [hslots]
    exact h
  isCompleted := hcompleted
  isReset := hreset
  inserted := hinserted
  span := hspan
  routers := by
    intro slot h
    unfold Stream.router? at h ⊢
    rw [hslots]
    exact h
  fixed := fun hover => by simp [hlive] at hover

theorem SameStage.resolve (hlive : x.isCompleted = false) (routes : RouteTable) :
    x.SameStage (x.resolve routes) := by
  unfold Stream.resolve
  split
  · exact SameStage.refl x
  · exact SameStage.live hlive rfl rfl rfl rfl rfl rfl

theorem mem_modify {α : Type} {l : List α} {i : Nat} {f : α → α} {a : α} (h : a ∈ l.modify i f) :
    a ∈ l ∨ ∃ b, l[i]? = some b ∧ a = f b := by
  obtain ⟨j, hj⟩ := List.mem_iff_getElem?.mp h
  rw [List.getElem?_modify] at hj
  obtain ⟨b, hb, rfl⟩ := Option.map_eq_some_iff.mp hj
  split
  · next hij => exact Or.inr ⟨b, hij ▸ hb, by simp⟩
  · exact Or.inl (List.mem_of_getElem? hb)

theorem SameStage.amend (hlive : x.isCompleted = false) (slot : Nat)
    (f : AccessLog.Entry → AccessLog.Entry) : x.SameStage (x.amend slot f) where
  id := rfl
  parts := (Alike.amend x slot f).parts
  memorySuits := by
    intro h y hy
    rcases mem_modify hy with hy | ⟨z, hz, rfl⟩
    · exact h y hy
    · have hz := h z (List.mem_of_getElem? hz)
      refine ⟨fun sink hk => ?_, fun r hr => ?_⟩
      · obtain ⟨entry, started, hm⟩ := hz.line sink hk
        exact ⟨f entry, started, by simp [hm, Memory.amend]⟩
      · refine hz.router r ?_
        cases hm : z.memory with
        | nothing => simp [hm, Memory.amend] at hr
        | access entry started => simp [hm, Memory.amend] at hr
        | router r' => simpa [hm, Memory.amend] using hr
  isCompleted := rfl
  isReset := rfl
  inserted := rfl
  span := rfl
  routers := fun i h => ((Alike.amend x slot f).routers i).trans h
  fixed := fun hover => by simp [hlive] at hover

theorem recall_flags (ref : RouterRef) (g : Memory → Memory) (x : Stream) :
    (x.recall ref g).isCompleted = x.isCompleted ∧ (x.recall ref g).isReset = x.isReset ∧
      (x.recall ref g).inserted = x.inserted ∧ (x.recall ref g).span = x.span := by
  rw [Stream.recall_eq]
  exact ⟨rfl, rfl, rfl, rfl⟩

/-- A router changes what it has in mind itself, or nothing. -/
theorem SameStage.recall {ref : RouterRef} {g : Memory → Memory}
    (h : x.id = ref.stream → x.router? ref.slot = none → ∀ m, g m = m) :
    x.SameStage (x.recall ref g) := by
  by_cases hsame : x.recall ref g = x
  · rw [hsame]
    exact SameStage.refl x
  -- Something has changed, so the router was there.
  have hid : x.id = ref.stream := by
    refine Decidable.byContradiction fun hne => hsame ?_
    unfold Stream.recall
    rw [if_neg hne]
  obtain ⟨r, hr⟩ : ∃ r, x.router? ref.slot = some r := by
    refine Option.isSome_iff_exists.mp (Option.isSome_iff_ne_none.mpr fun hnone => hsame ?_)
    obtain rfl : g = fun m => m := funext (h hid hnone)
    exact Stream.recall_same ref x
  obtain ⟨hcompleted, hreset, hinserted, hspan⟩ := recall_flags ref g x
  refine ⟨Stream.recall_id ref g x, Stream.recall_parts ref g x, ?_, hcompleted, hreset, hinserted,
    hspan, ?_, ?_⟩
  · intro hsuits y hy
    unfold Stream.recall at hy
    rw [if_pos hid] at hy
    rcases mem_modify hy with hy | ⟨z, hz, rfl⟩
    · exact hsuits y hy
    · have hrouter : z.part.isRouter = true := by
        obtain ⟨part, memory⟩ := z
        unfold Stream.router? at hr
        rw [hz] at hr
        refine (hsuits _ (List.mem_of_getElem? hz)).router r ?_
        cases memory with
        | nothing => cases hr
        | access entry started => cases hr
        | router r' => rw [Option.some.inj hr]
      refine ⟨fun sink hk => ?_, fun _ _ => hrouter⟩
      have hk : z.part.kind = .accessLog sink := hk
      simp [Part.isRouter, hk] at hrouter
  · intro slot hnone
    by_cases hslot : slot = ref.slot
    · rw [hslot, hr] at hnone
      cases hnone
    · rw [Stream.recall_router?_of_ne g (Or.inr hslot)]
      exact hnone
  · intro _ hnone
    rw [hnone ref.slot] at hr
    cases hr

end Stream

namespace Session

variable {σ : Type}

/-! ## The log

The log only grows, so what was told before is told still. -/

/-- How often something that streams say at their end was logged. Counting, rather than asking
whether it is there, is what lets `once` be said of lines that several streams have in common. -/
def told (f : EndNotice) (s : Session σ) : Nat := (s.log.filterMap LogEvent.endNotice?).count f

section

variable {f : EndNotice} {s s' s₁ s₂ s₃ : Session σ} {id : StreamId}

theorem told_append {es : List LogEvent} (h : s'.log = es ++ s.log) :
    told f s' = told f s + (es.filterMap LogEvent.endNotice?).count f := by
  unfold told
  rw [h, List.filterMap_append, List.count_append, Nat.add_comm]

theorem told_note (s : Session σ) (e : LogEvent) :
    told f (s.note e) = told f s + if e.endNotice? = some f then 1 else 0 := by
  have hlog : (s.note e).log = [e] ++ s.log := rfl
  rw [told_append hlog]
  cases he : e.endNotice? with
  | none => simp [he]
  | some g =>
    by_cases hg : g = f
    · simp [he, hg]
    · simp [he, hg]

theorem told_afterFilter (s : Session σ) (a : Asides) :
    told f (s.afterFilter a) = told f s + (a.notes.map EndNotice.note).count f := by
  rw [afterFilter_eq, told_append (s := s) rfl, List.filterMap_reverse, List.count_reverse,
    List.filterMap_map]
  congr 2
  exact congrFun (List.filterMap_eq_map (f := EndNotice.note)) a.notes

/-! ## Between beginnings and ends

Almost everything a session does begins and ends nothing. The relation for it has two halves: the
streams stay as they are, and nothing is logged that belongs to an end. -/

/-- No stream has begun, ended, been reset or been dropped: the streams that are there are the same,
each at the stage that it was in. -/
structure SameStreams (s s' : Session σ) : Prop where
  /-- The plan stays. -/
  plan : s'.plan = s.plan
  /-- The connection is served if it was. -/
  isServed : s'.isServed = s.isServed
  /-- No stream has begun. -/
  nextId : s'.nextId = s.nextId
  /-- The same streams are in flight. -/
  active : s'.active = s.active
  /-- A promise that was broken stays broken. -/
  panic : s'.panic = none → s.panic = none
  /-- A stream that is not there does not come back. -/
  gone : ∀ id, s.stream? id = none → s'.stream? id = none
  /-- A stream that is there stays, at its stage. -/
  sameStage : ∀ id x, s.stream? id = some x → ∃ y, s'.stream? id = some y ∧ x.SameStage y

/-- All filters of all streams have a property. -/
def AllParts (P : Part → Prop) (s : Session σ) : Prop :=
  ∀ id x, s.stream? id = some x → ∀ p ∈ x.parts, P p

/-- Work between beginnings and ends. As long as the filters of all streams withhold something until
the end, it is not logged. The filters are asked in the state before the work: that they are the
same behind it is what `SameStreams.allParts` says, and so the condition can be carried along a
run. -/
structure NoEnds (f : EndNotice) (s s' : Session σ) : Prop extends SameStreams s s' where
  /-- Nothing was logged that filters say at the end only. -/
  told : s.AllParts (·.Withholds f) → told f s' = told f s

theorem SameStreams.sameStage_of (h : SameStreams s s') {y : Stream} (hy : s'.stream? id = some y) :
    ∃ x, s.stream? id = some x ∧ x.SameStage y := by
  cases hx : s.stream? id with
  | none =>
    rw [h.gone id hx] at hy
    cases hy
  | some x =>
    obtain ⟨z, hz, hk⟩ := h.sameStage id x hx
    rw [hy] at hz
    obtain rfl := Option.some.inj hz
    exact ⟨x, rfl, hk⟩

theorem SameStreams.allParts {P : Part → Prop} (h : SameStreams s s') (hs : s.AllParts P) :
    s'.AllParts P := by
  intro id y hy p hp
  obtain ⟨x, hx, hk⟩ := h.sameStage_of hy
  exact hs id x hx p (hk.parts ▸ hp)

theorem AllParts.modifyStream {P : Part → Prop} (h : s.AllParts P) {g : Stream → Stream}
    (hid : ∀ x, (g x).id = x.id) (hparts : ∀ x, (g x).parts = x.parts) (id : StreamId) :
    (s.modifyStream id g).AllParts P := by
  intro other y hy
  rw [stream?_modifyStream hid] at hy
  obtain ⟨x, hx, rfl⟩ := Option.map_eq_some_iff.mp hy
  split
  · exact hparts x ▸ h other x hx
  · exact h other x hx

/-- A stream that is marked and counted keeps its filters. -/
theorem AllParts.flag {P : Part → Prop} (h : s.AllParts P) (id : StreamId)
    (count : ListenerStats → ListenerStats) : ((s.flag id).measure count).AllParts P :=
  h.modifyStream (g := fun x => { x with isReset := true }) (fun _ => rfl) (fun _ => rfl) id

/-- A stream that is going to be answered keeps its filters. -/
theorem AllParts.aboutToReply {P : Part → Prop} (h : s.AllParts P) (id : StreamId) :
    (s.aboutToReply id).AllParts P := by
  have hcounted : (s.measure fun m => { m with localReplies := m.localReplies.inc }).AllParts P := h
  exact hcounted.modifyStream (g := fun x => { x with info := { x.info with localReply := true } })
    (fun _ => rfl) (fun _ => rfl) id

/-- A stream whose filters have the property comes to the others. -/
theorem AllParts.append {P : Part → Prop} (h : s.AllParts P) {x : Stream}
    (hstreams : s'.streams = s.streams ++ [x]) (hx : ∀ p ∈ x.parts, P p) : s'.AllParts P := by
  intro id y hy
  rw [stream?_append hstreams] at hy
  rcases Option.or_eq_some_iff.mp hy with hy | ⟨-, hy⟩
  · exact h id y hy
  · obtain ⟨-, hsame⟩ := Option.ite_none_right_eq_some.mp hy
    obtain rfl := Option.some.inj hsame
    exact hx

theorem SameStreams.refl (s : Session σ) : SameStreams s s :=
  ⟨rfl, rfl, rfl, rfl, fun h => h, fun _ h => h, fun _ x h => ⟨x, h, Stream.SameStage.refl x⟩⟩

theorem SameStreams.trans (h₁ : SameStreams s₁ s₂) (h₂ : SameStreams s₂ s₃) : SameStreams s₁ s₃ where
  plan := h₂.plan.trans h₁.plan
  isServed := h₂.isServed.trans h₁.isServed
  nextId := h₂.nextId.trans h₁.nextId
  active := h₂.active.trans h₁.active
  panic := fun h => h₁.panic (h₂.panic h)
  gone := fun id h => h₂.gone id (h₁.gone id h)
  sameStage := by
    intro id x hx
    obtain ⟨y, hy, hxy⟩ := h₁.sameStage id x hx
    obtain ⟨z, hz, hyz⟩ := h₂.sameStage id y hy
    exact ⟨z, hz, hxy.trans hyz⟩

theorem NoEnds.trans (h₁ : NoEnds f s₁ s₂) (h₂ : NoEnds f s₂ s₃) : NoEnds f s₁ s₃ where
  toSameStreams := h₁.toSameStreams.trans h₂.toSameStreams
  told := by
    intro hf
    exact (h₂.told (h₁.toSameStreams.allParts hf)).trans (h₁.told hf)

/-- The streams are the same altogether. -/
theorem SameStreams.same (hplan : s'.plan = s.plan) (hserved : s'.isServed = s.isServed)
    (hnext : s'.nextId = s.nextId) (hactive : s'.active = s.active)
    (hpanic : s'.panic = none → s.panic = none) (hstreams : s'.streams = s.streams) :
    SameStreams s s' where
  plan := hplan
  isServed := hserved
  nextId := hnext
  active := hactive
  panic := hpanic
  gone := by
    intro id h
    rwa [Session.stream?, hstreams]
  sameStage := by
    intro id x h
    refine ⟨x, ?_, Stream.SameStage.refl x⟩
    rwa [Session.stream?, hstreams]

theorem afterFilter_sameStreams (s : Session σ) (a : Asides) : SameStreams s (s.afterFilter a) := by
  rw [afterFilter_eq]
  exact .same rfl rfl rfl rfl (fun h => h) rfl

theorem NoEnds.same (hplan : s'.plan = s.plan) (hserved : s'.isServed = s.isServed)
    (hnext : s'.nextId = s.nextId) (hactive : s'.active = s.active)
    (hpanic : s'.panic = none → s.panic = none) (hstreams : s'.streams = s.streams)
    (hlog : s'.log = s.log) : NoEnds f s s' where
  toSameStreams := .same hplan hserved hnext hactive hpanic hstreams
  told := fun _ => by rw [Session.told, hlog]; rfl

theorem NoEnds.refl (s : Session σ) : NoEnds f s s := .same rfl rfl rfl rfl (fun h => h) rfl rfl

theorem NoEnds.modifyStream {g : Stream → Stream} (hid : ∀ x, (g x).id = x.id)
    (hg : ∀ x, s.stream? id = some x → x.SameStage (g x)) : NoEnds f s (s.modifyStream id g) where
  plan := rfl
  isServed := rfl
  nextId := rfl
  active := rfl
  panic := fun h => h
  gone := by
    intro other h
    rw [stream?_modifyStream hid, h]
    rfl
  sameStage := by
    intro other x hx
    refine ⟨if x.id = id then g x else x, by rw [stream?_modifyStream hid, hx]; rfl, ?_⟩
    split
    · next h =>
      refine hg x ?_
      rw [← h, stream?_id hx, hx]
    · exact Stream.SameStage.refl x
  told := fun _ => rfl

theorem post_noEnds (s : Session σ) (t : Task) : NoEnds f s (s.post t) :=
  .same rfl rfl rfl rfl (fun h => h) rfl rfl

theorem measure_noEnds (s : Session σ) (g : ListenerStats → ListenerStats) : NoEnds f s (s.measure g) :=
  .same rfl rfl rfl rfl (fun h => h) rfl rfl

theorem stop_noEnds (s : Session σ) (p : Panic) : NoEnds f s (s.stop p) :=
  .same rfl rfl rfl rfl (fun h => nomatch h) rfl rfl

/-- Routers log what pools tell and nothing else. -/
theorem Works.told {ref : RouterRef} (h : Works ref s s') : told f s' = told f s := by
  obtain ⟨ops, -, g, side, notes, panic, -, rfl⟩ := h
  have hsilent : (notes.map LogEvent.pool).filterMap LogEvent.endNotice? = [] := by
    simp [LogEvent.endNotice?]
  rw [told_append (s := s) rfl, hsilent, List.count_nil, Nat.add_zero]

/-- A stream without routers is not touched by the work of a router. -/
theorem Works.sameStreams {ref : RouterRef} (h : Works ref s s') : SameStreams s s' := by
  obtain ⟨ops, -, g, side, notes, panic, hg, rfl⟩ := h
  have hstream : ∀ id, Session.stream? { s with
      streams := s.streams.map (·.recall ref g)
      side
      log := notes.map .pool ++ s.log
      queue := { s.queue with posted := s.queue.posted ++ ops.map (.router ref) }
      panic := panic.or s.panic } id = (s.stream? id).map (·.recall ref g) :=
    stream?_of_map (Stream.recall_id ref g) rfl
  refine ⟨rfl, rfl, rfl, rfl, fun hp => (Option.or_eq_none_iff.mp hp).2, ?_, ?_⟩
  · intro id hx
    rw [hstream, hx]
    rfl
  · intro id x hx
    refine ⟨x.recall ref g, by rw [hstream, hx]; rfl, Stream.SameStage.recall fun hid hnone => hg ?_⟩
    unfold Session.router?
    split
    · rw [← hid, stream?_id hx, hx]
      exact hnone
    · rfl

theorem Works.noEnds {ref : RouterRef} (h : Works ref s s') : NoEnds f s s' :=
  ⟨h.sameStreams, fun _ => h.told⟩

theorem closeIfDrained_noEnds (s : Session σ) : NoEnds f s s.closeIfDrained := by
  unfold Session.closeIfDrained
  split
  · exact .same rfl rfl rfl rfl (fun h => h) rfl rfl
  · exact NoEnds.refl s

theorem writeToClient_noEnds (s : Session σ) (data : Bytes) (last : Bool) :
    NoEnds f s (s.writeToClient data last) := by
  have hwritten : NoEnds f s { s with connection := s.connection.write data last } :=
    .same rfl rfl rfl rfl (fun h => h) rfl rfl
  unfold Session.writeToClient
  dsimp only
  split
  · exact hwritten.trans (post_noEnds _ _)
  · exact hwritten

/-- What a filter leaves behind ends nothing, and says nothing that belongs to an end unless its
notes do. -/
theorem afterFilter_noEnds (s : Session σ) (a : Asides)
    (ha : s.AllParts (·.Withholds f) → (a.notes.map EndNotice.note).count f = 0) :
    NoEnds f s (s.afterFilter a) :=
  ⟨afterFilter_sameStreams s a, fun hf => by rw [told_afterFilter, ha hf, Nat.add_zero]⟩

theorem count_note_eq_zero {texts : List String} (h : ∀ text, f = .note text → text ∉ texts) :
    (texts.map EndNotice.note).count f = 0 := by
  refine List.count_eq_zero.mpr fun hf => ?_
  obtain ⟨text, hmem, rfl⟩ := List.mem_map.mp hf
  exact h text rfl hmem

theorem withholds_of_slot {x : Stream} {slot : Nat} {y : Slot} {b : Behaviour}
    (hx : s.stream? id = some x) (hy : x.slots[slot]? = some y) (hb : y.part.kind = .plain b)
    (hf : s.AllParts (·.Withholds f)) :
    ∀ text, f = .note text →
      (∀ view r, text ∉ (b.onRequest view r).notes) ∧
        ∀ view number r, text ∉ (b.onResponse view number r).notes :=
  fun text => hf id x hx y.part (List.mem_map_of_mem (List.mem_of_getElem? hy)) b text hb

/-! ## Requests

Filters that meet a request may ask for ends, but those are tasks, done later. -/

theorem decodeOne_noEnds {x : Stream} (hx : s.stream? x.id = some x) (hlive : x.isCompleted = false)
    (slot : Nat) : NoEnds f s (s.decodeOne x slot).2 := by
  have hself : ∀ {y : Stream}, s.stream? x.id = some y → y = x := fun hy =>
    Option.some.inj (hy.symm.trans hx)
  unfold Session.decodeOne
  split
  · exact NoEnds.refl s
  · next b _ hslot =>
    dsimp only
    generalize hv : b.onRequest x.view x.request = v
    have hmessage : NoEnds f s (s.modifyStream x.id fun x => { x with request := v.message }) := by
      refine NoEnds.modifyStream (fun _ => rfl) fun y hy => ?_
      obtain rfl := hself hy
      exact Stream.SameStage.live hlive rfl rfl rfl rfl rfl rfl
    have hfound := stream?_modifyStream_same (f := fun x => { x with request := v.message })
      (fun _ => rfl) hx
    refine hmessage.trans (afterFilter_noEnds _ _ fun hf => count_note_eq_zero fun text htext => ?_)
    rw [← hv]
    exact (withholds_of_slot hfound hslot rfl hf text htext).1 _ _
  · next sink _ hslot =>
    refine NoEnds.modifyStream (fun _ => rfl) fun y hy => ?_
    obtain rfl := hself hy
    exact Stream.SameStage.amend hlive slot _
  · exact (route_works s _ _ _ _).noEnds

/-- A request that meets a filter leaves all filters in their places. -/
theorem decodeOne_allParts {P : Part → Prop} (h : s.AllParts P) (x : Stream) (slot : Nat) :
    (s.decodeOne x slot).2.AllParts P := by
  unfold Session.decodeOne
  split
  · exact h
  · refine (afterFilter_sameStreams _ _).allParts (h.modifyStream ?_ ?_ x.id)
    · exact fun _ => rfl
    · exact fun _ => rfl
  · refine h.modifyStream ?_ ?_ x.id
    · exact fun _ => rfl
    · exact fun y => (Stream.Alike.amend y slot _).parts
  · exact (route_works s _ _ _ _).sameStreams.allParts h

/-- A stream that was live is live as long as nothing begins or ends. -/
theorem NoEnds.live (h : NoEnds f s s') (hlive : ∀ x, s.stream? id = some x → x.isCompleted = false) :
    ∀ y, s'.stream? id = some y → y.isCompleted = false := by
  intro y hy
  obtain ⟨x, hx, hk⟩ := h.sameStage_of hy
  exact hk.isCompleted.trans (hlive x hx)

theorem decodeThrough_noEnds (slots : List Nat)
    (hlive : ∀ x, s.stream? id = some x → x.isCompleted = false) :
    NoEnds f s (s.decodeThrough id slots) := by
  refine decodeThrough_invariant (P := NoEnds f s) (fun s' h => ?_) (fun s' y slot h hy => ?_) slots s
    (.refl s)
  · exact h.trans (NoEnds.modifyStream (fun _ => rfl) fun y hy =>
      Stream.SameStage.live (h.live hlive y hy) rfl rfl rfl rfl rfl rfl)
  · obtain rfl := stream?_id hy
    exact h.trans (decodeOne_noEnds hy (h.live hlive y hy) slot)

theorem isLive_iff {x : Stream} (h : ¬(!x.isLive) = true) : x.isCompleted = false := by
  unfold Stream.isLive at h
  cases hc : x.isCompleted with
  | false => rfl
  | true => simp [hc] at h

theorem continueDecoding_noEnds (s : Session σ) (id : StreamId) : NoEnds f s (s.continueDecoding id) := by
  unfold Session.continueDecoding
  split
  · exact NoEnds.refl s
  · next x hx =>
    split
    · exact NoEnds.refl s
    · next hlive =>
      have hresolve : NoEnds f s (s.modifyStream id (·.resolve s.plan.routes)) := by
        refine NoEnds.modifyStream (fun y => (Stream.Alike.resolve y _).id) fun y hy => ?_
        obtain rfl := Option.some.inj (hx.symm.trans hy)
        exact Stream.SameStage.resolve (isLive_iff hlive) _
      refine hresolve.trans (decodeThrough_noEnds _ fun y hy => ?_)
      obtain ⟨z, hz, hk⟩ := hresolve.sameStage_of hy
      obtain rfl := Option.some.inj (hx.symm.trans hz)
      exact hk.isCompleted.trans (isLive_iff hlive)

/-- A response that meets a filter leaves all filters in their places. -/
theorem encodeOne_allParts {P : Part → Prop} (h : s.AllParts P) (x : Stream) (r : Response) (slot : Nat) :
    (s.encodeOne x r slot).2.AllParts P := by
  unfold Session.encodeOne
  split
  · refine (afterFilter_sameStreams _ _).allParts (h.modifyStream ?_ ?_ x.id)
    · exact fun _ => rfl
    · exact fun _ => rfl
  · refine h.modifyStream ?_ ?_ x.id
    · exact fun _ => rfl
    · exact fun y => (Stream.Alike.amend y slot _).parts
  · exact h

theorem encodeOne_noEnds {x : Stream} (hx : s.stream? x.id = some x) (hlive : x.isCompleted = false)
    (r : Response) (slot : Nat) : NoEnds f s (s.encodeOne x r slot).2 := by
  have hself : ∀ {y : Stream}, s.stream? x.id = some y → y = x := fun hy =>
    Option.some.inj (hy.symm.trans hx)
  unfold Session.encodeOne
  split
  · next b _ hslot =>
    dsimp only
    generalize hv : b.onResponse x.view x.answers r = v
    have hmessage : NoEnds f s (s.modifyStream x.id fun x => { x with response := some v.message }) := by
      refine NoEnds.modifyStream (fun _ => rfl) fun y hy => ?_
      obtain rfl := hself hy
      exact Stream.SameStage.live hlive rfl rfl rfl rfl rfl rfl
    have hfound := stream?_modifyStream_same (f := fun x => { x with response := some v.message })
      (fun _ => rfl) hx
    refine hmessage.trans (afterFilter_noEnds _ _ fun hf => count_note_eq_zero fun text htext => ?_)
    rw [← hv]
    exact (withholds_of_slot hfound hslot rfl hf text htext).2 _ _ _
  · refine NoEnds.modifyStream (fun _ => rfl) fun y hy => ?_
    obtain rfl := hself hy
    exact Stream.SameStage.amend hlive slot _
  · exact NoEnds.refl s

end

/-! ## Life steps

A run as a sequence of the few things that can happen to a stream. -/

/-- A stream begins. It gets the filters of the plan, or none if a promise was broken, which happens
when the clock shows a time that a filter cannot note. Its span is started with it, if streams are
traced; that is logged, but is no such notice. -/
structure Starts (s : Session σ) (x : Stream) (s' : Session σ) : Prop where
  /-- The plan stays. -/
  plan : s'.plan = s.plan
  /-- A connection begins streams as long as it is served, and goes on to be. -/
  isServed : s'.isServed = s.isServed
  /-- The next number was given out. -/
  nextId : s'.nextId = s.nextId + 1
  /-- The stream is in flight, behind all others. -/
  active : s'.active = s.active ++ [x.id]
  /-- The stream is behind all others. -/
  streams : s'.streams = s.streams ++ [x]
  /-- A promise that was broken stays broken. -/
  panic : s'.panic = none → s.panic = none
  /-- Nothing was logged that is said at the end. -/
  told : ∀ f, told f s' = told f s
  /-- The stream has the number that was given out. -/
  id : x.id = s.nextId
  /-- It has no filter that is not in the plan. -/
  parts : ∀ p ∈ x.parts, p ∈ s.plan.parts
  /-- It has all filters of the plan unless a promise was broken. -/
  whole : s'.panic = none → x.parts = s.plan.parts
  /-- What the filters keep in mind suits them. -/
  memorySuits : x.MemorySuits
  /-- There is a span if there are to be any. -/
  span : x.span.isSome = s.plan.tracing.isSome
  /-- It is not over. -/
  isCompleted : x.isCompleted = false
  /-- It was not reset. -/
  isReset : x.isReset = false
  /-- It was put among the streams in flight. -/
  inserted : x.inserted = true

/-- What can happen in the life of a stream. That a stream is finished or dropped comes with a
condition, since finishing is nothing to a session that is not served, and a stream that is in
flight is not dropped. -/
inductive LifeStep (f : EndNotice) : Session σ → Session σ → Prop
  /-- Nothing begins or ends. -/
  | noEnds {s s' : Session σ} (h : NoEnds f s s') : LifeStep f s s'
  /-- A stream begins. -/
  | began {s s' : Session σ} {x : Stream} (h : Starts s x s') : LifeStep f s s'
  /-- A stream is over, by a reply or silently. -/
  | finished {s : Session σ} (h : s.isServed = true) (id : StreamId) : LifeStep f s (s.finishStream id)
  /-- A stream is reset, which does nothing to one that was reset before. -/
  | reset (s : Session σ) (id : StreamId) : LifeStep f s (s.resetStream id)
  /-- A stream that is not in flight is dropped. -/
  | dropped {s : Session σ} {id : StreamId} (h : id ∉ s.active) : LifeStep f s (s.dropStream id)

/-- Life steps one after another. No labels are needed: what an end leaves behind is read off the
log. -/
abbrev LifeSteps (f : EndNotice) : Session σ → Session σ → Prop := Relation.ReflTransGen (LifeStep f)

section

variable {f : EndNotice} {s s' s₁ s₂ s₃ : Session σ} {id : StreamId}

theorem LifeStep.lifeSteps (h : LifeStep f s s') : LifeSteps f s s' := .single h

theorem NoEnds.lifeSteps (h : NoEnds f s s') : LifeSteps f s s' := .single (.noEnds h)

theorem LifeSteps.foldl {α : Type} {g : Session σ → α → Session σ} (hg : ∀ s a, LifeSteps f s (g s a))
    (l : List α) (s : Session σ) : LifeSteps f s (l.foldl g s) := by
  induction l generalizing s with
  | nil => exact .refl
  | cons a rest ih => exact (hg s a).trans (ih (g s a))

theorem resetAll_lifeSteps (s : Session σ) : LifeSteps f s s.resetAll :=
  LifeSteps.foldl (fun s id => (LifeStep.reset s id).lifeSteps) _ s

theorem onConnectionEvent_lifeSteps (s : Session σ) (e : ConnectionEvent) :
    LifeSteps f s (s.onConnectionEvent e) := by
  have hclosed : NoEnds f s { s with isClosed := true } :=
    .same rfl rfl rfl rfl (fun h => h) rfl rfl
  cases e with
  | remoteClose => exact hclosed.lifeSteps.trans (resetAll_lifeSteps _)
  | localClose => exact hclosed.lifeSteps.trans (resetAll_lifeSteps _)
  | connected => exact .refl
  | connectedZeroRtt => exact .refl

theorem closeConnection_lifeSteps (s : Session σ) (how : CloseType) :
    LifeSteps f s (s.closeConnection how) := by
  unfold Session.closeConnection
  split
  · exact .refl
  · refine .trans (NoEnds.lifeSteps ?_) (onConnectionEvent_lifeSteps _ _)
    exact .same rfl rfl rfl rfl (fun h => h) rfl rfl

/-! ## Replies

A reply ends its stream when it has been written. -/

theorem sendReply_lifeSteps (hlive : ∀ x, s.stream? id = some x → x.isCompleted = false) :
    LifeSteps f s (s.sendReply id) := by
  unfold Session.sendReply
  split
  · exact .refl
  · next x hx =>
    split
    · exact .refl
    · next r _ =>
      split
      · exact .refl
      · next hserved =>
        have hstatus : NoEnds f s (s.modifyStream id fun x =>
            { x with info := { x.info with status := some r.status.code } }) :=
          NoEnds.modifyStream (fun _ => rfl) fun y hy =>
            Stream.SameStage.live (hlive y hy) rfl rfl rfl rfl rfl rfl
        have hquiet := hstatus.trans (writeToClient_noEnds _ r.encode r.asksToClose)
        -- The connection may have been closed by the reply, but it is served as before, so the
        -- stream is finished and not left behind.
        refine hquiet.lifeSteps.trans (LifeStep.lifeSteps (.finished ?_ id))
        rw [hquiet.isServed]
        simpa using hserved

theorem encodeThrough_lifeSteps (slots : List Nat)
    (hlive : ∀ x, s.stream? id = some x → x.isCompleted = false) :
    LifeSteps f s (s.encodeThrough id slots) := by
  refine encodeThrough_invariant (P := NoEnds f s) (Q := LifeSteps f s) (fun s' h => ?_)
    (fun s' y r slot h hy _ => ?_) (fun _ h => h.lifeSteps)
    (fun s' h => h.lifeSteps.trans (sendReply_lifeSteps (h.live hlive))) slots s (.refl s)
  · exact h.trans (NoEnds.modifyStream (fun _ => rfl) fun y hy =>
      Stream.SameStage.live (h.live hlive y hy) rfl rfl rfl rfl rfl rfl)
  · obtain rfl := stream?_id hy
    exact h.trans (encodeOne_noEnds hy (h.live hlive y hy) r slot)

theorem continueEncoding_lifeSteps (s : Session σ) (id : StreamId) :
    LifeSteps f s (s.continueEncoding id) := by
  unfold Session.continueEncoding
  split
  · exact .refl
  · next x hx =>
    split
    · exact .refl
    · next hlive =>
      refine encodeThrough_lifeSteps _ fun y hy => ?_
      obtain rfl := Option.some.inj (hx.symm.trans hy)
      exact isLive_iff fun h => hlive (by rw [h]; rfl)

theorem respond_lifeSteps (s : Session σ) (id : StreamId) (r : Response) :
    LifeSteps f s (s.respond id r) := by
  unfold Session.respond
  split
  · exact .refl
  · next x hx =>
    split
    · exact .refl
    · next hlive =>
      refine .trans (NoEnds.lifeSteps ?_) (continueEncoding_lifeSteps _ id)
      refine NoEnds.modifyStream (fun _ => rfl) fun y hy => ?_
      obtain rfl := Option.some.inj (hx.symm.trans hy)
      exact Stream.SameStage.live (isLive_iff hlive) rfl rfl rfl rfl rfl rfl

theorem localReply_lifeSteps (s : Session σ) (id : StreamId) (status : Status)
    (update : Change) : LifeSteps f s (s.localReply id status update) := by
  rcases localReply_eq s id status update with heq | heq | ⟨x, r, hx, hlive, heq⟩
  · rw [heq]
  · rw [heq]
    exact (stop_noEnds s _).lifeSteps
  · rw [heq]
    refine .trans (NoEnds.lifeSteps ?_) (respond_lifeSteps _ id r)
    -- The stream is in flight, and stays so until its reply is written.
    refine (measure_noEnds s _).trans (NoEnds.modifyStream (fun _ => rfl) fun y hy => ?_)
    obtain rfl := Option.some.inj (hx.symm.trans hy)
    exact Stream.SameStage.live (isLive_iff fun h => by rw [hlive] at h; cases h) rfl rfl rfl rfl rfl rfl

/-! ## Beginnings

A stream is put behind the others with all filters of the plan, and its request sets out. -/

theorem start_memorySuits (start : StreamId) (clock : Clock) (p : Part) :
    (Slot.start start clock p).MemorySuits := by
  obtain ⟨side, kind⟩ := p
  cases kind with
  | plain b => exact ⟨fun _ h => (nomatch h), fun _ h => (nomatch h)⟩
  | accessLog sink => exact ⟨fun _ _ => ⟨_, _, rfl⟩, fun _ h => (nomatch h)⟩
  | router generation => exact ⟨fun _ h => (nomatch h), fun _ _ => rfl⟩

theorem openSpan_cases (s : Session σ) (request : Request) :
    ∃ (info : StreamInfo) (span : Option (Config.Tracing × Bool)) (es : List LogEvent),
      s.openSpan request = (info, span, { s with log := es ++ s.log }) ∧
      span.isSome = s.plan.tracing.isSome ∧ es.filterMap LogEvent.endNotice? = [] := by
  unfold Session.openSpan
  dsimp only
  split
  · next h => exact ⟨_, _, [], rfl, by simp [h], rfl⟩
  · next t h => exact ⟨_, _, [_], rfl, by simp [h], rfl⟩

theorem beginStream_lifeSteps (s : Session σ) (request : Request) :
    LifeSteps f s (s.beginStream request) := by
  unfold Session.beginStream
  dsimp only
  split
  · exact (stop_noEnds s _).lifeSteps
  · obtain ⟨info, span, es, hopen, hspan, hes⟩ :=
      openSpan_cases { s with nextId := s.nextId + 1 } request
    rw [hopen]
    dsimp only
    have htold : ∀ (g : EndNotice) (s' : Session σ), s'.log = es ++ s.log → told g s' = told g s := by
      intro g s' h
      rw [told_append h, hes, List.count_nil, Nat.add_zero]
    generalize hslots : (if (decide (s.clock.wall < 0) && s.plan.parts.any (·.stamps)) = true then []
      else s.plan.parts.map (Slot.start s.nextId s.clock)) = slots
    split
    · next hstuck =>
      obtain rfl : [] = slots := by rw [← hslots, if_pos hstuck]
      refine LifeStep.lifeSteps (.began (x := { id := s.nextId, request, info, span, inserted := true }) ?_)
      refine ⟨rfl, rfl, rfl, rfl, rfl, fun h => ?_, fun g => htold g _ rfl, rfl, fun p hp => ?_,
        fun h => ?_, fun y hy => ?_, hspan, rfl, rfl, rfl⟩
      · cases h
      · cases hp
      · cases h
      · cases hy
    · next hstuck =>
      rw [if_neg hstuck] at hslots
      have hparts : slots.map (·.part) = s.plan.parts := by
        rw [← hslots, List.map_map]
        exact List.map_id _
      -- The request meets its filters at once, when the stream is among the streams already.
      refine .trans (LifeStep.lifeSteps (.began
        (x := { id := s.nextId, request, slots, info, span, inserted := true }) ?_))
        (continueDecoding_noEnds _ _).lifeSteps
      refine ⟨rfl, rfl, rfl, rfl, rfl, fun h => h, fun g => htold g _ rfl, rfl,
        fun p hp => ?_, fun _ => hparts, fun y hy => ?_, hspan, rfl, rfl, rfl⟩
      · rwa [Stream.parts, hparts] at hp
      · rw [← hslots] at hy
        obtain ⟨p, -, rfl⟩ := List.mem_map.mp hy
        exact start_memorySuits _ _ p

theorem onWireEvent_lifeSteps (s : Session σ) (e : Wire.Event) : LifeSteps f s (s.onWireEvent e) := by
  unfold Session.onWireEvent
  split
  · exact .refl
  · cases e with
    | request r => exact beginStream_lifeSteps s r
    | failure =>
      have hreset : LifeSteps f s _ := (measure_noEnds s fun m =>
        { m with decodingErrors := m.decodingErrors.inc }).lifeSteps.trans (resetAll_lifeSteps _)
      exact hreset.trans (NoEnds.lifeSteps (.same rfl rfl rfl rfl (fun h => h) rfl rfl))

theorem onClientData_lifeSteps (s : Session σ) (data : Bytes) : LifeSteps f s (s.onClientData data) := by
  unfold Session.onClientData
  dsimp only
  split
  · exact NoEnds.lifeSteps (.same rfl rfl rfl rfl (fun h => h) rfl rfl)
  · refine .trans (NoEnds.lifeSteps ?_) (LifeSteps.foldl (fun s e => onWireEvent_lifeSteps s e) _ _)
    exact .same rfl rfl rfl rfl (fun h => h) rfl rfl

/-! ## Everything that happens

All functions up to whole operations. -/

theorem dropUnneeded_lifeSteps (s : Session σ) (id : StreamId) : LifeSteps f s (s.dropUnneeded id) := by
  unfold Session.dropUnneeded
  split
  · exact .refl
  · next h =>
    refine LifeStep.lifeSteps (.dropped fun hid => h ?_)
    simp [hid]

theorem clearDeferred_lifeSteps (s : Session σ) : LifeSteps f s s.clearDeferred := by
  refine .trans (NoEnds.lifeSteps ?_) (LifeSteps.foldl (fun s id => dropUnneeded_lifeSteps s id) _ _)
  exact .same rfl rfl rfl rfl (fun h => h) rfl rfl

/-- A session that is dismissed is not served any more, and then its streams go. -/
theorem dismiss_lifeSteps (hs : s.isServed = true) :
    ∃ g, LifeSteps f { s.measure g with isServed := false, active := [] } s.dismiss := by
  unfold Session.dismiss
  rw [hs]
  -- No stream is in flight any more when they are dropped, so each of them may go.
  exact ⟨_, LifeSteps.foldl (fun s id => dropUnneeded_lifeSteps s id) _ _⟩

theorem perform_lifeSteps (s : Session σ) (id : StreamId) (op : StreamOp) :
    LifeSteps f s (s.perform id op) := by
  cases op with
  | continueDecoding => exact (continueDecoding_noEnds s id).lifeSteps
  | continueEncoding => exact continueEncoding_lifeSteps s id
  | localReply status update => exact localReply_lifeSteps s id status update
  | respond r => exact respond_lifeSteps s id r
  | complete =>
    show LifeSteps f s (if _ then _ else _)
    split
    · next h => exact LifeStep.lifeSteps (.finished h id)
    · exact .refl
  | reset => exact LifeStep.lifeSteps (.reset s id)
  | resetConnection =>
    show LifeSteps f s (if _ then _ else _)
    split
    · exact closeConnection_lifeSteps s .noFlush
    · exact .refl

theorem runTask_lifeSteps (s : Session σ) (t : Task) : LifeSteps f s (s.runTask t) := by
  cases t with
  | stream id op => exact perform_lifeSteps s id op
  | router ref op =>
    cases op with
    | write => exact (writeCall_works s ref).noEnds.lifeSteps
    | ask op => exact perform_lifeSteps s ref.stream op
    | deliver d => exact (onDelivery_works s ref d).noEnds.lifeSteps
  | closed =>
    show LifeSteps f s (if _ then _ else _)
    split
    · exact onConnectionEvent_lifeSteps s _
    · exact .refl

theorem leave_noEnds (s : Session σ) (rest : List Task) : NoEnds f s (s.leave rest) :=
  .same rfl rfl rfl rfl (fun h => h) rfl rfl

/-- A run is made of life steps, also up to each of the tasks that it takes up. -/
theorem runUntilIdle_lifeSteps (fuel : Nat) (s : Session σ) :
    (∀ m ∈ taken fuel s, LifeSteps f s m.1) ∧ LifeSteps f s (runUntilIdle fuel s) := by
  have h := runUntilIdle_history (P := fun h s' => (∀ m ∈ h, LifeSteps f s m.1) ∧ LifeSteps f s s')
    ?_ ?_ fuel [] s ⟨by simp, .refl⟩
  · exact h
  · intro h s' t rest _ ⟨hpast, hnow⟩
    have hleft : LifeSteps f s (s'.leave rest) := hnow.trans (leave_noEnds s' rest).lifeSteps
    refine ⟨fun m hm => ?_, hleft.trans (runTask_lifeSteps _ t)⟩
    rcases List.mem_append.mp hm with hm | hm
    · exact hpast m hm
    · rw [List.mem_singleton.mp hm]
      exact hleft
  · intro h s' ⟨hpast, hnow⟩
    exact ⟨hpast, hnow.trans (clearDeferred_lifeSteps s')⟩

theorem takenIn_lifeSteps {op : SessionOp} {m : Session σ × Task} (hm : m ∈ s.takenIn op) :
    LifeSteps f s m.1 := by
  cases op with
  | run => exact (runUntilIdle_lifeSteps _ s).1 m hm
  | stream id op =>
    rw [List.mem_singleton.mp hm]
  | data | request | event | close | closeQuietly | resetAll | drain | drainCheck | ask | deliver
  | hold | release | clearDeferred | dismiss | advance => cases hm

/-- Everything that happens to a session is made of life steps, but for its dismissal. -/
theorem step_lifeSteps (s : Session σ) {op : SessionOp} (hop : op ≠ .dismiss) :
    LifeSteps f s (s.step op) := by
  -- Most operations leave the streams and the log alone.
  have hquick : ∀ {s' : Session σ}, s'.plan = s.plan → s'.isServed = s.isServed →
      s'.nextId = s.nextId → s'.active = s.active → s'.panic = s.panic → s'.streams = s.streams →
      s'.log = s.log → LifeSteps f s s' := fun h₁ h₂ h₃ h₄ h₅ h₆ h₇ =>
    NoEnds.lifeSteps (.same h₁ h₂ h₃ h₄ (fun h => h₅ ▸ h) h₆ h₇)
  -- The rest is done by a connection that is still served.
  have hserved : ∀ {s' : Session σ}, LifeSteps f s s' → LifeSteps f s (if s.isServed then s' else s) := by
    intro s' h
    split
    · exact h
    · exact .refl
  cases op with
  | run => exact (runUntilIdle_lifeSteps s.effort s).2
  | stream id op => exact perform_lifeSteps s id op
  | data octets =>
    show LifeSteps f s (if _ then _ else _)
    split
    · exact onClientData_lifeSteps s octets
    · exact hquick rfl rfl rfl rfl rfl rfl rfl
  | request r => exact hserved (beginStream_lifeSteps s r)
  | event e => exact hserved (onConnectionEvent_lifeSteps s e)
  | close how => exact hserved (closeConnection_lifeSteps s how)
  | resetAll => exact hserved (resetAll_lifeSteps s)
  | drainCheck => exact hserved (closeIfDrained_noEnds s).lifeSteps
  | hold id =>
    show LifeSteps f s (if _ then _ else _)
    split
    · exact hquick rfl rfl rfl rfl rfl rfl rfl
    · exact .refl
  | release id =>
    have hfree : LifeSteps f s { s with held := s.held.erase id } := hquick rfl rfl rfl rfl rfl rfl rfl
    exact hfree.trans (dropUnneeded_lifeSteps _ id)
  | clearDeferred => exact clearDeferred_lifeSteps s
  | dismiss => exact absurd rfl hop
  | ask id op => exact (post_noEnds s _).lifeSteps
  | deliver ref d => exact (post_noEnds s _).lifeSteps
  | closeQuietly how => exact hquick rfl rfl rfl rfl rfl rfl rfl
  | drain => exact hquick rfl rfl rfl rfl rfl rfl rfl
  | advance nanos => exact hquick rfl rfl rfl rfl rfl rfl rfl

end

end Session

end RpcProxy

import RpcProxy.Proofs.Session.FilterVisits

/-!
# The message steps of a session

However much a session does at once, as far as messages are concerned it is made of a few message
steps. Most of what happens leaves messages alone and writes nothing (`WritesNothing`), or is
something that a router does. The rest are the events of `StreamEvent`: a stream begins, a message
goes on, a response is set or is written. `MessageStep` lists them, each with the events that it
stands for.

The steps are coarser than the program's. A message that goes on meets several filters, which is one
step with one event that tells of all visits, since where a filter stops a message is known only
when the call is over. And a reply is one step from the response that is behind all filters to the
stream that is over: in between there is a stream that is not over and has been written, and no
invariant of the chain holds there.

`step_messageSteps` takes everything that can happen to a session apart into message steps, except
for tasks that are posted from outside. A fact about messages is then proved message step by message
step, as it is for the order of filters and for the lines that clients get.
-/

set_option autoImplicit false

namespace RpcProxy

/-! ## Streams that are left alone

What is compared are whole streams, as far as messages go. That lets a step which changes some
streams and leaves others be described by one function on all of them. -/

/-- As far as messages are concerned, a stream is what it was. It may be over now; it is not live
again. -/
structure Stream.Steady (x y : Stream) : Prop where
  id : y.id = x.id
  request : y.request = x.request
  response : y.response = x.response
  answers : y.answers = x.answers
  decoded : y.decoded = x.decoded
  encoded : y.encoded = x.encoded
  slots : y.slots = x.slots
  route : y.route = x.route
  live : y.isLive = true → x.isLive = true

theorem Stream.Steady.refl (x : Stream) : x.Steady x :=
  ⟨rfl, rfl, rfl, rfl, rfl, rfl, rfl, rfl, fun h => h⟩

theorem Stream.Steady.trans {x y z : Stream} (h₁ : x.Steady y) (h₂ : y.Steady z) : x.Steady z where
  id := h₂.id.trans h₁.id
  request := h₂.request.trans h₁.request
  response := h₂.response.trans h₁.response
  answers := h₂.answers.trans h₁.answers
  decoded := h₂.decoded.trans h₁.decoded
  encoded := h₂.encoded.trans h₁.encoded
  slots := h₂.slots.trans h₁.slots
  route := h₂.route.trans h₁.route
  live h := h₁.live (h₂.live h)

theorem Stream.encoders_congr {x y : Stream} (h : y.slots.map (·.part) = x.slots.map (·.part)) :
    y.encoders = x.encoders := by
  have hlen : y.slots.length = x.slots.length := by
    simpa using congrArg List.length h
  have hside : ∀ i : Nat, (y.slots[i]?).any (fun z : Slot => z.part.side.encodes) =
      (x.slots[i]?).any fun z : Slot => z.part.side.encodes := by
    intro i
    have hp := congrArg (Option.any fun p : Part => p.side.encodes) (part_congr h i)
    simpa [Option.any_map, Function.comp_def] using hp
  unfold Stream.encoders
  rw [hlen]
  exact congrArg List.reverse (List.filter_congr fun i _ => hside i)

theorem Stream.lt_of_mem_decoders {x : Stream} {slot : Nat} (h : slot ∈ x.decoders) :
    slot < x.slots.length := List.mem_range.mp (List.mem_filter.mp h).1

theorem Stream.lt_of_mem_encoders {x : Stream} {slot : Nat} (h : slot ∈ x.encoders) :
    slot < x.slots.length :=
  List.mem_range.mp (List.mem_filter.mp (List.mem_reverse.mp h)).1

theorem Response.encode_ne_nil (r : Response) : r.encode ≠ [] := by
  intro h
  obtain ⟨line, hencode⟩ : ∃ line, r.encode = Bytes.ofText (line ++ "\n") := ⟨_, rfl⟩
  have hread : Bytes.toText? [] = some (line ++ "\n") := by
    rw [← h, hencode]
    exact Bytes.toText?_ofText _
  have hempty : Bytes.toText? [] = some "" := Bytes.toText?_ofText ""
  have hline : line ++ "\n" = "" := Option.some.inj (hread.symm.trans hempty)
  have hlen := congrArg String.length hline
  rw [String.length_append] at hlen
  exact absurd hlen (Nat.succ_ne_zero _)

namespace Session

variable {σ : Type}

/-- Messages, filters and tasks are what they were, except that the end of the client's connection
may have been posted. That exception is there because a reply may close the connection, and others
hear of it later. -/
structure SameMessages (s s' : Session σ) : Prop where
  /-- The plan stays. -/
  plan : s'.plan = s.plan
  /-- No stream has begun. -/
  nextId : s'.nextId = s.nextId
  /-- The same streams are there, and their messages are what they were. -/
  streams : ∃ f : Stream → Stream, (∀ x : Stream, x.Steady (f x)) ∧ s'.streams = s.streams.map f
  /-- Only the end of the connection may have been posted. -/
  posted : ∃ n : Nat, s'.queue.posted = s.queue.posted ++ List.replicate n .closed
  /-- A promise that was broken stays broken. -/
  broken : s.panic.isSome = true → s'.panic.isSome = true

/-- Moreover, nothing is written to the client; what waits for it may be dropped, as it is when a
connection is closed without a flush. What was ever written stays counted. -/
structure WritesNothing (s s' : Session σ) : Prop extends SameMessages s s' where
  output : s'.connection.output = s.connection.output ∨ s'.connection.output = []
  written : s'.connection.written = s.connection.written

/-- The response of a stream is behind all filters and is written, and the stream is over. Only
replies to an open connection that is served are such a step; any other comes to a stream that ends
silently. -/
structure Replies (s : Session σ) (x : Stream) (r : Response) (s' : Session σ) : Prop
    extends SameMessages s s' where
  /-- The stream is there. -/
  found : s.stream? x.id = some x
  /-- It is not over. -/
  live : x.isLive = true
  /-- It has the response that is written. -/
  answer : x.response = some r
  /-- The response has met all filters. -/
  through : x.encoders.drop x.encoded = []
  /-- The stream is over behind it, or gone. -/
  ended : ∀ y, s'.stream? x.id = some y → y.isLive = false
  /-- What is written are the octets of the response. -/
  output : s'.connection.output = s.connection.output ++ r.encode
  /-- They are counted. -/
  written : s'.connection.written = s.connection.written + r.encode.length

/-- A stream is opened for a request, and its route is looked up. A stream that gets no filters has
broken a promise. -/
structure Opens (s : Session σ) (request : Request) (x : Stream) (s' : Session σ) : Prop where
  /-- The plan stays. -/
  plan : s'.plan = s.plan
  /-- The next number was given out. -/
  nextId : s'.nextId = s.nextId + 1
  /-- The stream is behind all others. -/
  streams : s'.streams = s.streams ++ [x]
  /-- The tasks are the same. -/
  posted : s'.queue.posted = s.queue.posted
  /-- A promise that was broken stays broken. -/
  broken : s.panic.isSome = true → s'.panic.isSome = true
  /-- Nothing was written. -/
  connection : s'.connection = s.connection
  /-- The stream has the number that was given out. -/
  id : x.id = s.nextId
  /-- Its request is as it came. -/
  request : x.request = request
  /-- It has no response yet. -/
  response : x.response = none
  /-- No response was set before. -/
  answers : x.answers = 0
  /-- The request is before all filters. -/
  decoded : x.decoded = 0
  /-- A response will be, too. -/
  encoded : x.encoded = 0
  /-- It has the filters of the plan and its route, or a promise was broken. -/
  slots : (x.slots = s.plan.parts.map (Slot.start s.nextId s.clock) ∧
      x.route = some (s.plan.routes.find? x.request)) ∨
    (x.slots = [] ∧ s'.panic.isSome = true)

/-- No stream has a number that was not given out, so a stream that begins is a new one. -/
def Numbered (s : Session σ) : Prop := ∀ id, s.nextId ≤ id → s.stream? id = none

section

variable {s s₁ s₂ s₃ : Session σ} {id : StreamId}

theorem SameMessages.same {s' : Session σ} (hplan : s'.plan = s.plan) (hnext : s'.nextId = s.nextId)
    (hstreams : s'.streams = s.streams) (hposted : s'.queue.posted = s.queue.posted)
    (hbroken : s.panic.isSome = true → s'.panic.isSome = true) : SameMessages s s' where
  plan := hplan
  nextId := hnext
  streams := ⟨fun x => x, Stream.Steady.refl, by rw [hstreams, List.map_id']⟩
  posted := ⟨0, by rw [hposted, List.replicate_zero, List.append_nil]⟩
  broken := hbroken

theorem SameMessages.trans (h₁ : SameMessages s₁ s₂) (h₂ : SameMessages s₂ s₃) : SameMessages s₁ s₃ where
  plan := h₂.plan.trans h₁.plan
  nextId := h₂.nextId.trans h₁.nextId
  streams := by
    obtain ⟨f, hf, hs⟩ := h₁.streams
    obtain ⟨g, hg, ht⟩ := h₂.streams
    refine ⟨g ∘ f, fun x => (hf x).trans (hg (f x)), ?_⟩
    rw [ht, hs, List.map_map]
  posted := by
    obtain ⟨m, hm⟩ := h₁.posted
    obtain ⟨n, hn⟩ := h₂.posted
    exact ⟨m + n, by rw [hn, hm, List.append_assoc, List.replicate_append_replicate]⟩
  broken h := h₂.broken (h₁.broken h)

theorem SameMessages.modifyStream {f : Stream → Stream} (hf : ∀ x : Stream, x.Steady (f x)) :
    SameMessages s (s.modifyStream id f) where
  plan := rfl
  nextId := rfl
  streams := by
    refine ⟨fun x => if x.id = id then f x else x, fun x => ?_, rfl⟩
    by_cases hx : x.id = id
    · simpa [hx] using hf x
    · simpa [hx] using Stream.Steady.refl x
  posted := ⟨0, by simp [Session.modifyStream]⟩
  broken h := h

theorem SameMessages.stream? (h : SameMessages s₁ s₂) {y : Stream} (hy : s₂.stream? id = some y) :
    ∃ x, s₁.stream? id = some x ∧ x.Steady y := by
  obtain ⟨f, hf, hs⟩ := h.streams
  rw [stream?_of_map (fun x => (hf x).id) hs] at hy
  obtain ⟨x, hx, rfl⟩ := Option.map_eq_some_iff.mp hy
  exact ⟨x, hx, hf x⟩

theorem WritesNothing.same {s' : Session σ} (hplan : s'.plan = s.plan) (hnext : s'.nextId = s.nextId)
    (hstreams : s'.streams = s.streams) (hposted : s'.queue.posted = s.queue.posted)
    (hbroken : s.panic.isSome = true → s'.panic.isSome = true)
    (hconnection : s'.connection = s.connection) : WritesNothing s s' where
  toSameMessages := SameMessages.same hplan hnext hstreams hposted hbroken
  output := Or.inl (congrArg Downstream.output hconnection)
  written := congrArg Downstream.written hconnection

theorem WritesNothing.refl (s : Session σ) : WritesNothing s s := WritesNothing.same rfl rfl rfl rfl id rfl

theorem WritesNothing.trans (h₁ : WritesNothing s₁ s₂) (h₂ : WritesNothing s₂ s₃) : WritesNothing s₁ s₃ where
  toSameMessages := h₁.toSameMessages.trans h₂.toSameMessages
  output := by
    rcases h₂.output with h | h
    · rw [h]
      exact h₁.output
    · exact Or.inr h
  written := h₂.written.trans h₁.written

theorem WritesNothing.modifyStream {f : Stream → Stream} (hf : ∀ x : Stream, x.Steady (f x)) :
    WritesNothing s (s.modifyStream id f) where
  toSameMessages := SameMessages.modifyStream hf
  output := Or.inl rfl
  written := rfl

theorem close_output (c : Downstream) (how : CloseType) :
    ((c.close how).output = c.output ∨ (c.close how).output = []) ∧
      (c.close how).written = c.written := by
  unfold Downstream.close
  split
  · exact ⟨Or.inl rfl, rfl⟩
  · refine ⟨?_, rfl⟩
    dsimp only
    split
    · exact Or.inr rfl
    · exact Or.inl rfl

theorem WritesNothing.close (how : CloseType) :
    WritesNothing s { s with connection := s.connection.close how } where
  toSameMessages := SameMessages.same rfl rfl rfl rfl id
  output := (close_output s.connection how).1
  written := (close_output s.connection how).2

theorem closeIfDrained_writesNothing (s : Session σ) : WritesNothing s s.closeIfDrained := by
  unfold Session.closeIfDrained
  split
  · have hclose : WritesNothing s { s with connection := s.connection.close .flush } :=
      WritesNothing.close .flush
    exact hclose.trans (WritesNothing.same rfl rfl rfl rfl id rfl)
  · exact WritesNothing.refl s

theorem recordEnd_writesNothing (s : Session σ) (x : Stream) : WritesNothing s (s.recordEnd x) := by
  unfold Session.recordEnd
  dsimp only
  split
  · exact WritesNothing.same rfl rfl rfl rfl id rfl
  · exact WritesNothing.same rfl rfl rfl rfl id rfl

end

/-! ## Message steps

The steps, and what each of them leaves alone. A step with events changes one stream; a step without
changes none. -/

/-- A message step of a session, with the events that it stands for. Steps without events are those
that leave all messages alone (`MessageStep.rests`), whatever else they do. The events of a step are
read off the state before it, by the functions that also give the events of whole operations
(`actsOf`, `actsIn`). -/
inductive MessageStep : List Act → Session σ → Session σ → Prop
  /-- Messages are left alone, and nothing is written. -/
  | mute {s s' : Session σ} (h : WritesNothing s s') : MessageStep [] s s'
  /-- A router writes its call, which is no message to the client. -/
  | called (s : Session σ) (ref : RouterRef) : MessageStep [] s (s.writeCall ref)
  /-- A router is told what a pool has to tell. -/
  | told (s : Session σ) (ref : RouterRef) (d : Delivery) : MessageStep [] s (s.onDelivery ref d)
  /-- A router is destroyed. -/
  | destroyed (s : Session σ) (ref : RouterRef) : MessageStep [] s (s.destroyRouter ref)
  /-- A filter is told that its stream is over. -/
  | parted {s : Session σ} {id : StreamId} {x : Stream} {part : Part} (hx : s.stream? id = some x)
    (hpart : part ∈ x.slots.map (·.part)) : MessageStep [] s (s.afterFilter (part.onEnd id))
  /-- A stream is dropped. -/
  | dropped (s : Session σ) (id : StreamId) : MessageStep [] s (s.dropStream id)
  /-- A task is taken up. -/
  | popped {s : Session σ} {t : Task} {rest : List Task} (h : s.queue.posted = t :: rest) :
    MessageStep [] s (s.leave rest)
  /-- A stream begins with its request. -/
  | began {s s' : Session σ} {x : Stream} {request : Request} (h : Opens s request x s') :
    MessageStep [(s.nextId, .began request)] s s'
  /-- A request goes on. -/
  | decoding {s : Session σ} {x : Stream} (hx : s.stream? x.id = some x) (hlive : x.isLive = true) :
    MessageStep [(x.id, .decoding ((s.modifyStream x.id (·.resolve s.plan.routes)).decodeVisits x.id
        (x.decoders.drop x.decoded)))] s
      ((s.modifyStream x.id (·.resolve s.plan.routes)).decodeThrough x.id (x.decoders.drop x.decoded))
  /-- A response is set. -/
  | answered {s : Session σ} {x : Stream} (hx : s.stream? x.id = some x) (hlive : x.isLive = true)
    (r : Response) : MessageStep [(x.id, .answered r)] s (s.modifyStream x.id (·.setResponse r))
  /-- A response goes on. -/
  | encoding {s : Session σ} {x : Stream} {r : Response} (hx : s.stream? x.id = some x)
    (hlive : x.isLive = true) (hr : x.response = some r) :
    MessageStep [(x.id, .encoding (s.encodeVisits x.id (x.encoders.drop x.encoded)))] s
      (s.encodeOnly x.id (x.encoders.drop x.encoded)).2
  /-- A response that met all filters is written. -/
  | replied {s s' : Session σ} {x : Stream} {r : Response} (h : Replies s x r s') :
    MessageStep [(x.id, .wrote r.encode)] s s'

/-- Message steps one after another, with their events. -/
inductive MessageSteps : List Act → Session σ → Session σ → Prop
  | refl (s : Session σ) : MessageSteps [] s s
  | snoc {s₁ s₂ s₃ : Session σ} {as a : List Act} (h₁ : MessageSteps as s₁ s₂) (h₂ : MessageStep a s₂ s₃) :
    MessageSteps (as ++ a) s₁ s₃

section

variable {s s₁ s₂ s₃ : Session σ} {as bs : List Act} {id : StreamId}

theorem MessageStep.messageSteps (h : MessageStep as s₁ s₂) :
    MessageSteps as s₁ s₂ :=
  (MessageSteps.refl s₁).snoc h

theorem WritesNothing.messageSteps (h : WritesNothing s₁ s₂) :
    MessageSteps [] s₁ s₂ :=
  (MessageStep.mute h).messageSteps

theorem MessageSteps.trans (h₁ : MessageSteps as s₁ s₂) (h₂ : MessageSteps bs s₂ s₃) :
    MessageSteps (as ++ bs) s₁ s₃ := by
  induction h₂ with
  | refl s => simpa using h₁
  | snoc _ hstep ih =>
    rw [← List.append_assoc]
    exact (ih h₁).snoc hstep

/-- Message steps without events, before others. -/
theorem MessageSteps.before (h₁ : MessageSteps [] s₁ s₂) (h₂ : MessageSteps as s₂ s₃) :
    MessageSteps as s₁ s₃ :=
  h₁.trans h₂

/-- Message steps without events, behind others. -/
theorem MessageSteps.behind (h₁ : MessageSteps as s₁ s₂) (h₂ : MessageSteps [] s₂ s₃) :
    MessageSteps as s₁ s₃ := by
  have h := h₁.trans h₂
  rwa [List.append_nil] at h

theorem MessageSteps.foldl {α : Type} {f : Session σ → α → Session σ} (hf : ∀ s a, MessageSteps [] s (f s a))
    (l : List α) (s : Session σ) : MessageSteps [] s (l.foldl f s) := by
  induction l generalizing s with
  | nil => exact MessageSteps.refl s
  | cons a rest ih => exact (hf s a).before (ih (f s a))

end

end Session

/-- As far as messages and filters are concerned, a stream is what it was; filters may keep
something else in mind. This is `Steady` for steps that routers take: a router's memory is in its
slot. -/
structure Stream.Keeps (x y : Stream) : Prop where
  request : y.request = x.request
  response : y.response = x.response
  answers : y.answers = x.answers
  decoded : y.decoded = x.decoded
  encoded : y.encoded = x.encoded
  parts : y.slots.map (·.part) = x.slots.map (·.part)
  route : y.route = x.route
  live : y.isLive = true → x.isLive = true

theorem Stream.Keeps.refl (x : Stream) : x.Keeps x :=
  ⟨rfl, rfl, rfl, rfl, rfl, rfl, rfl, fun h => h⟩

theorem Stream.Keeps.trans {x y z : Stream} (h₁ : x.Keeps y) (h₂ : y.Keeps z) : x.Keeps z where
  request := h₂.request.trans h₁.request
  response := h₂.response.trans h₁.response
  answers := h₂.answers.trans h₁.answers
  decoded := h₂.decoded.trans h₁.decoded
  encoded := h₂.encoded.trans h₁.encoded
  parts := h₂.parts.trans h₁.parts
  route := h₂.route.trans h₁.route
  live h := h₁.live (h₂.live h)

theorem Stream.Steady.keeps {x y : Stream} (h : x.Steady y) : x.Keeps y :=
  ⟨h.request, h.response, h.answers, h.decoded, h.encoded, by rw [h.slots], h.route, h.live⟩

theorem Stream.recall_keeps (ref : RouterRef) (g : Memory → Memory) (x : Stream) :
    x.Keeps (x.recall ref g) := by
  have hparts := Stream.recall_parts ref g x
  rw [Stream.recall_eq] at hparts ⊢
  exact ⟨rfl, rfl, rfl, rfl, rfl, hparts, rfl, fun h => h⟩

namespace Session

variable {σ : Type}

/-- Nothing has happened to messages, and nothing was written. Streams may be gone, but those that
are there were there before. -/
structure Rests (s s' : Session σ) : Prop where
  plan : s'.plan = s.plan
  nextId : s'.nextId = s.nextId
  broken : s.panic.isSome = true → s'.panic.isSome = true
  streams : ∀ id y, s'.stream? id = some y → ∃ x, s.stream? id = some x ∧ x.Keeps y
  output : s'.connection.output = s.connection.output ∨ s'.connection.output = []
  written : s'.connection.written = s.connection.written

section

variable {s s' s₁ s₂ s₃ : Session σ} {as bs : List Act} {id : StreamId} {ref : RouterRef}

theorem Rests.refl (s : Session σ) : Rests s s :=
  ⟨rfl, rfl, fun h => h, fun _ y hy => ⟨y, hy, .refl y⟩, Or.inl rfl, rfl⟩

theorem Rests.trans (h₁ : Rests s₁ s₂) (h₂ : Rests s₂ s₃) : Rests s₁ s₃ where
  plan := h₂.plan.trans h₁.plan
  nextId := h₂.nextId.trans h₁.nextId
  broken h := h₂.broken (h₁.broken h)
  streams id z hz := by
    obtain ⟨y, hy, hyz⟩ := h₂.streams id z hz
    obtain ⟨x, hx, hxy⟩ := h₁.streams id y hy
    exact ⟨x, hx, hxy.trans hyz⟩
  output := by
    rcases h₂.output with h | h
    · rw [h]
      exact h₁.output
    · exact Or.inr h
  written := h₂.written.trans h₁.written

theorem WritesNothing.rests (h : WritesNothing s s') : Rests s s' where
  plan := h.plan
  nextId := h.nextId
  broken := h.broken
  streams id y hy := by
    obtain ⟨x, hx, hxy⟩ := h.toSameMessages.stream? hy
    exact ⟨x, hx, hxy.keeps⟩
  output := h.output
  written := h.written

theorem Works.rests (h : Works ref s s') : Rests s s' where
  plan := h.nearby.plan
  nextId := h.nearby.nextId
  broken := h.nearby.broken
  streams id y hy := by
    obtain ⟨g, hg⟩ := h.stream?
    rw [hg] at hy
    obtain ⟨x, hx, rfl⟩ := Option.map_eq_some_iff.mp hy
    exact ⟨x, hx, Stream.recall_keeps ref g x⟩
  output := Or.inl (by rw [h.nearby.connection])
  written := by rw [h.nearby.connection]

/-- A stream that is found among those that stay is found among all. -/
theorem stream?_of_filter {other : StreamId} {y : Stream}
    (hy : ({ s with streams := s.streams.filter (·.id != id) } : Session σ).stream? other = some y) :
    s.stream? other = some y := by
  unfold Session.stream? at hy ⊢
  dsimp only at hy
  have hne : other ≠ id := by
    have hstays := (List.mem_filter.mp (List.mem_of_find?_eq_some hy)).2
    have hother : y.id = other := by simpa using List.find?_some hy
    simpa [hother] using hstays
  rw [List.find?_filter] at hy
  refine Eq.trans (congrFun (congrArg List.find? (funext fun z => ?_)) _) hy
  by_cases hz : z.id = other
  · simp [hz, hne]
  · simp [hz]

theorem dropStream_rests (s : Session σ) (id : StreamId) : Rests s (s.dropStream id) := by
  have hrouters : ∀ (slots : List Nat) (s : Session σ),
      Rests s (slots.foldl (fun s slot => s.dropRouter (s.refTo id slot)) s) := by
    intro slots
    induction slots with
    | nil => exact Rests.refl
    | cons slot rest ih => exact fun s => (dropRouter_works s _).rests.trans (ih _)
  unfold Session.dropStream
  split
  · exact Rests.refl s
  · next x _ =>
    exact (hrouters x.routers s).trans ⟨rfl, rfl, fun h => h,
      fun other y hy => ⟨y, stream?_of_filter hy, .refl y⟩, Or.inl rfl, rfl⟩

theorem afterFilter_rests (s : Session σ) (a : Asides) : Rests s (s.afterFilter a) := by
  rw [afterFilter_eq]
  exact ⟨rfl, rfl, fun h => h, fun _ y hy => ⟨y, hy, .refl y⟩, Or.inl rfl, rfl⟩

/-- A message step without events leaves messages alone. -/
theorem MessageStep.rests (h : MessageStep [] s s') : Rests s s' := by
  cases h with
  | mute h => exact h.rests
  | called _ ref => exact (writeCall_works s ref).rests
  | told _ ref d => exact (onDelivery_works s ref d).rests
  | destroyed _ ref => exact (destroyRouter_works s ref).rests
  | parted _ _ => exact afterFilter_rests s _
  | dropped _ id => exact dropStream_rests s id
  | popped hq =>
    exact ⟨rfl, rfl, fun h => h, fun _ y hy => ⟨y, hy, .refl y⟩, Or.inl rfl, rfl⟩

/-- A message step of one stream is none of another, and numbers are only given out to streams that
begin. -/
theorem Numbered.nearby (h : s.Numbered) {x : Stream} (hx : s.stream? id = some x)
    (hn : OnlyOneChanged id s s') : s'.Numbered := by
  intro other hother
  rw [hn.nextId] at hother
  refine (hn.others other fun he => ?_).trans (h other hother)
  rw [← he, h other hother] at hx
  cases hx

theorem Rests.numbered (h : Rests s s') (hn : s.Numbered) : s'.Numbered := by
  intro id hid
  cases hy : s'.stream? id with
  | none => rfl
  | some y =>
    obtain ⟨x, hx, -⟩ := h.streams id y hy
    rw [hn id (h.nextId ▸ hid)] at hx
    cases hx

theorem Opens.stream? {request : Request} {x : Stream} (h : Opens s request x s') (id : StreamId) :
    s'.stream? id = (s.stream? id).or (if s.nextId = id then some x else none) := by
  unfold Session.stream?
  rw [h.streams, List.find?_append]
  congr 1
  by_cases hid : s.nextId = id
  · rw [if_pos hid, List.find?_cons_of_pos (by simp [h.id, hid])]
  · rw [if_neg hid, List.find?_cons_of_neg (by simp [h.id, hid]), List.find?_nil]

theorem MessageStep.numbered (h : MessageStep as s s') (hn : s.Numbered) : s'.Numbered := by
  cases as with
  | nil => exact h.rests.numbered hn
  | cons a as =>
    cases h with
    | began hopens =>
      intro id hid
      -- Numbers above the new one are still not given out.
      have hlater : s.nextId < id := by
        rw [hopens.nextId] at hid
        exact hid
      rw [hopens.stream?, hn id (Nat.le_of_lt hlater), if_neg (Nat.ne_of_lt hlater)]
      rfl
    | @decoding _ x hx hlive =>
      refine hn.nearby hx (OnlyOneChanged.trans ?_ (decodeThrough_onlyOneChanged _ _ x.id))
      exact OnlyOneChanged.modifyStream fun y => (Stream.Alike.resolve y _).id
    | answered hx hlive r => exact hn.nearby hx (OnlyOneChanged.modifyStream fun _ => rfl)
    | encoding hx hlive hr => exact hn.nearby hx (encodeOnly_onlyOneChanged _ s _)
    | replied hreplies =>
      intro id hid
      cases hy : s'.stream? id with
      | none => rfl
      | some y =>
        obtain ⟨x, hx, -⟩ := hreplies.toSameMessages.stream? hy
        rw [hn id (hreplies.nextId ▸ hid)] at hx
        cases hx

theorem MessageSteps.numbered (h : MessageSteps as s₁ s₂) (hn : s₁.Numbered) : s₂.Numbered := by
  induction h with
  | refl s => exact hn
  | snoc _ hstep ih => exact hstep.numbered (ih hn)

/-! ## Ends

The end of a stream is no message. It is taken apart here into small steps that write nothing:
filters are told, routers are destroyed, the stream is counted. -/

/-- A stream that was there when its filters began to be told is there all along, with the same
filters. -/
theorem destroySlot_messageSteps {x y : Stream} (hy : s.stream? x.id = some y)
    (hparts : y.slots.map (·.part) = x.slots.map (·.part)) (slot : Nat) :
    MessageSteps [] s (s.destroySlot x slot) ∧ ∃ z, (s.destroySlot x slot).stream? x.id = some z ∧
      z.slots.map (·.part) = x.slots.map (·.part) := by
  have hmute : ∀ e, MessageSteps [] s (s.note e) := fun e =>
    WritesNothing.messageSteps (WritesNothing.same rfl rfl rfl rfl (fun h => h) rfl)
  unfold Session.destroySlot
  split
  · exact ⟨MessageSteps.refl s, y, hy, hparts⟩
  · next side b _ hslot =>
    have hpart : (⟨side, .plain b⟩ : Part) ∈ y.slots.map (·.part) :=
      hparts ▸ List.mem_map_of_mem (List.mem_of_getElem? hslot)
    exact ⟨(MessageStep.parted hy hpart).messageSteps, y, (afterFilter_stream? s _ x.id).trans hy, hparts⟩
  · exact ⟨hmute _, y, hy, hparts⟩
  · exact ⟨MessageSteps.refl s, y, hy, hparts⟩
  · obtain ⟨g, hg⟩ := (destroyRouter_works s (s.refTo x.id slot)).stream?
    have hz := hg x.id
    rw [hy, Option.map_some] at hz
    exact ⟨(MessageStep.destroyed s _).messageSteps, _, hz, (Stream.recall_parts _ g y).trans hparts⟩

theorem destroyAll_messageSteps {x y : Stream} (hy : s.stream? x.id = some y)
    (hparts : y.slots.map (·.part) = x.slots.map (·.part)) (slots : List Nat) :
    MessageSteps [] s (slots.foldl (fun s i => s.destroySlot x i) s) := by
  induction slots generalizing s y with
  | nil => exact MessageSteps.refl s
  | cons slot rest ih =>
    obtain ⟨hone, z, hz, hkept⟩ := destroySlot_messageSteps hy hparts slot
    exact hone.before (ih hz hkept)

theorem recordEnd_connection (s : Session σ) (x : Stream) :
    (s.recordEnd x).connection = s.connection := by
  unfold Session.recordEnd
  dsimp only
  split
  · rfl
  · rfl

/-- A stream that is not over is over once it is marked. What comes before and behind the mark
leaves messages alone. -/
theorem completeStream_messageSteps {x : Stream} (hx : s.stream? id = some x)
    (hover : x.isCompleted = false) :
    ∃ s', WritesNothing s s' ∧ s'.connection = s.connection ∧
      (∀ y, s'.stream? id = some y → y.isLive = false) ∧ MessageSteps [] s' (s.completeStream id) := by
  refine ⟨(s.recordEnd x).modifyStream id fun y =>
    { y with isCompleted := true, info := y.info.complete (s.recordEnd x).now, span := none }, ?_,
    recordEnd_connection s x, ?_, ?_⟩
  · refine (recordEnd_writesNothing s x).trans (WritesNothing.modifyStream fun y => ?_)
    exact ⟨rfl, rfl, rfl, rfl, rfl, rfl, rfl, rfl, fun h => by simp [Stream.isLive] at h⟩
  · intro y hy
    rw [stream?_modifyStream (f := fun y =>
      { y with isCompleted := true, info := y.info.complete (s.recordEnd x).now, span := none })
      fun _ => rfl] at hy
    obtain ⟨z, hz, rfl⟩ := Option.map_eq_some_iff.mp hy
    rw [if_pos (stream?_id hz)]
    simp [Stream.isLive]
  · unfold Session.completeStream
    rw [hx]
    dsimp only
    rw [if_neg (by simp [hover])]
    obtain rfl := stream?_id hx
    obtain ⟨z, hz, halike⟩ := (recordEnd_routersUntouched s x).stream? hx
    have hmarked := stream?_modifyStream_same (f := fun y =>
      { y with isCompleted := true, info := y.info.complete (s.recordEnd x).now, span := none })
      (fun _ => rfl) hz
    exact destroyAll_messageSteps hmarked halike.parts _

theorem completeStream_quietly (s : Session σ) (id : StreamId) :
    MessageSteps [] s (s.completeStream id) := by
  cases hx : s.stream? id with
  | none =>
    unfold Session.completeStream
    rw [hx]
    exact MessageSteps.refl s
  | some x =>
    cases hover : x.isCompleted with
    | true =>
      unfold Session.completeStream
      rw [hx]
      dsimp only
      rw [if_pos hover]
      exact MessageSteps.refl s
    | false =>
      obtain ⟨s', hmute, -, -, hrest⟩ := completeStream_messageSteps hx hover
      exact hmute.messageSteps.before hrest

/-- What is left to do about a stream that is over. -/
theorem finishStream_rest (s : Session σ) (id : StreamId) :
    MessageSteps [] (s.completeStream id) (s.finishStream id) := by
  unfold Session.finishStream
  dsimp only
  generalize s.completeStream id = s₁
  split
  · exact MessageSteps.refl s₁
  · split
    · exact MessageSteps.refl s₁
    · have hleft : WritesNothing s₁ (s₁.modifyStream id fun x => { x with inserted := false }) :=
        WritesNothing.modifyStream fun x => ⟨rfl, rfl, rfl, rfl, rfl, rfl, rfl, rfl, fun h => h⟩
      refine hleft.messageSteps.before (MessageSteps.before ?_ (closeIfDrained_writesNothing _).messageSteps)
      split
      · exact WritesNothing.messageSteps (WritesNothing.same rfl rfl rfl rfl (fun h => h) rfl)
      · exact MessageSteps.refl _

theorem finishStream_messageSteps (s : Session σ) (id : StreamId) : MessageSteps [] s (s.finishStream id) :=
  (completeStream_quietly s id).before (finishStream_rest s id)

theorem resetStream_messageSteps (s : Session σ) (id : StreamId) : MessageSteps [] s (s.resetStream id) := by
  rcases resetStream_eq s id with heq | ⟨count, heq⟩
  · rw [heq]
    exact MessageSteps.refl s
  · rw [heq]
    have hflag : WritesNothing s (s.flag id) :=
      WritesNothing.modifyStream fun x =>
        ⟨rfl, rfl, rfl, rfl, rfl, rfl, rfl, rfl, fun h => by simp [Stream.isLive] at h⟩
    have hcounted : WritesNothing (s.flag id) ((s.flag id).measure count) :=
      WritesNothing.same rfl rfl rfl rfl (fun h => h) rfl
    have hmarked := hflag.messageSteps.before hcounted.messageSteps
    split
    · exact hmarked.before (finishStream_messageSteps _ id)
    · exact hmarked

theorem resetAll_messageSteps (s : Session σ) : MessageSteps [] s s.resetAll :=
  MessageSteps.foldl (fun s id => resetStream_messageSteps s id) _ s

theorem onConnectionEvent_messageSteps (s : Session σ) (e : ConnectionEvent) :
    MessageSteps [] s (s.onConnectionEvent e) := by
  have hclosed : WritesNothing s { s with isClosed := true } :=
    WritesNothing.same rfl rfl rfl rfl (fun h => h) rfl
  cases e with
  | remoteClose => exact hclosed.messageSteps.before (resetAll_messageSteps _)
  | localClose => exact hclosed.messageSteps.before (resetAll_messageSteps _)
  | connected => exact MessageSteps.refl s
  | connectedZeroRtt => exact MessageSteps.refl s

theorem closeConnection_messageSteps (s : Session σ) (how : CloseType) :
    MessageSteps [] s (s.closeConnection how) := by
  unfold Session.closeConnection
  split
  · exact MessageSteps.refl s
  · exact (WritesNothing.close how).messageSteps.before (onConnectionEvent_messageSteps _ _)

/-! ## Replies

A reply that is written ends its stream, and may close the connection. Whether it is written is
decided by the connection at that moment, so the two cases lead to different steps: `replied`, or an
end without a message. -/

theorem destroySlot_connection (s : Session σ) (x : Stream) (slot : Nat) :
    (s.destroySlot x slot).connection = s.connection := by
  unfold Session.destroySlot
  split
  · rfl
  · rw [afterFilter_eq]
  · rfl
  · rfl
  · exact (destroyRouter_works s _).nearby.connection

theorem destroySlots_connection (slots : List Nat) (s : Session σ) (x : Stream) :
    (slots.foldl (fun s i => s.destroySlot x i) s).connection = s.connection := by
  induction slots generalizing s with
  | nil => rfl
  | cons slot rest ih => exact (ih _).trans (destroySlot_connection s x slot)

theorem completeStream_connection (s : Session σ) (id : StreamId) :
    (s.completeStream id).connection = s.connection := by
  unfold Session.completeStream
  split
  · rfl
  · next x _ =>
    split
    · rfl
    · exact (destroySlots_connection _ _ x).trans (recordEnd_connection s x)

/-- The end of a stream takes nothing away from what the client gets. -/
theorem finishStream_output (s : Session σ) (id : StreamId) :
    (s.finishStream id).connection.output = s.connection.output := by
  have hdrained : ∀ s : Session σ, s.closeIfDrained.connection.output = s.connection.output := by
    intro s
    unfold Session.closeIfDrained
    split
    · show (s.connection.close .flush).output = _
      unfold Downstream.close
      split
      · rfl
      · rfl
    · rfl
  unfold Session.finishStream
  dsimp only
  rw [← completeStream_connection s id]
  generalize s.completeStream id = s₁
  split
  · rfl
  · split
    · rfl
    · rw [hdrained]
      split
      · rfl
      · rfl

/-- A reply to a client whose connection is served and open is written. -/
theorem write_open {c : Downstream} (h : c.isOpen = true) (data : Bytes) (last : Bool) :
    (c.write data last).output = c.output ++ data ∧
      (c.write data last).written = c.written + data.length := by
  unfold Downstream.write
  rw [if_pos h]
  dsimp only
  split
  · unfold Downstream.close
    split
    · exact ⟨rfl, rfl⟩
    · exact ⟨rfl, rfl⟩
  · exact ⟨rfl, rfl⟩

theorem write_closed {c : Downstream} (h : c.isOpen = false) (data : Bytes) (last : Bool) :
    c.write data last = c := by
  unfold Downstream.write
  rw [if_neg (by simp [h])]

theorem writeToClient_sameMessages (s : Session σ) (data : Bytes) (last : Bool) :
    SameMessages s (s.writeToClient data last) ∧
      (s.writeToClient data last).connection = s.connection.write data last := by
  unfold Session.writeToClient
  dsimp only
  split
  · refine ⟨⟨rfl, rfl, ⟨fun x => x, Stream.Steady.refl, ?_⟩, ⟨1, rfl⟩, fun h => h⟩, rfl⟩
    exact (List.map_id' _).symm
  · exact ⟨SameMessages.same rfl rfl rfl rfl fun h => h, rfl⟩

theorem writeToClient_stream? (s : Session σ) (data : Bytes) (last : Bool) (id : StreamId) :
    (s.writeToClient data last).stream? id = s.stream? id := by
  unfold Session.writeToClient
  dsimp only
  split
  · rfl
  · rfl

/-- What a reply adds to what the client gets. -/
def replyOctets (s : Session σ) (r : Response) : Bytes :=
  if s.isServed && s.connection.isOpen then r.encode else []

/-- A response that is behind all filters is written if it can be, and the stream is over. -/
theorem sendReply_messageSteps {x : Stream} {r : Response} (hx : s.stream? x.id = some x)
    (hlive : x.isLive = true) (hr : x.response = some r) (hthrough : x.encoders.drop x.encoded = []) :
    (s.sendReply x.id).connection.output = s.connection.output ++ s.replyOctets r ∧
    MessageSteps ((StreamEvent.ofOctets (s.replyOctets r)).map (x.id, ·)) s (s.sendReply x.id) := by
  unfold Session.sendReply replyOctets
  rw [hx]
  dsimp only
  rw [hr]
  dsimp only
  cases hserved : s.isServed with
  | false => exact ⟨(List.append_nil _).symm, MessageSteps.refl s⟩
  | true =>
    simp only [Bool.not_true, Bool.false_eq_true, if_false, Bool.true_and]
    generalize hs₁ : s.modifyStream x.id (fun x =>
      { x with info := { x.info with status := some r.status.code } }) = s₁
    have hknown : WritesNothing s s₁ :=
      hs₁ ▸ WritesNothing.modifyStream fun x => ⟨rfl, rfl, rfl, rfl, rfl, rfl, rfl, rfl, fun h => h⟩
    have hconnection : s₁.connection = s.connection := by
      rw [← hs₁]
      rfl
    have hx₁ : s₁.stream? x.id =
        some { x with info := { x.info with status := some r.status.code } } := by
      rw [← hs₁]
      exact stream?_modifyStream_same
        (f := fun y => { y with info := { y.info with status := some r.status.code } })
        (fun _ => rfl) hx
    have hgoing : x.isCompleted = false := by
      simpa [Stream.isLive] using (Bool.and_eq_true_iff.mp hlive).2
    obtain ⟨haround, hwrite⟩ := writeToClient_sameMessages s₁ r.encode r.asksToClose
    have hx₂ := (writeToClient_stream? s₁ r.encode r.asksToClose x.id).trans hx₁
    rw [finishStream_output, hwrite, hconnection]
    generalize s₁.writeToClient r.encode r.asksToClose = s₂ at haround hwrite hx₂
    obtain ⟨s₃, hmute, hsame, hend, hrest⟩ := completeStream_messageSteps hx₂ hgoing
    have hfinish := hrest.before (finishStream_rest s₂ x.id)
    cases hopen : s.connection.isOpen with
    | false =>
      -- Nothing of the reply can go to a connection that is closed, so only the end is left of it.
      rw [write_closed hopen]
      have hsilent : WritesNothing s₁ s₂ :=
        ⟨haround, Or.inl (by rw [hwrite, hconnection, write_closed hopen]),
          by rw [hwrite, hconnection, write_closed hopen]⟩
      exact ⟨(List.append_nil _).symm,
        (hknown.trans (hsilent.trans hmute)).messageSteps.before hfinish⟩
    | true =>
      obtain ⟨houtput, hwritten⟩ := write_open hopen r.encode r.asksToClose
      refine ⟨houtput, ?_⟩
      rw [if_pos rfl]
      have hreplies : Replies s x r s₃ :=
        { toSameMessages := (hknown.toSameMessages.trans haround).trans hmute.toSameMessages
          found := hx
          live := hlive
          answer := hr
          through := hthrough
          ended := hend
          output := by rw [hsame, hwrite, hconnection, houtput]
          written := by rw [hsame, hwrite, hconnection, hwritten] }
      cases hencode : r.encode with
      | nil => exact absurd hencode r.encode_ne_nil
      | cons octet octets =>
        have hsteps := (MessageStep.replied hreplies).messageSteps.behind hfinish
        rw [hencode] at hsteps
        exact hsteps

theorem writeEvents_eq {s' : Session σ} {octets : Bytes}
    (h : s'.connection.output = s.connection.output ++ octets) :
    s.writeEvents s' = StreamEvent.ofOctets octets := by
  unfold writeEvents addedTo
  rw [h, List.drop_left]

theorem continueEncoding_messageSteps (s : Session σ) (id : StreamId) :
    MessageSteps ((s.encodingEvents id).map (id, ·)) s (s.continueEncoding id) := by
  unfold encodingEvents
  have hdo : s.continueEncoding id = s.continueEncoding id := rfl
  conv at hdo => rhs; unfold Session.continueEncoding
  cases hx : s.stream? id with
  | none =>
    rw [hx] at hdo
    rw [hdo]
    exact MessageSteps.refl s
  | some x =>
    rw [hx] at hdo
    dsimp only at hdo ⊢
    by_cases hgo : (!x.isLive || x.response.isNone) = true
    · rw [if_pos hgo] at hdo ⊢
      rw [hdo]
      exact MessageSteps.refl s
    · rw [if_neg hgo, encodeThrough_eq] at hdo
      rw [if_neg hgo, hdo]
      simp only [Bool.or_eq_true, not_or, Bool.not_eq_true, Bool.not_eq_false',
        Option.isNone_eq_false_iff, Option.isSome_iff_exists] at hgo
      obtain ⟨hlive, r, hr⟩ := hgo
      obtain rfl := stream?_id hx
      have hslots : ∀ i ∈ x.encoders.drop x.encoded, i < x.slots.length := fun i hi =>
        Stream.lt_of_mem_encoders (List.mem_of_mem_drop hi)
      obtain ⟨-, -, -, hfull, ms, hms, hmet⟩ := encodeOnly_visits hx hr hslots
      have hstep := (MessageStep.encoding hx hlive hr).messageSteps
      have hconnection := (encodeOnly_onlyOneChanged (x.encoders.drop x.encoded) s x.id).connection
      generalize s.encodeVisits x.id (x.encoders.drop x.encoded) = visits at *
      generalize s.encodeOnly x.id (x.encoders.drop x.encoded) = met at *
      obtain ⟨status, s'⟩ := met
      dsimp only at *
      cases status with
      | stop =>
        have hsame : s'.connection.output = s.connection.output ++ [] := by
          rw [hconnection, List.append_nil]
        rw [writeEvents_eq hsame]
        exact hstep
      | «continue» =>
        -- Behind the last filter nothing is left of the chain.
        have hthrough : ∀ y : Stream, y.slots = ms → y.encoded = x.encoded + visits.length →
            y.encoders.drop y.encoded = [] := by
          intro y hslots hencoded
          have hlen : visits.length = (x.encoders.drop x.encoded).length := by
            rw [← hfull rfl, List.length_map]
          rw [Stream.encoders_congr (x := x) (hslots ▸ hms), hencoded, ← List.drop_drop, hlen,
            List.drop_length]
        obtain ⟨houtput, hreply⟩ := sendReply_messageSteps (x := { x with
          response := some _, encoded := x.encoded + visits.length, slots := ms }) hmet hlive rfl
          (hthrough _ rfl rfl)
        rw [hconnection] at houtput
        rw [writeEvents_eq houtput, List.map_cons]
        exact hstep.trans hreply

/-- A response is set and goes on. -/
theorem answer_messageSteps {x : Stream} (hx : s.stream? x.id = some x) (hlive : x.isLive = true)
    (r : Response) : MessageSteps ((s.answerEvents x.id r).map (x.id, ·)) s
      ((s.modifyStream x.id (·.setResponse r)).continueEncoding x.id) :=
  (MessageStep.answered hx hlive r).messageSteps.trans (continueEncoding_messageSteps _ x.id)

theorem aboutToReply_writesNothing (s : Session σ) (id : StreamId) : WritesNothing s (s.aboutToReply id) := by
  have hcount : WritesNothing s (s.measure fun m => { m with localReplies := m.localReplies.inc }) :=
    WritesNothing.same rfl rfl rfl rfl (fun h => h) rfl
  refine hcount.trans ?_
  exact WritesNothing.modifyStream fun x => ⟨rfl, rfl, rfl, rfl, rfl, rfl, rfl, rfl, fun h => h⟩

/-! ## Requests

A request begins a stream, gets its route, and goes on. The three are one operation of the session
and several steps here. -/

theorem continueDecoding_messageSteps (s : Session σ) (id : StreamId) :
    MessageSteps ((s.decodingEvents id).map (id, ·)) s (s.continueDecoding id) := by
  unfold decodingEvents Session.continueDecoding
  cases hx : s.stream? id with
  | none => exact MessageSteps.refl s
  | some x =>
    dsimp only
    cases hlive : x.isLive with
    | false => exact MessageSteps.refl s
    | true =>
      obtain rfl := stream?_id hx
      exact (MessageStep.decoding hx hlive).messageSteps

theorem resolve_resolve (x : Stream) (routes : RouteTable) :
    (x.resolve routes).resolve routes = x.resolve routes := by
  cases hroute : x.route with
  | some found => simp [Stream.resolve, hroute]
  | none => simp [Stream.resolve, hroute]

theorem resolve_id (x : Stream) (routes : RouteTable) : (x.resolve routes).id = x.id :=
  (Stream.Alike.resolve x routes).id

/-- A stream that is behind all others and has a number of its own is the one that changes. -/
theorem modifyStream_append {x : Stream} {f : Stream → Stream} {s' : Session σ} (h : s.Numbered)
    (hs' : s'.streams = s.streams ++ [x]) (hid : x.id = s.nextId) :
    s'.stream? s.nextId = some x ∧
      (s'.modifyStream s.nextId f).streams = s.streams ++ [f x] := by
  constructor
  · have hnone : s.streams.find? (·.id == s.nextId) = none := h s.nextId (Nat.le_refl s.nextId)
    unfold Session.stream?
    rw [hs', List.find?_append, hnone, Option.none_or, List.find?_cons_of_pos (by simp [hid])]
  · unfold Session.modifyStream
    dsimp only
    rw [hs', List.map_append, List.map_singleton, if_pos hid]
    congr 1
    refine (List.map_congr_left fun y hy => if_neg fun he => ?_).trans (List.map_id' s.streams)
    have hother := List.find?_eq_none.mp (h s.nextId (Nat.le_refl s.nextId)) y hy
    exact hother (by simp [he])

theorem beginStream_messageSteps (h : s.Numbered) (request : Request) :
    MessageSteps ((s.beginEvents request).map (s.nextId, ·)) s (s.beginStream request) := by
  unfold Session.beginStream beginEvents
  dsimp only
  by_cases hused : s.nextId + 1 ≥ UInt64.size
  · rw [if_pos hused, if_pos hused]
    exact WritesNothing.messageSteps (WritesNothing.same rfl rfl rfl rfl (fun _ => rfl) rfl)
  · rw [if_neg hused, if_neg hused]
    obtain ⟨info, span, log, -, hopen⟩ := openSpan_eq { s with nextId := s.nextId + 1 } request
    rw [hopen]
    dsimp only
    by_cases hstuck : (decide (s.clock.wall < 0) && s.plan.parts.any (·.stamps)) = true
    · rw [if_pos hstuck, if_pos hstuck, if_pos hstuck]
      exact MessageStep.messageSteps (MessageStep.began
        ⟨rfl, rfl, rfl, rfl, fun _ => rfl, rfl, rfl, rfl, rfl, rfl, rfl, rfl, Or.inr ⟨rfl, rfl⟩⟩)
    · rw [if_neg hstuck, if_neg hstuck, if_neg hstuck]
      generalize hx : ({ id := s.nextId, request, info, span, inserted := true
                         slots := s.plan.parts.map (Slot.start s.nextId s.clock) } : Stream) = x
      generalize hs₁ : { s with nextId := s.nextId + 1, log }.insertStream x = s₁
      have hstreams : s₁.streams = s.streams ++ [x] := by rw [← hs₁]; rfl
      have hid : x.id = s.nextId := by rw [← hx]
      obtain ⟨hfound, hresolved⟩ :=
        modifyStream_append (f := (·.resolve s₁.plan.routes)) h hstreams hid
      -- The route is looked up first, which is done as soon as the stream is there.
      generalize hs₂ : s₁.modifyStream s.nextId (·.resolve s₁.plan.routes) = s₂ at hresolved
      have hagain : s₂.modifyStream s.nextId (·.resolve s₂.plan.routes) = s₂ := by
        rw [← hs₂]
        refine (modifyStream_modifyStream (f := (·.resolve s₁.plan.routes))
          (g := (·.resolve s₁.plan.routes)) fun y => resolve_id y _).trans ?_
        simp only [resolve_resolve]
      have hopens : Opens s request (x.resolve s₁.plan.routes) s₂ := by
        subst hx hs₁ hs₂
        exact ⟨rfl, rfl, hresolved, rfl, fun h => h, rfl, rfl, rfl, rfl, rfl, rfl, rfl,
          Or.inl ⟨rfl, rfl⟩⟩
      have hnow : s₂.stream? s.nextId = some (x.resolve s₁.plan.routes) :=
        (modifyStream_append (f := fun y => y) h hresolved hopens.id).1
      have hlive : x.isLive = true := by rw [← hx]; rfl
      have hdecoding := MessageStep.decoding (x := x.resolve s₁.plan.routes)
        (by rw [hopens.id]; exact hnow) (by subst hx; rfl)
      rw [hopens.id, hagain] at hdecoding
      have hsame : (x.resolve s₁.plan.routes).decoders.drop (x.resolve s₁.plan.routes).decoded =
          x.decoders.drop x.decoded := by
        subst hx
        rfl
      rw [hsame] at hdecoding
      unfold Session.continueDecoding decodingEvents
      rw [hfound]
      dsimp only
      rw [hlive]
      simp only [Bool.not_true, Bool.false_eq_true, if_false]
      rw [hs₂]
      exact (MessageStep.began hopens).messageSteps.trans hdecoding.messageSteps

theorem onWireEvent_messageSteps (h : s.Numbered) (e : Wire.Event) :
    MessageSteps (s.wireActs [e]) s (s.onWireEvent e) := by
  unfold wireActs Session.onWireEvent
  cases e with
  | request r =>
    dsimp only [wireActs]
    rw [List.append_nil]
    cases s.panic.isSome with
    | true => exact MessageSteps.refl s
    | false => exact beginStream_messageSteps h r
  | failure =>
    dsimp only [wireActs]
    cases s.panic.isSome with
    | true => exact MessageSteps.refl s
    | false =>
      refine MessageSteps.before ?_ (WritesNothing.messageSteps (WritesNothing.close .flush))
      refine MessageSteps.before ?_ (resetAll_messageSteps _)
      exact WritesNothing.messageSteps (WritesNothing.same rfl rfl rfl rfl (fun h => h) rfl)

theorem onWireEvents_messageSteps (events : List Wire.Event) (h : s.Numbered) :
    MessageSteps (s.wireActs events) s (events.foldl onWireEvent s) := by
  induction events generalizing s with
  | nil => exact MessageSteps.refl s
  | cons e events ih =>
    have hfirst := onWireEvent_messageSteps h e
    have hall := hfirst.trans (ih (hfirst.numbered h))
    simp only [wireActs, List.append_nil] at hall ⊢
    exact hall

theorem onClientData_messageSteps (h : s.Numbered) (data : Bytes) (hserved : s.isServed = true) :
    MessageSteps (s.begunIn (.data data)) s (s.onClientData data) := by
  unfold Session.onClientData begunIn
  rw [hserved]
  cases s.isClosed with
  | true => exact WritesNothing.messageSteps (WritesNothing.same rfl rfl rfl rfl (fun h => h) rfl)
  | false =>
    refine MessageSteps.before ?_ (onWireEvents_messageSteps _ h)
    exact WritesNothing.messageSteps (WritesNothing.same rfl rfl rfl rfl (fun h => h) rfl)

/-! ## Everything that happens

The functions of the session one after another, up to whole operations. Each lemma names the events
by the function that reads them off. -/

theorem perform_messageSteps (s : Session σ) (id : StreamId) (op : StreamOp) :
    MessageSteps ((s.eventsOf id op).map (id, ·)) s (s.perform id op) := by
  cases op with
  | continueDecoding => exact continueDecoding_messageSteps s id
  | continueEncoding => exact continueEncoding_messageSteps s id
  | localReply status update =>
    show MessageSteps _ s (s.localReply id status update)
    unfold Session.localReply eventsOf
    cases hx : s.stream? id with
    | none => exact MessageSteps.refl s
    | some x =>
      dsimp only
      obtain rfl := stream?_id hx
      -- Each way in which nothing comes of it has no events either.
      cases hgo : !x.isLive || !s.isServed with
      | true => exact MessageSteps.refl s
      | false =>
        rw [if_neg Bool.false_ne_true, Bool.false_or]
        cases hcreates : s.plan.codec.createsReplies with
        | false => exact WritesNothing.messageSteps (WritesNothing.same rfl rfl rfl rfl (fun _ => rfl) rfl)
        | true =>
          have hlive : x.isLive = true := by
            rw [Bool.or_eq_false_iff] at hgo
            simpa using hgo.1
          exact (aboutToReply_writesNothing s x.id).messageSteps.before (answer_messageSteps
            (x := { x with info := { x.info with localReply := true } }) (aboutToReply_stream? hx)
            hlive _)
  | respond r =>
    show MessageSteps _ s (s.respond id r)
    unfold Session.respond eventsOf
    cases hx : s.stream? id with
    | none => exact MessageSteps.refl s
    | some x =>
      dsimp only
      obtain rfl := stream?_id hx
      cases hlive : x.isLive with
      | false => exact MessageSteps.refl s
      | true => exact answer_messageSteps hx hlive r
  | complete =>
    show MessageSteps [] s (if _ then _ else _)
    split
    · exact finishStream_messageSteps s id
    · exact MessageSteps.refl s
  | reset => exact resetStream_messageSteps s id
  | resetConnection =>
    show MessageSteps [] s (if _ then _ else _)
    split
    · exact closeConnection_messageSteps s .noFlush
    · exact MessageSteps.refl s

theorem runTask_messageSteps (s : Session σ) (t : Task) : MessageSteps (s.actsOf t) s (s.runTask t) := by
  cases t with
  | stream id op => exact perform_messageSteps s id op
  | router ref op =>
    cases op with
    | write => exact (MessageStep.called s ref).messageSteps
    | ask op => exact perform_messageSteps s ref.stream op
    | deliver d => exact (MessageStep.told s ref d).messageSteps
  | closed =>
    show MessageSteps [] s (if _ then _ else _)
    split
    · exact onConnectionEvent_messageSteps _ _
    · exact MessageSteps.refl _

theorem dropUnneeded_messageSteps (s : Session σ) (id : StreamId) :
    MessageSteps [] s (s.dropUnneeded id) := by
  unfold Session.dropUnneeded
  split
  · exact MessageSteps.refl s
  · exact (MessageStep.dropped s id).messageSteps

theorem clearDeferred_messageSteps (s : Session σ) : MessageSteps [] s s.clearDeferred := by
  refine MessageSteps.before ?_ (MessageSteps.foldl (fun s id => dropUnneeded_messageSteps s id) _ _)
  exact WritesNothing.messageSteps (WritesNothing.same rfl rfl rfl rfl (fun h => h) rfl)

theorem dismiss_messageSteps (s : Session σ) : MessageSteps [] s s.dismiss := by
  unfold Session.dismiss
  split
  · exact MessageSteps.refl s
  · refine MessageSteps.before ?_ (MessageSteps.foldl (fun s id => dropUnneeded_messageSteps s id) _ _)
    exact WritesNothing.messageSteps (WritesNothing.same rfl rfl rfl rfl (fun h => h) rfl)

theorem runUntilIdle_messageSteps (s : Session σ) (fuel : Nat) :
    MessageSteps ((taken fuel s).flatMap fun m => m.1.actsOf m.2) s (runUntilIdle fuel s) := by
  have h := runUntilIdle_history (P := fun h s' => MessageSteps (h.flatMap fun m => m.1.actsOf m.2) s s')
    ?_ ?_ fuel [] s (MessageSteps.refl s)
  · exact h
  · intro h s' t rest hq hs
    rw [List.flatMap_append, List.flatMap_singleton]
    exact (hs.behind (MessageStep.popped hq).messageSteps).trans (runTask_messageSteps (s'.leave rest) t)
  · intro h s' hs
    exact hs.behind (clearDeferred_messageSteps s')

/-- Everything that happens to a session is made of message steps, but for tasks that come from
outside. -/
theorem step_messageSteps {op : SessionOp} (h : s.Numbered) (hask : ∀ id o, op ≠ .ask id o)
    (hdeliver : ∀ ref d, op ≠ .deliver ref d) : MessageSteps (s.actsIn op) s (s.step op) := by
  -- Whatever is only done for a connection that is served.
  have hserved : ∀ {s' : Session σ}, MessageSteps [] s s' →
      MessageSteps [] s (if s.isServed then s' else s) := by
    intro s' h
    split
    · exact h
    · exact MessageSteps.refl s
  cases op with
  | data octets =>
    show MessageSteps (s.begunIn (.data octets) ++ []) s (if _ then _ else _)
    rw [List.append_nil]
    cases hs : s.isServed with
    | true => exact onClientData_messageSteps h octets hs
    | false =>
      rw [begunIn, hs]
      exact WritesNothing.messageSteps (WritesNothing.same rfl rfl rfl rfl (fun h => h) rfl)
  | request r =>
    show MessageSteps ((if _ then _ else _) ++ []) s (if _ then _ else _)
    rw [List.append_nil]
    split
    · exact beginStream_messageSteps h r
    · exact MessageSteps.refl s
  | event e => exact hserved (onConnectionEvent_messageSteps s e)
  | close how => exact hserved (closeConnection_messageSteps s how)
  | closeQuietly how => exact WritesNothing.messageSteps (WritesNothing.close how)
  | resetAll => exact hserved (resetAll_messageSteps s)
  | drainCheck => exact hserved (closeIfDrained_writesNothing s).messageSteps
  | stream id op =>
    show MessageSteps ([] ++ (_ ++ [])) s _
    rw [List.nil_append, List.append_nil]
    exact perform_messageSteps s id op
  | ask id o => exact absurd rfl (hask id o)
  | deliver ref d => exact absurd rfl (hdeliver ref d)
  | hold id =>
    show MessageSteps [] s (if _ then _ else _)
    split
    · exact WritesNothing.messageSteps (WritesNothing.same rfl rfl rfl rfl (fun h => h) rfl)
    · exact MessageSteps.refl s
  | release id =>
    refine MessageSteps.before ?_ (dropUnneeded_messageSteps _ id)
    exact WritesNothing.messageSteps (WritesNothing.same rfl rfl rfl rfl (fun h => h) rfl)
  | run => exact runUntilIdle_messageSteps s s.effort
  | clearDeferred => exact clearDeferred_messageSteps s
  | dismiss => exact dismiss_messageSteps s
  | drain | advance => exact WritesNothing.messageSteps (WritesNothing.same rfl rfl rfl rfl (fun h => h) rfl)

end

end Session

end RpcProxy

import RpcProxy.Proofs.Host.Gauges
import RpcProxy.Proofs.Session.MessageEvents
import RpcProxy.Proofs.Session.RouterFrame

/-!
# The moves of a session

However much a session does at once, as far as routers are concerned it is made of a few moves. Most
of what happens is aside from them (`RoutersUntouched`); the rest is a stream that begins or is
over, a request that comes to the next filter of its chain, a router that is told something, writes,
is destroyed or is dropped, and a task that is taken up. `Move` lists them, each with what is known
when it is made, and carries the tasks that it takes up.

`step_moves` takes everything that can happen to a session apart into moves, except for what pools
tell routers from outside. A fact about routers and connections is then proved move by move, without
a look at filters, replies or the client's connection. What clients are answered, who holds
connections and who owns them, what gauges show, and what becomes of octets behind a reply, all
stand on it; had each of them gone through the session by itself, a change of the way in which
replies are sent would have to be made good in all.

Two parameters keep moves from saying too much or too little. `R` tells which requests may come to
which router: a move only says that a request came, and that it is the one that the filters before
the router have left is known from the messages of the stream (`Routed`). `D` tells whether streams
may be dropped. A stream that is dropped takes its routers with it, whatever they hold, so most
steps are shown with any `D`, and only those that put streams away need it to be true
(`SessionOp.drops`).
-/

set_option autoImplicit false

namespace RpcProxy

def Part.isRouter (p : Part) : Bool :=
  match p.kind with
  | .router _ => true
  | .plain _ | .accessLog _ => false

/-- What a pool has told, if something that was logged is that. -/
def LogEvent.poolNote? : LogEvent → Option PoolNote
  | .pool n => some n
  | .note _ | .access _ _ | .spanStart _ _ _ _ | .spanEnd _ _ => none

def Task.isRouters : Task → Bool
  | .router _ _ => true
  | .stream _ _ | .closed => false

/-- Whether streams are dropped when something happens. Dropping is put off: a stream that has ended
is kept until nobody can be looking at it, which is when the work in hand is done or a holder lets
go of it. -/
def SessionOp.drops : SessionOp → Bool
  | .run | .clearDeferred | .release _ | .dismiss => true
  | _ => false

namespace Stream

/-- Whether there is a place for a router in the chain, be the router there or not. -/
def hasRouter (x : Stream) (slot : Nat) : Bool := (x.slots[slot]?).any (·.part.isRouter)

variable {x y z : Stream}

theorem part_congr (h : y.slots.map (·.part) = x.slots.map (·.part)) (slot : Nat) :
    (y.slots[slot]?).map (·.part) = (x.slots[slot]?).map (·.part) := by
  rw [← List.getElem?_map, ← List.getElem?_map, h]

theorem decoders_congr (h : y.slots.map (·.part) = x.slots.map (·.part)) :
    y.decoders = x.decoders := by
  have hlen : y.slots.length = x.slots.length := by
    simpa using congrArg List.length h
  have hside : ∀ i : Nat, (y.slots[i]?).any (fun z : Slot => z.part.side.decodes) =
      (x.slots[i]?).any fun z : Slot => z.part.side.decodes := by
    intro i
    have hp := congrArg (Option.any fun p : Part => p.side.decodes) (part_congr h i)
    simpa [Option.any_map, Function.comp_def] using hp
  unfold Stream.decoders
  rw [hlen]
  exact List.filter_congr fun i _ => hside i

theorem hasRouter_congr (h : y.slots.map (·.part) = x.slots.map (·.part)) (slot : Nat) :
    y.hasRouter slot = x.hasRouter slot := by
  have hp := congrArg (Option.any Part.isRouter) (part_congr h slot)
  simpa [Stream.hasRouter, Option.any_map, Function.comp_def] using hp

/-- As far as routers are concerned, a stream is what it was; its route may have been looked up.
What it is about, the request and the response, may be anything, since routers look at neither
before they are shown a request. -/
structure Alike (x y : Stream) : Prop where
  /-- It has the same number. -/
  id : y.id = x.id
  /-- Its request is behind the same filters. -/
  decoded : y.decoded = x.decoded
  /-- The filters are the same. -/
  parts : y.slots.map (·.part) = x.slots.map (·.part)
  /-- Each router has the same in mind. -/
  routers : ∀ slot, y.router? slot = x.router? slot
  /-- A route that was looked up stays. -/
  route : x.route = none ∨ y.route = x.route
  /-- It is over if it was. -/
  ended : y.isCompleted = x.isCompleted

theorem Alike.refl (x : Stream) : x.Alike x := ⟨rfl, rfl, rfl, fun _ => rfl, Or.inr rfl, rfl⟩

theorem Alike.trans (h₁ : x.Alike y) (h₂ : y.Alike z) : x.Alike z where
  id := h₂.id.trans h₁.id
  decoded := h₂.decoded.trans h₁.decoded
  parts := h₂.parts.trans h₁.parts
  routers slot := (h₂.routers slot).trans (h₁.routers slot)
  route := by
    rcases h₁.route with h | h
    · exact Or.inl h
    · rw [← h]
      exact h₂.route
  ended := h₂.ended.trans h₁.ended

theorem Alike.decoders (h : x.Alike y) : y.decoders = x.decoders := decoders_congr h.parts

theorem Alike.resolve (x : Stream) (routes : RouteTable) : x.Alike (x.resolve routes) := by
  unfold Stream.resolve
  split
  · exact Alike.refl x
  · next h => exact ⟨rfl, rfl, rfl, fun _ => rfl, Or.inl h, rfl⟩

theorem Alike.amend (x : Stream) (slot : Nat) (f : AccessLog.Entry → AccessLog.Entry) :
    x.Alike (x.amend slot f) where
  id := rfl
  decoded := rfl
  parts := by
    unfold Stream.amend
    refine List.ext_getElem? fun i => ?_
    simp only [List.getElem?_map, List.getElem?_modify]
    cases x.slots[i]? with
    | none => rfl
    | some y =>
      by_cases hi : slot = i
      · simp [hi]
      · simp [hi]
  routers := by
    intro i
    unfold Stream.router? Stream.amend
    simp only [List.getElem?_modify]
    cases hy : x.slots[i]? with
    | none => rfl
    | some y =>
      obtain ⟨part, memory⟩ := y
      by_cases hi : slot = i
      -- Only an access log has an entry that could be amended.
      · cases memory with
        | nothing => simp [hi, Memory.amend]
        | access entry started => simp [hi, Memory.amend]
        | router r => simp [hi, Memory.amend]
      · simp [hi]
  route := Or.inr rfl
  ended := rfl

end Stream

namespace Session

variable {σ : Type}

/-- What pools have told, the latest first. -/
def poolNotes (s : Session σ) : List PoolNote := s.log.filterMap LogEvent.poolNote?

/-! ## What is aside from routers

Many functions of the session do not come near a router: they log, count, write to the client or
change a message. One relation describes them all, so that whoever is interested in routers has a
single case for them. -/

/-- Nothing has happened to routers, to pools, to gauges of hosts or to what routers are to do.
Streams are compared by one function on all of them, and not one by one, so that none comes, goes or
changes places; and what is put behind other work is named, since a router waits for its tasks in
the order in which they were put there. -/
structure RoutersUntouched (s s' : Session σ) : Prop where
  /-- It is the same connection. -/
  number : s'.number = s.number
  /-- The pools answer as before. -/
  source : s'.source = s.source
  plan : s'.plan = s.plan
  /-- The pools are what they were, and so are gauges. -/
  side : s.side.Alike s'.side
  /-- No stream has begun. -/
  nextId : s'.nextId = s.nextId
  streams : ∃ f : Stream → Stream, (∀ x : Stream, x.Alike (f x)) ∧ s'.streams = s.streams.map f
  /-- What was put behind other work is for no router. -/
  posted : ∃ ts : List Task, (∀ t ∈ ts, t.isRouters = false) ∧
    s'.queue.posted = s.queue.posted ++ ts
  /-- Pools have told nothing. -/
  notes : s'.poolNotes = s.poolNotes

section

variable {s s₁ s₂ s₃ : Session σ} {id : StreamId}

theorem RoutersUntouched.pools {s' : Session σ} (h : RoutersUntouched s s') :
    s'.side.pools = s.side.pools :=
  h.side.pools

/-- Streams and tasks are the same altogether. -/
theorem RoutersUntouched.same {s' : Session σ} (hnumber : s'.number = s.number)
    (hsource : s'.source = s.source) (hplan : s'.plan = s.plan) (hside : s.side.Alike s'.side)
    (hnext : s'.nextId = s.nextId) (hstreams : s'.streams = s.streams)
    (hposted : s'.queue.posted = s.queue.posted) (hnotes : s'.poolNotes = s.poolNotes) :
    RoutersUntouched s s' where
  number := hnumber
  source := hsource
  plan := hplan
  side := hside
  nextId := hnext
  streams := ⟨fun x => x, Stream.Alike.refl, by rw [hstreams, List.map_id']⟩
  posted := ⟨[], by simp, by rw [hposted, List.append_nil]⟩
  notes := hnotes

theorem RoutersUntouched.refl (s : Session σ) :
    RoutersUntouched s s :=
  RoutersUntouched.same rfl rfl rfl (.refl _) rfl rfl rfl rfl

theorem RoutersUntouched.trans (h₁ : RoutersUntouched s₁ s₂) (h₂ : RoutersUntouched s₂ s₃) :
    RoutersUntouched s₁ s₃ where
  number := h₂.number.trans h₁.number
  source := h₂.source.trans h₁.source
  plan := h₂.plan.trans h₁.plan
  side := h₁.side.trans h₂.side
  nextId := h₂.nextId.trans h₁.nextId
  streams := by
    obtain ⟨f, hf, hs⟩ := h₁.streams
    obtain ⟨g, hg, ht⟩ := h₂.streams
    refine ⟨g ∘ f, fun x => (hf x).trans (hg (f x)), ?_⟩
    rw [ht, hs, List.map_map]
  posted := by
    obtain ⟨ts, hts, hq⟩ := h₁.posted
    obtain ⟨us, hus, hr⟩ := h₂.posted
    refine ⟨ts ++ us, fun t ht => ?_, by rw [hr, hq, List.append_assoc]⟩
    rcases List.mem_append.mp ht with ht | ht
    · exact hts t ht
    · exact hus t ht
  notes := h₂.notes.trans h₁.notes

theorem RoutersUntouched.foldl {α : Type} {f : Session σ → α → Session σ}
    (hf : ∀ s a, RoutersUntouched s (f s a))
    (l : List α) (s : Session σ) : RoutersUntouched s (l.foldl f s) := by
  induction l generalizing s with
  | nil => exact RoutersUntouched.refl s
  | cons a rest ih => exact (hf s a).trans (ih (f s a))

theorem RoutersUntouched.modifyStream {f : Stream → Stream} (hf : ∀ x : Stream, x.Alike (f x)) :
    RoutersUntouched s (s.modifyStream id f) where
  number := rfl
  source := rfl
  plan := rfl
  side := .refl _
  nextId := rfl
  streams := by
    refine ⟨fun x => if x.id = id then f x else x, fun x => ?_, rfl⟩
    by_cases hx : x.id = id
    · simpa [hx] using hf x
    · simpa [hx] using Stream.Alike.refl x
  posted := ⟨[], by simp, by simp [Session.modifyStream]⟩
  notes := rfl

theorem RoutersUntouched.posts {ts : List Task} (hts : ∀ t ∈ ts, t.isRouters = false) :
    RoutersUntouched s { s with queue := { s.queue with posted := s.queue.posted ++ ts } } where
  number := rfl
  source := rfl
  plan := rfl
  side := .refl _
  nextId := rfl
  streams := ⟨fun x => x, Stream.Alike.refl, by simp⟩
  posted := ⟨ts, hts, rfl⟩
  notes := rfl

theorem RoutersUntouched.post {t : Task} (ht : t.isRouters = false) : RoutersUntouched s (s.post t) :=
  RoutersUntouched.posts (by simpa using ht)

theorem note_routersUntouched (s : Session σ) {e : LogEvent} (he : e.poolNote? = none) :
    RoutersUntouched s (s.note e) :=
  RoutersUntouched.same rfl rfl rfl (.refl _) rfl rfl rfl (List.filterMap_cons_none he)

theorem stop_routersUntouched (s : Session σ) (p : Panic) : RoutersUntouched s (s.stop p) :=
  RoutersUntouched.same rfl rfl rfl (.refl _) rfl rfl rfl rfl

theorem measure_routersUntouched (s : Session σ) (f : ListenerStats → ListenerStats) :
    RoutersUntouched s (s.measure f) :=
  RoutersUntouched.same rfl rfl rfl (.refl _) rfl rfl rfl rfl

theorem closeIfDrained_routersUntouched (s : Session σ) : RoutersUntouched s s.closeIfDrained := by
  unfold Session.closeIfDrained
  split
  · exact RoutersUntouched.same rfl rfl rfl (.refl _) rfl rfl rfl rfl
  · exact RoutersUntouched.refl s

theorem writeToClient_routersUntouched (s : Session σ) (data : Bytes) (last : Bool) :
    RoutersUntouched s (s.writeToClient data last) := by
  have hwritten : RoutersUntouched s { s with connection := s.connection.write data last } :=
    RoutersUntouched.same rfl rfl rfl (.refl _) rfl rfl rfl rfl
  unfold Session.writeToClient
  dsimp only
  split
  · exact hwritten.trans (RoutersUntouched.post rfl)
  · exact hwritten

theorem afterFilter_routersUntouched (s : Session σ) (a : Asides) : RoutersUntouched s (s.afterFilter a) := by
  have hnotes : RoutersUntouched s (a.notes.foldl (fun s n => s.note (.note n)) s) :=
    RoutersUntouched.foldl (fun s n => note_routersUntouched s rfl) _ s
  unfold Session.afterFilter
  rw [foldl_post]
  refine hnotes.trans (RoutersUntouched.posts fun t ht => ?_)
  obtain ⟨id, op, -, rfl⟩ := Asides.mem_tasks.mp ht
  rfl

theorem encodeOne_routersUntouched (s : Session σ) (x : Stream) (r : Response) (slot : Nat) :
    RoutersUntouched s (s.encodeOne x r slot).2 := by
  unfold Session.encodeOne
  split
  · refine RoutersUntouched.trans ?_ (afterFilter_routersUntouched _ _)
    exact RoutersUntouched.modifyStream fun x => ⟨rfl, rfl, rfl, fun _ => rfl, Or.inr rfl, rfl⟩
  · exact RoutersUntouched.modifyStream fun x => Stream.Alike.amend x slot _
  · exact RoutersUntouched.refl s

/-! ## Looking streams up

Streams are found by number. A change that keeps numbers keeps who is found. -/

theorem stream?_id {x : Stream} (h : s.stream? id = some x) : x.id = id := by
  have hp := List.find?_some h
  simpa using hp

theorem stream?_of_map {s' : Session σ} {f : Stream → Stream} (hf : ∀ x, (f x).id = x.id)
    (h : s'.streams = s.streams.map f) (id : StreamId) : s'.stream? id = (s.stream? id).map f := by
  unfold Session.stream?
  rw [h, List.find?_map]
  refine congrArg (Option.map f) (congrFun (congrArg List.find? (funext fun x => ?_)) _)
  simp only [Function.comp, hf]

theorem stream?_modifyStream {f : Stream → Stream} (hf : ∀ x, (f x).id = x.id) (id' : StreamId) :
    (s.modifyStream id f).stream? id' =
      (s.stream? id').map fun x => if x.id = id then f x else x := by
  refine stream?_of_map (fun x => ?_) rfl id'
  split
  · exact hf x
  · rfl

theorem stream?_modifyStream_same {f : Stream → Stream} (hf : ∀ x, (f x).id = x.id) {x : Stream}
    (h : s.stream? id = some x) : (s.modifyStream id f).stream? id = some (f x) := by
  rw [stream?_modifyStream hf, h, Option.map_some, if_pos (stream?_id h)]

theorem RoutersUntouched.stream? (h : RoutersUntouched s₁ s₂) {x : Stream} (hx : s₁.stream? id = some x) :
    ∃ y, s₂.stream? id = some y ∧ x.Alike y := by
  obtain ⟨f, hf, hs⟩ := h.streams
  refine ⟨f x, ?_, hf x⟩
  rw [stream?_of_map (fun x => (hf x).id) hs, hx, Option.map_some]

theorem modifyStream_modifyStream {f g : Stream → Stream} (hf : ∀ x, (f x).id = x.id) :
    (s.modifyStream id f).modifyStream id g = s.modifyStream id fun x => g (f x) := by
  unfold Session.modifyStream
  simp only [List.map_map]
  congr 1
  refine List.map_congr_left fun x _ => ?_
  by_cases hx : x.id = id
  · simp [hf, hx]
  · simp [hx]

end

/-! ## Moves

The moves, and runs of them. That a run grows at its end makes `before` and `behind` useful: a run
that is put together from what a function does first and what it does then. -/

/-- The request of a stream comes to its next filter. The stream is not over, and its route has been
looked up: whoever goes on with a request does that first. -/
structure Next (s : Session σ) (x : Stream) (slot : Nat) : Prop where
  /-- The stream is there. -/
  found : s.stream? x.id = some x
  /-- The filter is the first that the request has not met. -/
  here : x.decoders[x.decoded]? = some slot
  /-- The stream is not over. -/
  live : x.isCompleted = false
  /-- Its route was looked up, with or without success. -/
  looked : x.route.isSome

/-- A stream begins, and its routers have nothing in mind and no request behind them. Whether it has
all the filters of the plan is not asked here, only that it has no more. -/
structure Begins (s : Session σ) (x : Stream) (s' : Session σ) : Prop where
  /-- It is the same connection. -/
  number : s'.number = s.number
  /-- The pools answer as before. -/
  source : s'.source = s.source
  /-- The plan stays. -/
  plan : s'.plan = s.plan
  /-- The pools are what they were, and so are gauges. -/
  side : s.side.Alike s'.side
  /-- The next number was given out. -/
  nextId : s'.nextId = s.nextId + 1
  /-- The stream is behind all others. -/
  streams : s'.streams = s.streams ++ [x]
  /-- The tasks are the same. -/
  posted : s'.queue.posted = s.queue.posted
  /-- Pools have told nothing. -/
  notes : s'.poolNotes = s.poolNotes
  /-- The stream has the number that was given out. -/
  id : x.id = s.nextId
  /-- No filter is behind it. -/
  decoded : x.decoded = 0
  /-- It is not over. -/
  live : x.isCompleted = false
  /-- It has no more filters than there are in the plan. -/
  width : x.slots.length ≤ s.plan.parts.length
  /-- Its routers have nothing in mind. -/
  blank : ∀ slot r, x.router? slot = some r → r = {}
  /-- There is a router wherever the plan has one. -/
  whole : ∀ slot, (x.router? slot).isSome = x.hasRouter slot

theorem Begins.pools {s s' : Session σ} {x : Stream} (h : Begins s x s') :
    s'.side.pools = s.side.pools :=
  h.side.pools

/-- A move of a session, with the tasks that it takes up. Requests come to routers as `R` allows,
and no stream is dropped unless `D` holds.

Apart from the first two, every move is a function of the program applied to the session, with what
is known at that moment as its hypotheses; it does not describe the session behind it. Whoever needs
to know what a move comes to asks the lemmas about that function, and a move whose guard fails is no
move. -/
inductive Move (R : RouterRef → Request → Prop) (D : Prop) :
    List (Session σ × Task) → Session σ → Session σ → Prop
  /-- Something happens aside. -/
  | aside {s s' : Session σ} (h : RoutersUntouched s s') : Move R D [] s s'
  /-- A stream begins. -/
  | began {s s' : Session σ} {x : Stream} (h : Begins s x s') : Move R D [] s s'
  /-- A request passes a filter that is no router, or whose route names no cluster. -/
  | passed {s : Session σ} {x : Stream} {slot : Nat} (h : Next s x slot)
    (hfree : x.hasRouter slot = false ∨ ∃ route, x.route? = some route ∧ route.cluster = none) :
    Move R D [] s (s.pass x.id)
  /-- A request comes to a router that cannot begin a call, as no route fits it, its cluster is
  unknown, or no host of it can be chosen. -/
  | refused {s : Session σ} {x : Stream} {slot : Nat} (h : Next s x slot)
    (hrouter : x.hasRouter slot = true) (event : RouterEvent) (status : Status) :
    Move R D [] s ((s.pass x.id).refuse (s.refTo x.id slot) event status)
  /-- A request comes to a router, which asks a pool for a connection and writes the call if it gets
  one at once. -/
  | engaged {s : Session σ} {x : Stream} {slot : Nat} (h : Next s x slot)
    (hrouter : x.hasRouter slot = true) (cluster : Config.Cluster) (host : HostRef)
    (hrouted : R (s.refTo x.id slot) x.request) :
    Move R D [] s ((s.pass x.id).startExchange (s.refTo x.id slot) cluster host x.request)
  /-- A router writes its call. -/
  | wrote {s : Session σ} {ref : RouterRef} {rest : List Task}
    (h : s.queue.posted = .router ref .write :: rest) :
    Move R D [(s.leave rest, .router ref .write)] s ((s.leave rest).writeCall ref)
  /-- A task is taken up that is no router's own work, nor something that a pool tells. -/
  | popped {s : Session σ} {t : Task} {rest : List Task} (h : s.queue.posted = t :: rest)
    (ht : ∀ ref d, t ≠ .router ref (.deliver d)) (hw : ∀ ref, t ≠ .router ref .write) :
    Move R D [(s.leave rest, t)] s (s.leave rest)
  /-- A router is told what a pool has to tell. -/
  | delivered {s : Session σ} {ref : RouterRef} {d : Delivery} {rest : List Task}
    (h : s.queue.posted = .router ref (.deliver d) :: rest) :
    Move R D [(s.leave rest, .router ref (.deliver d))] s ((s.leave rest).onDelivery ref d)
  /-- Something is done with a stream at once, which counts as a task. -/
  | noted (s : Session σ) (id : StreamId) (op : StreamOp) : Move R D [(s, .stream id op)] s s
  /-- A stream is marked as over, before its routers are destroyed. -/
  | completed (s : Session σ) (id : StreamId) :
    Move R D [] s (s.modifyStream id fun x => { x with isCompleted := true })
  /-- The router of a stream that is over is destroyed. -/
  | destroyed {s : Session σ} {ref : RouterRef} (hnumber : ref.session = s.number)
    (hover : ∀ x, s.stream? ref.stream = some x → x.isCompleted = true) :
    Move R D [] s (s.destroyRouter ref)
  /-- A stream is dropped with all its routers. -/
  | dropped (s : Session σ) (id : StreamId) (hd : D) : Move R D [] s (s.dropStream id)

/-- Moves one after another, with the tasks that they take up in their order. The list grows at its
end, as the history of a session does, so that what holds of it is shown by induction on the last
move. -/
inductive Moves (R : RouterRef → Request → Prop) (D : Prop) :
    List (Session σ × Task) → Session σ → Session σ → Prop
  | refl (s : Session σ) : Moves R D [] s s
  | snoc {s₁ s₂ s₃ : Session σ} {ms m : List (Session σ × Task)} (h₁ : Moves R D ms s₁ s₂)
    (h₂ : Move R D m s₂ s₃) : Moves R D (ms ++ m) s₁ s₃

section

variable {R : RouterRef → Request → Prop} {D : Prop} {s s₁ s₂ s₃ : Session σ}
  {ms ns : List (Session σ × Task)} {id : StreamId}

theorem Move.moves {m : List (Session σ × Task)} (h : Move R D m s₁ s₂) : Moves R D m s₁ s₂ :=
  (Moves.refl s₁).snoc h

theorem RoutersUntouched.moves (h : RoutersUntouched s₁ s₂) : Moves R D [] s₁ s₂ := (Move.aside h).moves

theorem Moves.trans (h₁ : Moves R D ms s₁ s₂) (h₂ : Moves R D ns s₂ s₃) :
    Moves R D (ms ++ ns) s₁ s₃ := by
  induction h₂ with
  | refl s => simpa using h₁
  | snoc _ hm ih =>
    rw [← List.append_assoc]
    exact (ih h₁).snoc hm

theorem Move.mono {R' : RouterRef → Request → Prop} (hR : ∀ ref r, R ref r → R' ref r)
    {m : List (Session σ × Task)} (h : Move R D m s₁ s₂) : Move R' D m s₁ s₂ := by
  cases h with
  | aside h => exact .aside h
  | began h => exact .began h
  | passed h hfree => exact .passed h hfree
  | refused h hrouter event status => exact .refused h hrouter event status
  | engaged h hrouter cluster host hrouted => exact .engaged h hrouter cluster host (hR _ _ hrouted)
  | wrote h => exact .wrote h
  | popped h ht hw => exact .popped h ht hw
  | delivered h => exact .delivered h
  | noted _ id op => exact .noted _ id op
  | completed _ id => exact .completed _ id
  | destroyed hnumber hover => exact .destroyed hnumber hover
  | dropped _ id hd => exact .dropped _ id hd

theorem Moves.mono {R' : RouterRef → Request → Prop} (hR : ∀ ref r, R ref r → R' ref r)
    (h : Moves R D ms s₁ s₂) : Moves R' D ms s₁ s₂ := by
  induction h with
  | refl s => exact .refl s
  | snoc _ hm ih => exact ih.snoc (hm.mono hR)

/-- Moves that take nothing up, before others. -/
theorem Moves.before (h₁ : Moves R D [] s₁ s₂) (h₂ : Moves R D ms s₂ s₃) : Moves R D ms s₁ s₃ :=
  h₁.trans h₂

/-- Moves that take nothing up, behind others. -/
theorem Moves.behind (h₁ : Moves R D ms s₁ s₂) (h₂ : Moves R D [] s₂ s₃) : Moves R D ms s₁ s₃ := by
  have h := h₁.trans h₂
  rwa [List.append_nil] at h

theorem Moves.foldl {α : Type} {f : Session σ → α → Session σ} (hf : ∀ s a, Moves R D [] s (f s a))
    (l : List α) (s : Session σ) : Moves R D [] s (l.foldl f s) := by
  induction l generalizing s with
  | nil => exact Moves.refl s
  | cons a rest ih => exact (hf s a).before (ih (f s a))

/-! ## Requests

A request goes through the filters of its chain, one move for each. A router at the end of its way
begins a call. -/

theorem Next.route_moves {x : Stream} {slot : Nat} (h : Next s x slot)
    (hrouter : x.hasRouter slot = true) (hrouted : R (s.refTo x.id slot) x.request)
    (generation : Nat) :
    Moves R D [] s ((s.pass x.id).route (s.refTo x.id slot) generation x.route? x.request).2 ∧
      (((s.pass x.id).route (s.refTo x.id slot) generation x.route? x.request).1 = .continue →
        ((s.pass x.id).route (s.refTo x.id slot) generation x.route? x.request).2 = s.pass x.id) := by
  unfold Session.route
  cases hfound : x.route? with
  | none => exact ⟨(Move.refused h hrouter _ _).moves, fun hc => nomatch hc⟩
  | some route =>
    dsimp only
    cases hname : route.cluster with
    | none => exact ⟨(Move.passed h (Or.inr ⟨route, hfound, hname⟩)).moves, fun _ => rfl⟩
    | some name =>
      -- The choice of a host is noted on the side of the hosts; pools and gauges are left alone.
      have hchosen := HostSide.Alike.chosen s.side generation name s.now
      have hside : ∀ side : HostSide σ, s.side.Alike side → Moves R D [] s { s with side } :=
        fun side hp => RoutersUntouched.moves (.same rfl rfl rfl hp rfl rfl rfl rfl)
      have hnext : ∀ side : HostSide σ, Next { s with side } x slot :=
        fun side => ⟨h.found, h.here, h.live, h.looked⟩
      have hengage : ∀ (side : HostSide σ) (cluster : Config.Cluster) (host : HostRef),
          s.side.Alike side → Moves R D [] s
            ({ s.pass x.id with side }.startExchange (s.refTo x.id slot) cluster host x.request) :=
        fun side cluster host hp =>
          (hside side hp).before (Move.engaged (hnext side) hrouter cluster host hrouted).moves
      have hrefuse : ∀ (side : HostSide σ) (event : RouterEvent) (status : Status),
          s.side.Alike side → Moves R D [] s
            ({ s.pass x.id with side }.refuse (s.refTo x.id slot) event status) :=
        fun side event status hp =>
          (hside side hp).before (Move.refused (hnext side) hrouter event status).moves
      dsimp only
      split
      · exact ⟨hengage _ _ _ hchosen, fun hc => nomatch hc⟩
      · exact ⟨hrefuse _ _ _ hchosen, fun hc => nomatch hc⟩
      · exact ⟨hrefuse _ _ _ hchosen, fun hc => nomatch hc⟩

theorem Next.found_behind {x : Stream} {slot : Nat} (h : Next s x slot) :
    (s.pass x.id).stream? x.id = some { x with decoded := x.decoded + 1 } :=
  stream?_modifyStream_same (f := fun x => { x with decoded := x.decoded + 1 }) (fun _ => rfl)
    h.found

/-- A request meets the next filter. If it goes on, the stream is there, with one filter more
behind it. -/
theorem Next.decodeOne_moves {x : Stream} {slot : Nat} (h : Next s x slot)
    (hrouted : R (s.refTo x.id slot) x.request) :
    Moves R D [] s ((s.pass x.id).decodeOne { x with decoded := x.decoded + 1 } slot).2 ∧
      (((s.pass x.id).decodeOne { x with decoded := x.decoded + 1 } slot).1 = .continue →
        ∃ y, ((s.pass x.id).decodeOne { x with decoded := x.decoded + 1 } slot).2.stream? x.id =
          some y ∧ Stream.Alike { x with decoded := x.decoded + 1 } y) := by
  have hfound := h.found_behind
  have hpass : x.hasRouter slot = false → Moves R D [] s (s.pass x.id) :=
    fun hr => (Move.passed h (Or.inl hr)).moves
  unfold Session.decodeOne
  split
  · next hslot =>
    have hnone : x.slots[slot]? = none := hslot
    refine ⟨hpass (by simp [Stream.hasRouter, hnone]), fun _ => ⟨_, hfound, Stream.Alike.refl _⟩⟩
  · next side b memory hslot =>
    have hplain : x.slots[slot]? = some ⟨⟨side, .plain b⟩, memory⟩ := hslot
    have haside : RoutersUntouched (s.pass x.id)
        (((s.pass x.id).modifyStream x.id fun y =>
          { y with request := (b.onRequest (Stream.view { x with decoded := x.decoded + 1 })
            x.request).message }).afterFilter (b.onRequest
              (Stream.view { x with decoded := x.decoded + 1 }) x.request).toAsides) := by
      refine RoutersUntouched.trans ?_ (afterFilter_routersUntouched _ _)
      exact RoutersUntouched.modifyStream fun x => ⟨rfl, rfl, rfl, fun _ => rfl, Or.inr rfl, rfl⟩
    refine ⟨(hpass (by simp [Stream.hasRouter, hplain, Part.isRouter])).before haside.moves, ?_⟩
    intro _
    exact haside.stream? hfound
  · next side sink memory hslot =>
    have hlog : x.slots[slot]? = some ⟨⟨side, .accessLog sink⟩, memory⟩ := hslot
    have haside : ∀ f, RoutersUntouched (s.pass x.id) ((s.pass x.id).modifyStream x.id (·.amend slot f)) :=
      fun f => RoutersUntouched.modifyStream fun x => Stream.Alike.amend x slot f
    refine ⟨(hpass (by simp [Stream.hasRouter, hlog, Part.isRouter])).before (haside _).moves, ?_⟩
    intro _
    exact (haside _).stream? hfound
  · next side generation memory hslot =>
    have hrouter : x.slots[slot]? = some ⟨⟨side, .router generation⟩, memory⟩ := hslot
    have hhas : x.hasRouter slot = true := by simp [Stream.hasRouter, hrouter, Part.isRouter]
    -- A router lets a request go on only if its route names no cluster. Then it has done nothing,
    -- and the stream is the same.
    obtain ⟨hmoves, hgo⟩ := h.route_moves hhas hrouted generation
    refine ⟨hmoves, fun hc => ⟨_, ?_, Stream.Alike.refl _⟩⟩
    exact (congrArg (·.stream? x.id) (hgo hc)).trans hfound

/-- A request meets filters one after another. Those that are routers are shown it as the filters
before them have left it. -/
theorem decodeThrough_moves (slots : List Nat) {x : Stream} (hfound : s.stream? id = some x)
    (hslots : x.decoders.drop x.decoded = slots) (hlive : x.isCompleted = false)
    (hlooked : x.route.isSome)
    (hrouted : ∀ v ∈ s.decodeVisits id slots, ∀ ref : RouterRef, ref.stream = id →
      ref.slot = v.slot → R ref v.shown) : Moves R D [] s (s.decodeThrough id slots) := by
  induction slots generalizing s x with
  | nil => exact Moves.refl s
  | cons slot rest ih =>
    obtain rfl := stream?_id hfound
    have hnext : Next s x slot := by
      refine ⟨hfound, ?_, hlive, hlooked⟩
      have h := congrArg (·[0]?) hslots
      simpa using h
    have hbehind := hnext.found_behind
    rw [decodeVisits, hbehind] at hrouted
    dsimp only at hrouted
    obtain ⟨hmoves, hgo⟩ := hnext.decodeOne_moves (R := R)
      (hrouted _ List.mem_cons_self (s.refTo x.id slot) rfl rfl)
    unfold Session.decodeThrough
    dsimp only
    unfold Session.pass at hmoves hgo hbehind hrouted
    rw [hbehind]
    dsimp only
    split
    · next s' heq =>
      rw [heq] at hmoves hgo hrouted
      obtain ⟨y, hy, halike⟩ := hgo rfl
      -- The request goes on, so the stream is still there, and its cursor stands before `rest`.
      refine hmoves.before (ih hy ?_ ?_ ?_ fun v hv => hrouted v ?_)
      · have hdec : y.decoders = x.decoders := halike.decoders
        have hcur : y.decoded = x.decoded + 1 := halike.decoded
        rw [hdec, hcur, ← List.tail_drop, hslots, List.tail_cons]
      · exact halike.ended.trans hlive
      · rcases halike.route with hr | hr
        · exact absurd hlooked (by simp [show x.route = none from hr])
        · rw [hr]
          exact hlooked
      · rw [if_pos rfl]
        exact List.mem_cons_of_mem _ hv
    · next s' heq =>
      rw [heq] at hmoves
      exact hmoves

/-- The events of one stream allow what they tell. -/
theorem routed_events {id : StreamId} {events : List StreamEvent} {visits : List (Visit Request)}
    (h : .decoding visits ∈ events) {v : Visit Request} (hv : v ∈ visits) {ref : RouterRef}
    (hstream : ref.stream = id) (hslot : ref.slot = v.slot) :
    Routed (events.map (id, ·)) ref v.shown :=
  ⟨visits, v, List.mem_map.mpr ⟨_, h, by rw [hstream]⟩, hv, hslot.symm, rfl⟩

theorem continueDecoding_moves (s : Session σ) (id : StreamId) :
    Moves (Routed ((s.decodingEvents id).map (id, ·))) D [] s (s.continueDecoding id) := by
  unfold Session.continueDecoding Session.decodingEvents
  cases hx : s.stream? id with
  | none => exact Moves.refl s
  | some x =>
    dsimp only
    split
    · exact Moves.refl s
    · next hclosed =>
      have hresolve : RoutersUntouched s (s.modifyStream id (·.resolve s.plan.routes)) :=
        RoutersUntouched.modifyStream fun x => Stream.Alike.resolve x _
      have hid : ∀ y : Stream, (y.resolve s.plan.routes).id = y.id :=
        fun y => (Stream.Alike.resolve y _).id
      have halike := Stream.Alike.resolve x s.plan.routes
      refine hresolve.moves.before (decodeThrough_moves _ (stream?_modifyStream_same hid hx) ?_ ?_ ?_
        fun v hv ref hstream hslot => routed_events List.mem_cons_self hv hstream hslot)
      · rw [halike.decoders, halike.decoded]
      · have hlive : !x.isReset ∧ !x.isCompleted := by simpa [Stream.isLive] using hclosed
        rw [halike.ended]
        simpa using hlive.2
      · unfold Stream.resolve
        split
        · next h => rw [h]; rfl
        · rfl

/-! ## Ends

A stream that ends is marked as over first, and then its routers are destroyed. That order is part
of what is shown, since a router that is destroyed lets go of its connection, which it must not do
while its stream goes on. -/

theorem destroySlot_moves (s : Session σ) (x : Stream) (slot : Nat)
    (hover : ∀ y, s.stream? x.id = some y → y.isCompleted = true) :
    Moves R D [] s (s.destroySlot x slot) := by
  unfold Session.destroySlot
  split
  · exact Moves.refl s
  · exact (afterFilter_routersUntouched s _).moves
  · exact (note_routersUntouched s rfl).moves
  · exact Moves.refl s
  · exact (Move.destroyed rfl hover).moves

/-- Filters that are told that their stream is over do not change that. -/
theorem destroySlot_over {x y : Stream} {slot : Nat}
    (hover : ∀ y, s.stream? x.id = some y → y.isCompleted = true)
    (hy : (s.destroySlot x slot).stream? x.id = some y) : y.isCompleted = true := by
  have hsame : ∀ s' : Session σ, s'.streams = s.streams → s'.stream? x.id = some y →
      y.isCompleted = true := by
    intro s' hs' hy'
    unfold Session.stream? at hy'
    rw [hs'] at hy'
    exact hover y hy'
  unfold Session.destroySlot at hy
  split at hy
  · exact hover y hy
  · rw [afterFilter_eq] at hy
    exact hsame _ rfl hy
  · exact hsame _ rfl hy
  · exact hover y hy
  · obtain ⟨ops, -, g, side, notes, panic, -, hs⟩ := destroyRouter_works s (s.refTo x.id slot)
    rw [hs, stream?_of_map (f := fun x => x.recall _ g) (Stream.recall_id _ g) rfl] at hy
    obtain ⟨z, hz, rfl⟩ := Option.map_eq_some_iff.mp hy
    rw [Stream.recall_isCompleted]
    exact hover z hz

theorem destroySlots_moves (slots : List Nat) (x : Stream)
    (hover : ∀ y, s.stream? x.id = some y → y.isCompleted = true) :
    Moves R D [] s (slots.foldl (fun s i => s.destroySlot x i) s) := by
  induction slots generalizing s with
  | nil => exact Moves.refl s
  | cons slot rest ih =>
    exact (destroySlot_moves s x slot hover).before (ih fun y hy => destroySlot_over hover hy)

theorem recordEnd_routersUntouched (s : Session σ) (x : Stream) : RoutersUntouched s (s.recordEnd x) := by
  unfold Session.recordEnd
  dsimp only
  split
  · exact (measure_routersUntouched s _).trans (note_routersUntouched _ rfl)
  · exact measure_routersUntouched s _

theorem completeStream_moves (s : Session σ) (id : StreamId) :
    Moves R D [] s (s.completeStream id) := by
  unfold Session.completeStream
  split
  · exact Moves.refl s
  · next x hx =>
    split
    · exact Moves.refl s
    · obtain rfl := stream?_id hx
      dsimp only
      refine (recordEnd_routersUntouched s x).moves.before ?_
      generalize s.recordEnd x = s₁
      -- The mark comes first; what is known about the stream then changes aside.
      have hmark : s₁.modifyStream x.id (fun x =>
            { x with isCompleted := true, info := x.info.complete s₁.now, span := none }) =
          (s₁.modifyStream x.id fun x => { x with isCompleted := true }).modifyStream x.id
            fun x => { x with info := x.info.complete s₁.now, span := none } :=
        (modifyStream_modifyStream (f := fun x => { x with isCompleted := true })
          (g := fun x => { x with info := x.info.complete s₁.now, span := none }) fun _ => rfl).symm
      have hover : ∀ y, (s₁.modifyStream x.id fun x =>
            { x with isCompleted := true, info := x.info.complete s₁.now, span := none }).stream?
          x.id = some y → y.isCompleted = true := by
        intro y hy
        rw [stream?_modifyStream (f := fun x =>
          { x with isCompleted := true, info := x.info.complete s₁.now, span := none })
          fun _ => rfl] at hy
        obtain ⟨z, hz, rfl⟩ := Option.map_eq_some_iff.mp hy
        rw [if_pos (stream?_id hz)]
      refine Moves.before ?_ (destroySlots_moves _ x hover)
      rw [hmark]
      refine (Move.completed s₁ x.id).moves.before
        (RoutersUntouched.moves (RoutersUntouched.modifyStream fun x => ?_))
      exact ⟨rfl, rfl, rfl, fun _ => rfl, Or.inr rfl, rfl⟩

theorem finishStream_moves (s : Session σ) (id : StreamId) : Moves R D [] s (s.finishStream id) := by
  unfold Session.finishStream
  dsimp only
  refine (completeStream_moves s id).before ?_
  generalize s.completeStream id = s₁
  split
  · exact Moves.refl s₁
  · split
    · exact Moves.refl s₁
    · refine Moves.before ?_ (closeIfDrained_routersUntouched _).moves
      have hleft : RoutersUntouched s₁ (s₁.modifyStream id fun x => { x with inserted := false }) :=
        RoutersUntouched.modifyStream fun x => ⟨rfl, rfl, rfl, fun _ => rfl, Or.inr rfl, rfl⟩
      refine hleft.moves.before ?_
      split
      · exact RoutersUntouched.moves (RoutersUntouched.same rfl rfl rfl (.refl _) rfl rfl rfl rfl)
      · exact Moves.refl _

/-- A stream is marked as reset. -/
def flag (s : Session σ) (id : StreamId) : Session σ :=
  s.modifyStream id fun x => { x with isReset := true }

/-- A stream that is reset is marked and may be counted, and it ends if the connection is served.
One that was reset before, or is gone, is left alone. -/
theorem resetStream_eq (s : Session σ) (id : StreamId) :
    s.resetStream id = s ∨ ∃ count, s.resetStream id =
      if s.isServed then ((s.flag id).measure count).finishStream id else (s.flag id).measure count := by
  unfold Session.resetStream
  split
  · exact Or.inl rfl
  · next x _ =>
    split
    · exact Or.inl rfl
    · refine Or.inr ?_
      cases x.isCompleted with
      | true => exact ⟨fun m => m, rfl⟩
      | false => exact ⟨fun m => { m with resets := m.resets.inc }, rfl⟩

theorem aboutToReply_stream? {x : Stream} (hx : s.stream? id = some x) :
    (s.aboutToReply id).stream? id =
      some { x with info := { x.info with localReply := true } } :=
  stream?_modifyStream_same (f := fun y => { y with info := { y.info with localReply := true } })
    (fun _ => rfl) hx

/-- An answer of the proxy's own is noted and counted, and is a response from then on. Nothing comes
of it where no reply could be written, and a codec that makes none is a promise that was broken. -/
theorem localReply_eq (s : Session σ) (id : StreamId) (status : Status) (update : Change) :
    s.localReply id status update = s ∨
      s.localReply id status update = s.stop .noMessageCreator ∨
      ∃ x r, s.stream? id = some x ∧ x.isLive = true ∧
        s.localReply id status update = (s.aboutToReply id).respond id r := by
  unfold Session.localReply
  cases hx : s.stream? id with
  | none => exact Or.inl rfl
  | some x =>
    dsimp only
    split
    · exact Or.inl rfl
    · next hgo =>
      have hlive : x.isLive = true := by
        rw [Bool.not_eq_true, Bool.or_eq_false_iff] at hgo
        simpa using hgo.1
      split
      · exact Or.inr (Or.inl rfl)
      · refine Or.inr (Or.inr ⟨x, ownAnswer x status update, rfl, hlive, ?_⟩)
        unfold Session.respond
        rw [aboutToReply_stream? hx]
        dsimp only
        have hanswers : ¬(!x.isLive) = true := by simp [hlive]
        exact (if_neg hanswers).symm

theorem resetStream_moves (s : Session σ) (id : StreamId) : Moves R D [] s (s.resetStream id) := by
  rcases resetStream_eq s id with heq | ⟨count, heq⟩
  · rw [heq]
    exact Moves.refl s
  · rw [heq]
    have hflag : RoutersUntouched s (s.flag id) :=
      RoutersUntouched.modifyStream fun x => ⟨rfl, rfl, rfl, fun _ => rfl, Or.inr rfl, rfl⟩
    have hmarked := (hflag.trans (measure_routersUntouched _ count)).moves (R := R) (D := D)
    split
    · exact hmarked.before (finishStream_moves _ id)
    · exact hmarked

theorem resetAll_moves (s : Session σ) : Moves R D [] s s.resetAll :=
  Moves.foldl (fun s id => resetStream_moves s id) _ s

theorem onConnectionEvent_moves (s : Session σ) (e : ConnectionEvent) :
    Moves R D [] s (s.onConnectionEvent e) := by
  have hclosed : RoutersUntouched s { s with isClosed := true } :=
    RoutersUntouched.same rfl rfl rfl (.refl _) rfl rfl rfl rfl
  cases e with
  | remoteClose => exact hclosed.moves.before (resetAll_moves _)
  | localClose => exact hclosed.moves.before (resetAll_moves _)
  | connected => exact Moves.refl s
  | connectedZeroRtt => exact Moves.refl s

theorem closeConnection_moves (s : Session σ) (how : CloseType) :
    Moves R D [] s (s.closeConnection how) := by
  unfold Session.closeConnection
  split
  · exact Moves.refl s
  · refine Moves.before ?_ (onConnectionEvent_moves _ _)
    exact RoutersUntouched.moves (RoutersUntouched.same rfl rfl rfl (.refl _) rfl rfl rfl rfl)

/-! ## Replies

A reply is written and ends its stream; what filters do to it on the way is aside from routers. -/

theorem sendReply_moves (s : Session σ) (id : StreamId) : Moves R D [] s (s.sendReply id) := by
  unfold Session.sendReply
  split
  · exact Moves.refl s
  · split
    · exact Moves.refl s
    · split
      · exact Moves.refl s
      · refine Moves.before ?_ (finishStream_moves _ id)
        refine RoutersUntouched.moves (RoutersUntouched.trans ?_ (writeToClient_routersUntouched _ _ _))
        exact RoutersUntouched.modifyStream fun x => ⟨rfl, rfl, rfl, fun _ => rfl, Or.inr rfl, rfl⟩

theorem encodeThrough_moves (slots : List Nat) (s : Session σ) (id : StreamId) :
    Moves R D [] s (s.encodeThrough id slots) :=
  encodeThrough_invariant (P := RoutersUntouched s) (Q := Moves R D [] s)
    (fun _ h => h.trans (RoutersUntouched.modifyStream fun _ =>
      ⟨rfl, rfl, rfl, fun _ => rfl, Or.inr rfl, rfl⟩))
    (fun _ x r slot h _ _ => h.trans (encodeOne_routersUntouched _ x r slot)) (fun _ h => h.moves)
    (fun s' h => h.moves.before (sendReply_moves s' id)) slots s (.refl s)

theorem continueEncoding_moves (s : Session σ) (id : StreamId) :
    Moves R D [] s (s.continueEncoding id) := by
  unfold Session.continueEncoding
  split
  · exact Moves.refl s
  · split
    · exact Moves.refl s
    · exact encodeThrough_moves _ s id

theorem respond_moves (s : Session σ) (id : StreamId) (r : Response) :
    Moves R D [] s (s.respond id r) := by
  unfold Session.respond
  split
  · exact Moves.refl s
  · split
    · exact Moves.refl s
    · refine Moves.before (RoutersUntouched.moves (RoutersUntouched.modifyStream fun x => ?_))
        (continueEncoding_moves _ id)
      exact ⟨rfl, rfl, rfl, fun _ => rfl, Or.inr rfl, rfl⟩

theorem localReply_moves (s : Session σ) (id : StreamId) (status : Status)
    (update : Change) : Moves R D [] s (s.localReply id status update) := by
  rcases localReply_eq s id status update with heq | heq | ⟨-, r, -, -, heq⟩
  · rw [heq]
    exact Moves.refl s
  · rw [heq]
    exact (stop_routersUntouched s _).moves
  · rw [heq]
    refine Moves.before (RoutersUntouched.moves ?_) (respond_moves _ id r)
    refine (measure_routersUntouched s _).trans (RoutersUntouched.modifyStream fun x => ?_)
    exact ⟨rfl, rfl, rfl, fun _ => rfl, Or.inr rfl, rfl⟩

/-! ## Beginnings

A stream begins with routers that have nothing in mind, and its request sets out at once. -/

theorem start_router? {x : Stream} {parts : List Part} {start : StreamId} {clock : Clock}
    (hx : x.slots = parts.map (Slot.start start clock)) (slot : Nat) :
    x.router? slot = if x.hasRouter slot then some {} else none := by
  unfold Stream.router? Stream.hasRouter
  rw [hx, List.getElem?_map]
  cases parts[slot]? with
  | none => rfl
  | some part =>
    obtain ⟨side, kind⟩ := part
    cases kind with
    | plain b => rfl
    | accessLog sink => rfl
    | router generation => rfl

/-- A router that begins has nothing yet. -/
theorem start_blank {x : Stream} {parts : List Part} {start : StreamId} {clock : Clock} {slot : Nat}
    {r : Router} (hx : x.slots = parts.map (Slot.start start clock)) (hr : x.router? slot = some r) :
    r = {} := by
  rw [start_router? hx] at hr
  split at hr
  · exact (Option.some.inj hr).symm
  · cases hr

theorem start_parts {x : Stream} {parts : List Part} {start : StreamId} {clock : Clock}
    (hx : x.slots = parts.map (Slot.start start clock)) : x.slots.map (·.part) = parts := by
  rw [hx, List.map_map]
  exact List.map_id parts

theorem insertStream_begins {x : Stream} {log : List LogEvent} (parts : List Part) (clock : Clock)
    (hlog : log.filterMap LogEvent.poolNote? = s.poolNotes)
    (hparts : parts.length ≤ s.plan.parts.length) (hid : x.id = s.nextId) (hdecoded : x.decoded = 0)
    (hlive : x.isCompleted = false) (hx : x.slots = parts.map (Slot.start s.nextId clock)) :
    Begins s x ({ s with nextId := s.nextId + 1, log }.insertStream x) where
  number := rfl
  source := rfl
  plan := rfl
  side := .refl _
  nextId := rfl
  streams := rfl
  posted := rfl
  notes := hlog
  id := hid
  decoded := hdecoded
  live := hlive
  width := by rw [hx, List.length_map]; exact hparts
  blank := fun slot r hr => start_blank hx hr
  whole := by
    intro slot
    rw [start_router? hx]
    cases x.hasRouter slot with
    | true => rfl
    | false => rfl

theorem openSpan_eq (s : Session σ) (request : Request) :
    ∃ (info : StreamInfo) (span : Option (Config.Tracing × Bool)) (log : List LogEvent),
      log.filterMap LogEvent.poolNote? = s.poolNotes ∧ s.openSpan request = (info, span, { s with log }) := by
  unfold Session.openSpan
  dsimp only
  split
  · exact ⟨_, _, s.log, rfl, rfl⟩
  · exact ⟨_, _, _, List.filterMap_cons_none rfl, rfl⟩

theorem beginStream_moves (s : Session σ) (request : Request) :
    Moves (Routed ((s.beginEvents request).map (s.nextId, ·))) D [] s (s.beginStream request) := by
  unfold Session.beginStream Session.beginEvents
  dsimp only
  split
  · exact (stop_routersUntouched s _).moves
  · obtain ⟨info, span, log, hlog, hopen⟩ := openSpan_eq { s with nextId := s.nextId + 1 } request
    rw [hopen]
    dsimp only
    split
    · have hbegins := fun x : Stream => insertStream_begins (s := s) (x := x) [] s.clock hlog (Nat.zero_le _)
      exact (Move.began (hbegins _ rfl rfl rfl rfl)).moves.before (stop_routersUntouched _ _).moves
    · have hbegins := fun x : Stream =>
        insertStream_begins (s := s) (x := x) s.plan.parts s.clock hlog (Nat.le_refl _)
      refine (Move.began (hbegins _ rfl rfl rfl rfl)).moves.before
        ((continueDecoding_moves _ _).mono fun _ _ => Routed.mono ?_)
      rw [List.map_cons]
      exact List.subset_cons_self _ _

theorem onWireEvent_moves (s : Session σ) (e : Wire.Event) :
    Moves (Routed (s.wireActs [e])) D [] s (s.onWireEvent e) := by
  unfold Session.onWireEvent
  split
  · exact Moves.refl s
  · next hsound =>
    cases e with
    | request r =>
      refine (beginStream_moves s r).mono fun _ _ => Routed.mono ?_
      simp [Session.wireActs, hsound]
    | failure =>
      refine (measure_routersUntouched s fun m =>
        { m with decodingErrors := m.decodingErrors.inc }).moves.before (Moves.before (resetAll_moves _) ?_)
      exact RoutersUntouched.moves (RoutersUntouched.same rfl rfl rfl (.refl _) rfl rfl rfl rfl)

theorem onWireEvents_moves (events : List Wire.Event) (s : Session σ) :
    Moves (Routed (s.wireActs events)) D [] s (events.foldl onWireEvent s) := by
  induction events generalizing s with
  | nil => exact Moves.refl s
  | cons e es ih =>
    have hall : s.wireActs (e :: es) = s.wireActs [e] ++ (s.onWireEvent e).wireActs es := by
      simp [Session.wireActs]
    rw [hall]
    exact Moves.before
      ((onWireEvent_moves s e).mono fun _ _ => Routed.mono (List.subset_append_left _ _))
      ((ih (s.onWireEvent e)).mono fun _ _ => Routed.mono (List.subset_append_right _ _))

theorem onClientData_moves (s : Session σ) (data : Bytes) (hserved : s.isServed = true) :
    Moves (Routed (s.begunIn (.data data))) D [] s (s.onClientData data) := by
  unfold Session.onClientData Session.begunIn
  dsimp only
  cases hclosed : s.isClosed with
  | true => exact RoutersUntouched.moves (RoutersUntouched.same rfl rfl rfl (.refl _) rfl rfl rfl rfl)
  | false =>
    rw [hserved]
    refine Moves.before ?_ (onWireEvents_moves _ _)
    exact RoutersUntouched.moves (RoutersUntouched.same rfl rfl rfl (.refl _) rfl rfl rfl rfl)

/-! ## Everything that happens

All operations of a session as moves. Some of them drop streams, which the parameter `D` tells apart
from the others. -/

theorem dropUnneeded_moves (s : Session σ) (id : StreamId) : Moves R True [] s (s.dropUnneeded id) := by
  unfold Session.dropUnneeded
  split
  · exact Moves.refl s
  · exact (Move.dropped s id trivial).moves

theorem clearDeferred_moves (s : Session σ) : Moves R True [] s s.clearDeferred := by
  refine Moves.before ?_ (Moves.foldl (fun s id => dropUnneeded_moves s id) _ _)
  exact RoutersUntouched.moves (RoutersUntouched.same rfl rfl rfl (.refl _) rfl rfl rfl rfl)

theorem dismiss_moves (s : Session σ) : Moves R True [] s s.dismiss := by
  unfold Session.dismiss
  split
  · exact Moves.refl s
  · refine Moves.before ?_ (Moves.foldl (fun s id => dropUnneeded_moves s id) _ _)
    exact RoutersUntouched.moves (RoutersUntouched.same rfl rfl rfl (.refl _) rfl rfl rfl rfl)

theorem perform_moves (s : Session σ) (id : StreamId) (op : StreamOp) :
    Moves (Routed ((s.eventsOf id op).map (id, ·))) D [] s (s.perform id op) := by
  cases op with
  | continueDecoding => exact continueDecoding_moves s id
  | continueEncoding => exact continueEncoding_moves s id
  | localReply status update => exact localReply_moves s id status update
  | respond r => exact respond_moves s id r
  | complete =>
    show Moves _ _ [] s (if _ then _ else _)
    split
    · exact finishStream_moves s id
    · exact Moves.refl s
  | reset => exact resetStream_moves s id
  | resetConnection =>
    show Moves _ _ [] s (if _ then _ else _)
    split
    · exact closeConnection_moves s .noFlush
    · exact Moves.refl s

theorem runTask_moves {t : Task} {rest : List Task} (h : s.queue.posted = t :: rest) :
    Moves (Routed ((s.leave rest).actsOf t)) D [(s.leave rest, t)] s ((s.leave rest).runTask t) := by
  cases t with
  | stream id op =>
    exact (Move.popped h (fun _ _ => nofun) fun _ => nofun).moves.behind (perform_moves _ id op)
  | router ref op =>
    cases op with
    | write => exact (Move.wrote h).moves
    | ask op =>
      exact (Move.popped h (fun _ _ => nofun) fun _ => nofun).moves.behind
        (perform_moves _ ref.stream op)
    | deliver d => exact (Move.delivered h).moves
  | closed =>
    refine (Move.popped h (fun _ _ => nofun) fun _ => nofun).moves.behind ?_
    show Moves _ _ [] _ (if _ then _ else _)
    split
    · exact onConnectionEvent_moves _ _
    · exact Moves.refl _

/-- What happens to messages while tasks are taken up. -/
def actsAt (moments : List (Session σ × Task)) : List Act := moments.flatMap fun m => m.1.actsOf m.2

theorem runUntilIdle_moves (s : Session σ) (fuel : Nat) :
    Moves (Routed (actsAt (taken fuel s))) True (taken fuel s) s (runUntilIdle fuel s) := by
  have h := runUntilIdle_history (P := fun h s' => Moves (Routed (actsAt h)) True h s s') ?_ ?_ fuel [] s
    (Moves.refl s)
  · exact h
  · intro h s' t rest hq hm
    unfold actsAt at hm ⊢
    rw [List.flatMap_append, List.flatMap_singleton]
    exact Moves.trans (hm.mono fun _ _ => Routed.mono (List.subset_append_left _ _))
      ((runTask_moves hq).mono fun _ _ => Routed.mono (List.subset_append_right _ _))
  · intro h s' hm
    exact hm.behind (clearDeferred_moves s')

/-- What drops no streams is made of moves, but for what pools tell routers. No stream is dropped by
it, whatever is behind the reason for a reply, a reset or the end of the connection. -/
theorem step_moves_of_drops (s : Session σ) {op : SessionOp} (hop : ∀ ref d, op ≠ .deliver ref d)
    (hdrops : op.drops = false) :
    Moves (Routed (s.actsIn op)) D (s.takenIn op) s (s.step op) := by
  -- Whatever is only done for a connection that is served.
  have hserved : ∀ {R : RouterRef → Request → Prop} {s' : Session σ}, Moves R D [] s s' →
      Moves R D [] s (if s.isServed then s' else s) := by
    intro R s' h
    split
    · exact h
    · exact Moves.refl s
  cases op with
  | data octets =>
    show Moves _ _ [] s (if _ then _ else _)
    split
    · next h =>
      refine (onClientData_moves s octets h).mono fun _ _ => Routed.mono ?_
      exact List.subset_append_left _ _
    · exact RoutersUntouched.moves (RoutersUntouched.same rfl rfl rfl (.refl _) rfl rfl rfl rfl)
  | request r =>
    show Moves _ _ [] s (if _ then _ else _)
    split
    · next h =>
      refine (beginStream_moves s r).mono fun _ _ => Routed.mono ?_
      rw [Session.actsIn, Session.begunIn, if_pos h]
      exact List.subset_append_left _ _
    · exact Moves.refl s
  | event e => exact hserved (onConnectionEvent_moves s e)
  | close how => exact hserved (closeConnection_moves s how)
  | resetAll => exact hserved (resetAll_moves s)
  | drainCheck => exact hserved (closeIfDrained_routersUntouched s).moves
  | stream id op =>
    refine (Move.noted s id op).moves.behind ((perform_moves s id op).mono fun _ _ => Routed.mono ?_)
    show _ ⊆ actsAt [(s, Task.stream id op)]
    rw [actsAt, List.flatMap_singleton]
    exact List.Subset.refl _
  | ask id op => exact RoutersUntouched.moves (RoutersUntouched.post rfl)
  | deliver ref d => exact absurd rfl (hop ref d)
  | hold id =>
    show Moves _ _ [] s (if _ then _ else _)
    split
    · exact RoutersUntouched.moves (RoutersUntouched.same rfl rfl rfl (.refl _) rfl rfl rfl rfl)
    · exact Moves.refl s
  | closeQuietly | drain | advance =>
    exact RoutersUntouched.moves (RoutersUntouched.same rfl rfl rfl (.refl _) rfl rfl rfl rfl)
  | run | clearDeferred | release | dismiss => cases hdrops

/-- Everything that happens to a session is made of moves, but for what pools tell its routers. -/
theorem step_moves (s : Session σ) {op : SessionOp} (hop : ∀ ref d, op ≠ .deliver ref d) :
    Moves (Routed (s.actsIn op)) True (s.takenIn op) s (s.step op) := by
  cases op with
  | release id =>
    refine Moves.before ?_ (dropUnneeded_moves _ id)
    exact RoutersUntouched.moves (RoutersUntouched.same rfl rfl rfl (.refl _) rfl rfl rfl rfl)
  | run => exact runUntilIdle_moves s s.effort
  | clearDeferred => exact clearDeferred_moves s
  | dismiss => exact dismiss_moves s
  | data | request | event | close | closeQuietly | resetAll | drain | drainCheck | stream | ask | deliver
  | hold | advance => exact step_moves_of_drops s hop rfl

end

end Session

end RpcProxy

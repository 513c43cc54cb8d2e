import RpcProxy.Session.Run

/-!
# What a router leaves alone

Whatever a router does to its session, it does in one place: `Touches ref ops s s'` says that `s'`
is `s` but for what the router `ref` keeps in mind, the side of the hosts, what pools have logged,
the promise that was broken, and the work `ops` that the router has put behind all other work.
Everything else is the same, and that is said by one equation, so a fact about sessions that does
not look at those five things carries over by rewriting with it. A list of fields that stay the same
would have to grow with every field that a session gets, and would still not say that what the queue
held before is there in its old order. A router that is not there has nothing in mind that could
change.

`ops` is part of the relation since tasks are how a router asks for anything at all. It has no other
way to a stream or to the client's connection, so once `ops` is known, the rest of the session is
known to be the same.

Every function that works on behalf of a router has its lemma here. Streams, the client's connection
and the counters of the listener are not touched by any of them.
-/

set_option autoImplicit false

namespace RpcProxy

theorem Asides.mem_tasks {a : Asides} {t : Task} :
    t ∈ a.tasks ↔ ∃ id op, (id, op) ∈ a.asks ∧ t = .stream id op := by
  simp only [Asides.tasks, List.mem_map, Prod.exists, eq_comm]

/-- A stream with what one of its filters keeps in mind changed. -/
def Stream.recall (ref : RouterRef) (g : Memory → Memory) (x : Stream) : Stream :=
  if x.id = ref.stream then
    { x with slots := x.slots.modify ref.slot fun y => { y with memory := g y.memory } }
  else x

theorem Stream.recall_same (ref : RouterRef) (x : Stream) : x.recall ref (fun m => m) = x := by
  unfold Stream.recall
  split
  · have h : x.slots.modify ref.slot (fun y => { y with memory := y.memory }) = x.slots :=
      List.modify_id _ _
    rw [h]
  · rfl

theorem Stream.recall_recall (ref : RouterRef) (g₁ g₂ : Memory → Memory) (x : Stream) :
    (x.recall ref g₁).recall ref g₂ = x.recall ref (g₂ ∘ g₁) := by
  unfold Stream.recall
  by_cases h : x.id = ref.stream
  · simp only [h, if_true, List.modify_modify_eq]
    rfl
  · simp only [h, if_false]

/-- A router changes nothing about a stream but what it keeps in mind. -/
theorem Stream.recall_eq (ref : RouterRef) (g : Memory → Memory) (x : Stream) :
    x.recall ref g = { x with slots := (x.recall ref g).slots } := by
  unfold Stream.recall
  split
  · rfl
  · rfl

theorem Stream.recall_id (ref : RouterRef) (g : Memory → Memory) (x : Stream) :
    (x.recall ref g).id = x.id := by
  rw [Stream.recall_eq]

theorem Stream.recall_isCompleted (ref : RouterRef) (g : Memory → Memory) (x : Stream) :
    (x.recall ref g).isCompleted = x.isCompleted := by
  rw [Stream.recall_eq]

theorem Stream.recall_decoded (ref : RouterRef) (g : Memory → Memory) (x : Stream) :
    (x.recall ref g).decoded = x.decoded := by
  rw [Stream.recall_eq]

theorem Stream.recall_route (ref : RouterRef) (g : Memory → Memory) (x : Stream) :
    (x.recall ref g).route = x.route := by
  rw [Stream.recall_eq]

theorem Stream.recall_parts (ref : RouterRef) (g : Memory → Memory) (x : Stream) :
    (x.recall ref g).slots.map (·.part) = x.slots.map (·.part) := by
  unfold Stream.recall
  split
  · refine List.ext_getElem? fun i => ?_
    simp only [List.getElem?_map, List.getElem?_modify]
    cases x.slots[i]? with
    | none => rfl
    | some y =>
      by_cases hi : ref.slot = i
      · simp [hi]
      · simp [hi]
  · rfl

/-- Other filters keep in mind what they did. -/
theorem Stream.recall_router?_of_ne {ref : RouterRef} {x : Stream} {slot : Nat}
    (g : Memory → Memory) (h : x.id ≠ ref.stream ∨ slot ≠ ref.slot) :
    (x.recall ref g).router? slot = x.router? slot := by
  unfold Stream.recall Stream.router?
  by_cases hx : x.id = ref.stream
  · have hs : ref.slot ≠ slot := fun he => by
      rcases h with h | h
      · exact h hx
      · exact h he.symm
    simp only [hx, if_true, List.getElem?_modify_ne _ _ hs]
  · simp only [hx, if_false]

/-- What an effect leaves for later: the router writes the call, or asks something of its stream. -/
def Effect.later? : Effect → Option RouterOp
  | .resume => some .write
  | .localReply exception close =>
    some (.ask (.localReply { code := .internal, message := exception.message }
      (if close then [closingProperty] else .nothing)))
  | .resetConnection => some (.ask .resetConnection)
  | .resetStream => some (.ask .reset)
  | _ => none

/-- What a router has in mind behind an effect of its exchange: the octets of the call that wait for
a connection. -/
def Router.note (r : Router) : Effect → Router
  | .startCall _ => { r with pendingWrite := [] }
  | .beginCall envelope =>
    { r with pendingWrite := r.pendingWrite ++ (r.line.map (·.encode envelope.sequence)).getD [] }
  | _ => r

theorem Router.foldl_note (es : List Effect) (r : Router) :
    ∃ pendingWrite, es.foldl Router.note r = { r with pendingWrite } := by
  induction es generalizing r with
  | nil => exact ⟨r.pendingWrite, rfl⟩
  | cons e rest ih =>
    obtain ⟨pendingWrite, h⟩ := ih (r.note e)
    rw [List.foldl_cons, h]
    cases e with
    | startCall | beginCall => exact ⟨pendingWrite, rfl⟩
    | report | hold | unhold | link | count | startResponse | resume | localReply | resetConnection
    | resetStream | addSize => exact ⟨pendingWrite, rfl⟩

theorem Router.foldl_note_line (es : List Effect) (r : Router) :
    (es.foldl Router.note r).line = r.line := by
  obtain ⟨pendingWrite, h⟩ := Router.foldl_note es r
  rw [h]

theorem Router.foldl_note_exchange (es : List Effect) (r : Router) :
    (es.foldl Router.note r).exchange = r.exchange := by
  obtain ⟨pendingWrite, h⟩ := Router.foldl_note es r
  rw [h]

theorem Router.foldl_note_decoder (es : List Effect) (r : Router) :
    (es.foldl Router.note r).decoder = r.decoder := by
  obtain ⟨pendingWrite, h⟩ := Router.foldl_note es r
  rw [h]

namespace Session

variable {σ : Type}

/-- `s'` is `s` after the router `ref` did something that put `ops` behind all other work. What
changes is given by witnesses and not by projections of `s'`, so that two such steps can be composed
by composing their witnesses. -/
def Touches (ref : RouterRef) (ops : List RouterOp) (s s' : Session σ) : Prop :=
  ∃ (g : Memory → Memory) (side : HostSide σ) (notes : List PoolNote) (panic : Option Panic),
    (s.router? ref = none → ∀ m, g m = m) ∧
    s' = { s with
      streams := s.streams.map (·.recall ref g)
      side
      log := notes.map .pool ++ s.log
      queue := { s.queue with posted := s.queue.posted ++ ops.map (.router ref) }
      panic := panic.or s.panic }

theorem foldl_note {α : Type} (f : α → LogEvent) (l : List α) (s : Session σ) :
    l.foldl (fun s n => s.note (f n)) s = { s with log := (l.map f).reverse ++ s.log } := by
  induction l generalizing s with
  | nil => rfl
  | cons a rest ih =>
    rw [List.foldl_cons, ih]
    simp [Session.note]

theorem foldl_post (ts : List Task) (s : Session σ) :
    ts.foldl post s =
      { s with queue := { s.queue with posted := s.queue.posted ++ ts } } := by
  induction ts generalizing s with
  | nil => simp
  | cons t ts ih =>
    rw [List.foldl_cons, ih]
    simp [Session.post, WorkQueue.post]

/-- What a filter does besides changes nothing but the log and the tasks that wait. -/
theorem afterFilter_eq (s : Session σ) (a : Asides) :
    s.afterFilter a = { s with
      log := (a.notes.map .note).reverse ++ s.log
      queue := { s.queue with posted := s.queue.posted ++ a.tasks } } := by
  unfold Session.afterFilter
  rw [foldl_note, foldl_post]

theorem router?_congr {s s' : Session σ} (hstreams : s'.streams = s.streams)
    (hnumber : s'.number = s.number) (ref : RouterRef) : s'.router? ref = s.router? ref := by
  unfold Session.router? Session.stream?
  rw [hstreams, hnumber]

section

variable {ref : RouterRef} {ops ops₁ ops₂ : List RouterOp} {s s₁ s₂ s₃ : Session σ}

theorem recall_streams_same {g : Memory → Memory} (hg : ∀ m, g m = m) (ref : RouterRef)
    (xs : List Stream) : xs.map (·.recall ref g) = xs := by
  obtain rfl : g = fun m => m := funext hg
  simp [Stream.recall_same]

theorem Touches.refl (ref : RouterRef) (s : Session σ) : Touches ref [] s s := by
  refine ⟨fun m => m, s.side, [], none, fun _ _ => rfl, ?_⟩
  simp [Stream.recall_same]

theorem Touches.trans (h₁ : Touches ref ops₁ s₁ s₂) (h₂ : Touches ref ops₂ s₂ s₃) :
    Touches ref (ops₁ ++ ops₂) s₁ s₃ := by
  obtain ⟨g₁, side₁, notes₁, panic₁, hg₁, rfl⟩ := h₁
  obtain ⟨g₂, side₂, notes₂, panic₂, hg₂, rfl⟩ := h₂
  refine ⟨g₂ ∘ g₁, side₂, notes₂ ++ notes₁, panic₂.or panic₁, fun hnone m => ?_, ?_⟩
  · have hsame := recall_streams_same (hg₁ hnone) ref s₁.streams
    rw [Function.comp, hg₁ hnone m]
    refine hg₂ (Eq.trans ?_ hnone) m
    apply router?_congr
    · exact hsame
    · rfl
  · simp [Stream.recall_recall, Function.comp_def, Option.or_assoc]

/-- A step that posts nothing, before another one. -/
theorem Touches.before (h₁ : Touches ref [] s₁ s₂) (h₂ : Touches ref ops s₂ s₃) :
    Touches ref ops s₁ s₃ := h₁.trans h₂

theorem Touches.withSide (side : HostSide σ) : Touches ref [] s { s with side } := by
  refine ⟨fun m => m, side, [], none, fun _ _ => rfl, ?_⟩
  simp [Stream.recall_same]

theorem Touches.stop (p : Panic) : Touches ref [] s (s.stop p) := by
  refine ⟨fun m => m, s.side, [], some p, fun _ _ => rfl, ?_⟩
  simp [Stream.recall_same, Session.stop]

theorem Touches.post (op : RouterOp) : Touches ref [op] s (s.post (.router ref op)) := by
  refine ⟨fun m => m, s.side, [], none, fun _ _ => rfl, ?_⟩
  simp [Stream.recall_same, Session.post, WorkQueue.post]

theorem Touches.remember {r : Router} (hr : s.router? ref = some r) (m : Memory) :
    Touches ref [] s (s.modifyStream ref.stream (·.remember ref.slot m)) := by
  refine ⟨fun _ => m, s.side, [], none, fun hnone => ?_, ?_⟩
  · rw [hr] at hnone
    cases hnone
  · simp only [List.map_nil, List.append_nil, List.nil_append, Option.none_or]
    rfl

theorem Touches.setRouter {r : Router} (hr : s.router? ref = some r) (r' : Router) :
    Touches ref [] s (s.setRouter ref r') := Touches.remember hr (.router r')

theorem Touches.modifyRouter (f : Router → Router) : Touches ref [] s (s.modifyRouter ref f) := by
  unfold Session.modifyRouter
  split
  · next hr => exact Touches.setRouter hr _
  · exact Touches.refl ref s

theorem Touches.count (e : RouterEvent) : Touches ref [] s (s.count e) := Touches.withSide _

end

/-! ## Effects -/

/-- The host side and the records behind an effect of a router, before the effect comes to the
session itself. -/
def applied (ref : RouterRef) (s : Session σ) (e : Effect) : Session σ :=
  { s with
    side := (s.side.apply s.source ref s.now e).2
    log := ((s.side.apply s.source ref s.now e).1.map LogEvent.pool).reverse ++ s.log }

theorem applied_router? (ref : RouterRef) (s : Session σ) (e : Effect) (other : RouterRef) :
    (s.applied ref e).router? other = s.router? other := router?_congr rfl rfl other

/-- An effect first comes to the host side, and then to its router or to the queue. -/
theorem effect_eq (ref : RouterRef) (s : Session σ) (e : Effect) :
    s.effect ref e = match e with
      | .startCall _ => (s.applied ref e).modifyRouter ref fun r => r.note e
      | .beginCall _ => (s.applied ref e).modifyRouter ref fun r => r.note e
      | .addSize n => (s.applied ref e).count
        (.requestSize ((((s.applied ref e).router? ref).map (·.cluster)).getD "") n)
      | e => (e.later?.map (.router ref)).elim (s.applied ref e) (s.applied ref e).post := by
  unfold Session.effect
  dsimp only
  rw [foldl_note]
  cases e <;> rfl

theorem effect_touches (ref : RouterRef) (s : Session σ) (e : Effect) :
    Touches ref e.later?.toList s (s.effect ref e) := by
  rw [effect_eq]
  have hbase : Touches ref [] s (s.applied ref e) :=
    ⟨fun m => m, (s.applied ref e).side, (s.side.apply s.source ref s.now e).1.reverse, none,
      fun _ _ => rfl, by simp [applied, Stream.recall_same]⟩
  cases e with
  | startCall p => exact hbase.before (Touches.modifyRouter _)
  | beginCall envelope => exact hbase.before (Touches.modifyRouter _)
  | resume => exact hbase.before (Touches.post _)
  | localReply exception close => exact hbase.before (Touches.post _)
  | resetConnection => exact hbase.before (Touches.post _)
  | resetStream => exact hbase.before (Touches.post _)
  | addSize n => exact hbase.before (Touches.count _)
  | report | hold | unhold | link | count | startResponse => exact hbase

theorem effects_touches (ref : RouterRef) (es : List Effect) (s : Session σ) :
    Touches ref (es.filterMap Effect.later?) s (es.foldl (effect ref) s) := by
  induction es generalizing s with
  | nil => exact Touches.refl ref s
  | cons e rest ih =>
    have h := (effect_touches ref s e).trans (ih (s.effect ref e))
    rw [List.foldl_cons, List.filterMap_cons]
    cases he : e.later? with
    | none => simpa [he] using h
    | some op => simpa [he] using h

theorem takeStep_touches (s : Session σ) (ref : RouterRef) (t : Exchange.Step) :
    Touches ref (t.effects.filterMap Effect.later?) s (s.takeStep ref t) :=
  (Touches.modifyRouter _).before (effects_touches ref t.effects _)

theorem giveBack_touches (s : Session σ) (ref : RouterRef) (link : LinkId) :
    Touches ref [] s (s.giveBack ref link) := effect_touches ref s _

/-! ## What a router has in mind afterwards -/

section

variable {ref : RouterRef} {s s' : Session σ} {r : Router}

theorem router?_setRouter (h : s.router? ref = some r) (r' : Router) :
    (s.setRouter ref r').router? ref = some r' := by
  unfold Session.router? at h ⊢
  split at h
  · next hn =>
    obtain ⟨x, hx, hr⟩ := Option.bind_eq_some_iff.mp h
    have hid : x.id = ref.stream := by
      have hp := List.find?_some hx
      simpa using hp
    -- The stream is still found by its number, which is not changed.
    have hfound : (s.setRouter ref r').stream? ref.stream =
        some (x.remember ref.slot (.router r')) := by
      unfold Session.setRouter Session.modifyStream Session.stream?
      rw [List.find?_map]
      have hcomp : ((fun y : Stream => y.id == ref.stream) ∘ fun y : Stream =>
          if y.id = ref.stream then y.remember ref.slot (.router r') else y) =
          fun y : Stream => y.id == ref.stream := by
        funext y
        simp only [Function.comp]
        split
        · rfl
        · rfl
      rw [hcomp]
      unfold Session.stream? at hx
      rw [hx, Option.map_some, if_pos hid]
    have hnumber : ref.session = (s.setRouter ref r').number := hn
    rw [if_pos hnumber, hfound]
    show (x.remember ref.slot (.router r')).router? ref.slot = some r'
    unfold Stream.router? at hr
    unfold Stream.router? Stream.remember
    rw [List.getElem?_modify_eq]
    cases hy : x.slots[ref.slot]? with
    | none =>
      rw [hy] at hr
      cases hr
    | some y => rfl
  · cases h

theorem router?_modifyRouter (h : s.router? ref = some r) (f : Router → Router) :
    (s.modifyRouter ref f).router? ref = some (f r) := by
  unfold Session.modifyRouter
  rw [h]
  exact router?_setRouter h (f r)

theorem modifyRouter_of_none (h : s.router? ref = none) (f : Router → Router) :
    s.modifyRouter ref f = s := by
  unfold Session.modifyRouter
  rw [h]

theorem modifyRouter_router? (s : Session σ) (ref : RouterRef) (f : Router → Router) :
    (s.modifyRouter ref f).router? ref = (s.router? ref).map f := by
  cases h : s.router? ref with
  | none => rw [modifyRouter_of_none h, h, Option.map_none]
  | some r => rw [router?_modifyRouter h, Option.map_some]

/-- An effect changes what its router has in mind, if the router is there. -/
theorem effect_router? (ref : RouterRef) (s : Session σ) (e : Effect) :
    (s.effect ref e).router? ref = (s.router? ref).map (·.note e) := by
  rw [effect_eq, ← applied_router? ref s e]
  cases e with
  | startCall | beginCall => exact modifyRouter_router? _ ref _
  | resume | localReply | resetConnection | resetStream | addSize =>
    exact (router?_congr rfl rfl ref).trans Option.map_id'.symm
  | report | hold | unhold | link | count | startResponse => exact Option.map_id'.symm

theorem effects_router? (ref : RouterRef) (es : List Effect) (s : Session σ) :
    (es.foldl (effect ref) s).router? ref = (s.router? ref).map (es.foldl Router.note) := by
  induction es generalizing s with
  | nil => exact Option.map_id'.symm
  | cons e rest ih =>
    rw [List.foldl_cons, ih, effect_router?, Option.map_map]
    rfl

/-- No effect brings a router back that is gone. -/
theorem effects_router?_of_none (es : List Effect) (h : s.router? ref = none) :
    (es.foldl (effect ref) s).router? ref = none := by
  rw [effects_router?, h, Option.map_none]

theorem effect_router?_eq (h : s.router? ref = some r) (e : Effect) :
    (s.effect ref e).router? ref = some (r.note e) := by
  rw [effect_router?, h, Option.map_some]

theorem takeStep_router?_eq (h : s.router? ref = some r) (t : Exchange.Step) :
    (s.takeStep ref t).router? ref =
      some (t.effects.foldl Router.note { r with exchange := some t.exchange }) := by
  rw [Session.takeStep, effects_router?, router?_modifyRouter h, Option.map_some]

/-- A step of an exchange leaves the decoder of its router alone. -/
theorem takeStep_router? (h : s.router? ref = some r) (t : Exchange.Step) :
    ∃ r', (s.takeStep ref t).router? ref = some r' ∧ r'.exchange = some t.exchange ∧
      r'.decoder = r.decoder :=
  ⟨_, takeStep_router?_eq h t, Router.foldl_note_exchange _ _, Router.foldl_note_decoder _ _⟩

end

/-! ## What routers do -/

end Session

/-- What a router puts behind other work is its own: it writes, or it asks. What pools tell it is
never among it. -/
def RouterOp.isOwn : RouterOp → Prop
  | .write | .ask _ => True
  | .deliver _ => False

theorem Effect.isOwn_of_later? {e : Effect} {op : RouterOp} (h : e.later? = some op) :
    op.isOwn := by
  cases e <;> simp only [Effect.later?, Option.some.injEq, reduceCtorEq] at h <;> subst h <;>
    exact trivial

theorem Effect.isOwn_of_mem_later {es : List Effect} {op : RouterOp}
    (h : op ∈ es.filterMap Effect.later?) : op.isOwn := by
  obtain ⟨e, -, he⟩ := List.mem_filterMap.mp h
  exact Effect.isOwn_of_later? he

namespace Session

variable {σ : Type}

/-- `s'` is `s` after the router `ref` was at work, whatever it has left to do. This is all that
most invariants of a session need to know of a router. -/
def Works (ref : RouterRef) (s s' : Session σ) : Prop :=
  ∃ ops, (∀ op ∈ ops, op.isOwn) ∧ Touches ref ops s s'

section

variable {ref : RouterRef} {s s₁ s₂ s₃ : Session σ}

theorem Touches.works {op : RouterOp} (h : Touches ref [op] s₁ s₂) (hop : op.isOwn) :
    Works ref s₁ s₂ := ⟨[op], by simpa using hop, h⟩

theorem Touches.worksQuietly (h : Touches ref [] s₁ s₂) : Works ref s₁ s₂ := ⟨[], by simp, h⟩

theorem Works.refl (ref : RouterRef) (s : Session σ) : Works ref s s :=
  (Touches.refl ref s).worksQuietly

theorem Works.trans (h₁ : Works ref s₁ s₂) (h₂ : Works ref s₂ s₃) : Works ref s₁ s₃ := by
  obtain ⟨ops₁, own₁, t₁⟩ := h₁
  obtain ⟨ops₂, own₂, t₂⟩ := h₂
  refine ⟨ops₁ ++ ops₂, fun op hop => ?_, t₁.trans t₂⟩
  rcases List.mem_append.mp hop with h | h
  · exact own₁ op h
  · exact own₂ op h

theorem takeStep_works (s : Session σ) (ref : RouterRef) (t : Exchange.Step) :
    Works ref s (s.takeStep ref t) :=
  ⟨_, fun _ => Effect.isOwn_of_mem_later, takeStep_touches s ref t⟩

theorem effect_works (s : Session σ) (ref : RouterRef) (e : Effect) :
    Works ref s (s.effect ref e) := by
  refine ⟨_, fun op hop => ?_, effect_touches ref s e⟩
  exact Effect.isOwn_of_later? (by simpa using hop)

theorem giveBack_works (s : Session σ) (ref : RouterRef) (link : LinkId) :
    Works ref s (s.giveBack ref link) := (giveBack_touches s ref link).worksQuietly

theorem askBy_works (s : Session σ) (ref : RouterRef) (op : StreamOp) :
    Works ref s (s.askBy ref op) := (Touches.post _).works trivial

theorem writeCall_works (s : Session σ) (ref : RouterRef) : Works ref s (s.writeCall ref) := by
  unfold Session.writeCall
  split
  · exact Works.refl ref s
  · next r hr =>
    split
    · exact Works.refl ref s
    · split
      · exact Works.refl ref s
      · dsimp only
        refine Works.trans ?_ (Touches.modifyRouter _).worksQuietly
        refine Works.trans ?_ (effect_works _ ref _)
        exact (Touches.setRouter hr _).worksQuietly.trans (takeStep_works _ ref _)

theorem refuse_works (s : Session σ) (ref : RouterRef) (e : RouterEvent) (status : Status) :
    Works ref s (s.refuse ref e status) :=
  (Touches.count e).worksQuietly.trans (askBy_works _ ref _)

theorem engage_works (s : Session σ) (ref : RouterRef) (cluster : Config.Cluster)
    (host : HostRef) (request : Request) :
    Works ref s (s.engage ref cluster host request).2 := by
  unfold Session.engage
  refine Works.trans ?_ (takeStep_works _ ref _)
  refine Works.trans ?_ (Touches.modifyRouter _).worksQuietly
  exact (Touches.withSide _).worksQuietly

theorem startExchange_works (s : Session σ) (ref : RouterRef) (cluster : Config.Cluster)
    (host : HostRef) (request : Request) :
    Works ref s (s.startExchange ref cluster host request) := by
  have h := engage_works s ref cluster host request
  unfold Session.startExchange
  split
  · next s' heq =>
    rw [heq] at h
    exact h.trans (writeCall_works s' ref)
  · next s' heq =>
    rw [heq] at h
    exact h

theorem route_works (s : Session σ) (ref : RouterRef) (generation : Nat) (found : Option Route)
    (request : Request) : Works ref s (s.route ref generation found request).2 := by
  unfold Session.route
  split
  · exact refuse_works s ref _ _
  · split
    · exact Works.refl ref s
    · dsimp only
      split
      · refine Works.trans ?_ (startExchange_works _ ref _ _ _)
        exact (Touches.withSide _).worksQuietly
      · refine Works.trans ?_ (refuse_works _ ref _ _)
        exact (Touches.withSide _).worksQuietly
      · refine Works.trans ?_ (refuse_works _ ref _ _)
        exact (Touches.withSide _).worksQuietly

theorem forwardReply_works (s : Session σ) (ref : RouterRef) :
    Works ref s (s.forwardReply ref) := by
  unfold Session.forwardReply
  split
  · exact Works.refl ref s
  · next r hr =>
    dsimp only
    split
    · exact (Touches.setRouter hr _).worksQuietly.trans (effect_works _ ref _)
    · exact (Touches.setRouter hr _).worksQuietly
    · exact (Touches.setRouter hr _).worksQuietly.trans (askBy_works _ ref _)

theorem onHostData_works {r : Router} (hr : s.router? ref = some r) (e : Exchange)
    (data : Bytes) : Works ref s (s.onHostData ref r e data) := by
  unfold Session.onHostData
  split
  · exact Works.refl ref s
  · split
    · exact (Touches.stop _).worksQuietly
    · dsimp only
      split
      · refine Works.trans ?_ (forwardReply_works _ ref)
        exact (Touches.setRouter hr _).worksQuietly.trans (takeStep_works _ ref _)
      · exact (Touches.setRouter hr _).worksQuietly.trans (takeStep_works _ ref _)

theorem onHostEvent_works (s : Session σ) (ref : RouterRef) (e : Exchange)
    (event : ConnectionEvent) : Works ref s (s.onHostEvent ref e event) := by
  unfold Session.onHostEvent
  split
  · exact Works.refl ref s
  · split
    · exact (Touches.stop _).worksQuietly
    · exact takeStep_works s ref _

theorem onDelivery_works (s : Session σ) (ref : RouterRef) (d : Delivery) :
    Works ref s (s.onDelivery ref d) := by
  unfold Session.onDelivery
  split
  · split
    · exact effect_works s ref _
    · exact Works.refl ref s
  · next r e hfound =>
    obtain ⟨r', hr, he⟩ := Option.bind_eq_some_iff.mp hfound
    obtain ⟨e', -, heq⟩ := Option.map_eq_some_iff.mp he
    obtain ⟨rfl, rfl⟩ := Prod.mk.inj heq
    split
    · exact takeStep_works s ref _
    · exact takeStep_works s ref _
    · exact onHostData_works hr _ _
    · exact onHostEvent_works s ref _ _

theorem endRouter_works {r : Router} (hr : s.router? ref = some r) (t : Exchange.Step) :
    Works ref s (s.endRouter ref t) := by
  refine Works.trans (Touches.remember hr .nothing).worksQuietly ?_
  exact ⟨_, fun _ => Effect.isOwn_of_mem_later, effects_touches ref t.effects _⟩

theorem destroyRouter_works (s : Session σ) (ref : RouterRef) :
    Works ref s (s.destroyRouter ref) := by
  unfold Session.destroyRouter
  split
  · exact Works.refl ref s
  · next r hr =>
    split
    · exact (Touches.remember hr .nothing).worksQuietly
    · exact endRouter_works hr _

theorem dropRouter_works (s : Session σ) (ref : RouterRef) : Works ref s (s.dropRouter ref) := by
  unfold Session.dropRouter
  split
  · exact Works.refl ref s
  · next e he =>
    obtain ⟨r, hr, -⟩ := Option.bind_eq_some_iff.mp he
    exact endRouter_works hr _

end

end Session

end RpcProxy

import RpcProxy.Proofs.Session.History

/-!
# What happens to messages, as it is read off a run

What a session does with requests and responses is read off its run as a list of `StreamEvent`s,
each with the number of its stream. A message that goes on is one event, with a `Visit` for every
filter that it meets on the way; a response that is set is another; and octets that are added to
what the client gets are a third. The events are read off the functions of the session at the
moments at which they are called, and change nothing in it.

The order of filters cannot be stated of what a session holds. A message that has passed three
filters looks like one that has passed a single filter which made the same changes, and a message
that was stopped and went on leaves no sign of that. So the events are the subject of those
theorems, and each of them is defined beside the function that it is read off, with the same cases.
A proof about events can go through the two functions side by side.

What is common to such proofs are the inductions over the filters ahead, for requests and for
responses (`decodeThrough_invariant`, `encodeThrough_invariant`). They ask for what one filter
keeps.
-/

set_option autoImplicit false

namespace RpcProxy

/-- A filter meets a message. Both forms of the message are kept, since the next filter must be
shown what this one has left. -/
structure Visit (α : Type) where
  /-- The place of the filter. -/
  slot : Nat
  /-- The message as the filter gets it. -/
  shown : α
  /-- The message as the filter leaves it. -/
  left : α
  /-- Whether the message goes on. -/
  status : FilterStatus
deriving DecidableEq, Repr

/-- Something that happens to the messages of a stream. -/
inductive StreamEvent where
  | began (request : Request)
  | decoding (visits : List (Visit Request))
  | answered (response : Response)
  | encoding (visits : List (Visit Response))
  /-- Octets are written to the client. -/
  | wrote (octets : Bytes)
deriving DecidableEq, Repr

/-- The event of octets being written, if there are any. -/
def StreamEvent.ofOctets : Bytes → List StreamEvent
  | [] => []
  | octets => [.wrote octets]

abbrev Act := StreamId × StreamEvent

namespace Session

variable {σ : Type}

/-- The request of a stream has one filter more behind it. -/
def pass (s : Session σ) (id : StreamId) : Session σ :=
  s.modifyStream id fun x => { x with decoded := x.decoded + 1 }

/-- The filters that a request meets, see `decodeThrough`. The list ends with the filter that stops
the request, if one does. -/
def decodeVisits (s : Session σ) (id : StreamId) : List Nat → List (Visit Request)
  | [] => []
  | slot :: rest =>
    match (s.pass id).stream? id with
    | none => []
    | some x =>
      let (status, s') := (s.pass id).decodeOne x slot
      let left := ((s'.stream? id).map (·.request)).getD x.request
      { slot, shown := x.request, left, status } ::
        if status = .continue then s'.decodeVisits id rest else []

/-- The response of a stream has one filter more behind it. -/
def passBack (s : Session σ) (id : StreamId) : Session σ :=
  s.modifyStream id fun x => { x with encoded := x.encoded + 1 }

/-- The filters that a response meets, see `encodeThrough`. -/
def encodeVisits (s : Session σ) (id : StreamId) : List Nat → List (Visit Response)
  | [] => []
  | slot :: rest =>
    match (s.passBack id).stream? id with
    | none => []
    | some x =>
      match x.response with
      | none => []
      | some r =>
        let (status, s') := (s.passBack id).encodeOne x r slot
        let left := ((s'.stream? id).bind (·.response)).getD r
        { slot, shown := r, left, status } ::
          if status = .continue then s'.encodeVisits id rest else []

/-! ## The way through the filters -/

theorem decodeThrough_cons (s : Session σ) (id : StreamId) (slot : Nat) (rest : List Nat) :
    s.decodeThrough id (slot :: rest) = match (s.pass id).stream? id with
      | none => s.pass id
      | some x =>
        match (s.pass id).decodeOne x slot with
        | (.continue, s') => s'.decodeThrough id rest
        | (.stop, s') => s' := rfl

/-- A response meets filters until one of them stops it; tells whether none did. -/
def encodeOnly (s : Session σ) (id : StreamId) : List Nat → FilterStatus × Session σ
  | [] => (.continue, s)
  | slot :: rest =>
    match (s.passBack id).stream? id with
    | none => (.stop, s.passBack id)
    | some x =>
      match x.response with
      | none => (.stop, s.passBack id)
      | some r =>
        match (s.passBack id).encodeOne x r slot with
        | (.continue, s') => s'.encodeOnly id rest
        | (.stop, s') => (.stop, s')

/-- A response that no filter stops is written. -/
theorem encodeThrough_eq (slots : List Nat) (s : Session σ) (id : StreamId) :
    s.encodeThrough id slots = match s.encodeOnly id slots with
      | (.continue, s') => s'.sendReply id
      | (.stop, s') => s' := by
  induction slots generalizing s with
  | nil => rfl
  | cons slot rest ih =>
    rw [Session.encodeThrough, encodeOnly]
    have hpass : (s.modifyStream id fun x => { x with encoded := x.encoded + 1 }) = s.passBack id := rfl
    rw [hpass]
    cases (s.passBack id).stream? id with
    | none => rfl
    | some x =>
      dsimp only
      cases x.response with
      | none => rfl
      | some r =>
        dsimp only
        generalize (s.passBack id).encodeOne x r slot = met
        obtain ⟨status, s'⟩ := met
        cases status with
        | «continue» => exact ih s'
        | stop => rfl

/-- What a request keeps as it moves to its next filter, and what every filter keeps that it meets,
holds when it has come to its last filter or has been stopped. -/
theorem decodeThrough_invariant {P : Session σ → Prop} {id : StreamId}
    (hpass : ∀ s, P s → P (s.pass id))
    (hmeet : ∀ s x slot, P s → s.stream? id = some x → P (s.decodeOne x slot).2)
    (slots : List Nat) (s : Session σ) (h : P s) : P (s.decodeThrough id slots) := by
  induction slots generalizing s with
  | nil => exact h
  | cons slot rest ih =>
    rw [decodeThrough_cons]
    cases hx : (s.pass id).stream? id with
    | none => exact hpass s h
    | some x =>
      have hmet := hmeet _ x slot (hpass s h) hx
      dsimp only
      generalize (s.pass id).decodeOne x slot = met at hmet
      obtain ⟨status, s'⟩ := met
      cases status with
      | «continue» => exact ih s' hmet
      | stop => exact hmet

/-- What a response keeps as it moves to its next filter, and what every filter keeps that it meets,
holds when it has come to its last filter or has been stopped. -/
theorem encodeOnly_invariant {P : Session σ → Prop} {id : StreamId}
    (hpass : ∀ s, P s → P (s.passBack id))
    (hmeet : ∀ s x r slot, P s → s.stream? id = some x → x.response = some r →
      P (s.encodeOne x r slot).2)
    (slots : List Nat) (s : Session σ) (h : P s) : P (s.encodeOnly id slots).2 := by
  induction slots generalizing s with
  | nil => exact h
  | cons slot rest ih =>
    rw [encodeOnly]
    cases hx : (s.passBack id).stream? id with
    | none => exact hpass s h
    | some x =>
      dsimp only
      cases hr : x.response with
      | none => exact hpass s h
      | some r =>
        have hmet := hmeet _ x r slot (hpass s h) hx hr
        dsimp only
        generalize (s.passBack id).encodeOne x r slot = met at hmet
        obtain ⟨status, s'⟩ := met
        cases status with
        | «continue» => exact ih s' hmet
        | stop => exact hmet

/-- A response is stopped, or it comes to its last filter and is written. -/
theorem encodeThrough_invariant {P Q : Session σ → Prop} {id : StreamId}
    (hpass : ∀ s, P s → P (s.passBack id))
    (hmeet : ∀ s x r slot, P s → s.stream? id = some x → x.response = some r →
      P (s.encodeOne x r slot).2)
    (hstop : ∀ s, P s → Q s) (hreply : ∀ s, P s → Q (s.sendReply id)) (slots : List Nat)
    (s : Session σ) (h : P s) : Q (s.encodeThrough id slots) := by
  have honly := encodeOnly_invariant hpass hmeet slots s h
  rw [encodeThrough_eq]
  generalize s.encodeOnly id slots = met at honly
  obtain ⟨status, s'⟩ := met
  cases status with
  | «continue» => exact hreply s' honly
  | stop => exact hstop s' honly

/-! ## What happens to messages -/

/-- The octets that are added to what the client gets while `s` becomes `s'`. Output only grows
while a session is at work; it is taken between two pieces of work. -/
def addedTo (s s' : Session σ) : Bytes := s'.connection.output.drop s.connection.output.length

/-- The event of octets being added, if there are any. -/
def writeEvents (s s' : Session σ) : List StreamEvent := StreamEvent.ofOctets (s.addedTo s')

/-- What happens when a request goes on, see `continueDecoding`. -/
def decodingEvents (s : Session σ) (id : StreamId) : List StreamEvent :=
  match s.stream? id with
  | none => []
  | some x =>
    if !x.isLive then []
    else
      [.decoding ((s.modifyStream id (·.resolve s.plan.routes)).decodeVisits id
        (x.decoders.drop x.decoded))]

/-- What happens when a response goes on, see `continueEncoding`. -/
def encodingEvents (s : Session σ) (id : StreamId) : List StreamEvent :=
  match s.stream? id with
  | none => []
  | some x =>
    if !x.isLive || x.response.isNone then []
    else .encoding (s.encodeVisits id (x.encoders.drop x.encoded)) ::
      s.writeEvents (s.continueEncoding id)

/-- What happens when a stream gets a response, see `respond`. -/
def answerEvents (s : Session σ) (id : StreamId) (r : Response) : List StreamEvent :=
  .answered r :: (s.modifyStream id (·.setResponse r)).encodingEvents id

/-- The session that is about to answer by itself, see `localReply`. -/
def aboutToReply (s : Session σ) (id : StreamId) : Session σ :=
  (s.measure fun m => { m with localReplies := m.localReplies.inc }).modifyStream id fun x =>
    { x with info := { x.info with localReply := true } }

/-- The answer that the proxy itself gives. -/
def ownAnswer (x : Stream) (status : Status) (update : Change) : Response :=
  (Response.answering status x.request).change update

/-- What happens when something is done with a stream. -/
def eventsOf (s : Session σ) (id : StreamId) : StreamOp → List StreamEvent
  | .continueDecoding => s.decodingEvents id
  | .continueEncoding => s.encodingEvents id
  | .respond r =>
    match s.stream? id with
    | none => []
    | some x => if !x.isLive then [] else s.answerEvents id r
  | .localReply status update =>
    match s.stream? id with
    | none => []
    | some x =>
      if !x.isLive || !s.isServed || !s.plan.codec.createsReplies then []
      else (s.aboutToReply id).answerEvents id (ownAnswer x status update)
  | .complete | .reset | .resetConnection => []

/-- What happens when a task is taken up. -/
def actsOf (s : Session σ) : Task → List Act
  | .stream id op => (s.eventsOf id op).map (id, ·)
  | .router ref (.ask op) => (s.eventsOf ref.stream op).map (ref.stream, ·)
  | .router _ _ | .closed => []

/-- What happens when a stream begins, see `beginStream`. -/
def beginEvents (s : Session σ) (request : Request) : List StreamEvent :=
  let id := s.nextId
  if id + 1 ≥ UInt64.size then []
  else
    let (info, span, s) := { s with nextId := id + 1 }.openSpan request
    let stuck := s.clock.wall < 0 && s.plan.parts.any (·.stamps)
    let slots := if stuck then [] else s.plan.parts.map (Slot.start id s.clock)
    let s := s.insertStream { id, request, slots, info, span, inserted := true }
    .began request :: if stuck then [] else s.decodingEvents id

/-- What happens when requests that were decoded are taken up, see `onWireEvent`. -/
def wireActs (s : Session σ) : List Wire.Event → List Act
  | [] => []
  | e :: es =>
    (match e with
    | .request r => if s.panic.isSome then [] else (s.beginEvents r).map (s.nextId, ·)
    | .failure => []) ++ (s.onWireEvent e).wireActs es

/-- The streams that begin while something happens. -/
def begunIn (s : Session σ) : SessionOp → List Act
  | .data octets =>
    if s.isServed && !s.isClosed then
      let (events, left) := Wire.decode (s.buffer ++ octets)
      { s with buffer := left }.wireActs events
    else []
  | .request r => if s.isServed then (s.beginEvents r).map (s.nextId, ·) else []
  | _ => []

/-- What happens to messages in one step: streams begin, or tasks are taken up. -/
def actsIn (s : Session σ) (op : SessionOp) : List Act :=
  s.begunIn op ++ (s.takenIn op).flatMap fun m => m.1.actsOf m.2

/-- What happens to messages, in order. -/
def acts (s : Session σ) : List SessionOp → List Act
  | [] => []
  | op :: ops => s.actsIn op ++ (s.step op).acts ops

/-- What happens to the messages of one stream, in order. -/
def course (s : Session σ) (id : StreamId) (ops : List SessionOp) : List StreamEvent :=
  (s.acts ops).filterMap fun a => if a.1 = id then some a.2 else none

end Session

/-- A request came to the filter that a router is, going by what happened to messages. -/
def Routed (as : List Act) (ref : RouterRef) (r : Request) : Prop :=
  ∃ visits v, (ref.stream, StreamEvent.decoding visits) ∈ as ∧ v ∈ visits ∧ v.slot = ref.slot ∧
    v.shown = r

theorem Routed.mono {as bs : List Act} (hsub : as ⊆ bs) {ref : RouterRef} {r : Request}
    (h : Routed as ref r) : Routed bs ref r := by
  obtain ⟨visits, v, hvisits, hv⟩ := h
  exact ⟨visits, v, hsub hvisits, hv⟩

end RpcProxy

import RpcProxy.Proofs.Session.MessageEvents

/-!
# The moments at which somebody can ask

A session does its work in one thread, so nobody looks at it while a function of it runs, with two
exceptions: what it calls can look, and so can whoever gives it work, before and after. It calls
filters, when a request or a response comes to them and when their stream is over. `moments` lists
the sessions as they stand then, for a run: before and after everything that happens to it from
outside, whenever a task is taken up, and whenever a filter is called. They are read off the
functions of the session in the order in which these call filters, and change nothing in it.

An invariant that holds behind every task would not do for what can be seen at such a moment. Half
of a function has run, and a stream may already be marked as over while its counters still show it.
So a property that anybody can ask for at any time is stated for all `moments`, and the lemmas at
the end of this module say what is shown to a filter in each of them.
-/

set_option autoImplicit false

namespace RpcProxy.Session

variable {σ : Type}

/-! ## Calls of filters -/

/-- The filters at some places are told that their stream is over, see `destroySlots`. -/
def destroyMoments (s : Session σ) (x : Stream) : List Nat → List (Session σ)
  | [] => []
  | slot :: rest => s :: (s.destroySlot x slot).destroyMoments x rest

/-- A stream is over, see `completeStream`. The same filters are called when a stream is finished,
see `finishStream`. -/
def completeMoments (s : Session σ) (id : StreamId) : List (Session σ) :=
  match s.stream? id with
  | none => []
  | some x =>
    if x.isCompleted then []
    else
      let s := s.recordEnd x
      let s := s.modifyStream id fun x =>
        { x with isCompleted := true, info := x.info.complete s.now, span := none }
      let rest := x.encoders.filter fun i => !(x.slots[i]?).any (·.part.side.decodes)
      s.destroyMoments x (x.decoders ++ rest)

/-- A stream is reset, see `resetStream`. -/
def resetMoments (s : Session σ) (id : StreamId) : List (Session σ) :=
  match s.stream? id with
  | none => []
  | some x =>
    if x.isReset then []
    else
      let s := s.modifyStream id fun x => { x with isReset := true }
      let s := if x.isCompleted then s
        else s.measure fun m => { m with resets := m.resets.inc }
      if s.isServed then s.completeMoments id else []

/-- Streams are reset one after another, see `resetAll`. -/
def resetAllMoments (s : Session σ) : List StreamId → List (Session σ)
  | [] => []
  | id :: ids => s.resetMoments id ++ (s.resetStream id).resetAllMoments ids

/-- Something has happened to the client's connection, see `onConnectionEvent`. -/
def eventMoments (s : Session σ) : ConnectionEvent → List (Session σ)
  | .remoteClose | .localClose => { s with isClosed := true }.resetAllMoments s.active
  | .connected | .connectedZeroRtt => []

/-- The client's connection is closed, see `closeConnection`. -/
def closeMoments (s : Session σ) (how : CloseType) : List (Session σ) :=
  if s.isClosed then []
  else { s with connection := s.connection.close how }.eventMoments .localClose

/-- A request goes on, see `decodeThrough`. -/
def decodeMoments (s : Session σ) (id : StreamId) : List Nat → List (Session σ)
  | [] => []
  | slot :: rest =>
    match (s.pass id).stream? id with
    | none => []
    | some x =>
      match (s.pass id).decodeOne x slot with
      | (.continue, s') => s.pass id :: s'.decodeMoments id rest
      | (.stop, _) => [s.pass id]

/-- A request goes on behind the filter that stopped it, see `continueDecoding`. -/
def decodingMoments (s : Session σ) (id : StreamId) : List (Session σ) :=
  match s.stream? id with
  | none => []
  | some x =>
    if !x.isLive then []
    else
      (s.modifyStream id (·.resolve s.plan.routes)).decodeMoments id (x.decoders.drop x.decoded)

/-- A reply is written and ends the stream, see `sendReply`. -/
def replyMoments (s : Session σ) (id : StreamId) : List (Session σ) :=
  match s.stream? id with
  | none => []
  | some x =>
    match x.response with
    | none => []
    | some r =>
      if !s.isServed then []
      else
        let s := s.modifyStream id fun x =>
          { x with info := { x.info with status := some r.status.code } }
        (s.writeToClient r.encode r.asksToClose).completeMoments id

/-- A response goes on, see `encodeThrough`. -/
def encodeMoments (s : Session σ) (id : StreamId) : List Nat → List (Session σ)
  | [] => s.replyMoments id
  | slot :: rest =>
    match (s.passBack id).stream? id with
    | none => []
    | some x =>
      match x.response with
      | none => []
      | some r =>
        match (s.passBack id).encodeOne x r slot with
        | (.continue, s') => s.passBack id :: s'.encodeMoments id rest
        | (.stop, _) => [s.passBack id]

/-- A response goes on behind the filter that stopped it, see `continueEncoding`. -/
def encodingMoments (s : Session σ) (id : StreamId) : List (Session σ) :=
  match s.stream? id with
  | none => []
  | some x =>
    if !x.isLive || x.response.isNone then []
    else s.encodeMoments id (x.encoders.drop x.encoded)

/-- Something is done with a stream, see `perform`. -/
def performMoments (s : Session σ) (id : StreamId) : StreamOp → List (Session σ)
  | .continueDecoding => s.decodingMoments id
  | .continueEncoding => s.encodingMoments id
  | .respond r =>
    match s.stream? id with
    | none => []
    | some x => if !x.isLive then [] else (s.modifyStream id (·.setResponse r)).encodingMoments id
  | .localReply status update =>
    match s.stream? id with
    | none => []
    | some x =>
      if !x.isLive || !s.isServed || !s.plan.codec.createsReplies then []
      else ((s.aboutToReply id).modifyStream id
        (·.setResponse (ownAnswer x status update))).encodingMoments id
  | .complete => if s.isServed then s.completeMoments id else []
  | .reset => s.resetMoments id
  | .resetConnection =>
    if s.isServed && (s.stream? id).isSome then s.closeMoments .noFlush else []

/-- A task is taken up, see `runTask`. -/
def taskMoments (s : Session σ) : Task → List (Session σ)
  | .stream id op | .router ⟨_, id, _⟩ (.ask op) => s.performMoments id op
  | .router _ _ => []
  | .closed => if s.isServed then s.eventMoments .localClose else []

/-- A stream begins, see `beginStream`. -/
def beginMoments (s : Session σ) (request : Request) : List (Session σ) :=
  let id := s.nextId
  if id + 1 ≥ UInt64.size then []
  else
    let (info, span, s) := { s with nextId := id + 1 }.openSpan request
    let stuck := s.clock.wall < 0 && s.plan.parts.any (·.stamps)
    let slots := if stuck then [] else s.plan.parts.map (Slot.start id s.clock)
    let s := s.insertStream { id, request, slots, info, span, inserted := true }
    if stuck then [] else s.decodingMoments id

/-- Something that was decoded is taken up, see `onWireEvent`. -/
def arrivalMoments (s : Session σ) (e : Wire.Event) : List (Session σ) :=
  if s.panic.isSome then []
  else
    match e with
    | .request r => s.beginMoments r
    | .failure =>
      (s.measure fun m => { m with decodingErrors := m.decodingErrors.inc }).resetAllMoments s.active

/-- What was decoded is taken up, one after another. -/
def wireMoments (s : Session σ) : List Wire.Event → List (Session σ)
  | [] => []
  | e :: es => s.arrivalMoments e ++ (s.onWireEvent e).wireMoments es

/-! ## A run -/

/-- Something happens to the connection or comes from the client, see `step`. -/
def clientMoments (s : Session σ) : SessionOp → List (Session σ)
  | .data octets =>
    if s.isServed && !s.isClosed then
      let (events, left) := Wire.decode (s.buffer ++ octets)
      { s with buffer := left }.wireMoments events
    else []
  | .request r => if s.isServed then s.beginMoments r else []
  | .event e => if s.isServed then s.eventMoments e else []
  | .close how => if s.isServed then s.closeMoments how else []
  | .resetAll => if s.isServed then s.resetAllMoments s.active else []
  | _ => []

/-- Something happens from outside, see `step`. A run is looked at wherever a task is taken up. -/
def stepMoments (s : Session σ) (op : SessionOp) : List (Session σ) :=
  s.clientMoments op ++ (s.takenIn op).flatMap fun m => m.1 :: m.1.taskMoments m.2

/-- The sessions as they stand when somebody can ask something, in order. The first is the session
before anything has happened, and the last is how the run has left it. -/
def moments (s : Session σ) : List SessionOp → List (Session σ)
  | [] => [s]
  | op :: ops => s :: s.stepMoments op ++ (s.step op).moments ops

theorem after_mem_moments (s : Session σ) (ops : List SessionOp) : s.after ops ∈ s.moments ops := by
  induction ops generalizing s with
  | nil => exact List.mem_singleton.mpr rfl
  | cons op ops ih => exact List.mem_append_right _ (ih (s.step op))

/-- A task is taken up. -/
theorem history_moments (s : Session σ) (ops : List SessionOp) {m : Session σ × Task}
    (hm : m ∈ s.history ops) : m.1 ∈ s.moments ops := by
  induction ops generalizing s with
  | nil => cases hm
  | cons op ops ih =>
    refine List.mem_append.mpr ((List.mem_append.mp hm).imp (fun hm => ?_) (ih (s.step op)))
    refine List.mem_cons_of_mem s (List.mem_append_right _ ?_)
    exact List.mem_flatMap.mpr ⟨m, hm, List.mem_cons_self⟩

/-- A request meets a filter. -/
theorem decodeMoments_shown (s : Session σ) (id : StreamId) (slots : List Nat) :
    (s.decodeMoments id slots).map (fun m => (m.stream? id).map (·.request)) =
      (s.decodeVisits id slots).map fun v => some v.shown := by
  induction slots generalizing s with
  | nil => rfl
  | cons slot rest ih =>
    rw [decodeMoments, decodeVisits]
    cases hx : (s.pass id).stream? id with
    | none => rfl
    | some x =>
      dsimp only
      generalize (s.pass id).decodeOne x slot = met
      obtain ⟨status, s'⟩ := met
      cases status with
      | «continue» => simp [hx, ih]
      | stop => simp [hx]

/-- A response meets a filter, before the stream is over. -/
theorem encodeMoments_shown (s : Session σ) (id : StreamId) (slots : List Nat) :
    ∃ met ending, s.encodeMoments id slots = met ++ ending ∧
      met.map (fun m => (m.stream? id).bind (·.response)) =
        (s.encodeVisits id slots).map fun v => some v.shown := by
  induction slots generalizing s with
  | nil => exact ⟨[], s.replyMoments id, rfl, rfl⟩
  | cons slot rest ih =>
    rw [encodeMoments, encodeVisits]
    cases hx : (s.passBack id).stream? id with
    | none => exact ⟨[], [], rfl, rfl⟩
    | some x =>
      dsimp only
      cases hr : x.response with
      | none => exact ⟨[], [], rfl, rfl⟩
      | some r =>
        dsimp only
        generalize (s.passBack id).encodeOne x r slot = met
        obtain ⟨status, s'⟩ := met
        cases status with
        | «continue» =>
          obtain ⟨met, ending, hsplit, hshown⟩ := ih s'
          exact ⟨s.passBack id :: met, ending, by simp [hsplit], by simp [hx, hr, hshown]⟩
        | stop => exact ⟨[s.passBack id], [], rfl, by simp [hx, hr]⟩

end RpcProxy.Session

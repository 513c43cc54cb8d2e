import RpcProxy.Proofs.Session.RequestHandlers
import RpcProxy.Proofs.Session.DirectReplies
import RpcProxy.Proofs.Session.ConnectionLoop
import RpcProxy.Proofs.Wire.Pieces

/-!
# Requests that come one behind the other

A client may send requests without waiting for replies, and its octets may come in any pieces, with
work done between them or not. A listener that answers by itself replies to each request as if it
were alone on a connection, in the order in which the requests came (`pipelined`).

What carries this is the order of tasks. A request that was taken up has posted the task for its
reply, so the tasks that wait are the replies that are owed, oldest first (`OwesReplies`). Decoding
appends to this list, running takes from its front, and streams that are over are dropped when it is
empty.

The octets are followed from the side of what is still to come (`Progress`). At any time the client
will have been sent, in the end, what it was sent so far, the replies that are owed, and the replies
to what the buffer and the octets to come hold. This sum never changes. So it does not matter when a
run is made or where the octets are cut, and no case has to be made for a piece that ends within a
line. A connection with a single request is the same statement for a list of one, which is how the
replies are compared with those on connections of their own.
-/

set_option autoImplicit false

namespace RpcProxy

/-! ## Listeners that answer by themselves

Such a listener has no router in the way of its requests, and its answer to a request depends on
nothing but that request. -/

/-- A listener that answers requests by itself and never closes a connection behind a reply. A
filter that sets the property which asks for the end would have later requests unanswered. -/
structure Config.Listener.AnswersAlone (l : Config.Listener) : Prop where
  filters : ∀ f ∈ l.filters, f.name ∈ ["set_metadata", "access_log", directName]
  direct : l.lists directName = true
  stays : ∀ f ∈ l.filters, f.name = "set_metadata" →
    closingProperty ∉ (f.stringMap "response").toList

/-- Of the filters that settings can name, only two do more than change messages. -/
theorem Config.Filter.Makes.onlyChanges {generation : Nat} {f : Config.Filter} {p : Part}
    (h : f.Makes generation p) : p.isRouter = true ∨ p = directPart ∨ p.OnlyChanges := by
  cases h with
  | router => exact Or.inl rfl
  | direct => exact Or.inr (Or.inl rfl)
  | access => exact Or.inr (Or.inr ⟨rfl, fun _ _ => rfl, fun _ _ _ => rfl⟩)
  | requests => exact Or.inr (Or.inr ⟨rfl, fun _ _ => rfl, fun _ _ _ => rfl⟩)
  | responses => exact Or.inr (Or.inr ⟨rfl, fun _ _ => rfl, fun _ _ _ => rfl⟩)

theorem setOnResponses_asksToClose {values : List (String × String)} (h : closingProperty ∉ values)
    {r : Response} (hr : r.asksToClose = false) :
    ((setOnResponses values).onResponse nobody 1 r).message.asksToClose = false := by
  show (r.setAll values).asksToClose = false
  induction values generalizing r with
  | nil => exact hr
  | cons v values ih =>
    obtain ⟨key, value⟩ := v
    obtain ⟨hne, hmem⟩ := List.ne_and_not_mem_of_not_mem_cons h
    refine ih (r := r.set key value) hmem ?_
    unfold Response.asksToClose Response.get? at hr ⊢
    show ((r.properties.insert key value).find? "connection" == some "close") = false
    rw [StringMap.find?_insert]
    split
    · next hkey =>
      subst hkey
      simpa using fun he : value = "close" => hne (by rw [he]; rfl)
    · exact hr

theorem Part.Passes.isRouter {p : Part} (h : p.Passes) : p.isRouter = false := by
  obtain ⟨side, kind⟩ := p
  cases kind with
  | plain b | accessLog sink => rfl
  | router generation => exact absurd h id

/-- Up to the first filter that answers, all others only change messages. -/
theorem exists_before {ps : List Part} (hall : ∀ p ∈ ps, p = directPart ∨ p.OnlyChanges)
    (hin : directPart ∈ ps) :
    ∃ before behind, ps = before ++ directPart :: behind ∧ ∀ p ∈ before, p.OnlyChanges := by
  induction ps with
  | nil => cases hin
  | cons p ps ih =>
    rcases hall p List.mem_cons_self with rfl | hp
    · exact ⟨[], ps, rfl, by simp⟩
    · rcases List.mem_cons.mp hin with rfl | hin
      · exact ⟨[], ps, rfl, by simp⟩
      · obtain ⟨before, behind, rfl, hbefore⟩ := ih (fun q hq => hall q (List.mem_cons_of_mem p hq)) hin
        exact ⟨p :: before, behind, rfl, List.forall_mem_cons.mpr ⟨hp, hbefore⟩⟩

theorem Config.Listener.withRouter_filters (l : Config.Listener) :
    ∃ more, l.withRouter.filters = l.filters ++ more ∧ ∀ f ∈ more, f.name = routerName := by
  unfold Config.Listener.withRouter
  split
  · exact ⟨[{ name := routerName }], rfl, by simp⟩
  · exact ⟨[], (List.append_nil _).symm, by simp⟩

theorem Config.Listener.AnswersAlone.plan {generation : Nat} {faults : FileFaults}
    {l : Config.Listener} {plan : Plan} (hl : l.AnswersAlone)
    (h : Plan.ofListener (.routing generation) faults l = .ok plan) :
    ∃ before, plan.AnswersAlone before := by
  obtain ⟨more, hfilters, hmore⟩ := l.withRouter_filters
  have hmakes : ∀ p ∈ plan.parts, ∃ f ∈ l.withRouter.filters, f.Makes generation p :=
    fun p hp => Plan.makes h hp
  have hcreates := Plan.createsReplies h
  obtain ⟨codec, routes, parts, -, -, hparts, rfl⟩ := Plan.ofConfig_eq_ok_iff.1 h
  have hnames : ∀ f ∈ l.filters, f.name ≠ routerName := by
    intro f hf he
    have hname := hl.filters f hf
    rw [he] at hname
    exact absurd hname (by decide)
  -- The filters that the settings list come first, and one of them answers.
  obtain ⟨own, added, rfl, hown⟩ : ∃ own added, parts = own ++ added ∧
      l.filters.mapM ((FilterRegistry.routing generation).build faults) = .ok own := by
    rw [hfilters, List.mapM_append] at hparts
    cases hown : l.filters.mapM ((FilterRegistry.routing generation).build faults) with
    | error e =>
      rw [hown] at hparts
      cases hparts
    | ok own =>
      cases hadded : more.mapM ((FilterRegistry.routing generation).build faults) with
      | error e =>
        rw [hown, hadded] at hparts
        cases hparts
      | ok added =>
        rw [hown, hadded] at hparts
        cases hparts
        exact ⟨own, added, rfl, rfl⟩
  have hfrom : ∀ p ∈ own.flatten, p = directPart ∨ p.OnlyChanges := by
    intro p hp
    obtain ⟨ps, hps, hp⟩ := List.mem_flatten.1 hp
    obtain ⟨i, hi⟩ := List.mem_iff_getElem?.1 hps
    obtain ⟨f, hf, hbuilt⟩ := Watched.getElem?_of_mapM_ok hown hi
    have hf := List.mem_of_getElem? hf
    rcases FilterRegistry.parts_of_build hbuilt with ⟨hname, -⟩ | ⟨-, rfl⟩ | ⟨-, -, hpasses⟩
    · exact absurd hname (hnames f hf)
    · exact Or.inl (List.mem_singleton.1 hp)
    · exact (FilterRegistry.build_makes hbuilt hp).onlyChanges.resolve_left
        (by rw [(hpasses p hp).isRouter]; decide)
  obtain ⟨before, behind, hsplit, hbefore⟩ : ∃ before behind,
      own.flatten.filter (·.side.decodes) = before ++ directPart :: behind ∧ ∀ p ∈ before, p.OnlyChanges := by
    refine exists_before (fun p hp => hfrom p (List.mem_of_mem_filter hp)) (List.mem_filter.2 ⟨?_, rfl⟩)
    obtain ⟨f, hf, hname⟩ := List.any_eq_true.1 hl.direct
    obtain ⟨ps, hps, hbuilt⟩ := exists_of_mapM_ok hown hf
    rcases FilterRegistry.parts_of_build hbuilt with ⟨hrouter, -⟩ | ⟨-, rfl⟩ | ⟨-, hne, -⟩
    · exact absurd hrouter (hnames f hf)
    · exact List.mem_flatten.2 ⟨_, hps, List.mem_cons_self⟩
    · exact absurd (by simpa using hname) hne
  have hencoders : ∀ p ∈ (own ++ added).flatten.filter (·.side.encodes), p.OnlyChanges ∧
      ∀ r : Response, r.asksToClose = false → (p.onResponse nobody 1 r).message.asksToClose = false := by
    intro p hp
    obtain ⟨hp, hside⟩ := List.mem_filter.1 hp
    obtain ⟨f, hf, hmake⟩ := hmakes p hp
    cases hmake with
    | router | direct | requests => cases hside
    | access sink => exact ⟨⟨rfl, fun _ _ => rfl, fun _ _ _ => rfl⟩, fun r hr => hr⟩
    | responses hname =>
      refine ⟨⟨rfl, fun _ _ => rfl, fun _ _ _ => rfl⟩, fun r hr => ?_⟩
      refine setOnResponses_asksToClose (hl.stays f ?_ hname) hr
      rw [hfilters] at hf
      refine (List.mem_append.1 hf).resolve_right fun hf => ?_
      rw [hmore f hf] at hname
      exact absurd hname (by decide)
  refine ⟨before, ⟨behind ++ added.flatten.filter (·.side.decodes), ?_⟩, hbefore,
    fun p hp => (hencoders p hp).1, fun p hp => (hencoders p hp).2, fun p hp => ?_, hcreates⟩
  · show (own ++ added).flatten.filter (·.side.decodes) = _
    rw [List.flatten_append, List.filter_append, hsplit, List.append_assoc]
    rfl
  · obtain ⟨f, -, hmake⟩ := hmakes p hp
    exact hmake.brief.onEnd

namespace Session

variable {σ : Type}

/-! ## Replies that are owed

Requests make debts, tasks pay them. The reply to a request is known when it arrives, so what a
connection will write is fixed by then, in this order. -/

/-- A stream whose reply is owed, with the request as it came. -/
abbrev Debt := StreamId × Request

/-- The task for a reply that is owed. -/
def Debt.task (plan : Plan) (before : List Part) (d : Debt) : Task :=
  .stream d.1 (.localReply (plan.status before d.2) .nothing)

/-- The replies to requests, one behind the other. -/
def answers (plan : Plan) (before : List Part) (requests : List Request) : Bytes :=
  requests.flatMap fun r => (plan.answer before r).encode

/-- An open connection has written `done` and owes replies: what waits is a task for each of them,
in the order of the streams. That the streams in flight are just those of the debts keeps replies in
order, as a reply is only written for the oldest of them at once. -/
structure OwesReplies (plan : Plan) (before : List Part) (done : Bytes) (debts : List Debt)
    (s : Session σ) : Prop where
  /-- The plan stays. -/
  settled : s.plan = plan
  /-- No filter has to note a time that it cannot. -/
  clock : s.clock.wall < 0 → plan.parts.any (·.stamps) = false
  /-- The connection is served. -/
  served : s.isServed = true
  /-- It is not known to be closed. -/
  isClosed : s.isClosed = false
  /-- It is open. -/
  isOpen : s.connection.isOpen = true
  /-- It does not drain, so that replies say nothing of it. -/
  draining : s.draining = false
  /-- No promise was broken. -/
  panic : s.panic = none
  /-- What was written so far. -/
  output : s.connection.output = done
  /-- A task waits for each reply that is owed. -/
  posted : s.queue.posted = debts.map (Debt.task plan before)
  /-- The streams in flight are those of the debts. -/
  active : s.active = debts.map (·.1)
  /-- Each waits for its reply, its request being as the filters have left it. -/
  waits : ∀ d ∈ debts, ∃ x, s.stream? d.1 = some x ∧ x.Waits plan (d.2.past before)
  /-- No router is at work. -/
  idle : ∀ id x, s.stream? id = some x → x.Idle
  /-- No stream is owed two replies. -/
  apart : (debts.map (·.1)).Nodup
  /-- Numbers that were not given out have no stream. -/
  numbered : s.Numbered

section

variable {plan : Plan} {before : List Part} {done : Bytes} {debts : List Debt} {s s' : Session σ}

/-- A request is taken up, and its reply is owed. The streams of earlier debts are not touched. -/
theorem OwesReplies.begins (h : OwesReplies plan before done debts s)
    (ha : plan.AnswersAlone before) (hroom : s.nextId + 1 < UInt64.size) {r : Request}
    (hroute : ∀ route, plan.routes.find? r = some route → route.direct.isSome = true) :
    OwesReplies plan before done (debts ++ [(s.nextId, r)]) (s.onWireEvent (.request r)) ∧
      (s.onWireEvent (.request r)).nextId = s.nextId + 1 ∧
      (s.onWireEvent (.request r)).buffer = s.buffer := by
  obtain rfl := h.settled
  obtain ⟨⟨streams, stats, log, heq⟩, ⟨x, hx, hwaits, hidle⟩, hothers⟩ :=
    beginStream_asks ha h.numbered hroom h.clock hroute
  have hdo : s.onWireEvent (.request r) = s.beginStream r := by
    unfold Session.onWireEvent
    rw [h.panic]
    rfl
  rw [hdo]
  generalize s.beginStream r = s₁ at *
  -- The number of the new stream was not in use.
  have hearlier : ∀ d ∈ debts, d.1 ≠ s.nextId := by
    intro d hd he
    obtain ⟨y, hy, -⟩ := h.waits d hd
    rw [he, h.numbered s.nextId (Nat.le_refl _)] at hy
    cases hy
  have hnext : s₁.nextId = s.nextId + 1 := by rw [heq]
  refine ⟨{
    settled := by rw [heq]
    clock := by rw [heq]; exact h.clock
    served := by rw [heq]; exact h.served
    isClosed := by rw [heq]; exact h.isClosed
    isOpen := by rw [heq]; exact h.isOpen
    draining := by rw [heq]; exact h.draining
    panic := by rw [heq]; exact h.panic
    output := by rw [heq]; exact h.output
    posted := by
      rw [heq, List.map_append, ← h.posted]
      rfl
    active := by rw [heq, List.map_append, ← h.active]; rfl
    waits := fun d hd => ?_
    idle := fun id y hy => ?_
    apart := ?_
    numbered := fun id hid => ?_ }, hnext, by rw [heq]⟩
  · rcases List.mem_append.mp hd with hd | hd
    · rw [hothers d.1 (hearlier d hd)]
      exact h.waits d hd
    · rw [List.mem_singleton.mp hd]
      exact ⟨x, hx, hwaits⟩
  · by_cases hid : id = s.nextId
    · rw [hid, hx] at hy
      exact Option.some.inj hy ▸ hidle
    · exact h.idle id y ((hothers id hid).symm.trans hy)
  · rw [List.map_append, List.nodup_append]
    refine ⟨h.apart, List.nodup_singleton _, fun a ha b hb => ?_⟩
    obtain ⟨d, hd, rfl⟩ := List.mem_map.mp ha
    rw [List.mem_singleton.mp hb]
    exact hearlier d hd
  · rw [hnext] at hid
    rw [hothers id (Nat.ne_of_gt hid)]
    exact h.numbered id (Nat.le_of_lt hid)

/-- The oldest debt is paid. What is written was fixed when the request was taken up. -/
theorem OwesReplies.replies {d : Debt} (h : OwesReplies plan before done (d :: debts) s)
    (ha : plan.AnswersAlone before) :
    let s' := (s.leave (debts.map (Debt.task plan before))).runTask (d.task plan before)
    OwesReplies plan before (done ++ (plan.answer before d.2).encode) debts s' ∧
      s'.nextId = s.nextId ∧ s'.buffer = s.buffer := by
  obtain rfl := h.settled
  obtain ⟨x, hx, hwaits⟩ := h.waits d List.mem_cons_self
  have hid : x.id = d.1 := stream?_id hx
  rw [← hid] at hx
  -- The oldest debt is that of the oldest stream in flight.
  have hactive : s.active = x.id :: debts.map (·.1) := by rw [hid]; exact h.active
  obtain ⟨⟨streams, stats, log, heq⟩, ⟨y, hy, hidle⟩, hothers⟩ := localReply_answers
    (s := s.leave (debts.map (Debt.task s.plan before))) ha hx hwaits (h.idle _ x hx) h.served h.isOpen
    hactive h.draining
  have hdo : (s.leave (debts.map (Debt.task s.plan before))).runTask (d.task s.plan before) =
      (s.leave (debts.map (Debt.task s.plan before))).localReply x.id (s.plan.status before d.2)
          .nothing := by
    rw [hid]
    rfl
  intro s'
  obtain ⟨hout, hfirst⟩ := write_open h.isOpen (s.plan.answer before d.2).encode false
  have hs' : s' = _ := hdo.trans heq
  -- Whoever is owed a reply besides is another stream, and was not touched.
  have hother : ∀ other, other ≠ x.id → s'.stream? other = s.stream? other := fun other hne => by
    rw [show s' = _ from hdo]
    exact hothers other hne
  have hown : s'.stream? x.id = some y := by
    rw [show s' = _ from hdo]
    exact hy
  generalize s' = s₁ at *
  have hnodup := h.apart
  rw [List.map_cons, List.nodup_cons] at hnodup
  refine ⟨{
    settled := by rw [hs']; rfl
    clock := by rw [hs']; exact h.clock
    served := by rw [hs']; exact h.served
    isClosed := by rw [hs']; exact h.isClosed
    isOpen := ?_
    draining := by rw [hs']; exact h.draining
    panic := by rw [hs']; exact h.panic
    output := by rw [hs', ← h.output]; exact hout
    posted := by rw [hs']; rfl
    active := by rw [hs']
    waits := fun e he => ?_
    idle := fun id z hz => ?_
    apart := hnodup.2
    numbered := fun id hle => ?_ }, by rw [hs']; rfl, by rw [hs']; rfl⟩
  · rw [hs']
    show (s.connection.write _ false).isOpen = true
    unfold Downstream.write
    rw [if_pos h.isOpen]
    exact h.isOpen
  · have hne : e.1 ≠ x.id := fun heq => hnodup.1 (hid ▸ heq ▸ List.mem_map_of_mem he)
    rw [hother e.1 hne]
    exact h.waits e (List.mem_cons_of_mem d he)
  · by_cases hsame : id = x.id
    · rw [hsame, hown] at hz
      exact Option.some.inj hz ▸ hidle
    · exact h.idle id z ((hother id hsame).symm.trans hz)
  · have hle : s.nextId ≤ id := by
      rw [hs'] at hle
      exact hle
    rw [hother id fun he => ?_]
    · exact h.numbered id hle
    · rw [← he, h.numbered id hle] at hx
      cases hx

/-! ## Streams that are dropped

Dropping waits until no task is left, and pays no debt. -/

theorem dropRouter_idle {id : StreamId} (hidle : ∀ x, s.stream? id = some x → x.Idle) (slot : Nat) :
    s.dropRouter (s.refTo id slot) = s := by
  have hnone : (s.router? (s.refTo id slot)).bind (·.exchange) = none := by
    cases hr : s.router? (s.refTo id slot) with
    | none => rfl
    | some r =>
      unfold Session.router? at hr
      rw [if_pos (show (s.refTo id slot).session = s.number from rfl)] at hr
      obtain ⟨y, hy, hr⟩ := Option.bind_eq_some_iff.mp hr
      exact hidle y hy slot r hr
  unfold Session.dropRouter
  rw [hnone]

/-- A stream that has nothing to let go of goes without a trace. -/
theorem dropUnneeded_idle {id : StreamId} (hidle : ∀ x, s.stream? id = some x → x.Idle) :
    ∃ streams, s.dropUnneeded id = { s with streams } ∧
      ∀ other x, (s.dropUnneeded id).stream? other = some x → s.stream? other = some x := by
  have hrouters : ∀ slots : List Nat,
      slots.foldl (fun s slot => s.dropRouter (s.refTo id slot)) s = s := by
    intro slots
    induction slots with
    | nil => rfl
    | cons slot slots ih => rw [List.foldl_cons, dropRouter_idle hidle, ih]
  unfold Session.dropUnneeded
  split
  · exact ⟨s.streams, rfl, fun _ _ hx => hx⟩
  · unfold Session.dropStream
    split
    · exact ⟨s.streams, rfl, fun _ _ hx => hx⟩
    · rw [hrouters]
      exact ⟨_, rfl, fun _ _ hx => stream?_of_filter hx⟩

theorem clearDeferred_idle (hidle : ∀ id x, s.stream? id = some x → x.Idle) :
    ∃ streams, s.clearDeferred = { s with streams, queue := { s.queue with deferred := [] } } ∧
      ∀ id x, s.clearDeferred.stream? id = some x → s.stream? id = some x := by
  have hall : ∀ (ids : List StreamId) (s : Session σ), (∀ id x, s.stream? id = some x → x.Idle) →
      ∃ streams, ids.foldl dropUnneeded s = { s with streams } ∧
        ∀ id x, (ids.foldl dropUnneeded s).stream? id = some x → s.stream? id = some x := by
    intro ids
    induction ids with
    | nil => exact fun s _ => ⟨s.streams, rfl, fun _ _ hx => hx⟩
    | cons id ids ih =>
      intro s hidle
      obtain ⟨streams, heq, hsub⟩ := dropUnneeded_idle (hidle id)
      obtain ⟨streams', heq', hsub'⟩ := ih (s.dropUnneeded id) fun other x hx =>
        hidle other x (hsub other x hx)
      refine ⟨streams', ?_, fun other x hx => hsub other x (hsub' other x hx)⟩
      rw [List.foldl_cons, heq', heq]
  exact hall s.queue.deferred { s with queue := { s.queue with deferred := [] } } hidle

theorem OwesReplies.cleared (h : OwesReplies plan before done [] s) :
    OwesReplies plan before done [] s.clearDeferred ∧ s.clearDeferred.nextId = s.nextId ∧
      s.clearDeferred.buffer = s.buffer ∧ s.clearDeferred.queue.deferred = [] := by
  obtain ⟨streams, heq, hsub⟩ := clearDeferred_idle h.idle
  generalize s.clearDeferred = s₁ at *
  refine ⟨{
    settled := by rw [heq]; exact h.settled
    clock := by rw [heq]; exact h.clock
    served := by rw [heq]; exact h.served
    isClosed := by rw [heq]; exact h.isClosed
    isOpen := by rw [heq]; exact h.isOpen
    draining := by rw [heq]; exact h.draining
    panic := by rw [heq]; exact h.panic
    output := by rw [heq]; exact h.output
    posted := by rw [heq]; exact h.posted
    active := by rw [heq]; exact h.active
    waits := by simp
    idle := fun id x hx => h.idle id x (hsub id x hx)
    apart := List.nodup_nil
    numbered := fun id hid => ?_ }, by rw [heq], by rw [heq], by rw [heq]⟩
  rw [heq] at hid
  -- A number that was not given out yet has no stream, and dropping makes none.
  cases hx : s₁.stream? id with
  | none => rfl
  | some x =>
    have hold := hsub id x hx
    rw [h.numbered id hid] at hold
    cases hold

/-! ## Runs

A run pays all debts. -/

/-- A run pays all debts. -/
theorem OwesReplies.runUntilIdle (ha : plan.AnswersAlone before) (fuel : Nat)
    (h : OwesReplies plan before done debts s) (hfuel : debts.length < fuel) :
    let s' := Session.runUntilIdle fuel s
    OwesReplies plan before (done ++ answers plan before (debts.map (·.2))) [] s' ∧
      s'.nextId = s.nextId ∧ s'.buffer = s.buffer := by
  induction fuel generalizing done debts s with
  | zero => exact absurd hfuel (Nat.not_lt_zero _)
  | succ fuel ih =>
    unfold Session.runUntilIdle
    rw [if_neg (by simp [h.panic])]
    cases debts with
    | nil =>
      have hdone : done ++ answers plan before (([] : List Debt).map (·.2)) = done := List.append_nil done
      rw [hdone, show s.queue.posted = [] from h.posted]
      dsimp only
      split
      · exact ⟨h, rfl, rfl⟩
      · -- Nothing is left to do once streams were dropped.
        obtain ⟨hcleared, hnext, hbuffer, hdeferred⟩ := h.cleared
        rw [runUntilIdle_of_idle fuel hcleared.posted hdeferred]
        exact ⟨hcleared, hnext, hbuffer⟩
    | cons d debts =>
      have hposted : s.queue.posted = d.task plan before :: debts.map (Debt.task plan before) := h.posted
      rw [hposted]
      dsimp only
      obtain ⟨hpaid, hnext, hbuffer⟩ := h.replies ha
      obtain ⟨hall, hnext', hbuffer'⟩ := ih hpaid (Nat.lt_of_succ_lt_succ hfuel)
      refine ⟨?_, hnext'.trans hnext, hbuffer'.trans hbuffer⟩
      rw [List.append_assoc] at hall
      exact hall

theorem OwesReplies.run (h : OwesReplies plan before done debts s) (ha : plan.AnswersAlone before) :
    OwesReplies plan before (done ++ answers plan before (debts.map (·.2))) [] (s.step .run) ∧
      (s.step .run).nextId = s.nextId ∧ (s.step .run).buffer = s.buffer := by
  refine h.runUntilIdle ha s.effort ?_
  have hlen : s.queue.posted.length = debts.length := by rw [h.posted, List.length_map]
  unfold effort patience
  omega

/-! ## Octets

Octets arrive in pieces, runs are made in between, and streams are numbered from zero. What is
written depends on none of that. -/

/-- Requests are taken up one after another. -/
theorem OwesReplies.takes (h : OwesReplies plan before done debts s) (ha : plan.AnswersAlone before)
    {requests : List Request} (hroom : requests.length + s.nextId < UInt64.size)
    (hroutes : ∀ r ∈ requests, ∀ route, plan.routes.find? r = some route → route.direct.isSome = true) :
    let s' := (requests.map Wire.Event.request).foldl onWireEvent s
    ∃ more, OwesReplies plan before done (debts ++ more) s' ∧ more.map (·.2) = requests ∧
      s'.nextId = requests.length + s.nextId ∧ s'.buffer = s.buffer := by
  induction requests generalizing s debts with
  | nil => exact ⟨[], (List.append_nil debts).symm ▸ h, rfl, (Nat.zero_add s.nextId).symm, rfl⟩
  | cons r rest ih =>
    rw [List.length_cons, Nat.add_right_comm] at hroom
    obtain ⟨hone, hnext, hbuffer⟩ := h.begins ha
      (Nat.lt_of_le_of_lt (Nat.add_le_add_right (Nat.le_add_left s.nextId rest.length) 1) hroom)
      (hroutes r List.mem_cons_self)
    obtain ⟨more, hall, hrequests, hnext', hbuffer'⟩ := ih hone
      (by rw [hnext, ← Nat.add_assoc]; exact hroom) fun q hq => hroutes q (List.mem_cons_of_mem r hq)
    refine ⟨(s.nextId, r) :: more, ?_, congrArg (r :: ·) hrequests, ?_, hbuffer'.trans hbuffer⟩
    · rw [List.append_assoc] at hall
      exact hall
    · rw [List.length_cons, Nat.add_right_comm, Nat.add_assoc, ← hnext]
      exact hnext'

theorem OwesReplies.keeps (h : OwesReplies plan before done debts s) (kept : Bytes) :
    OwesReplies plan before done debts { s with buffer := kept } :=
  ⟨h.settled, h.clock, h.served, h.isClosed, h.isOpen, h.draining, h.panic, h.output, h.posted, h.active,
    h.waits, h.idle, h.apart, h.numbered⟩

end

end Session

/-- A line with a request that a chain answers by itself. -/
def Plan.Meets (plan : Plan) (line : Bytes) (r : Request) : Prop :=
  Wire.Whole line r ∧ ∀ route, plan.routes.find? r = some route → route.direct.isSome = true

/-- The octets that come with what happens. -/
def SessionOp.octets : SessionOp → Bytes
  | .data octets => octets
  | _ => []

/-- Octets come, or what waits is done. -/
def SessionOp.Feeds (op : SessionOp) : Prop := op = .run ∨ ∃ octets, op = .data octets

namespace Session

variable {σ : Type}

/-- A connection that was just accepted, where clocks show a time that filters can note. -/
def Fresh (plan : Plan) (s : Session σ) : Prop :=
  ∃ number flags source side stats clock, (clock.wall < 0 → plan.parts.any (·.stamps) = false) ∧
    s = opened number plan flags source side stats clock

/-- How far a connection has come: `rest` is still to come from its client, and `total` is what the
client will have been sent in the end. -/
def Progress (plan : Plan) (before : List Part) (total rest : Bytes) (s : Session σ) : Prop :=
  ∃ (done : Bytes) (debts : List Debt) (left : List (Bytes × Request)),
    OwesReplies plan before done debts s ∧
    (∀ l ∈ left, plan.Meets l.1 l.2) ∧ left.length + s.nextId < UInt64.size ∧
    s.buffer ++ rest = Wire.sent (left.map (·.1)) ∧ Bytes.newline ∉ s.buffer ∧
    total = done ++ (answers plan before (debts.map (·.2)) ++ answers plan before (left.map (·.2)))

section

variable {plan : Plan} {before : List Part} {total rest : Bytes} {s : Session σ}

theorem answers_append (qs rs : List Request) :
    answers plan before (qs ++ rs) = answers plan before qs ++ answers plan before rs :=
  List.flatMap_append

theorem Fresh.progress (h : Fresh plan s) (before : List Part) {lines : List (Bytes × Request)}
    (hlines : ∀ l ∈ lines, plan.Meets l.1 l.2) (hroom : lines.length < UInt64.size) :
    Progress plan before (answers plan before (lines.map (·.2))) (Wire.sent (lines.map (·.1))) s := by
  obtain ⟨number, flags, source, side, stats, clock, hclock, rfl⟩ := h
  refine ⟨[], [], lines, ?_, hlines, hroom, rfl, List.not_mem_nil, rfl⟩
  exact {
    settled := rfl
    clock := hclock
    served := rfl
    isClosed := rfl
    isOpen := rfl
    draining := rfl
    panic := rfl
    output := rfl
    posted := rfl
    active := rfl
    waits := by simp
    idle := fun id x hx => by cases hx
    apart := List.nodup_nil
    numbered := opened_numbered number plan flags source side stats clock }

theorem Progress.run (h : Progress plan before total rest s) (ha : plan.AnswersAlone before) :
    Progress plan before total rest (s.step .run) := by
  obtain ⟨done, debts, left, howes, hleft, hroom, hcome, hkept, htotal⟩ := h
  obtain ⟨hpaid, hnext, hbuffer⟩ := howes.run ha
  refine ⟨_, [], left, hpaid, hleft, by rwa [hnext], by rwa [hbuffer], by rwa [hbuffer], ?_⟩
  rw [htotal, List.append_assoc]
  rfl

theorem Progress.data {octets : Bytes} (h : Progress plan before total (octets ++ rest) s)
    (ha : plan.AnswersAlone before) : Progress plan before total rest (s.step (.data octets)) := by
  obtain ⟨done, debts, left, howes, hleft, hroom, hcome, -, htotal⟩ := h
  rw [← List.append_assoc] at hcome
  -- The lines that are complete now, those that are not, and what stays in the buffer.
  obtain ⟨first, last, kept, rfl, hdecode, hrest, hkept⟩ :=
    Wire.decode_pieces (fun l hl => (hleft l hl).1) hcome
  rw [List.length_append] at hroom
  have hfits : (first.map (·.2)).length + s.nextId < UInt64.size := by
    rw [List.length_map]
    exact Nat.lt_of_le_of_lt (Nat.add_le_add_right (Nat.le_add_right _ _) _) hroom
  have hroutes : ∀ r ∈ first.map (·.2), ∀ route, plan.routes.find? r = some route →
      route.direct.isSome = true := by
    intro r hr
    obtain ⟨l, hl, rfl⟩ := List.mem_map.mp hr
    exact (hleft l (List.mem_append_left _ hl)).2
  obtain ⟨more, htakes, hmore, hnext, hbuffer⟩ := (howes.keeps kept).takes ha hfits hroutes
  have hstep : s.step (.data octets) = ((first.map (·.2)).map Wire.Event.request).foldl onWireEvent
      { s with buffer := kept } := by
    rw [step_data howes.served howes.isClosed, hdecode, List.map_map]
    rfl
  rw [hstep]
  refine ⟨done, debts ++ more, last, htakes, fun l hl => hleft l (List.mem_append_right _ hl), ?_,
    by rwa [hbuffer], by rwa [hbuffer], ?_⟩
  · rw [hnext, List.length_map, ← Nat.add_assoc, Nat.add_comm last.length]
    exact hroom
  · rw [htotal, List.map_append, List.map_append, answers_append, answers_append, hmore,
      List.append_assoc]

/-- A connection comes along as its client sends, whatever the pieces are and whenever work is
done. -/
theorem Progress.after {ops : List SessionOp} (hops : ∀ op ∈ ops, op.Feeds)
    (h : Progress plan before total (ops.flatMap SessionOp.octets ++ rest) s)
    (ha : plan.AnswersAlone before) : Progress plan before total rest (s.after ops) := by
  induction ops generalizing s with
  | nil => exact h
  | cons op ops ih =>
    have hstep : Progress plan before total (ops.flatMap SessionOp.octets ++ rest) (s.step op) := by
      rcases hops op List.mem_cons_self with rfl | ⟨octets, rfl⟩
      · exact h.run ha
      · have hall : Progress plan before total (octets ++ (ops.flatMap SessionOp.octets ++ rest)) s := by
          rw [← List.append_assoc]
          exact h
        exact hall.data ha
    exact ih (fun o ho => hops o (List.mem_cons_of_mem op ho)) hstep

/-- When everything has come, a run pays what is owed. -/
theorem Progress.ends (h : Progress plan before total [] s) (ha : plan.AnswersAlone before) :
    (s.step .run).connection.output = total ∧ (s.step .run).active = [] ∧ (s.step .run).panic = none := by
  obtain ⟨done, debts, left, howes, -, -, hcome, hkept, htotal⟩ := h
  obtain ⟨hpaid, -, -⟩ := howes.run ha
  have hnone : left = [] := by
    cases left with
    | nil => rfl
    | cons l left =>
      refine absurd ?_ hkept
      rw [List.append_nil] at hcome
      rw [hcome]
      simp [Wire.sent]
  subst hnone
  refine ⟨?_, hpaid.active, hpaid.panic⟩
  rw [hpaid.output, htotal]
  exact congrArg (done ++ ·) (List.append_nil _).symm

end

/-- Requests that come one behind the other are answered one by one and in order. A listener was set
up whose filters answer requests by themselves, without closing a connection behind a reply; a
connection of a client was opened, and lines have come on it, in any pieces and with work done at
any time between them, and at the end. Each line was a request that matches no route or one with a
direct response.

What the client is sent are the replies that it would have been sent if each line had come on a
connection of its own, one behind the other in the order of the lines. No stream is in flight. -/
theorem pipelined {τ : Type} {generation : Nat} {faults : FileFaults} {l : Config.Listener} {plan : Plan}
    (hl : l.AnswersAlone) (hplan : Plan.ofListener (.routing generation) faults l = .ok plan)
    {lines : List Bytes} (hlines : ∀ line ∈ lines, ∃ r, plan.Meets line r)
    (hroom : lines.length < UInt64.size) {ops : List SessionOp} (hops : ∀ op ∈ ops, op.Feeds)
    (hcome : ops.flatMap SessionOp.octets = Wire.sent lines) {s : Session σ} (hs : Fresh plan s)
    (alone : Bytes → Session τ) (halone : ∀ line, Fresh plan (alone line)) :
    let s' := s.after (ops ++ [.run])
    s'.connection.output = lines.flatMap (fun line =>
      ((alone line).after [.data (line ++ [Bytes.newline]), .run]).connection.output) ∧
    s'.active = [] ∧ s'.panic = none := by
  obtain ⟨before, ha⟩ := hl.plan hplan
  obtain ⟨pairs, rfl, hpairs⟩ : ∃ pairs : List (Bytes × Request), lines = pairs.map (·.1) ∧
      ∀ p ∈ pairs, plan.Meets p.1 p.2 := by
    clear hroom hcome
    induction lines with
    | nil => exact ⟨[], rfl, by simp⟩
    | cons line lines ih =>
      obtain ⟨r, hr⟩ := hlines line List.mem_cons_self
      obtain ⟨pairs, rfl, hpairs⟩ := ih fun l hl => hlines l (List.mem_cons_of_mem line hl)
      exact ⟨(line, r) :: pairs, rfl, List.forall_mem_cons.mpr ⟨hr, hpairs⟩⟩
  rw [List.length_map] at hroom
  -- On a connection of its own, a request is a list of one.
  have hone : ∀ p ∈ pairs,
      ((alone p.1).after [.data (p.1 ++ [Bytes.newline]), .run]).connection.output =
        (plan.answer before p.2).encode := by
    intro p hp
    have hsingle : ∀ q ∈ [p], plan.Meets q.1 q.2 := by
      intro q hq
      rw [List.mem_singleton.mp hq]
      exact hpairs p hp
    have hfits : [p].length < UInt64.size := by
      rw [List.length_singleton]
      decide
    have hstart := (halone p.1).progress before hsingle hfits
    have hdata : Progress plan before (answers plan before [p.2]) []
        ((alone p.1).step (.data (p.1 ++ [Bytes.newline]))) := hstart.data ha
    exact (hdata.ends ha).1.trans (List.append_nil _)
  have hstart := hs.progress before hpairs hroom
  rw [← hcome, ← List.append_nil (ops.flatMap _)] at hstart
  intro s'
  have hs' : s' = (s.after ops).step .run := by
    show List.foldl _ _ _ = _
    rw [List.foldl_append]
    rfl
  obtain ⟨houtput, hactive, hpanic⟩ := (hstart.after hops ha).ends ha
  rw [hs']
  refine ⟨houtput.trans ?_, hactive, hpanic⟩
  rw [answers, List.flatMap_map, List.flatMap_map]
  exact List.flatMap_congr fun p hp => (hone p hp).symm

/-- Two requests come in three pieces, none of which ends where a line ends, and work is done behind
the first. The first request is changed by a filter and matches no route; the second has a direct
response. -/
theorem pipelined_in_three_pieces :
    let l : Config.Listener :=
      { name := "edge", address := "x"
        routes := [{ name := "books", service := some "books", directResponse := some { message := "hi" } }]
        filters := [{ name := "access_log" },
          { name := "set_metadata", settings := StringMap.ofList
              [("request", .table [("id", .string "9")]), ("response", .table [("via", .string "edge")])] },
          { name := "direct_response" }] }
    let lines : List Bytes := [Bytes.ofText "users get", Bytes.ofText "books put"]
    let ops : List SessionOp := [.data (Bytes.ofText "users g"), .run, .data (Bytes.ofText "et\nbooks "),
      .data (Bytes.ofText "put\n")]
    ∃ plan, Plan.ofListener (.routing 0) (fun _ => none) l = .ok plan ∧ l.AnswersAlone ∧
      (∀ line ∈ lines, ∃ r, plan.Meets line r) ∧
      let s : Session TcpPools := opened 0 plan {} TcpPools.source { pools := {} } (.start "edge" 0) {}
      (s.after (ops ++ [.run])).connection.output =
        Bytes.ofText "not_found \"no route for users.get\" id=9 via=edge\nok \"hi\" id=9 via=edge\n" ∧
      (s.after (ops ++ [.run])).active = [] := by
  intro l lines ops
  -- The first filter answers nothing, the second changes messages, and the third answers.
  have hl : l.AnswersAlone := by
    refine ⟨by simp [l, directName], rfl, fun f hf hname => ?_⟩
    rcases List.mem_cons.mp hf with rfl | hf
    · exact absurd hname (by decide)
    · rcases List.mem_cons.mp hf with rfl | hf
      · decide +kernel
      · rw [List.mem_singleton.mp hf] at hname
        exact absurd hname (by decide)
  obtain ⟨plan, hplan⟩ : ∃ plan, Plan.ofListener (.routing 0) (fun _ => none) l = .ok plan := ⟨_, rfl⟩
  have hlines : ∀ line ∈ lines, ∃ r, plan.Meets line r := by
    have hnone : plan.routes.find? { service := "users", method := "get" } = none := by
      cases hplan
      rfl
    have hsome : (plan.routes.find? { service := "books", method := "put" }).all (·.direct.isSome) =
        true := by
      cases hplan
      rfl
    refine List.forall_mem_cons.mpr ⟨⟨{ service := "users", method := "get" }, ?_, fun route h => ?_⟩,
      List.forall_mem_singleton.mpr ⟨{ service := "books", method := "put" }, ?_, fun route h => ?_⟩⟩
    · exact ⟨by decide +kernel, by decide +kernel, by decide +kernel⟩
    · rw [hnone] at h
      cases h
    · exact ⟨by decide +kernel, by decide +kernel, by decide +kernel⟩
    · rwa [h] at hsome
  refine ⟨plan, hplan, hl, hlines, ?_⟩
  intro s
  have hs : Fresh plan s := ⟨0, {}, _, _, _, {}, fun h => absurd h (by decide), rfl⟩
  have hops : ∀ op ∈ ops, op.Feeds := by
    simp [ops, SessionOp.Feeds]
  obtain ⟨houtput, hactive, -⟩ := pipelined hl hplan hlines (by decide) hops (by decide +kernel) hs
    (fun _ => s) fun _ => hs
  refine ⟨?_, hactive⟩
  -- What is sent for each request alone is computed.
  rw [houtput]
  cases hplan
  decide +kernel

end Session

end RpcProxy

import RpcProxy.Proofs.Session.FilterOrder
import RpcProxy.Proofs.Session.ObservationPoints
import RpcProxy.Proofs.Session.RouterWork

/-!
# Where the route of a stream comes from

The route of a stream is looked up when somebody asks for it first, and filters may change what
routes look at. `RouteKept` says why this does no harm. A stream that has filters has its route by
the time that the first of them is called, as the request came; and what filters and others do with
the request then comes too late. Only a stream without filters may be without a route, and nobody
changes its request.

This is kept by everything that a session does, and holds whenever somebody can ask, see `moments`.
The hard moment is the first one. A stream is told of itself before its request goes on, and the
filter that is told may ask at once; the answer must be that of the request as it came, and the
request must go on as if nobody had asked (`askRoute_ahead`).

`RouteKept` speaks of all streams with a number. That there is one at most is true, but is not
needed and would have to be carried along; and of a number that was not given out yet it says that
there are none.
-/

set_option autoImplicit false

namespace RpcProxy

/-! ## The route of a request

The first entry of the table that fits, if there is one. -/

/-- The first route that matches a request is this one, or no route matches it. -/
def RouteTable.Leads (t : RouteTable) (r : Request) : Option Route → Prop
  | some route => ∃ before m after, t.routes = before ++ (m, route) :: after ∧ m.matches r = true ∧
      ∀ entry ∈ before, entry.1.matches r = false
  | none => ∀ entry ∈ t.routes, entry.1.matches r = false

theorem RouteTable.leads_find? (t : RouteTable) (r : Request) : t.Leads r (t.find? r) := by
  unfold RouteTable.find?
  cases hfound : t.routes.find? fun entry => entry.1.matches r with
  | none => exact fun entry hentry => Bool.eq_false_iff.mpr (List.find?_eq_none.mp hfound entry hentry)
  | some entry =>
    obtain ⟨hmatches, before, after, hsplit, hnone⟩ := List.find?_eq_some_iff_append.mp hfound
    refine ⟨before, entry.1, after, hsplit, hmatches, fun other hother => ?_⟩
    simpa using hnone other hother

/-! ## Streams

Where a stream stands with its route: not asked for yet, or fixed. The two are kept apart since a
filter in front may change the request before anybody asks, but not before the session has. -/

namespace Stream

variable {x y : Stream} {found : Option Route} {request : Request}

/-- A stream answers whoever asks for its route, whatever has become of its request and whether or
not a filter has that in hand, and is none the wiser; its notes have the name of this route. The
request is replaced in the statement, so that it covers all that filters could have made of it. -/
structure Answers (routes : RouteTable) (found : Option Route) (x : Stream) : Prop where
  asked : ∀ (r : Request) (inHand : Bool),
    { x with request := r }.askRoute routes inHand = (found, { x with request := r })
  named : x.info.route = found.map (·.name)

/-- The route of a stream was looked up, and its notes have the name. -/
structure Shown (found : Option Route) (x : Stream) : Prop where
  route : x.route = some found
  named : x.info.route = found.map (·.name)

/-- Nobody has asked for the route of a stream, and its request is as it came. -/
structure Unasked (request : Request) (x : Stream) : Prop where
  route : x.route = none
  named : x.info.route = none
  request : x.request = request

/-- A stream is the same to those who ask for its route. It may have lost filters, but did not get
any. -/
structure SameRoute (x y : Stream) : Prop where
  /-- It has the same number. -/
  id : y.id = x.id
  /-- Its route is what it was. -/
  route : y.route = x.route
  /-- The name of its route is what it was. -/
  named : y.info.route = x.info.route
  /-- Its request is what it was. -/
  request : y.request = x.request
  /-- A stream without filters gets none. -/
  bare : x.slots = [] → y.slots = []

theorem Shown.resolve_eq (h : x.Shown found) (routes : RouteTable) : x.resolve routes = x := by
  unfold Stream.resolve
  rw [h.route]

theorem Shown.askRoute_eq (h : x.Shown found) (routes : RouteTable) (inHand : Bool) :
    x.askRoute routes inHand = (found, x) := by
  unfold Stream.askRoute
  rw [h.resolve_eq, ite_self]
  exact congrArg (·.getD none, x) h.route

theorem Shown.answers (h : x.Shown found) (routes : RouteTable) : x.Answers routes found where
  asked r := Shown.askRoute_eq (x := { x with request := r }) ⟨h.route, h.named⟩ routes
  named := h.named

theorem Unasked.resolve (h : x.Unasked request) (routes : RouteTable) :
    (x.resolve routes).Shown (routes.find? request) := by
  unfold Stream.resolve
  rw [h.route]
  dsimp only
  exact ⟨by rw [h.request], by rw [h.named, h.request, Option.or_none]⟩

theorem Shown.of_sameRoute (h : x.Shown found) (hc : x.SameRoute y) : y.Shown found :=
  ⟨hc.route.trans h.route, hc.named.trans h.named⟩

theorem Unasked.of_sameRoute (h : x.Unasked request) (hc : x.SameRoute y) : y.Unasked request :=
  ⟨hc.route.trans h.route, hc.named.trans h.named, hc.request.trans h.request⟩

theorem SameRoute.refl (x : Stream) : x.SameRoute x := ⟨rfl, rfl, rfl, rfl, fun h => h⟩

theorem SameRoute.recall (ref : RouterRef) (g : Memory → Memory) (x : Stream) :
    x.SameRoute (x.recall ref g) := by
  unfold Stream.recall
  split
  · exact ⟨rfl, rfl, rfl, rfl, fun h => by simp [h]⟩
  · exact SameRoute.refl x

theorem SameRoute.amend (x : Stream) (slot : Nat) (f : AccessLog.Entry → AccessLog.Entry) :
    x.SameRoute (x.amend slot f) :=
  ⟨rfl, rfl, rfl, rfl, fun h => by simp [Stream.amend, h]⟩

theorem SameRoute.complete (x : Stream) (now : Instant) :
    x.SameRoute { x with isCompleted := true, info := x.info.complete now, span := none } := by
  refine ⟨rfl, rfl, ?_, rfl, fun h => h⟩
  unfold StreamInfo.complete
  split
  · rfl
  · rfl

end Stream

namespace Session

variable {σ : Type}

/-- The streams with a number, if there are any, either all have the route of a request or all lack
it; and then they have no filters, which could change the request. -/
structure RouteKept (plan : Plan) (id : StreamId) (request : Request) (s : Session σ) : Prop where
  plans : s.plan = plan
  early : s.nextId ≤ id → ∀ x ∈ s.streams, x.id ≠ id
  led : (∀ x ∈ s.streams, x.id = id → x.Shown (plan.routes.find? request)) ∨
    ∀ x ∈ s.streams, x.id = id → x.Unasked request ∧ x.slots = []

section

variable {plan : Plan} {id other : StreamId} {request : Request} {s s' : Session σ} {x : Stream}

/-! ## What leaves the route of a stream alone

Most work keeps the request and the route of every stream. -/

theorem RouteKept.of_sameRoute (h : RouteKept plan id request s) (hplan : s'.plan = s.plan)
    (hnext : s'.nextId = s.nextId) (hstreams : ∀ y ∈ s'.streams, ∃ x ∈ s.streams, x.SameRoute y) :
    RouteKept plan id request s' where
  plans := hplan.trans h.plans
  early hid y hy := by
    obtain ⟨x, hx, hc⟩ := hstreams y hy
    exact hc.id ▸ h.early (hnext ▸ hid) x hx
  led := by
    refine h.led.imp (fun hled y hy hid => ?_) fun hled y hy hid => ?_
    · obtain ⟨x, hx, hc⟩ := hstreams y hy
      exact (hled x hx (hc.id.symm.trans hid)).of_sameRoute hc
    · obtain ⟨x, hx, hc⟩ := hstreams y hy
      obtain ⟨hasked, hbare⟩ := hled x hx (hc.id.symm.trans hid)
      exact ⟨hasked.of_sameRoute hc, hc.bare hbare⟩

theorem RouteKept.same (h : RouteKept plan id request s) (hplan : s'.plan = s.plan)
    (hnext : s'.nextId = s.nextId) (hstreams : s'.streams = s.streams) :
    RouteKept plan id request s' :=
  h.of_sameRoute hplan hnext fun y hy => ⟨y, hstreams ▸ hy, .refl y⟩

theorem RouteKept.map (h : RouteKept plan id request s) {f : Stream → Stream}
    (hplan : s'.plan = s.plan) (hnext : s'.nextId = s.nextId) (hf : ∀ x : Stream, x.SameRoute (f x))
    (hstreams : s'.streams = s.streams.map f) : RouteKept plan id request s' := by
  refine h.of_sameRoute hplan hnext fun y hy => ?_
  obtain ⟨x, hx, rfl⟩ := List.mem_map.mp (hstreams ▸ hy)
  exact ⟨x, hx, hf x⟩

theorem RouteKept.modifyStream (h : RouteKept plan id request s) {f : Stream → Stream}
    (hf : ∀ x : Stream, x.SameRoute (f x)) (other : StreamId) :
    RouteKept plan id request (s.modifyStream other f) := by
  refine h.map (f := fun x => if x.id = other then f x else x) rfl rfl (fun x => ?_) rfl
  split
  · exact hf x
  · exact .refl x

theorem RouteKept.works (h : RouteKept plan id request s) {ref : RouterRef} (hw : Works ref s s') :
    RouteKept plan id request s' := by
  obtain ⟨ops, -, g, side, notes, panic, -, rfl⟩ := hw
  exact h.map rfl rfl (Stream.SameRoute.recall ref g) rfl

/-- The streams with the number in question are among those that were there. -/
theorem RouteKept.among (h : RouteKept plan id request s) (hplan : s'.plan = s.plan)
    (hnext : s'.nextId ≤ id → s.nextId ≤ id)
    (hstreams : ∀ y ∈ s'.streams, y.id = id → y ∈ s.streams) : RouteKept plan id request s' where
  plans := hplan.trans h.plans
  early hle y hy hid := h.early (hnext hle) y (hstreams y hy hid) hid
  led := h.led.imp (fun hled y hy hid => hled y (hstreams y hy hid) hid)
    fun hled y hy hid => hled y (hstreams y hy hid) hid

theorem RouteKept.foldl {α : Type} {f : Session σ → α → Session σ}
    (hf : ∀ s a, RouteKept plan id request s → RouteKept plan id request (f s a))
    (h : RouteKept plan id request s) (as : List α) : RouteKept plan id request (as.foldl f s) := by
  induction as generalizing s with
  | nil => exact h
  | cons a as ih => exact ih (hf s a h)

theorem RouteKept.afterFilter (h : RouteKept plan id request s) (a : Asides) :
    RouteKept plan id request (s.afterFilter a) := by
  rw [afterFilter_eq]
  exact h.same rfl rfl rfl

/-! ## Ends

A stream that is over still has the route that was found for it. -/

theorem RouteKept.destroySlot (h : RouteKept plan id request s) (x : Stream) (slot : Nat) :
    RouteKept plan id request (s.destroySlot x slot) := by
  unfold Session.destroySlot
  split
  · exact h
  · exact h.afterFilter _
  · exact h.same rfl rfl rfl
  · exact h
  · exact h.works (destroyRouter_works s _)

theorem RouteKept.destroySlots (h : RouteKept plan id request s) (x : Stream) (slots : List Nat) :
    RouteKept plan id request (slots.foldl (fun s i => s.destroySlot x i) s) ∧
      ∀ m ∈ s.destroyMoments x slots, RouteKept plan id request m := by
  induction slots generalizing s with
  | nil => exact ⟨h, List.forall_mem_nil _⟩
  | cons slot rest ih =>
    obtain ⟨hend, hmoments⟩ := ih (h.destroySlot x slot)
    exact ⟨hend, List.forall_mem_cons.mpr ⟨h, hmoments⟩⟩

theorem RouteKept.recordEnd (h : RouteKept plan id request s) (x : Stream) :
    RouteKept plan id request (s.recordEnd x) := by
  unfold Session.recordEnd
  dsimp only
  split
  · exact h.same rfl rfl rfl
  · exact h.same rfl rfl rfl

theorem RouteKept.completeStream (h : RouteKept plan id request s) (other : StreamId) :
    RouteKept plan id request (s.completeStream other) ∧
      ∀ m ∈ s.completeMoments other, RouteKept plan id request m := by
  unfold Session.completeStream completeMoments
  cases s.stream? other with
  | none => exact ⟨h, List.forall_mem_nil _⟩
  | some x =>
    dsimp only
    by_cases hover : x.isCompleted = true
    · rw [if_pos hover, if_pos hover]
      exact ⟨h, List.forall_mem_nil _⟩
    · rw [if_neg hover, if_neg hover]
      exact ((h.recordEnd x).modifyStream (Stream.SameRoute.complete · _) other).destroySlots x _

theorem RouteKept.closeIfDrained (h : RouteKept plan id request s) :
    RouteKept plan id request s.closeIfDrained := by
  unfold Session.closeIfDrained
  split
  · exact h.same rfl rfl rfl
  · exact h

theorem RouteKept.finishStream (h : RouteKept plan id request s) (other : StreamId) :
    RouteKept plan id request (s.finishStream other) := by
  have hover := (h.completeStream other).1
  unfold Session.finishStream
  dsimp only
  split
  · exact hover
  · split
    · exact hover
    · refine RouteKept.closeIfDrained ?_
      have hout : RouteKept plan id request ((s.completeStream other).modifyStream other
          fun x => { x with inserted := false }) :=
        hover.modifyStream (f := fun x => { x with inserted := false })
          (fun _ => ⟨rfl, rfl, rfl, rfl, fun h => h⟩) other
      split
      · exact hout.same rfl rfl rfl
      · exact hout

theorem RouteKept.resetStream (h : RouteKept plan id request s) (other : StreamId) :
    RouteKept plan id request (s.resetStream other) ∧
      ∀ m ∈ s.resetMoments other, RouteKept plan id request m := by
  unfold Session.resetStream resetMoments
  cases s.stream? other with
  | none => exact ⟨h, List.forall_mem_nil _⟩
  | some x =>
    dsimp only
    by_cases hreset : x.isReset = true
    · rw [if_pos hreset, if_pos hreset]
      exact ⟨h, List.forall_mem_nil _⟩
    · rw [if_neg hreset, if_neg hreset]
      have hmarked : RouteKept plan id request
          (s.modifyStream other fun x => { x with isReset := true }) :=
        h.modifyStream (f := fun x => { x with isReset := true })
          (fun _ => ⟨rfl, rfl, rfl, rfl, fun h => h⟩) other
      -- Whether the reset is counted depends on the stream, and the lookup does not.
      generalize hs₁ : (if x.isCompleted = true then
        s.modifyStream other fun x => { x with isReset := true }
        else (s.modifyStream other fun x => { x with isReset := true }).measure fun m =>
          { m with resets := m.resets.inc }) = s₁
      have h₁ : RouteKept plan id request s₁ := by
        rw [← hs₁]
        split
        · exact hmarked
        · exact hmarked.same rfl rfl rfl
      split
      · exact ⟨h₁.finishStream other, (h₁.completeStream other).2⟩
      · exact ⟨h₁, List.forall_mem_nil _⟩

theorem RouteKept.resetStreams (h : RouteKept plan id request s) (ids : List StreamId) :
    RouteKept plan id request (ids.foldl Session.resetStream s) ∧
      ∀ m ∈ s.resetAllMoments ids, RouteKept plan id request m := by
  induction ids generalizing s with
  | nil => exact ⟨h, List.forall_mem_nil _⟩
  | cons other ids ih =>
    obtain ⟨hreset, hfirst⟩ := h.resetStream other
    obtain ⟨hall, hrest⟩ := ih hreset
    exact ⟨hall, List.forall_mem_append.mpr ⟨hfirst, hrest⟩⟩

theorem RouteKept.onConnectionEvent (h : RouteKept plan id request s) (e : ConnectionEvent) :
    RouteKept plan id request (s.onConnectionEvent e) ∧
      ∀ m ∈ s.eventMoments e, RouteKept plan id request m := by
  have hclosed : RouteKept plan id request { s with isClosed := true } := h.same rfl rfl rfl
  cases e with
  | remoteClose | localClose => exact hclosed.resetStreams s.active
  | connected | connectedZeroRtt => exact ⟨h, List.forall_mem_nil _⟩

theorem RouteKept.closeConnection (h : RouteKept plan id request s) (how : CloseType) :
    RouteKept plan id request (s.closeConnection how) ∧
      ∀ m ∈ s.closeMoments how, RouteKept plan id request m := by
  unfold Session.closeConnection closeMoments
  split
  · exact ⟨h, List.forall_mem_nil _⟩
  · have hclosed : RouteKept plan id request { s with connection := s.connection.close how } :=
      h.same rfl rfl rfl
    exact hclosed.onConnectionEvent .localClose

theorem RouteKept.writeToClient (h : RouteKept plan id request s) (data : Bytes) (last : Bool) :
    RouteKept plan id request (s.writeToClient data last) := by
  unfold Session.writeToClient
  dsimp only
  split
  · exact h.same rfl rfl rfl
  · exact h.same rfl rfl rfl

/-! ## Filters

Filters may change the request; the route that was looked up for it stays. All states in between are
kept along, since a filter could ask at any of them. -/

theorem mem_modifyStream {f : Stream → Stream} (hf : ∀ x, (f x).id = x.id) {y : Stream}
    (hy : y ∈ (s.modifyStream other f).streams) :
    ∃ x ∈ s.streams, x.id = y.id ∧ y = if y.id = other then f x else x := by
  obtain ⟨x, hx, rfl⟩ := List.mem_map.mp hy
  by_cases hid : x.id = other
  · rw [if_pos hid]
    exact ⟨x, hx, (hf x).symm, by rw [hf, if_pos hid]⟩
  · rw [if_neg hid]
    exact ⟨x, hx, rfl, by rw [if_neg hid]⟩

theorem RouteKept.elsewhere (h : RouteKept plan id request s) {f : Stream → Stream}
    (hf : ∀ x, (f x).id = x.id) (hne : other ≠ id) :
    RouteKept plan id request (s.modifyStream other f) := by
  refine h.among rfl (fun hle => hle) fun y hy hid => ?_
  obtain ⟨x, hx, -, hyx⟩ := mem_modifyStream hf hy
  rw [if_neg fun he => hne (he.symm.trans hid)] at hyx
  exact hyx ▸ hx

/-- What a filter does with the request comes too late: its stream has its route. -/
theorem RouteKept.edit (h : RouteKept plan id request s) (hx : s.stream? x.id = some x)
    (hslots : x.slots ≠ []) (f : Request → Request) :
    RouteKept plan id request (s.modifyStream x.id fun x => { x with request := f x.request }) := by
  have hid : ∀ y : Stream, { y with request := f y.request }.id = y.id := fun _ => rfl
  by_cases hxid : x.id = id
  · have hmem : x ∈ s.streams := List.mem_of_find?_eq_some hx
    -- A stream that lacks its route has no filters, and this one is with one of them.
    have hled := h.led.resolve_right fun hbare => hslots (hbare x hmem hxid).2
    refine ⟨h.plans, fun hlt => absurd hxid (h.early hlt x hmem), Or.inl fun y hy hyid => ?_⟩
    obtain ⟨z, hz, hzid, hyz⟩ := mem_modifyStream hid hy
    have hshown := hled z hz (hzid.trans hyid)
    rw [hyz]
    split
    · exact ⟨hshown.route, hshown.named⟩
    · exact hshown
  · exact h.elsewhere hid hxid

theorem RouteKept.decodeOne (h : RouteKept plan id request s) (hx : s.stream? x.id = some x)
    (slot : Nat) : RouteKept plan id request (s.decodeOne x slot).2 := by
  unfold Session.decodeOne
  split
  · exact h
  · next b _ hslot =>
    have hslots : x.slots ≠ [] := List.ne_nil_of_mem (List.mem_of_getElem? hslot)
    exact (h.edit hx hslots fun _ => (b.onRequest x.view x.request).message).afterFilter _
  · exact h.modifyStream (Stream.SameRoute.amend · slot _) x.id
  · exact h.works (route_works s _ _ _ _)

theorem RouteKept.decodeThrough (h : RouteKept plan id request s) (other : StreamId)
    (slots : List Nat) :
    RouteKept plan id request (s.decodeThrough other slots) ∧
      ∀ m ∈ s.decodeMoments other slots, RouteKept plan id request m := by
  induction slots generalizing s with
  | nil => exact ⟨h, List.forall_mem_nil _⟩
  | cons slot rest ih =>
    have hpass : RouteKept plan id request (s.pass other) :=
      h.modifyStream (f := fun x => { x with decoded := x.decoded + 1 })
        (fun _ => ⟨rfl, rfl, rfl, rfl, fun h => h⟩) other
    rw [decodeThrough_cons, decodeMoments]
    cases hx : (s.pass other).stream? other with
    | none => exact ⟨hpass, List.forall_mem_nil _⟩
    | some x =>
      have hone := hpass.decodeOne (x := x) (by rwa [stream?_id hx]) slot
      dsimp only
      generalize (s.pass other).decodeOne x slot = met at hone
      obtain ⟨status, s'⟩ := met
      cases status with
      | «continue» =>
        obtain ⟨hend, hrest⟩ := ih hone
        exact ⟨hend, List.forall_mem_cons.mpr ⟨hpass, hrest⟩⟩
      | stop => exact ⟨hone, by simpa using hpass⟩

theorem RouteKept.shown_resolve (h : RouteKept plan id request s) (hx : x ∈ s.streams)
    (hid : x.id = id) :
    (x.resolve plan.routes).Shown (plan.routes.find? request) := by
  rcases h.led with hled | hled
  · rw [(hled x hx hid).resolve_eq]
    exact hled x hx hid
  · exact (hled x hx hid).1.resolve plan.routes

/-- The route is looked up before the request goes on. -/
theorem RouteKept.resolve (h : RouteKept plan id request s) (other : StreamId) :
    RouteKept plan id request (s.modifyStream other (·.resolve s.plan.routes)) := by
  have hf : ∀ x : Stream, (x.resolve s.plan.routes).id = x.id := fun x => resolve_id x _
  by_cases hother : other = id
  · subst hother
    refine ⟨h.plans, fun hlt y hy hid => ?_, Or.inl fun y hy hid => ?_⟩
    · obtain ⟨x, hx, hxid, -⟩ := mem_modifyStream hf hy
      exact h.early hlt x hx (hxid.trans hid)
    · obtain ⟨x, hx, hxid, hyx⟩ := mem_modifyStream hf hy
      rw [hyx, if_pos hid, h.plans]
      exact h.shown_resolve hx (hxid.trans hid)
  · exact h.elsewhere hf hother

/-- Once the route is looked up, the request goes on. -/
theorem continueDecoding_routeKept
    (h : RouteKept plan id request (s.modifyStream other (·.resolve s.plan.routes)))
    (hx : s.stream? other = some x) (hlive : x.isLive = true) :
    RouteKept plan id request (s.continueDecoding other) ∧
      ∀ m ∈ s.decodingMoments other, RouteKept plan id request m := by
  unfold Session.continueDecoding decodingMoments
  rw [hx]
  dsimp only
  rw [hlive]
  exact h.decodeThrough other _

theorem RouteKept.continueDecoding (h : RouteKept plan id request s) (other : StreamId) :
    RouteKept plan id request (s.continueDecoding other) ∧
      ∀ m ∈ s.decodingMoments other, RouteKept plan id request m := by
  cases hx : s.stream? other with
  | none =>
    unfold Session.continueDecoding decodingMoments
    rw [hx]
    exact ⟨h, List.forall_mem_nil _⟩
  | some x =>
    cases hlive : x.isLive with
    | true => exact continueDecoding_routeKept (h.resolve other) hx hlive
    | false =>
      unfold Session.continueDecoding decodingMoments
      rw [hx]
      dsimp only
      rw [hlive]
      exact ⟨h, List.forall_mem_nil _⟩

theorem RouteKept.encodeOne (h : RouteKept plan id request s) (x : Stream) (r : Response)
    (slot : Nat) : RouteKept plan id request (s.encodeOne x r slot).2 := by
  unfold Session.encodeOne
  split
  · next b _ _ =>
    exact RouteKept.afterFilter (h.modifyStream
      (f := fun y => { y with response := some (b.onResponse x.view x.answers r).message })
      (fun _ => ⟨rfl, rfl, rfl, rfl, fun h => h⟩) x.id) _
  · exact h.modifyStream (Stream.SameRoute.amend · slot _) x.id
  · exact h

theorem RouteKept.sendReply (h : RouteKept plan id request s) (other : StreamId) :
    RouteKept plan id request (s.sendReply other) ∧
      ∀ m ∈ s.replyMoments other, RouteKept plan id request m := by
  unfold Session.sendReply replyMoments
  cases s.stream? other with
  | none => exact ⟨h, List.forall_mem_nil _⟩
  | some x =>
    dsimp only
    cases x.response with
    | none => exact ⟨h, List.forall_mem_nil _⟩
    | some r =>
      dsimp only
      split
      · exact ⟨h, List.forall_mem_nil _⟩
      · have hwritten := RouteKept.writeToClient (h.modifyStream (f := fun x =>
            { x with info := { x.info with status := some r.status.code } })
          (fun _ => ⟨rfl, rfl, rfl, rfl, fun h => h⟩) other) r.encode r.asksToClose
        exact ⟨hwritten.finishStream other, (hwritten.completeStream other).2⟩

theorem RouteKept.encodeThrough (h : RouteKept plan id request s) (other : StreamId)
    (slots : List Nat) :
    RouteKept plan id request (s.encodeThrough other slots) ∧
      ∀ m ∈ s.encodeMoments other slots, RouteKept plan id request m := by
  induction slots generalizing s with
  | nil => exact h.sendReply other
  | cons slot rest ih =>
    have hpass : RouteKept plan id request (s.passBack other) :=
      h.modifyStream (f := fun x => { x with encoded := x.encoded + 1 })
        (fun _ => ⟨rfl, rfl, rfl, rfl, fun h => h⟩) other
    have hpassed : (s.modifyStream other fun x => { x with encoded := x.encoded + 1 }) =
      s.passBack other := rfl
    rw [Session.encodeThrough, encodeMoments, hpassed]
    cases (s.passBack other).stream? other with
    | none => exact ⟨hpass, List.forall_mem_nil _⟩
    | some x =>
      dsimp only
      cases x.response with
      | none => exact ⟨hpass, List.forall_mem_nil _⟩
      | some r =>
        -- The moment a filter is asked is one of those looked at; the rest of the chain is the
        -- induction.
        have hone := hpass.encodeOne x r slot
        dsimp only
        generalize (s.passBack other).encodeOne x r slot = met at hone
        obtain ⟨status, s'⟩ := met
        cases status with
        | «continue» =>
          obtain ⟨hend, hrest⟩ := ih hone
          exact ⟨hend, List.forall_mem_cons.mpr ⟨hpass, hrest⟩⟩
        | stop => exact ⟨hone, by simpa using hpass⟩

theorem RouteKept.continueEncoding (h : RouteKept plan id request s) (other : StreamId) :
    RouteKept plan id request (s.continueEncoding other) ∧
      ∀ m ∈ s.encodingMoments other, RouteKept plan id request m := by
  unfold Session.continueEncoding encodingMoments
  cases s.stream? other with
  | none => exact ⟨h, List.forall_mem_nil _⟩
  | some x =>
    dsimp only
    split
    · exact ⟨h, List.forall_mem_nil _⟩
    · exact h.encodeThrough other _

theorem RouteKept.setResponse (h : RouteKept plan id request s) (other : StreamId) (r : Response) :
    RouteKept plan id request (s.modifyStream other (·.setResponse r)) :=
  h.modifyStream (f := (·.setResponse r)) (fun _ => ⟨rfl, rfl, rfl, rfl, fun h => h⟩) other

/-! ## Tasks

What is asked of streams, and runs. -/

theorem RouteKept.perform (h : RouteKept plan id request s) (other : StreamId) (op : StreamOp) :
    RouteKept plan id request (s.perform other op) ∧
      ∀ m ∈ s.performMoments other op, RouteKept plan id request m := by
  cases op with
  | continueDecoding => exact h.continueDecoding other
  | continueEncoding => exact h.continueEncoding other
  | respond r =>
    unfold Session.perform Session.respond performMoments
    dsimp only
    cases s.stream? other with
    | none => exact ⟨h, List.forall_mem_nil _⟩
    | some x =>
      dsimp only
      split
      · exact ⟨h, List.forall_mem_nil _⟩
      · exact (h.setResponse other r).continueEncoding other
  | localReply status update =>
    unfold Session.perform Session.localReply performMoments
    dsimp only
    cases s.stream? other with
    | none => exact ⟨h, List.forall_mem_nil _⟩
    | some x =>
      dsimp only
      have hcounted : RouteKept plan id request
          (s.measure fun m => { m with localReplies := m.localReplies.inc }) := h.same rfl rfl rfl
      have habout : RouteKept plan id request (s.aboutToReply other) :=
        hcounted.modifyStream (f := fun x => { x with info := { x.info with localReply := true } })
          (fun _ => ⟨rfl, rfl, rfl, rfl, fun h => h⟩) other
      -- The reply is set before the filters see it.
      have hreplied := (habout.setResponse other (ownAnswer x status update)).continueEncoding other
      cases hclosed : !x.isLive || !s.isServed with
      | true => exact ⟨h, List.forall_mem_nil _⟩
      | false =>
        cases s.plan.codec.createsReplies with
        | true => exact hreplied
        | false => exact ⟨h.same rfl rfl rfl, List.forall_mem_nil _⟩
  | complete =>
    unfold Session.perform performMoments
    dsimp only
    split
    · exact ⟨h.finishStream other, (h.completeStream other).2⟩
    · exact ⟨h, List.forall_mem_nil _⟩
  | reset => exact h.resetStream other
  | resetConnection =>
    unfold Session.perform performMoments
    dsimp only
    split
    · exact h.closeConnection .noFlush
    · exact ⟨h, List.forall_mem_nil _⟩

theorem RouteKept.runTask (h : RouteKept plan id request s) (t : Task) :
    RouteKept plan id request (s.runTask t) ∧
      ∀ m ∈ s.taskMoments t, RouteKept plan id request m := by
  cases t with
  | stream other op => exact h.perform other op
  | router ref op =>
    cases op with
    | write => exact ⟨h.works (writeCall_works s ref), List.forall_mem_nil _⟩
    | ask op => exact h.perform ref.stream op
    | deliver d => exact ⟨h.works (onDelivery_works s ref d), List.forall_mem_nil _⟩
  | closed =>
    unfold Session.runTask taskMoments
    dsimp only
    split
    · exact h.onConnectionEvent .localClose
    · exact ⟨h, List.forall_mem_nil _⟩

theorem RouteKept.dropStream (h : RouteKept plan id request s) (other : StreamId) :
    RouteKept plan id request (s.dropStream other) := by
  unfold Session.dropStream
  split
  · exact h
  · next x _ =>
    have hlet : RouteKept plan id request
        (x.routers.foldl (fun s slot => s.dropRouter (s.refTo other slot)) s) :=
      h.foldl (fun s slot hs => hs.works (dropRouter_works s _)) x.routers
    exact hlet.among rfl (fun hle => hle) fun y hy _ => (List.mem_filter.mp hy).1

theorem RouteKept.dropUnneeded (h : RouteKept plan id request s) (other : StreamId) :
    RouteKept plan id request (s.dropUnneeded other) := by
  unfold Session.dropUnneeded
  split
  · exact h
  · exact h.dropStream other

theorem RouteKept.clearDeferred (h : RouteKept plan id request s) :
    RouteKept plan id request s.clearDeferred := by
  have hempty : RouteKept plan id request { s with queue := { s.queue with deferred := [] } } :=
    h.same rfl rfl rfl
  exact hempty.foldl (fun _ other hs => hs.dropUnneeded other) s.queue.deferred

theorem RouteKept.dismiss (h : RouteKept plan id request s) :
    RouteKept plan id request s.dismiss := by
  unfold Session.dismiss
  split
  · exact h
  · dsimp only
    refine RouteKept.foldl (fun _ other hs => hs.dropUnneeded other) ?_ s.active
    exact h.same rfl rfl rfl

theorem RouteKept.runUntilIdle (h : RouteKept plan id request s) (fuel : Nat) :
    RouteKept plan id request (runUntilIdle fuel s) ∧
      ∀ m ∈ taken fuel s, RouteKept plan id request m.1 := by
  refine runUntilIdle_history (P := fun past s => RouteKept plan id request s ∧
    ∀ m ∈ past, RouteKept plan id request m.1) ?_ ?_ fuel [] s ⟨h, List.forall_mem_nil _⟩
  · intro past s t rest _ hs
    have hleft : RouteKept plan id request (s.leave rest) := hs.1.same rfl rfl rfl
    exact ⟨(hleft.runTask t).1, List.forall_mem_append.mpr ⟨hs.2, by simpa using hleft⟩⟩
  · exact fun past s hs => ⟨hs.1.clearDeferred, hs.2⟩

/-! ## Beginnings

The one place where a route is looked up. It happens before the first filter sees the request. -/

theorem openSpan_unrouted (s : Session σ) (r : Request) : (s.openSpan r).1.route = none := by
  unfold Session.openSpan
  dsimp only
  split
  · rfl
  · dsimp only
    split
    · rfl
    · rfl

/-- A stream with another number begins. -/
theorem RouteKept.beside (h : RouteKept plan id request s) (hplan : s'.plan = s.plan)
    (hnext : s'.nextId = s.nextId + 1) (hstreams : s'.streams = s.streams ++ [x])
    (hid : x.id = s.nextId) (hne : s.nextId ≠ id) : RouteKept plan id request s' := by
  have hless : s'.nextId ≤ id → s.nextId ≤ id := fun hle => by
    rw [hnext] at hle
    exact Nat.le_of_succ_le hle
  refine h.among hplan hless fun y hy hyid => ?_
  rw [hstreams] at hy
  refine (List.mem_append.mp hy).resolve_right fun hlast => ?_
  obtain rfl := List.mem_singleton.mp hlast
  exact hne (hid.symm.trans hyid)

/-- No other stream has the number of a stream that begins. -/
theorem RouteKept.only (h : RouteKept plan id request s) (hstreams : s'.streams = s.streams ++ [x])
    (hid : s.nextId = id) {y : Stream} (hy : y ∈ s'.streams) (hyid : y.id = id) : y = x := by
  rw [hstreams] at hy
  refine List.mem_singleton.mp ((List.mem_append.mp hy).resolve_left fun hold => ?_)
  exact h.early (Nat.le_of_eq hid) y hold hyid

/-- The stream itself begins, and has no filters. -/
theorem RouteKept.bare (h : RouteKept plan id request s) (hplan : s'.plan = s.plan)
    (hnext : s'.nextId = s.nextId + 1) (hstreams : s'.streams = s.streams ++ [x])
    (hid : s.nextId = id) (hx : x.Unasked request) (hslots : x.slots = []) :
    RouteKept plan id request s' where
  plans := hplan.trans h.plans
  early hle := by
    rw [hnext, hid] at hle
    exact absurd hle (Nat.not_succ_le_self id)
  led := Or.inr fun y hy hyid => by
    obtain rfl := h.only hstreams hid hy hyid
    exact ⟨hx, hslots⟩

/-- The stream itself begins, and its route is looked up. -/
theorem RouteKept.resolved (h : RouteKept plan id request s) (hplan : s'.plan = s.plan)
    (hnext : s'.nextId = s.nextId + 1) (hstreams : s'.streams = s.streams ++ [x])
    (hid : s.nextId = id) (hx : x.Unasked request) :
    RouteKept plan id request (s'.modifyStream id (·.resolve s'.plan.routes)) where
  plans := hplan.trans h.plans
  early hle := by
    have hle : s'.nextId ≤ id := hle
    rw [hnext, hid] at hle
    exact absurd hle (Nat.not_succ_le_self id)
  led := Or.inl fun y hy hyid => by
    obtain ⟨z, hz, hzid, hyz⟩ := mem_modifyStream (fun x => resolve_id x _) hy
    obtain rfl := h.only hstreams hid hz (hzid.trans hyid)
    rw [hyz, if_pos hyid, hplan, h.plans]
    exact hx.resolve plan.routes

theorem RouteKept.beginStream (h : RouteKept plan id request s) (r : Request)
    (hr : ∀ r', (id, StreamEvent.began r') ∈ (s.beginEvents r).map (s.nextId, ·) → r' = request) :
    RouteKept plan id request (s.beginStream r) ∧
      ∀ m ∈ s.beginMoments r, RouteKept plan id request m := by
  unfold beginEvents at hr
  unfold Session.beginStream beginMoments
  dsimp only at hr ⊢
  by_cases hused : s.nextId + 1 ≥ UInt64.size
  · rw [if_pos hused, if_pos hused]
    exact ⟨h.same rfl rfl rfl, List.forall_mem_nil _⟩
  · rw [if_neg hused] at hr
    rw [if_neg hused, if_neg hused]
    -- If the new stream is the one looked at, its request is the one it is said to have begun with.
    have hfirst : s.nextId = id → r = request := fun hid =>
      hr r (List.mem_map.mpr ⟨_, List.mem_cons_self, by rw [hid]⟩)
    obtain ⟨info, span, log, -, hopen⟩ := openSpan_eq { s with nextId := s.nextId + 1 } r
    have hunrouted : info.route = none := by
      have hroute := openSpan_unrouted { s with nextId := s.nextId + 1 } r
      rwa [hopen] at hroute
    rw [hopen]
    dsimp only
    by_cases hstuck : (decide (s.clock.wall < 0) && s.plan.parts.any (·.stamps)) = true
    · rw [if_pos hstuck, if_pos hstuck, if_pos hstuck]
      refine ⟨?_, List.forall_mem_nil _⟩
      by_cases hid : s.nextId = id
      · exact h.bare rfl rfl rfl hid ⟨rfl, hunrouted, hfirst hid⟩ rfl
      · exact h.beside rfl rfl rfl rfl hid
    · rw [if_neg hstuck, if_neg hstuck, if_neg hstuck]
      generalize hx : ({ id := s.nextId, request := r, info, span, inserted := true
                         slots := s.plan.parts.map (Slot.start s.nextId s.clock) } : Stream) = x
      generalize hs₁ : { s with nextId := s.nextId + 1, log }.insertStream x = s₁
      have hplan : s₁.plan = s.plan := by rw [← hs₁]; rfl
      have hnext : s₁.nextId = s.nextId + 1 := by rw [← hs₁]; rfl
      have hstreams : s₁.streams = s.streams ++ [x] := by rw [← hs₁]; rfl
      have hxid : x.id = s.nextId := by rw [← hx]
      by_cases hid : s.nextId = id
      -- The stream looked at begins here: none of that number was there before.
      · have hnone : s.stream? s.nextId = none :=
          List.find?_eq_none.mpr fun y hy he =>
            h.early (Nat.le_of_eq hid) y hy ((beq_iff_eq.mp he).trans hid)
        have hfound : s₁.stream? s.nextId = some x := by
          rw [stream?_append hstreams, hnone, Option.none_or, if_pos hxid]
        have hunasked : x.Unasked request := by
          subst hx
          exact ⟨rfl, hunrouted, hfirst hid⟩
        refine continueDecoding_routeKept ?_ hfound (by rw [← hx]; rfl)
        rw [hid]
        exact h.resolved hplan hnext hstreams hid hunasked
      · exact (h.beside hplan hnext hstreams hxid hid).continueDecoding s.nextId

theorem RouteKept.onWireEvent (h : RouteKept plan id request s) (e : Wire.Event)
    (hr : ∀ r', (id, StreamEvent.began r') ∈ s.wireActs [e] → r' = request) :
    RouteKept plan id request (s.onWireEvent e) ∧
      ∀ m ∈ s.arrivalMoments e, RouteKept plan id request m := by
  unfold Session.onWireEvent arrivalMoments
  by_cases hbroken : s.panic.isSome = true
  · rw [if_pos hbroken, if_pos hbroken]
    exact ⟨h, List.forall_mem_nil _⟩
  · rw [if_neg hbroken, if_neg hbroken]
    cases e with
    | request r =>
      refine h.beginStream r fun r' hr' => hr r' ?_
      unfold wireActs
      dsimp only
      rw [if_neg hbroken]
      exact List.mem_append_left _ hr'
    | failure =>
      have hcounted : RouteKept plan id request
          (s.measure fun m => { m with decodingErrors := m.decodingErrors.inc }) := h.same rfl rfl rfl
      obtain ⟨hreset, hmoments⟩ := hcounted.resetStreams s.active
      exact ⟨hreset.same rfl rfl rfl, hmoments⟩

theorem RouteKept.onWireEvents (h : RouteKept plan id request s) (events : List Wire.Event)
    (hr : ∀ r', (id, StreamEvent.began r') ∈ s.wireActs events → r' = request) :
    RouteKept plan id request (events.foldl Session.onWireEvent s) ∧
      ∀ m ∈ s.wireMoments events, RouteKept plan id request m := by
  induction events generalizing s with
  | nil => exact ⟨h, List.forall_mem_nil _⟩
  | cons e events ih =>
    obtain ⟨hone, hfirst⟩ := h.onWireEvent e fun r' hr' => hr r' <| by
      simp only [wireActs, List.append_nil] at hr' ⊢
      exact List.mem_append_left _ hr'
    obtain ⟨hall, hrest⟩ := ih hone fun r' hr' => hr r' (List.mem_append_right _ hr')
    exact ⟨hall, List.forall_mem_append.mpr ⟨hfirst, hrest⟩⟩

/-! ## Runs

Every moment of every operation is one of those above. -/

theorem RouteKept.step (h : RouteKept plan id request s) (op : SessionOp)
    (hr : ∀ r', (id, StreamEvent.began r') ∈ s.begunIn op → r' = request) :
    RouteKept plan id request (s.step op) ∧
      ∀ m ∈ s.clientMoments op, RouteKept plan id request m := by
  -- What concerns the connection is for sessions that are served.
  have hserved : ∀ {s' : Session σ} {ms : List (Session σ)},
      (RouteKept plan id request s' ∧ ∀ m ∈ ms, RouteKept plan id request m) →
      RouteKept plan id request (if s.isServed then s' else s) ∧
        ∀ m ∈ if s.isServed then ms else [], RouteKept plan id request m := by
    intro s' ms hs
    split
    · exact hs
    · exact ⟨h, List.forall_mem_nil _⟩
  cases op with
  | data octets =>
    unfold begunIn at hr
    unfold Session.step clientMoments Session.onClientData
    dsimp only at hr ⊢
    by_cases hs : s.isServed = true
    · by_cases hc : s.isClosed = true
      · rw [if_pos hs, if_pos hc, if_neg (by simp [hc])]
        exact ⟨h.same rfl rfl rfl, List.forall_mem_nil _⟩
      · have hopen : (s.isServed && !s.isClosed) = true := by simp [hs, hc]
        rw [if_pos hopen] at hr
        rw [if_pos hs, if_neg hc, if_pos hopen]
        have hread : RouteKept plan id request
            { s with buffer := (Wire.decode (s.buffer ++ octets)).2 } :=
          h.same rfl rfl rfl
        exact hread.onWireEvents (Wire.decode (s.buffer ++ octets)).1 hr
    · rw [if_neg hs, if_neg (by simp [hs])]
      exact ⟨h.same rfl rfl rfl, List.forall_mem_nil _⟩
  | request r =>
    unfold begunIn at hr
    unfold Session.step clientMoments
    dsimp only at hr ⊢
    split
    · next hs => exact h.beginStream r fun r' hr' => hr r' (by rwa [if_pos hs])
    · exact ⟨h, List.forall_mem_nil _⟩
  | event e => exact hserved (h.onConnectionEvent e)
  | close how => exact hserved (h.closeConnection how)
  | resetAll => exact hserved (h.resetStreams s.active)
  | drainCheck =>
    unfold Session.step clientMoments
    dsimp only
    split
    · exact ⟨h.closeIfDrained, List.forall_mem_nil _⟩
    · exact ⟨h, List.forall_mem_nil _⟩
  | stream other op => exact ⟨(h.perform other op).1, List.forall_mem_nil _⟩
  | hold other =>
    unfold Session.step clientMoments
    dsimp only
    split
    · exact ⟨h.same rfl rfl rfl, List.forall_mem_nil _⟩
    · exact ⟨h, List.forall_mem_nil _⟩
  | release other =>
    have hreleased : RouteKept plan id request { s with held := s.held.erase other } :=
      h.same rfl rfl rfl
    exact ⟨hreleased.dropUnneeded other, List.forall_mem_nil _⟩
  | run => exact ⟨(h.runUntilIdle s.effort).1, List.forall_mem_nil _⟩
  | clearDeferred => exact ⟨h.clearDeferred, List.forall_mem_nil _⟩
  | dismiss => exact ⟨h.dismiss, List.forall_mem_nil _⟩
  | closeQuietly | drain | ask | deliver | advance =>
    exact ⟨h.same rfl rfl rfl, List.forall_mem_nil _⟩

theorem RouteKept.takenIn (h : RouteKept plan id request s) (op : SessionOp) :
    ∀ m ∈ s.takenIn op, RouteKept plan id request m.1 := by
  cases op with
  | stream other op => exact List.forall_mem_singleton.mpr h
  | run => exact (h.runUntilIdle s.effort).2
  | _ => exact List.forall_mem_nil _

theorem RouteKept.moments (h : RouteKept plan id request s) (ops : List SessionOp)
    (hr : ∀ r', (id, StreamEvent.began r') ∈ s.acts ops → r' = request) :
    ∀ m ∈ s.moments ops, RouteKept plan id request m := by
  induction ops generalizing s with
  | nil => exact List.forall_mem_singleton.mpr h
  | cons op ops ih =>
    obtain ⟨hstep, hclient⟩ := h.step op fun r' hr' =>
      hr r' (List.mem_append_left _ (List.mem_append_left _ hr'))
    have hrest := ih hstep fun r' hr' => hr r' (List.mem_append_right _ hr')
    refine List.forall_mem_append.mpr ⟨List.forall_mem_cons.mpr ⟨h, ?_⟩, hrest⟩
    refine List.forall_mem_append.mpr ⟨hclient, fun m hm => ?_⟩
    obtain ⟨taken, htaken, hm⟩ := List.mem_flatMap.mp hm
    have hnow := h.takenIn op taken htaken
    rcases List.mem_cons.mp hm with rfl | hm
    · exact hnow
    · exact (hnow.runTask taken.2).2 m hm

/-! ## Asking

Whoever asks for the route is told what was found then, and asking again changes nothing. -/

theorem RouteKept.askRoute (h : RouteKept plan id request s) (hx : s.stream? id = some x) :
    (s.askRoute id).1 = plan.routes.find? request ∧
      ∀ y, (s.askRoute id).2.stream? id = some y →
        y.Answers plan.routes (plan.routes.find? request) := by
  have hshown := h.shown_resolve (List.mem_of_find?_eq_some hx) (stream?_id hx)
  have hafter : (s.modifyStream id (·.resolve plan.routes)).stream? id = some (x.resolve plan.routes) :=
    stream?_modifyStream_same (fun x => resolve_id x _) hx
  unfold Session.askRoute
  rw [hx, h.plans]
  refine ⟨congrArg (·.getD none) hshown.route, fun y hy => ?_⟩
  obtain rfl := Option.some.inj (hafter.symm.trans hy)
  exact hshown.answers plan.routes

theorem RouteKept.answers (h : RouteKept plan id request s) (hx : s.stream? id = some x)
    (hslots : x.slots ≠ []) :
    x.Answers plan.routes (plan.routes.find? request) ∧
      s.askRoute id = (plan.routes.find? request, s) := by
  have hmem : x ∈ s.streams := List.mem_of_find?_eq_some hx
  have hled := h.led.resolve_right fun hbare => hslots (hbare x hmem (stream?_id hx)).2
  refine ⟨(hled x hmem (stream?_id hx)).answers plan.routes, Prod.ext (h.askRoute hx).1 ?_⟩
  have hsame : (s.streams.map fun y => if y.id = id then y.resolve s.plan.routes else y) =
      s.streams := by
    refine (List.map_congr_left fun y hy => ?_).trans (List.map_id' s.streams)
    split
    · next hid => exact (hled y hy hid).resolve_eq s.plan.routes
    · rfl
  exact congrArg (fun streams => { s with streams }) hsame

end

/-- A filter may ask as soon as it is told of its stream, before the request goes on. It is told the
route of the request as it came, and the request goes on as if nobody had asked. -/
theorem askRoute_ahead {s : Session σ} {x : Stream} (hx : s.stream? x.id = some x)
    (hnone : x.route = none) (hlive : x.isLive = true) :
    (s.askRoute x.id).1 = s.plan.routes.find? x.request ∧
      (s.askRoute x.id).2.continueDecoding x.id = s.continueDecoding x.id := by
  have hafter : (s.modifyStream x.id (·.resolve s.plan.routes)).stream? x.id =
      some (x.resolve s.plan.routes) := stream?_modifyStream_same (fun y => resolve_id y _) hx
  have hagain : (s.modifyStream x.id (·.resolve s.plan.routes)).modifyStream x.id
      (·.resolve s.plan.routes) = s.modifyStream x.id (·.resolve s.plan.routes) := by
    refine (modifyStream_modifyStream (f := (·.resolve s.plan.routes))
      (g := (·.resolve s.plan.routes)) fun y => resolve_id y _).trans ?_
    simp only [resolve_resolve]
  have hresolve : x.resolve s.plan.routes = { x with
      route := some (s.plan.routes.find? x.request)
      info := (x.resolve s.plan.routes).info } := by
    unfold Stream.resolve
    rw [hnone]
  constructor
  · unfold Session.askRoute
    rw [hx]
    exact congrArg (·.route.getD none) hresolve
  · show (s.modifyStream x.id (·.resolve s.plan.routes)).continueDecoding x.id = _
    unfold Session.continueDecoding
    rw [hafter, hx]
    dsimp only
    rw [resolve_isLive, hlive, hresolve]
    exact congrArg (·.decodeThrough x.id (x.decoders.drop x.decoded)) hagain

/-- The route of a stream is that of its request as it came. A connection of a client was opened,
with filters that change requests as they like, and things have happened to it in any order. A
stream has begun with a request. Then a route was found for the request, the first one that matches
it, or there is none; and whoever asks for the route of the stream, whenever he can, is told just
that.

A stream that has filters keeps it from the first of them on: asking changes nothing, even while a
filter has the request in hand and has changed it, and the notes of the stream have the name of the
route. A stream without filters may have to look it up when it is asked, and keeps it from then
on. -/
theorem route_fixed (number : Nat) (plan : Plan) (flags : Flags) (source : PoolSource σ)
    (side : HostSide σ) (stats : ListenerStats) (clock : Clock) (ops : List SessionOp)
    (id : StreamId) (request : Request) (rest : List StreamEvent) (s₀ : Session σ)
    (hs₀ : s₀ = opened number plan flags source side stats clock)
    (hcourse : s₀.course id ops = .began request :: rest) :
    ∃ found, plan.routes.Leads request found ∧
      ∀ m ∈ s₀.moments ops, ∀ x, m.stream? id = some x →
        (x.slots ≠ [] → x.Answers plan.routes found ∧ m.askRoute id = (found, m)) ∧
        (m.askRoute id).1 = found ∧
        ∀ y, (m.askRoute id).2.stream? id = some y → y.Answers plan.routes found := by
  have htraced : Traced plan id (s₀.course id ops) (s₀.after ops) :=
    hs₀ ▸ opened_traced number plan flags source side stats clock ops id
  -- The stream has begun, and begins once.
  have honce : ∀ r', (id, StreamEvent.began r') ∈ s₀.acts ops → r' = request := by
    intro r' hr'
    have hmem : .began r' ∈ s₀.course id ops := List.mem_filterMap.mpr ⟨_, hr', if_pos rfl⟩
    have hbegun : id < (s₀.after ops).nextId := Nat.lt_of_not_le fun hle => by
      rw [htraced.early hle] at hcourse
      cases hcourse
    obtain ⟨parts, first, vs, c, done, -, hevents, -⟩ := htraced.begun hbegun
    have hfirst : request = first := hevents.began_mem (hcourse ▸ List.mem_cons_self)
    exact (hevents.began_mem hmem).trans hfirst.symm
  have hrouteKept : RouteKept plan id request s₀ := by
    subst hs₀
    exact ⟨rfl, fun _ => List.forall_mem_nil _, Or.inl (List.forall_mem_nil _)⟩
  refine ⟨_, plan.routes.leads_find? request, fun m hm x hx => ?_⟩
  have hnow := hrouteKept.moments ops honce m hm
  exact ⟨hnow.answers hx, hnow.askRoute hx⟩

/-- A filter sets the property by which routes are told apart, and stops the request. The stream
goes on later, and still has the route that its request would not lead to any more. -/
theorem route_fixed_rewritten_property :
    let upgrade : Behaviour :=
      { onRequest := fun _ r => { message := r.set "tier" "gold", status := .stop } }
    let plan : Plan :=
      { label := "edge", parts := [⟨.decoder, .plain upgrade⟩, ⟨.decoder, .plain {}⟩]
        routes := ⟨[({ properties := .ofList [("tier", "gold")] }, { name := "gold" }),
          ({}, { name := "all" })]⟩ }
    let s₀ := opened 0 plan {} TcpPools.source { pools := {} } (.start "edge" 0) {}
    let request : Request :=
      { service := "users", method := "get", properties := .ofList [("tier", "tin")] }
    let ops : List SessionOp := [.request request, .ask 0 .continueDecoding, .run]
    let s := s₀.after ops
    ∃ x found, s.stream? 0 = some x ∧ x.decoded = 2 ∧
      (plan.routes.find? x.request).map (·.name) = some "gold" ∧
      found.map (·.name) = some "all" ∧ plan.routes.Leads request found ∧
      x.Answers plan.routes found ∧ s.askRoute 0 = (found, s) := by
  intro upgrade plan s₀ request ops s
  have hcourse : s₀.course 0 ops = .began request :: (s₀.course 0 ops).tail := by decide +kernel
  obtain ⟨found, hleads, hmoments⟩ := route_fixed 0 plan {} TcpPools.source { pools := {} }
    (.start "edge" 0) {} ops 0 request (s₀.course 0 ops).tail s₀ rfl hcourse
  -- The first filter rewrites the property that the routes look at, after the route was fixed.
  have hfacts : (s.stream? 0).map (fun x => (x.decoded, x.slots.length, x.info.route,
      (plan.routes.find? x.request).map (·.name))) = some (2, 2, some "all", some "gold") := by
    decide +kernel
  obtain ⟨x, hx, hfacts⟩ := Option.map_eq_some_iff.mp hfacts
  simp only [Prod.mk.injEq] at hfacts
  obtain ⟨hdecoded, hlength, hnamed, hnow⟩ := hfacts
  obtain ⟨hanswers, hasked⟩ := (hmoments s (after_mem_moments s₀ ops) x hx).1 fun hnil => by
    rw [hnil] at hlength
    cases hlength
  exact ⟨x, found, hx, hdecoded, hnow, hanswers.named.symm.trans hnamed, hleads, hanswers, hasked⟩

end Session

end RpcProxy

import Mathlib.Data.List.Forall2
import RpcProxy.Proofs.Config.Chains
import RpcProxy.Proofs.Session.FilterOrder
import RpcProxy.Proofs.Session.ReplyLines

/-!
# Chains that answer by themselves

A filter for direct responses answers a request as soon as it comes to it. If the filters before it,
and those that the reply passes, do no more than change messages (`Part.OnlyChanges`), then the
reply depends on the request alone: not on the stream, nor on what else the connection is busy with.
`Plan.answer` is that reply.

A request is taken up in two pieces of work with other work between them. First its stream begins,
and a task for the reply is posted (`beginStream_asks`). When the task comes to run, the reply is
written and the stream is over (`localReply_answers`). Either piece touches no stream but its own.

What a piece of work changes is said by an equation between two sessions (`Within`), with the
streams, the counters and the log left open. For the streams there is `Local`, since only one of
them may change. The two together let a proof rewrite a session and still know every other stream to
be what it was.
-/

set_option autoImplicit false

namespace RpcProxy

/-! ## Filters that change messages

Filters that ask for nothing and let every message pass. What such filters make of a message is a
function of the message. -/

/-- What is shown to filters that do not look at it. -/
def nobody : StreamView := { id := 0, route := none, isReset := false }

/-- A filter that does no more than change messages, those of all streams alike and at all times. It
is compared with what it does when it is shown no stream at all, as it must not look. -/
structure Part.OnlyChanges (p : Part) : Prop where
  router : p.isRouter = false
  request : ∀ view r, p.onRequest view r = { message := (p.onRequest nobody r).message }
  response : ∀ view number r,
    p.onResponse view number r = { message := (p.onResponse nobody 1 r).message }

def directPart : Part := ⟨.decoder, .plain directResponse⟩

/-- What a filter for direct responses says to a request. -/
def directStatus (route : Option Route) (r : Request) : Status :=
  (route.bind (·.direct)).getD (noRoute r)

theorem directResponse_onRequest (view : StreamView) (r : Request)
    (h : ∀ route, view.route = some route → route.direct.isSome = true) :
    directResponse.onRequest view r =
      { message := r, asks := [(view.id, .localReply (directStatus view.route r) .nothing)]
        status := .stop } := by
  unfold directResponse directStatus
  dsimp only
  cases hroute : view.route with
  | none => rfl
  | some route =>
    obtain ⟨status, hstatus⟩ := Option.isSome_iff_exists.mp (h route hroute)
    dsimp only
    rw [hstatus, Option.bind_some, hstatus]
    rfl

/-- A request behind filters that change it. -/
def Request.past (before : List Part) (r : Request) : Request :=
  before.foldl (fun r p => (p.onRequest nobody r).message) r

/-- A chain that answers by itself: the filters `before` let every request pass to one that answers
it, and those that the reply passes neither hold it up nor ask for the end of the connection. What
stands behind the filter that answers never sees a request, but may see the reply. -/
structure Plan.AnswersAlone (plan : Plan) (before : List Part) : Prop where
  path : ∃ behind, plan.decoders = before ++ directPart :: behind
  requests : ∀ p ∈ before, p.OnlyChanges
  responses : ∀ p ∈ plan.encoders, p.OnlyChanges
  stays : ∀ p ∈ plan.encoders, ∀ r : Response, r.asksToClose = false →
    (p.onResponse nobody 1 r).message.asksToClose = false
  /-- Nothing is asked for at the end of a stream. -/
  ends : ∀ p ∈ plan.parts, ∀ id, (p.onEnd id).asks = []
  replies : plan.codec.createsReplies = true

/-- The status with which such a chain answers a request. -/
def Plan.status (plan : Plan) (before : List Part) (r : Request) : Status :=
  directStatus (plan.routes.find? r) (r.past before)

/-- The reply of such a chain to a request. -/
def Plan.answer (plan : Plan) (before : List Part) (r : Request) : Response :=
  behindAll plan.parts nobody 1 (.answering (plan.status before r) (r.past before))

theorem Response.answering_asksToClose (status : Status) (origin : Request) :
    (Response.answering status origin).asksToClose = false := by
  unfold Response.answering
  split
  · simp [Response.asksToClose, Response.get?, Response.set, idKey, show (({} : Properties).find?
      "connection") = none from rfl]
  · rfl

theorem Plan.AnswersAlone.answer_asksToClose {plan : Plan} {before : List Part}
    (h : plan.AnswersAlone before) (r : Request) : (plan.answer before r).asksToClose = false := by
  have hall : ∀ (ps : List Part), (∀ p ∈ ps, p ∈ plan.encoders) → ∀ r : Response,
      r.asksToClose = false →
      (ps.foldl (fun r p => (p.onResponse nobody 1 r).message) r).asksToClose = false := by
    intro ps
    induction ps with
    | nil => exact fun _ r hr => hr
    | cons p ps ih =>
      intro hps r hr
      exact ih (fun q hq => hps q (List.mem_cons_of_mem p hq)) _
        (h.stays p (hps p List.mem_cons_self) r hr)
  exact hall _ (fun p hp => List.mem_reverse.mp hp) _ (Response.answering_asksToClose _ _)

/-! ## The places of filters

The same filters, told by their places in the chain of a stream. -/

theorem forall₂_filterMap {α β : Type} {f : α → Option β} {l : List α}
    (h : ∀ a ∈ l, (f a).isSome = true) : List.Forall₂ (fun a b => f a = some b) l (l.filterMap f) := by
  induction l with
  | nil => exact .nil
  | cons a l ih =>
    obtain ⟨b, hb⟩ := Option.isSome_iff_exists.mp (h a List.mem_cons_self)
    rw [List.filterMap_cons_some hb]
    exact .cons hb (ih fun a ha => h a (List.mem_cons_of_mem _ ha))

theorem forall₂_requestPath (parts : List Part) :
    List.Forall₂ (fun i p => parts[i]? = some p) (requestPath parts)
      (parts.filter (·.side.decodes)) := by
  rw [← filterMap_range_filter]
  refine forall₂_filterMap fun i hi => ?_
  obtain ⟨p, hp, -⟩ := (Option.any_eq_true _ _).mp (List.mem_filter.mp hi).2
  rw [hp]
  rfl

theorem forall₂_responsePath (parts : List Part) :
    List.Forall₂ (fun i p => parts[i]? = some p) (responsePath parts)
      (parts.filter (·.side.encodes)).reverse := by
  rw [responsePath, ← filterMap_range_filter, List.forall₂_reverse_iff]
  refine forall₂_filterMap fun i hi => ?_
  obtain ⟨p, hp, -⟩ := (Option.any_eq_true _ _).mp (List.mem_filter.mp hi).2
  rw [hp]
  rfl

/-- The filters of a stream at some places. -/
def Stream.Has (x : Stream) (slots : List Nat) (ps : List Part) : Prop :=
  List.Forall₂ (fun i p => (x.slots[i]?).map (·.part) = some p) slots ps

theorem Stream.Has.congr {x y : Stream} {slots : List Nat} {ps : List Part} (h : x.Has slots ps)
    (hparts : y.slots.map (·.part) = x.slots.map (·.part)) : y.Has slots ps :=
  h.imp fun i _ hi => (Stream.part_congr hparts i).trans hi

/-- None of the routers of a stream has asked for a connection, so there is nothing to let go of
when it ends. -/
def Stream.Idle (x : Stream) : Prop := ∀ slot r, x.router? slot = some r → r.exchange = none

theorem Stream.resolve_steady (x : Stream) (routes : RouteTable) :
    (x.resolve routes).inserted = x.inserted ∧ (x.resolve routes).slots = x.slots := by
  unfold Stream.resolve
  split
  · exact ⟨rfl, rfl⟩
  · exact ⟨rfl, rfl⟩

/-- A stream that is in flight with a certain request. -/
structure Stream.Waits (plan : Plan) (request : Request) (x : Stream) : Prop where
  request : x.request = request
  parts : x.slots.map (·.part) = plan.parts
  live : x.isLive = true
  inserted : x.inserted = true

namespace Session

variable {σ : Type}

/-! ## Work on one stream

Work that changes one stream and what is logged, and posts what it names. -/

/-- Streams have changed, and what is logged and counted, and `ts` were posted. Everything else is
equal, the connection included. -/
def Within (ts : List Task) (s s' : Session σ) : Prop :=
  ∃ streams stats log, s' = { s with
    streams, stats, log, queue := { s.queue with posted := s.queue.posted ++ ts } }

/-- Moreover, only one stream has changed. -/
structure Local (id : StreamId) (ts : List Task) (s s' : Session σ) : Prop where
  within : Within ts s s'
  self : ∀ x, s.stream? id = some x → ∃ y, s'.stream? id = some y ∧ y.inserted = x.inserted ∧
    (x.Idle → y.Idle)
  others : ∀ other, other ≠ id → s'.stream? other = s.stream? other

section

variable {s s₁ s₂ s₃ : Session σ} {id : StreamId} {ts us : List Task}

theorem Within.trans (h₁ : Within ts s₁ s₂) (h₂ : Within us s₂ s₃) : Within (ts ++ us) s₁ s₃ := by
  obtain ⟨_, _, _, h₁⟩ := h₁
  obtain ⟨streams, stats, log, h₂⟩ := h₂
  exact ⟨streams, stats, log, by rw [h₂, h₁, List.append_assoc]⟩

theorem Within.same (streams : List Stream) (stats : ListenerStats) (log : List LogEvent) :
    Within [] s { s with streams, stats, log } :=
  ⟨streams, stats, log, by rw [List.append_nil]⟩

theorem Within.modifyStream (id : StreamId) (f : Stream → Stream) :
    Within [] s (s.modifyStream id f) :=
  .same _ s.stats s.log

theorem Local.trans (h₁ : Local id ts s₁ s₂) (h₂ : Local id us s₂ s₃) : Local id (ts ++ us) s₁ s₃ where
  within := h₁.within.trans h₂.within
  self x hx := by
    obtain ⟨y, hy, hin, hidle⟩ := h₁.self x hx
    obtain ⟨z, hz, hin', hidle'⟩ := h₂.self y hy
    exact ⟨z, hz, hin'.trans hin, fun h => hidle' (hidle h)⟩
  others other hne := (h₂.others other hne).trans (h₁.others other hne)

theorem Local.told (stats : ListenerStats) (log : List LogEvent) :
    Local id [] s { s with stats, log } where
  within := .same s.streams stats log
  self x hx := ⟨x, hx, rfl, fun h => h⟩
  others _ _ := rfl

theorem Local.refl (id : StreamId) (s : Session σ) : Local id [] s s := .told s.stats s.log

theorem Local.modifyStream {f : Stream → Stream} (hid : ∀ x, (f x).id = x.id)
    (hin : ∀ x, (f x).inserted = x.inserted) (hidle : ∀ x : Stream, x.Idle → (f x).Idle) :
    Local id [] s (s.modifyStream id f) where
  within := .modifyStream id f
  self x hx := ⟨f x, stream?_modifyStream_same hid hx, hin x, hidle x⟩
  others := (OnlyOneChanged.modifyStream hid).others

/-- A change of a stream that leaves its filters alone. -/
theorem Local.touch {f : Stream → Stream} (hid : ∀ x, (f x).id = x.id)
    (hin : ∀ x, (f x).inserted = x.inserted) (hslots : ∀ x, (f x).slots = x.slots) :
    Local id [] s (s.modifyStream id f) := by
  refine .modifyStream hid hin fun x hidle slot r hr => hidle slot r ?_
  unfold Stream.router? at hr ⊢
  rwa [hslots x] at hr

theorem Local.amend (slot : Nat) (fill : AccessLog.Entry → AccessLog.Entry) :
    Local id [] s (s.modifyStream id (·.amend slot fill)) :=
  .modifyStream (fun _ => rfl) (fun _ => rfl) fun x hidle other r hr =>
    hidle other r ((Stream.Alike.amend x slot fill).routers other ▸ hr)

theorem Local.afterFilter (a : Asides) : Local id a.tasks s (s.afterFilter a) := by
  rw [afterFilter_eq]
  exact ⟨⟨s.streams, s.stats, _, rfl⟩, fun x hx => ⟨x, hx, rfl, fun h => h⟩, fun _ _ => rfl⟩

/-! ## Requests

A request passes filters until the one that answers it, which posts the answer. -/

/-- A request passes a filter that does no more than change it. -/
theorem decodeOne_onlyChanges {x : Stream} {slot : Nat} {p : Part}
    (hpart : (x.slots[slot]?).map (·.part) = some p) (hp : p.OnlyChanges) :
    (s.decodeOne x slot).1 = .continue ∧ Local x.id [] s (s.decodeOne x slot).2 := by
  obtain ⟨⟨⟨side, kind⟩, memory⟩, hslot, rfl⟩ := Option.map_eq_some_iff.mp hpart
  unfold Session.decodeOne
  rw [hslot]
  cases kind with
  | plain b =>
    have hverdict : b.onRequest x.view x.request = { message := (b.onRequest nobody x.request).message } :=
      hp.request x.view x.request
    have hset : Local x.id [] s (s.modifyStream x.id fun y =>
        { y with request := (b.onRequest nobody x.request).message }) :=
      .touch (fun _ => rfl) (fun _ => rfl) fun _ => rfl
    dsimp only
    rw [hverdict]
    exact ⟨rfl, hset.trans (.afterFilter {})⟩
  | accessLog sink => exact ⟨rfl, .amend slot _⟩
  | router generation => exact absurd hp.router (by simp [Part.isRouter])

/-- A request that has an answer is stopped by a filter for direct responses. -/
theorem decodeOne_direct {x : Stream} {slot : Nat}
    (hpart : (x.slots[slot]?).map (·.part) = some directPart)
    (hroute : ∀ route, x.route? = some route → route.direct.isSome = true) :
    (s.decodeOne x slot).1 = .stop ∧
      Local x.id [.stream x.id (.localReply (directStatus x.route? x.request) .nothing)] s
        (s.decodeOne x slot).2 := by
  obtain ⟨⟨part, memory⟩, hslot, rfl⟩ := Option.map_eq_some_iff.mp hpart
  have hset : Local x.id [] s (s.modifyStream x.id fun y => { y with request := x.request }) :=
    .touch (fun _ => rfl) (fun _ => rfl) fun _ => rfl
  unfold Session.decodeOne
  rw [hslot]
  dsimp only [directPart]
  rw [directResponse_onRequest x.view x.request hroute]
  exact ⟨rfl, hset.trans (.afterFilter
    { asks := [(x.id, .localReply (directStatus x.route? x.request) .nothing)] })⟩

/-- A request goes through filters that change it, up to one that answers it. -/
theorem decodeThrough_asks {before behind : List Part} (honly : ∀ p ∈ before, p.OnlyChanges) {x : Stream}
    {slots : List Nat} (hx : s.stream? x.id = some x)
    (hroute : ∀ route, x.route? = some route → route.direct.isSome = true)
    (hslots : x.Has slots (before ++ directPart :: behind)) :
    Local x.id [.stream x.id (.localReply (directStatus x.route? (x.request.past before)) .nothing)] s
        (s.decodeThrough x.id slots) ∧
      ∃ y, (s.decodeThrough x.id slots).stream? x.id = some y ∧ y.request = x.request.past before ∧
        y.isLive = x.isLive ∧ y.slots.map (·.part) = x.slots.map (·.part) := by
  -- Whatever the next filter is, the cursor moves on first.
  have hpass : ∀ {s : Session σ} {x : Stream}, s.stream? x.id = some x →
      Local x.id [] s (s.pass x.id) ∧ (s.pass x.id).stream? x.id = some { x with decoded := x.decoded + 1 } :=
    fun hx => ⟨.touch (fun _ => rfl) (fun _ => rfl) fun _ => rfl,
      stream?_modifyStream_same (f := fun y => { y with decoded := y.decoded + 1 }) (fun _ => rfl) hx⟩
  induction before generalizing s x slots with
  | nil =>
    obtain _ | @⟨slot, _, rest, _, hslot, -⟩ := hslots
    obtain ⟨hlocal, hx₁⟩ := hpass hx
    obtain ⟨hstop, hasks⟩ := decodeOne_direct (s := s.pass x.id)
      (x := { x with decoded := x.decoded + 1 }) hslot hroute
    obtain ⟨-, slots', hparts, hfound⟩ := decodeOne_stream? (s := s.pass x.id)
      (x := { x with decoded := x.decoded + 1 }) hx₁ hslot
    rw [decodeThrough_cons, hx₁]
    dsimp only
    generalize (s.pass x.id).decodeOne { x with decoded := x.decoded + 1 } slot = met at *
    obtain ⟨status, s'⟩ := met
    cases hstop
    refine ⟨hlocal.trans hasks, _, hfound, ?_, rfl, hparts⟩
    exact congrArg Verdict.message (directResponse_onRequest _ x.request hroute)
  | cons p before ih =>
    obtain _ | @⟨slot, _, rest, _, hslot, hrest⟩ := hslots
    obtain ⟨hlocal, hx₁⟩ := hpass hx
    have hp := honly p List.mem_cons_self
    obtain ⟨hgo, hone⟩ := decodeOne_onlyChanges (s := s.pass x.id)
      (x := { x with decoded := x.decoded + 1 }) hslot hp
    obtain ⟨-, slots', hparts, hfound⟩ := decodeOne_stream? (s := s.pass x.id)
      (x := { x with decoded := x.decoded + 1 }) hx₁ hslot
    rw [decodeThrough_cons, hx₁]
    dsimp only
    generalize (s.pass x.id).decodeOne { x with decoded := x.decoded + 1 } slot = met at *
    obtain ⟨status, s'⟩ := met
    cases hgo
    rw [hp.request] at hfound
    obtain ⟨hall, y, hy, hrequest, hlive, hys⟩ := ih (fun q hq => honly q (List.mem_cons_of_mem p hq))
      (x := { x with request := _, decoded := x.decoded + 1, slots := slots' }) hfound hroute
      (Stream.Has.congr (x := x) hrest hparts)
    exact ⟨(hlocal.trans hone).trans hall, y, hy, hrequest, hlive, hys.trans hparts⟩

/-- A stream whose request has met no filter goes on with it. -/
theorem continueDecoding_asks {before : List Part} (h : s.plan.AnswersAlone before) {x : Stream}
    (hx : s.stream? x.id = some x) (hparts : x.slots.map (·.part) = s.plan.parts)
    (hdecoded : x.decoded = 0) (hnone : x.route = none) (hlive : x.isLive = true)
    (hroute : ∀ route, s.plan.routes.find? x.request = some route → route.direct.isSome = true) :
    Local x.id [.stream x.id (.localReply (s.plan.status before x.request) .nothing)] s
        (s.continueDecoding x.id) ∧
      ∃ y, (s.continueDecoding x.id).stream? x.id = some y ∧ y.request = x.request.past before ∧
        y.isLive = true ∧ y.slots.map (·.part) = s.plan.parts := by
  have hdo : s.continueDecoding x.id =
      (s.modifyStream x.id (·.resolve s.plan.routes)).decodeThrough x.id x.decoders := by
    unfold Session.continueDecoding
    rw [hx]
    dsimp only
    rw [if_neg (by simp [hlive]), hdecoded]
    rfl
  -- The route is looked up before the first filter sees the request.
  have hlooked := stream?_modifyStream_same (f := (·.resolve s.plan.routes))
    (fun y => resolve_id y _) hx
  have hresolve : Local x.id [] s (s.modifyStream x.id (·.resolve s.plan.routes)) := by
    refine .touch (fun y => resolve_id y _) (fun y => ?_) fun y => ?_
    · exact (y.resolve_steady s.plan.routes).1
    · exact (y.resolve_steady s.plan.routes).2
  generalize s.modifyStream x.id (·.resolve s.plan.routes) = s₁ at hdo hlooked hresolve
  have hy : x.resolve s.plan.routes = { x with
      route := some (s.plan.routes.find? x.request)
      info := { x.info with
        route := ((s.plan.routes.find? x.request).map (·.name)).or x.info.route } } := by
    unfold Stream.resolve
    rw [hnone]
  obtain ⟨behind, hpath⟩ := h.path
  have hhas : x.Has x.decoders (before ++ directPart :: behind) := by
    rw [← hpath, Stream.decoders_eq, hparts]
    refine (forall₂_requestPath s.plan.parts).imp fun i p hi => ?_
    rw [← List.getElem?_map, hparts, hi]
  rw [hy] at hlooked
  obtain ⟨hasks, z, hz, hrequest, hlive', hzparts⟩ := decodeThrough_asks (s := s₁)
    (x := { x with route := some _, info := _ }) h.requests hlooked hroute (hhas.congr rfl)
  rw [hdo]
  exact ⟨hresolve.trans hasks, z, hz, hrequest, hlive'.trans hlive, hzparts.trans hparts⟩

/-- A request comes, and a stream begins for it. -/
theorem beginStream_opens (hn : s.Numbered) (hroom : s.nextId + 1 < UInt64.size)
    (hclock : s.clock.wall < 0 → s.plan.parts.any (·.stamps) = false) (r : Request) :
    ∃ (x : Stream) (stats : ListenerStats) (log : List LogEvent) (s₁ : Session σ),
      s₁ = { s with
        nextId := s.nextId + 1, active := s.active ++ [x.id], streams := s.streams ++ [x], stats, log } ∧
      s.beginStream r = s₁.continueDecoding x.id ∧ s₁.stream? x.id = some x ∧
      (∀ other, other ≠ x.id → s₁.stream? other = s.stream? other) ∧
      x.id = s.nextId ∧ x.request = r ∧ x.slots = s.plan.parts.map (Slot.start s.nextId s.clock) ∧
      x.decoded = 0 ∧ x.route = none ∧ x.isLive = true ∧ x.inserted = true := by
  have hstuck : (decide (s.clock.wall < 0) && s.plan.parts.any (·.stamps)) = false := by
    rw [Bool.and_eq_false_imp]
    exact fun hwall => hclock (of_decide_eq_true hwall)
  unfold Session.beginStream
  dsimp only
  rw [if_neg (Nat.not_le.mpr hroom)]
  obtain ⟨info, span, log, -, hopen⟩ := openSpan_eq { s with nextId := s.nextId + 1 } r
  rw [hopen, hstuck]
  simp only [Bool.false_eq_true, if_false]
  refine ⟨_, _, log, _, rfl, rfl, (modifyStream_append (f := fun y => y) hn rfl rfl).1,
    fun other hne => ?_, rfl,
    rfl, rfl, rfl, rfl, rfl, rfl⟩
  rw [stream?_append rfl, if_neg (Ne.symm hne), Option.or_none]

/-- A request comes, its stream begins, and the task for its reply is posted. -/
theorem beginStream_asks {before : List Part} (h : s.plan.AnswersAlone before) (hn : s.Numbered)
    (hroom : s.nextId + 1 < UInt64.size)
    (hclock : s.clock.wall < 0 → s.plan.parts.any (·.stamps) = false) {r : Request}
    (hroute : ∀ route, s.plan.routes.find? r = some route → route.direct.isSome = true) :
    (∃ streams stats log, s.beginStream r = { s with
      nextId := s.nextId + 1, active := s.active ++ [s.nextId], streams, stats, log
      queue := s.queue.post (.stream s.nextId (.localReply (s.plan.status before r) .nothing)) }) ∧
    (∃ x, (s.beginStream r).stream? s.nextId = some x ∧ x.Waits s.plan (r.past before) ∧ x.Idle) ∧
    ∀ other, other ≠ s.nextId → (s.beginStream r).stream? other = s.stream? other := by
  obtain ⟨x, stats, log, s₁, hs₁, hbegin, hx, hothers, hid, rfl, hslots, hdecoded, hnone, hlive, hin⟩ :=
    beginStream_opens hn hroom hclock r
  have hplan : s₁.plan = s.plan := by rw [hs₁]
  have hparts : x.slots.map (·.part) = s.plan.parts := start_parts hslots
  have hidle : x.Idle := by
    intro slot r hr
    rw [start_blank hslots hr]
  rw [hbegin, ← hplan]
  rw [← hplan] at h hroute hparts
  obtain ⟨hlocal, y, hy, hrequest, hlive', hys⟩ :=
    continueDecoding_asks h hx hparts hdecoded hnone hlive hroute
  obtain ⟨streams, stats', log', hsame⟩ := hlocal.within
  rw [← hid]
  refine ⟨⟨streams, stats', log', by rw [hsame, hs₁, hid]; rfl⟩, ?_,
    fun other hne => (hlocal.others other hne).trans
    (hothers other hne)⟩
  obtain ⟨z, hz, hzin, hzidle⟩ := hlocal.self x hx
  obtain rfl := Option.some.inj (hy.symm.trans hz)
  exact ⟨y, hy, ⟨hrequest, hys, hlive', hzin.trans hin⟩, hzidle hidle⟩

/-! ## Replies

The answer passes the filters of its way and is written. The stream is over behind it, and waits to
be dropped. -/

/-- A response passes a filter that does no more than change it. -/
theorem encodeOne_onlyChanges {x : Stream} {slot : Nat} {p : Part} (r : Response)
    (hpart : (x.slots[slot]?).map (·.part) = some p) (hp : p.OnlyChanges) :
    (s.encodeOne x r slot).1 = .continue ∧ Local x.id [] s (s.encodeOne x r slot).2 := by
  obtain ⟨⟨⟨side, kind⟩, memory⟩, hslot, rfl⟩ := Option.map_eq_some_iff.mp hpart
  unfold Session.encodeOne
  rw [hslot]
  cases kind with
  | plain b =>
    have hverdict : b.onResponse x.view x.answers r =
        { message := (b.onResponse nobody 1 r).message } := hp.response x.view x.answers r
    have hset : Local x.id [] s (s.modifyStream x.id fun y =>
        { y with response := some (b.onResponse nobody 1 r).message }) :=
      .touch (fun _ => rfl) (fun _ => rfl) fun _ => rfl
    dsimp only
    rw [hverdict]
    exact ⟨rfl, hset.trans (.afterFilter {})⟩
  | accessLog sink => exact ⟨rfl, .amend slot _⟩
  | router generation => exact absurd hp.router (by simp [Part.isRouter])

/-- A response goes through filters that change it. -/
theorem encodeOnly_onlyChanges {ps : List Part} (honly : ∀ p ∈ ps, p.OnlyChanges) {x : Stream} {r : Response}
    {slots : List Nat} (hx : s.stream? x.id = some x) (hr : x.response = some r)
    (hslots : x.Has slots ps) :
    (s.encodeOnly x.id slots).1 = .continue ∧ Local x.id [] s (s.encodeOnly x.id slots).2 ∧
      ∃ y, (s.encodeOnly x.id slots).2.stream? x.id = some y ∧
        y.response = some (ps.foldl (fun r p => (p.onResponse nobody 1 r).message) r) ∧
        y.isCompleted = x.isCompleted ∧ y.slots.map (·.part) = x.slots.map (·.part) := by
  induction ps generalizing s x r slots with
  | nil =>
    obtain _ | _ := hslots
    exact ⟨rfl, .refl x.id s, x, hx, hr, rfl, rfl⟩
  | cons p ps ih =>
    obtain _ | @⟨slot, _, rest, _, hslot, hrest⟩ := hslots
    -- The induction is on the filters: one is passed, and the others see what it left.
    have hpass : Local x.id [] s (s.passBack x.id) := .touch (fun _ => rfl) (fun _ => rfl) fun _ => rfl
    have hx₁ : (s.passBack x.id).stream? x.id = some { x with encoded := x.encoded + 1 } :=
      stream?_modifyStream_same (f := fun y => { y with encoded := y.encoded + 1 }) (fun _ => rfl) hx
    have hp := honly p List.mem_cons_self
    obtain ⟨hgo, hone⟩ := encodeOne_onlyChanges (s := s.passBack x.id)
      (x := { x with encoded := x.encoded + 1 }) r hslot hp
    obtain ⟨-, slots', hparts, hfound⟩ := encodeOne_stream? (s := s.passBack x.id)
      (x := { x with encoded := x.encoded + 1 }) hx₁ hr hslot
    rw [encodeOnly, hx₁]
    dsimp only
    generalize (s.passBack x.id).encodeOne { x with encoded := x.encoded + 1 } = meet at *
    rw [hr]
    dsimp only
    generalize meet r slot = met at *
    obtain ⟨status, s'⟩ := met
    cases hgo
    rw [hp.response] at hfound
    obtain ⟨hend, hall, y, hy, hresponse, hlive, hys⟩ := ih (fun q hq => honly q (List.mem_cons_of_mem p hq))
      (x := { x with response := some _, encoded := x.encoded + 1, slots := slots' }) hfound rfl
      (Stream.Has.congr (x := x) hrest hparts)
    exact ⟨hend, (hpass.trans hone).trans hall, y, hy, hresponse, hlive, hys.trans hparts⟩

/-- A filter is told that its stream is over, and asks for nothing then. -/
theorem destroySlot_local {x : Stream} (hends : ∀ p ∈ x.slots.map (·.part), ∀ id, (p.onEnd id).asks = [])
    (hidle : ∀ y, s.stream? x.id = some y → y.Idle) (slot : Nat) :
    Local x.id [] s (s.destroySlot x slot) := by
  unfold Session.destroySlot
  split
  · exact .refl x.id s
  · next side b memory hslot =>
    have hnone : (b.atEnd side x.id).asks = [] :=
      hends _ (List.mem_map_of_mem (List.mem_of_getElem? hslot)) x.id
    -- A filter that asks for nothing at the end posts nothing.
    have hposted : Local x.id (b.atEnd side x.id).tasks s (s.afterFilter (b.atEnd side x.id)) :=
      .afterFilter _
    rwa [show (b.atEnd side x.id).tasks = [] by rw [Asides.tasks, hnone, List.map_nil]] at hposted
  · exact .told s.stats _
  · exact .refl x.id s
  · unfold Session.destroyRouter
    cases hr : s.router? (s.refTo x.id slot) with
    | none => exact .refl x.id s
    | some r =>
      -- The router has begun no exchange, so there is nothing to give back.
      have hnone : r.exchange = none := by
        unfold Session.router? at hr
        rw [if_pos (show (s.refTo x.id slot).session = s.number from rfl)] at hr
        obtain ⟨y, hy, hr⟩ := Option.bind_eq_some_iff.mp hr
        exact hidle y hy slot r hr
      dsimp only
      rw [hnone]
      refine .modifyStream (fun _ => rfl) (fun _ => rfl) fun y hidle other r' hr' => hidle other r' ?_
      exact (Stream.remember_router? hr').resolve_left (by simp)

theorem destroySlots_local {x : Stream} (slots : List Nat)
    (hends : ∀ p ∈ x.slots.map (·.part), ∀ id, (p.onEnd id).asks = [])
    (hidle : ∃ y, s.stream? x.id = some y ∧ y.Idle) :
    Local x.id [] s (slots.foldl (fun s i => s.destroySlot x i) s) := by
  induction slots generalizing s with
  | nil => exact .refl x.id s
  | cons slot slots ih =>
    obtain ⟨y, hy, hyidle⟩ := hidle
    have hone : Local x.id [] s (s.destroySlot x slot) := destroySlot_local hends (fun z hz => by
      obtain rfl := Option.some.inj (hy.symm.trans hz)
      exact hyidle) slot
    obtain ⟨z, hz, -, hzidle⟩ := hone.self y hy
    exact hone.trans (ih ⟨z, hz, hzidle hyidle⟩)

theorem completeStream_local {x : Stream} (hx : s.stream? id = some x) (hover : x.isCompleted = false)
    (hends : ∀ p ∈ x.slots.map (·.part), ∀ id, (p.onEnd id).asks = []) (hidle : x.Idle) :
    Local id [] s (s.completeStream id) := by
  obtain rfl := stream?_id hx
  unfold Session.completeStream
  rw [hx]
  dsimp only
  rw [if_neg (by simp [hover])]
  have hrecord : Local x.id [] s (s.recordEnd x) := by
    unfold Session.recordEnd
    dsimp only
    split
    · exact .told _ _
    · exact .told _ s.log
  have hmark : Local x.id [] (s.recordEnd x) ((s.recordEnd x).modifyStream x.id fun y =>
      { y with isCompleted := true, info := y.info.complete (s.recordEnd x).now, span := none }) :=
    .touch (fun _ => rfl) (fun _ => rfl) fun _ => rfl
  obtain ⟨y, hy, -, hyidle⟩ := (hrecord.trans hmark).self x hx
  exact (hrecord.trans hmark).trans (destroySlots_local _ hends ⟨y, hy, hyidle hidle⟩)

theorem closeIfDrained_of_staying (h : s.draining = false) : s.closeIfDrained = s := by
  unfold Session.closeIfDrained
  rw [h, Bool.false_and, Bool.false_and, if_neg (by decide)]

/-- The oldest stream in flight is over. -/
theorem finishStream_local {x : Stream} {rest : List StreamId} (hx : s.stream? id = some x)
    (hover : x.isCompleted = false) (hin : x.inserted = true)
    (hends : ∀ p ∈ x.slots.map (·.part), ∀ id, (p.onEnd id).asks = []) (hidle : x.Idle)
    (hactive : s.active = id :: rest) (hdraining : s.draining = false) :
    (∃ streams stats log, s.finishStream id = { s with
      active := rest, streams, stats, log, queue := s.queue.defer id }) ∧
    (∃ y, (s.finishStream id).stream? id = some y ∧ y.Idle) ∧
    ∀ other, other ≠ id → (s.finishStream id).stream? other = s.stream? other := by
  have hcomplete := completeStream_local hx hover hends hidle
  obtain ⟨y, hy, hyin, hyidle⟩ := hcomplete.self x hx
  have hwithin := hcomplete.within.trans
    (Within.modifyStream id fun y => { y with inserted := false })
  have hleft := stream?_modifyStream_same (f := fun y => { y with inserted := false }) (fun _ => rfl) hy
  have hnear : OnlyOneChanged id (s.completeStream id)
      ((s.completeStream id).modifyStream id fun y => { y with inserted := false }) :=
    .modifyStream fun _ => rfl
  unfold Session.finishStream
  dsimp only
  rw [hy]
  dsimp only
  rw [if_neg (by simp [hyin, hin])]
  generalize (s.completeStream id).modifyStream id (fun y => { y with inserted := false }) = s₁ at *
  obtain ⟨streams, stats, log, rfl⟩ := hwithin
  -- The oldest stream in flight is the first of the list, so what is left is its rest.
  have hcontains : s.active.contains id = true := by simp [hactive]
  have herase : s.active.erase id = rest := by rw [hactive, List.erase_cons_head]
  dsimp only
  rw [if_pos hcontains, herase, closeIfDrained_of_staying (by exact hdraining)]
  refine ⟨⟨streams, _, log, by rw [List.append_nil, List.append_nil]; rfl⟩,
    ⟨_, hleft, hyidle hidle⟩, fun other hne => ?_⟩
  exact (hnear.others other hne).trans (hcomplete.others other hne)

/-- A response that is behind all filters is written, and the oldest stream in flight is over. -/
theorem sendReply_local {x : Stream} {r : Response} {rest : List StreamId}
    (hx : s.stream? id = some x) (hr : x.response = some r) (hover : x.isCompleted = false)
    (hin : x.inserted = true) (hends : ∀ p ∈ x.slots.map (·.part), ∀ id, (p.onEnd id).asks = [])
    (hidle : x.Idle) (hserved : s.isServed = true)
    (hopen : s.connection.isOpen = true) (hstays : r.asksToClose = false)
    (hactive : s.active = id :: rest) (hdraining : s.draining = false) :
    (∃ streams stats log, s.sendReply id = { s with
      active := rest, streams, stats, log, queue := s.queue.defer id
      connection := s.connection.write r.encode false }) ∧
    (∃ y, (s.sendReply id).stream? id = some y ∧ y.Idle) ∧
    ∀ other, other ≠ id → (s.sendReply id).stream? other = s.stream? other := by
  -- Writing does not close the connection: the reply does not ask for it.
  have hsame : (s.connection.write r.encode false).isOpen = true := by
    unfold Downstream.write
    rw [if_pos hopen]
    exact hopen
  have hmark : Local id [] s (s.modifyStream id fun x =>
      { x with info := { x.info with status := some r.status.code } }) :=
    .touch (fun _ => rfl) (fun _ => rfl) fun _ => rfl
  have hx₁ := stream?_modifyStream_same
    (f := fun x => { x with info := { x.info with status := some r.status.code } }) (fun _ => rfl) hx
  unfold Session.sendReply
  rw [hx]
  dsimp only
  rw [hr]
  dsimp only
  rw [if_neg (by simp [hserved]), hstays]
  generalize s.modifyStream id (fun x =>
    { x with info := { x.info with status := some r.status.code } }) = s₁ at *
  obtain ⟨streams, stats, log, rfl⟩ := hmark.within
  unfold Session.writeToClient
  dsimp only
  rw [if_neg (by simp [hsame])]
  obtain ⟨⟨streams', stats', log', hend⟩, hself, hothers⟩ := finishStream_local
    (s := { s with streams, stats, log, queue := { s.queue with posted := s.queue.posted ++ [] }
                   connection := s.connection.write r.encode false }) hx₁ hover hin hends hidle hactive
                     hdraining
  refine ⟨⟨streams', stats', log', by rw [hend, List.append_nil]⟩, hself, fun other hne => ?_⟩
  exact (hothers other hne).trans (hmark.others other hne)

/-- A stream that has a response which no filter has met is answered. -/
theorem continueEncoding_answers {before : List Part} (h : s.plan.AnswersAlone before) {x : Stream}
    {r : Response} {rest : List StreamId} (hx : s.stream? x.id = some x) (hr : x.response = some r)
    (hencoded : x.encoded = 0) (hparts : x.slots.map (·.part) = s.plan.parts) (hlive : x.isLive = true)
    (hin : x.inserted = true) (hidle : x.Idle) (hserved : s.isServed = true)
    (hopen : s.connection.isOpen = true) (hactive : s.active = x.id :: rest)
    (hdraining : s.draining = false)
    (hstays : (behindAll s.plan.parts nobody 1 r).asksToClose = false) :
    (∃ streams stats log, s.continueEncoding x.id = { s with
      active := rest, streams, stats, log, queue := s.queue.defer x.id
      connection := s.connection.write (behindAll s.plan.parts nobody 1 r).encode false }) ∧
    (∃ y, (s.continueEncoding x.id).stream? x.id = some y ∧ y.Idle) ∧
    ∀ other, other ≠ x.id → (s.continueEncoding x.id).stream? other = s.stream? other := by
  have hhas : x.Has x.encoders (s.plan.parts.filter (·.side.encodes)).reverse := by
    rw [Stream.encoders_eq, hparts]
    refine (forall₂_responsePath s.plan.parts).imp fun i p hi => ?_
    rw [← List.getElem?_map, hparts, hi]
  obtain ⟨hgo, hlocal, y, hy, hresponse, hover, hys⟩ := encodeOnly_onlyChanges (s := s)
    (fun p hp => h.responses p (List.mem_reverse.mp hp)) hx hr hhas
  -- No filter stops the reply, so that it is sent at once.
  have hdo : s.continueEncoding x.id = (s.encodeOnly x.id x.encoders).2.sendReply x.id := by
    unfold Session.continueEncoding
    rw [hx]
    dsimp only
    rw [if_neg (by simp [hlive, hr]), hencoded, List.drop_zero, encodeThrough_eq]
    generalize s.encodeOnly x.id x.encoders = met at *
    obtain ⟨status, s'⟩ := met
    cases hgo
    rfl
  rw [hdo]
  obtain ⟨z, hz, hzin, hzidle⟩ := hlocal.self x hx
  obtain rfl := Option.some.inj (hy.symm.trans hz)
  generalize (s.encodeOnly x.id x.encoders).2 = s₁ at *
  obtain ⟨streams, stats, log, rfl⟩ := hlocal.within
  obtain ⟨⟨streams', stats', log', hend⟩, hself, hothers⟩ := sendReply_local hy hresponse
    (hover.trans (by simpa using (Bool.and_eq_true_iff.mp hlive).2)) (hzin.trans hin)
    (hys.trans hparts ▸ h.ends) (hzidle hidle) hserved hopen hstays hactive hdraining
  refine ⟨⟨streams', stats', log', hend.trans ?_⟩, hself, fun other hne => ?_⟩
  · rw [List.append_nil]
    rfl
  · exact (hothers other hne).trans (hlocal.others other hne)

/-- The task for the reply to the oldest stream in flight runs: the reply is written, and the stream
is over. -/
theorem localReply_answers {before : List Part} (h : s.plan.AnswersAlone before) {x : Stream}
    {r : Request} {rest : List StreamId} (hx : s.stream? x.id = some x)
    (hwaits : x.Waits s.plan (r.past before)) (hidle : x.Idle) (hserved : s.isServed = true)
    (hopen : s.connection.isOpen = true) (hactive : s.active = x.id :: rest)
    (hdraining : s.draining = false) :
    (∃ streams stats log, s.localReply x.id (s.plan.status before r) .nothing = { s with
      active := rest, streams, stats, log, queue := s.queue.defer x.id
      connection := s.connection.write (s.plan.answer before r).encode false }) ∧
    (∃ y, (s.localReply x.id (s.plan.status before r) .nothing).stream? x.id = some y ∧ y.Idle) ∧
    ∀ other, other ≠ x.id →
      (s.localReply x.id (s.plan.status before r) .nothing).stream? other = s.stream? other := by
  have hstays := h.answer_asksToClose r
  unfold Plan.answer at hstays ⊢
  -- The stream is live and the codec makes replies, so the reply is made from the request as the
  -- filters left it.
  have hdo : s.localReply x.id (s.plan.status before r) .nothing = ((s.aboutToReply x.id).modifyStream x.id
      (·.setResponse (.answering (s.plan.status before r) (r.past before)))).continueEncoding x.id := by
    unfold Session.localReply
    rw [hx]
    dsimp only
    rw [if_neg (by simp [hwaits.live, hserved]), if_neg (by simp [h.replies]), hwaits.request]
    rfl
  rw [hdo]
  generalize Response.answering (s.plan.status before r) (r.past before) = response at *
  have habout : Local x.id [] s (s.aboutToReply x.id) :=
    (Local.told _ s.log).trans (.touch (fun _ => rfl) (fun _ => rfl) fun _ => rfl)
  have hset : Local x.id [] (s.aboutToReply x.id)
      ((s.aboutToReply x.id).modifyStream x.id (·.setResponse response)) :=
    .touch (fun _ => rfl) (fun _ => rfl) fun _ => rfl
  have hfound := stream?_modifyStream_same (f := (·.setResponse response)) (fun _ => rfl)
    (aboutToReply_stream? hx)
  have hlocal := habout.trans hset
  generalize (s.aboutToReply x.id).modifyStream x.id (·.setResponse response) = s₁ at *
  obtain ⟨streams, stats, log, rfl⟩ := hlocal.within
  obtain ⟨⟨streams', stats', log', hend⟩, hself, hothers⟩ := continueEncoding_answers
    (s := { s with streams, stats, log, queue := { s.queue with posted := s.queue.posted ++ ([] ++ []) } })
    (x := Stream.setResponse { x with info := _ } response) h hfound rfl rfl hwaits.parts hwaits.live
    hwaits.inserted hidle hserved hopen hactive hdraining hstays
  refine ⟨⟨streams', stats', log', hend.trans ?_⟩, hself, fun other hne => ?_⟩
  · rw [List.append_nil, List.append_nil]
    rfl
  · exact (hothers other hne).trans (hlocal.others other hne)

end

end Session

end RpcProxy

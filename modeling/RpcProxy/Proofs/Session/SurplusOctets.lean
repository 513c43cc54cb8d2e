import RpcProxy.Proofs.Exchange.Reading
import RpcProxy.Proofs.Session.ConnectionOwnership
import RpcProxy.Proofs.Session.RouterOutcome

/-!
# Octets behind a reply

A router gives its connection back as soon as it has read a whole reply. `heard` is all that it has
read from the connection until some moment, going by the tasks that were taken up. `HasRead` relates
it to what the router has in mind, and `HasNothingLeft` holds from the moment on at which the router
has let go. Both are carried along a `Trail`, by what one move can be to a router (`OnCourse.goes`).

What a router reads is nowhere kept. Its decoder holds the octets that are not used yet, and forgets
those of a frame once it has the frame, so the state alone cannot say what was behind a reply when
the reply was complete. The history of tasks can: each octet came by a task, and whether the router
took it depends on whether it held a connection then. That is why statements here are about all that
was heard and not about the decoder.

A `Trail` is needed since neither of the two halves does alone. Moves do not include what pools tell
from outside, and a single operation comes to many moves between which a router may begin and let
go; so the run is cut into moves, each from a state where the router is on its course, and the
moment in question is found among them (`Trail.at`).

The main result is what decides whether the connection is kept: the first reply in what was read,
and not what is behind it.
-/

set_option autoImplicit false

namespace RpcProxy

/-! ## Moments of a router

What a router hears in a move, and what it has read since its call began. Octets are heard only by a
router that holds a connection. -/

/-- Where the reading of a router stands, `octets` being what it has read while it held its
connection. Once it has let go of everything, nothing is said: what comes then is not read, and the
decoder is not looked at again. -/
def Router.HasRead (r : Router) (octets : Bytes) : Prop :=
  match r.exchange with
  | none => octets = []
  | some e => e.Over ∨ e.HasRead r.decoder octets

/-- How a router goes on, `octets` being what it reads from its connection meanwhile. Between them
these four say all that matters of a router's work; which filter, pool or task it came from is left
out, so that what is said about reading has four cases and not one for each move. -/
inductive Router.Goes : Bytes → Router → Router → Prop
  /-- It asks for a connection or is answered. -/
  | asked {r r' : Router} {e' : Exchange} (hwaits : ∀ e, r.exchange = some e → e.Waiting)
    (he' : r'.exchange = some e') (hfresh : e'.Over ∨ e'.responseStarted = false) : Goes [] r r'
  /-- It writes its call. -/
  | wrote {r r' : Router} {e : Exchange} {envelope : Envelope} {now : Instant}
    (he : r.exchange = some e) (hh : e.Holding) (hd : r'.decoder = r.decoder)
    (he' : r'.exchange = some ({ e with envelope }.completeRequest now)) : Goes [] r r'
  | read {r r' : Router} {e : Exchange} {octets : Bytes} {now : Instant} {isOver : Bool}
    {d : ReplyDecoder} {t : Exchange.Step} (he : r.exchange = some e) (hh : e.Holding)
    (ht : e.onData Exchange.lineReplies r.decoder octets false now = .ok (isOver, d, t))
    (he' : r'.exchange = some t.exchange) (hover : isOver = true → t.exchange.Over)
    (hd : isOver = false → r'.decoder = d) : Goes octets r r'
  | ended {r r' : Router} {e e' : Exchange} (he : r.exchange = some e) (hh : e.Holding)
    (he' : r'.exchange = some e') (hover : e'.Over) : Goes [] r r'

/-- A router holds its connection as long as it does not pass octets and events over. -/
theorem Router.holds_eq {r : Router} {e : Exchange} (he : r.exchange = some e) :
    r.holds = !(e.link.isNone || e.responseComplete) := by
  rw [Router.holds, he, Option.any_some]
  cases e.link with
  | none => rfl
  | some link => rfl

theorem Router.HasRead.of_none {r : Router} {octets : Bytes} (h : r.HasRead octets)
    (he : r.exchange = none) : octets = [] := by
  unfold Router.HasRead at h
  rwa [he] at h

theorem Router.HasRead.of_some {r : Router} {e : Exchange} {octets : Bytes} (h : r.HasRead octets)
    (he : r.exchange = some e) (hover : ¬e.Over) : e.HasRead r.decoder octets := by
  unfold Router.HasRead at h
  rw [he] at h
  exact h.resolve_left hover

theorem Router.HasRead.some {r : Router} {e : Exchange} {octets : Bytes} (he : r.exchange = .some e)
    (h : e.Over ∨ e.HasRead r.decoder octets) : r.HasRead octets := by
  unfold Router.HasRead
  rw [he]
  exact h

theorem Router.HasRead.goes {r r' : Router} {octets data : Bytes} (h : r.HasRead octets)
    (hg : r.Goes data r') : r'.HasRead (octets ++ data) := by
  cases hg with
  | asked hwaits he' hfresh =>
    obtain rfl : octets = [] := by
      cases he : r.exchange with
      | none => exact h.of_none he
      | some e =>
        have hw := hwaits e he
        refine (h.of_some he fun ho => ?_).eq_nil hw.fresh
        have hpending := hw.pending
        rw [ho.pending] at hpending
        cases hpending
    exact .some he' (hfresh.imp_right Exchange.HasRead.fresh)
  | wrote he hh hd he' =>
    have hread := h.of_some he hh.not_over
    rw [List.append_nil]
    exact .some he' (Or.inr (hd ▸ ⟨hread.buffer, hread.transport, hread.unfinished⟩))
  | read he hh ht he' hover hd =>
    obtain ⟨-, hmore, -, hread⟩ | ⟨-, hdone, -⟩ := (h.of_some he hh.not_over).onData hh ht
    · exact .some he' (Or.inr (hd hmore ▸ hread))
    · exact .some he' (Or.inl (hover hdone))
  | ended he hh he' hover => exact .some he' (Or.inl hover)

namespace Session

variable {s s' s₁ s₂ s₃ : Session TcpPools} {ref : RouterRef} {past : List RouterOp}
  {m ms ns later : List (Session TcpPools × Task)} {octets : Bytes}
  {R : RouterRef → Request → Prop} {D : Prop}

/-- The octets that a router reads from its connection at some moment. Octets that come for a router
without a connection, or whose response is complete, are passed over by it, so they are not among
them. -/
def heardAt (ref : RouterRef) (m : Session TcpPools × Task) : Bytes :=
  match m.2 with
  | .router other (.deliver (.data octets)) =>
    if other = ref ∧ (m.1.router? ref).any Router.holds then octets else []
  | _ => []

/-- All octets that a router has read from its connection, `moments` being the tasks that were taken
up. -/
def heard (ref : RouterRef) (moments : List (Session TcpPools × Task)) : Bytes :=
  moments.flatMap (heardAt ref)

theorem heardAt_of_ne {t : Task} (h : ∀ other octets, t ≠ .router other (.deliver (.data octets))) :
    heardAt ref (s, t) = [] := by
  unfold heardAt
  split
  · next other octets heq => exact absurd heq (h other octets)
  · rfl

theorem heardAt_data (other : RouterRef) (octets : Bytes) :
    heardAt ref (s, .router other (.deliver (.data octets))) =
      if other = ref ∧ (s.router? ref).any Router.holds then octets else [] := rfl

/-- A router that holds no connection reads nothing. -/
theorem heardAt_of_not_holds {t : Task} (h : (s.router? ref).any Router.holds = false) :
    heardAt ref (s, t) = [] := by
  unfold heardAt
  split
  · rw [if_neg (fun hc => by rw [h] at hc; cases hc.2)]
  · rfl

theorem heard_singleton (x : Session TcpPools × Task) : heard ref [x] = heardAt ref x := by
  simp [heard]

theorem heard_append (ms ns : List (Session TcpPools × Task)) :
    heard ref (ms ++ ns) = heard ref ms ++ heard ref ns := List.flatMap_append

theorem dropRouter_router? {σ : Type} {s : Session σ} {other : RouterRef} {r : Router}
    (h : (s.dropRouter other).router? ref = some r) : s.router? ref = some r := by
  unfold Session.dropRouter at h
  split at h
  · exact h
  · next e he =>
    obtain ⟨r₀, hr₀, -⟩ := Option.bind_eq_some_iff.mp he
    by_cases hne : ref = other
    · subst hne
      rw [endRouter_router?] at h
      cases h
    · rwa [(endRouter_works hr₀ _).router?_of_ne (session_of_router? hr₀) hne] at h

theorem dropRouters_router? {σ : Type} {s : Session σ} (slots : List Nat) (id : StreamId) {r : Router}
    (h : (slots.foldl (fun s slot => s.dropRouter (s.refTo id slot)) s).router? ref = some r) :
    s.router? ref = some r := by
  induction slots generalizing s with
  | nil => exact h
  | cons slot rest ih => exact dropRouter_router? (ih h)

/-- The routers of a stream that is dropped are gone; others stay as they are. -/
theorem dropStream_router? {σ : Type} {s : Session σ} {id : StreamId} {r : Router}
    (h : (s.dropStream id).router? ref = some r) : s.router? ref = some r := by
  unfold Session.dropStream at h
  split at h
  · exact h
  · next x _ =>
    exact dropRouters_router? x.routers id (router?_of_filter h)

theorem destroyRouter_router? {σ : Type} {s : Session σ} {other : RouterRef} {r : Router}
    (h : (s.destroyRouter other).router? ref = some r) : s.router? ref = some r := by
  by_cases hne : ref = other
  · subst hne
    rw [(destroyRouter_touches s ref).2] at h
    cases h
  · cases hr₀ : s.router? other with
    | none =>
      unfold Session.destroyRouter at h
      rwa [hr₀] at h
    | some r₀ => rwa [(destroyRouter_works s other).router?_of_ne (session_of_router? hr₀) hne] at h

theorem pass_router? {σ : Type} {s : Session σ} (id : StreamId) :
    (s.pass id).router? ref = s.router? ref :=
  modifyStream_router? (f := fun x => { x with decoded := x.decoded + 1 }) (fun _ => rfl)
    (fun _ _ => rfl) ref

/-- What a router is told is nothing to another one. -/
theorem onDelivery_router?_of_ne {σ : Type} {s : Session σ} {other : RouterRef} (d : Delivery)
    (hne : ref ≠ other) :
    (s.onDelivery other d).router? ref = s.router? ref := by
  by_cases hn : other.session = s.number
  · exact (onDelivery_works s other d).router?_of_ne hn hne
  · rcases onDelivery_cases s other d with ⟨-, heq⟩ | ⟨r, -, hr, -⟩
    · rw [heq]
      cases d with
      | ready link host => exact giveBack_router? s other link ref
      | failure reason host => rfl
      | data octets => rfl
      | event event => rfl
    · exact absurd (session_of_router? hr) hn

/-- The router of a course is that of its stream. -/
theorem OnCourse.router?_cases {σ : Type} {s : Session σ} (h : OnCourse ref past s) {r : Router}
    (hr : s.router? ref = some r) :
    ∃ x, s.stream? ref.stream = some x ∧ x.router? ref.slot = some r := by
  rw [h.router?_eq] at hr
  exact Option.bind_eq_some_iff.mp hr

/-- A router is answered while it waits. -/
theorem OnCourse.answer_goes {d : Delivery} {rest : List Task} {r r' : Router} {e : Exchange}
    (h : OnCourse ref past s) (hq : s.queue.posted = .router ref (.deliver d) :: rest)
    (hd : d.isAnswer = true) (hr : s.router? ref = some r) (he : r.exchange = some e)
    (hr' : ((s.leave rest).onDelivery ref d).router? ref = some r') : r.Goes [] r' := by
  obtain ⟨x, hx, hxr⟩ := h.router?_cases hr
  obtain ⟨-, hw, -, -⟩ := h.answered hq hd hx hxr he
  have hwaits : ∀ e', r.exchange = some e' → e'.Waiting :=
    fun e' he' => Option.some.inj (he.symm.trans he') ▸ hw
  have hr₁ : (s.leave rest).router? ref = some r := (router?_congr rfl rfl ref).trans hr
  unfold Session.onDelivery at hr'
  simp only [hr₁, Option.bind_some, he, Option.map_some] at hr'
  cases d with
  | ready link host =>
    dsimp only at hr'
    generalize (s.leave rest).source.state? link (s.leave rest).side.pools = state at hr'
    obtain ⟨r₂, hr₂, hex₂, -⟩ := takeStep_router? hr₁ (e.poolReady link host state)
    obtain rfl := Option.some.inj (hr₂.symm.trans hr')
    obtain ⟨-, hfresh, -⟩ := Exchange.poolReady_holding link host state hw.toPlain hw.link hw.fresh
    exact .asked hwaits hex₂ (Or.inr hfresh)
  | failure reason host =>
    have hover := (Exchange.poolFailure_over reason host (s.leave rest).now hw.toPlain hw.link).1
    obtain ⟨r₂, hr₂, hex₂, -⟩ :=
      takeStep_router? hr₁ (e.poolFailure reason host (s.leave rest).now)
    obtain rfl := Option.some.inj (hr₂.symm.trans hr')
    exact .asked hwaits hex₂ (Or.inl hover)
  | data octets => cases hd
  | event event => cases hd

/-- Octets come for a router, which reads them if it holds a connection. -/
theorem OnCourse.data_goes {r r' : Router} {e : Exchange} (h : OnCourse ref past s)
    (hr : s.router? ref = some r) (he : r.exchange = some e)
    (hr' : (s.onHostData ref r e octets).router? ref = some r') :
    (r.holds = false ∧ r' = r) ∨ (r.holds = true ∧ r.Goes octets r') := by
  rw [Router.holds_eq he]
  cases hgo : e.link.isNone || e.responseComplete with
  | true =>
    rw [Session.onHostData, if_pos hgo] at hr'
    exact Or.inl ⟨rfl, Option.some.inj (hr'.symm.trans hr)⟩
  | false =>
    obtain ⟨x, hx, hxr⟩ := h.router?_cases hr
    rw [← Bool.not_eq_true] at hgo
    obtain ⟨-, hh, hsane, -, -⟩ := h.holding hx hxr he (Exchange.link_isSome hgo)
    obtain ⟨isOver, d', t, ht, -, hstep⟩ := Exchange.onData_course r.decoder octets s.now hh hsane
    obtain ⟨-, r₂, hr₂, hex₂, hdec₂⟩ := onHostData_work hr hgo ht
    obtain rfl := Option.some.inj (hr₂.symm.trans hr')
    refine Or.inr ⟨rfl, .read he hh ht hex₂ (fun hover => ?_) hdec₂⟩
    rw [if_pos hover] at hstep
    exact hstep.1

/-- Something happens to the connection of a router, which then lets go of it. -/
theorem OnCourse.event_goes {r r' : Router} {e : Exchange} {event : ConnectionEvent}
    (h : OnCourse ref past s) (hr : s.router? ref = some r) (he : r.exchange = some e)
    (hr' : (s.onHostEvent ref e event).router? ref = some r') : r' = r ∨ r.Goes [] r' := by
  unfold Session.onHostEvent at hr'
  split at hr'
  · exact Or.inl (Option.some.inj (hr'.symm.trans hr))
  · next hgo =>
    obtain ⟨x, hx, hxr⟩ := h.router?_cases hr
    obtain ⟨-, hh, -, -, -⟩ := h.holding hx hxr he (Exchange.link_isSome hgo)
    split at hr'
    · exact Or.inl (Option.some.inj (hr'.symm.trans hr))
    · next t ht =>
      obtain ⟨r₂, hr₂, hex₂, -⟩ := takeStep_router? hr t
      obtain rfl := Option.some.inj (hr₂.symm.trans hr')
      exact Or.inr (.ended he hh hex₂ (Exchange.onEvent_course hh ht).1)

theorem OnCourse.told_goes {d : Delivery} {rest : List Task} {r' : Router} (h : OnCourse ref past s)
    (hq : s.queue.posted = .router ref (.deliver d) :: rest)
    (hr' : ((s.leave rest).onDelivery ref d).router? ref = some r') :
    (s.router? ref = some r' ∧ heardAt ref (s.leave rest, .router ref (.deliver d)) = []) ∨
      ∃ r, s.router? ref = some r ∧
        r.Goes (heardAt ref (s.leave rest, .router ref (.deliver d))) r' := by
  have hrouters : (s.leave rest).router? ref = s.router? ref := router?_congr rfl rfl ref
  rcases onDelivery_cases (s.leave rest) ref d with ⟨hnone, heq⟩ | ⟨r, e, hr₁, he, heq⟩
  -- A call that is not on hears nothing, whatever it is told.
  · have hsame : ((s.leave rest).onDelivery ref d).router? ref = s.router? ref := by
      rw [heq]
      cases d with
      | ready link host => exact (giveBack_router? (s.leave rest) ref link ref).trans hrouters
      | failure reason host => exact hrouters
      | data octets => exact hrouters
      | event event => exact hrouters
    refine Or.inl ⟨hsame.symm.trans hr', heardAt_of_not_holds ?_⟩
    cases hr : (s.leave rest).router? ref with
    | none => rfl
    | some r =>
      cases he : r.exchange with
      | none => simp [Router.holds, he]
      | some e => exact absurd he (hnone r e hr)
  · have hr : s.router? ref = some r := hrouters.symm.trans hr₁
    have hleft := h.leave hq
    cases d with
    | ready link host => exact Or.inr ⟨r, hr, h.answer_goes hq rfl hr he hr'⟩
    | failure reason host => exact Or.inr ⟨r, hr, h.answer_goes hq rfl hr he hr'⟩
    | data octets =>
      rw [heq] at hr'
      -- Octets count as heard only when the call holds a connection.
      rw [heardAt_data, hr₁, Option.any_some]
      obtain ⟨hholds, rfl⟩ | ⟨hholds, hgoes⟩ := hleft.data_goes hr₁ he hr'
      · rw [hholds, if_neg fun hc => nomatch hc.2]
        exact Or.inl ⟨hr, rfl⟩
      · rw [hholds, if_pos ⟨rfl, rfl⟩]
        exact Or.inr ⟨r, hr, hgoes⟩
    | event event =>
      rw [heq] at hr'
      rcases hleft.event_goes hr₁ he hr' with rfl | hgoes
      · exact Or.inl ⟨hr, rfl⟩
      · exact Or.inr ⟨r, hr, hgoes⟩

/-- A router writes its call, unless it has done so or has no connection. -/
theorem OnCourse.writeCall_goes {r' : Router} (h : OnCourse ref past s)
    (hr' : (s.writeCall ref).router? ref = some r') :
    s.router? ref = some r' ∨ ∃ r, s.router? ref = some r ∧ r.Goes [] r' := by
  rcases writeCall_cases s ref with hsame | ⟨r, e, hr, he, hgo⟩
  · exact Or.inl (hsame ▸ hr')
  · obtain ⟨x, hx, hxr⟩ := h.router?_cases hr
    obtain ⟨-, hh, -, -, -⟩ := h.holding hx hxr he (Exchange.link_isSome hgo)
    obtain ⟨-, -, r₂, envelope, hr₂, hdec₂, hex₂⟩ := writeCall_touches hr he hgo
    obtain rfl := Option.some.inj (hr₂.symm.trans hr')
    exact Or.inr ⟨r, hr, .wrote he hh hdec₂ hex₂⟩

/-- A request comes to a router, which asks for a connection and writes its call if it gets one. -/
theorem OnCourse.started_goes {x : Stream} {slot : Nat} {cluster : Config.Cluster} {host : HostRef}
    {request : Request} {r' : Router} (h : OnCourse (s.refTo x.id slot) past s) (hn : Next s x slot)
    (hrouter : x.hasRouter slot = true)
    (hr' : ((s.pass x.id).startExchange (s.refTo x.id slot) cluster host request).router?
      (s.refTo x.id slot) = some r') :
    ∃ r, s.router? (s.refTo x.id slot) = some r ∧ r.Goes [] r' := by
  obtain ⟨r, hr, hex, -, -⟩ := h.reached hn rfl hrouter
  have hr₀ : s.router? (s.refTo x.id slot) = some r := by
    rw [h.router?_eq]
    exact (congrArg (Option.bind · _) hn.found).trans hr
  refine ⟨r, hr₀, ?_⟩
  have hidle : ∀ e, r.exchange = some e → e.Waiting := fun e he => by
    rw [hex] at he
    cases he
  obtain ⟨shared, now, t, ht, -, -, -, hgot⟩ :=
    engage_touches (s.pass x.id) (s.refTo x.id slot) cluster host request
  obtain ⟨r₂, hr₂, hex₂, -⟩ := hgot r ((pass_router? x.id).trans hr₀)
  -- Whatever the pools answer at once, no octet of a reply has been read.
  have hfresh : t.exchange.Over ∨ t.exchange.responseStarted = false := by
    rw [ht]
    obtain ⟨hw, -⟩ | ⟨-, hfresh, -⟩ | ⟨hover, -⟩ :=
      Exchange.start_course cluster request.method _ shared now
    · exact Or.inr hw.fresh
    · exact Or.inr hfresh
    · exact Or.inl hover
  obtain ⟨-, heq⟩ | ⟨-, heq⟩ :=
    startExchange_cases (s.pass x.id) (s.refTo x.id slot) cluster host request
  · rw [heq] at hr'
    obtain rfl := Option.some.inj (hr₂.symm.trans hr')
    exact .asked hidle hex₂ hfresh
  · rw [heq] at hr'
    rcases writeCall_cases ((s.pass x.id).engage (s.refTo x.id slot) cluster host request).2
      (s.refTo x.id slot) with hsame | ⟨r₃, e, hr₃, he, hgo⟩
    · rw [hsame] at hr'
      obtain rfl := Option.some.inj (hr₂.symm.trans hr')
      exact .asked hidle hex₂ hfresh
    · obtain rfl := Option.some.inj (hr₂.symm.trans hr₃)
      obtain rfl := Option.some.inj (hex₂.symm.trans he)
      obtain ⟨-, -, r₄, envelope, hr₄, -, hex₄⟩ := writeCall_touches hr₂ hex₂ hgo
      obtain rfl := Option.some.inj (hr₄.symm.trans hr')
      refine .asked hidle hex₄ (Or.inr (hfresh.resolve_left fun hover => ?_))
      have hlink := Exchange.link_isSome hgo
      rw [hover.link] at hlink
      cases hlink

/-- Everything that a move can be to a router: nothing, its beginning, or something that it does. -/
theorem OnCourse.goes {r' : Router} (h : OnCourse ref past s) (hm : Move R D m s s')
    (hr' : s'.router? ref = some r') :
    (s.router? ref = some r' ∧ heard ref m = []) ∨
    (r' = {} ∧ ref.stream = s.nextId ∧ heard ref m = []) ∨
    ∃ r, s.router? ref = some r ∧ r.Goes (heard ref m) r' := by
  cases hm with
  | aside ha => exact Or.inl ⟨(ha.router? ref).symm.trans hr', rfl⟩
  | began hb =>
    rcases hb.router? hr' with hr | ⟨hblank, hid⟩
    · exact Or.inl ⟨hr, rfl⟩
    · exact Or.inr (Or.inl ⟨hblank, hid, rfl⟩)
  | passed hn hfree => exact Or.inl ⟨(pass_router? _).symm.trans hr', rfl⟩
  | @refused _ x slot hn hrouter event status =>
    refine Or.inl ⟨(pass_router? x.id).symm.trans (Eq.trans ?_ hr'), rfl⟩
    exact (router?_congr (s := s.pass x.id) rfl rfl ref).symm
  | @engaged _ x slot hn hrouter cluster host =>
    -- Only the router that begins its call is changed.
    by_cases hself : s.refTo x.id slot = ref
    · subst hself
      exact Or.inr (Or.inr (h.started_goes hn hrouter hr'))
    · have hworks := startExchange_works (s.pass x.id) (s.refTo x.id slot) cluster host x.request
      refine Or.inl ⟨(pass_router? x.id).symm.trans (Eq.trans ?_ hr'), rfl⟩
      exact (hworks.router?_of_ne rfl (Ne.symm hself)).symm
  | @wrote _ other rest hq =>
    have hrouters : (s.leave rest).router? ref = s.router? ref := router?_congr rfl rfl ref
    rw [heard_singleton, heardAt_of_ne (t := .router other .write) fun _ _ => nofun]
    by_cases hne : other = ref
    · subst hne
      rw [← hrouters]
      exact ((h.leave hq).writeCall_goes hr').imp (fun hr => ⟨hr, rfl⟩) Or.inr
    · rcases writeCall_cases (s.leave rest) other with hsame | ⟨r, e, hr, -, -⟩
      · exact Or.inl ⟨hrouters.symm.trans (hsame ▸ hr'), rfl⟩
      · refine Or.inl ⟨hrouters.symm.trans (Eq.trans ?_ hr'), rfl⟩
        exact ((writeCall_works (s.leave rest) other).router?_of_ne (session_of_router? hr)
          (Ne.symm hne)).symm
  | popped hq ht =>
    refine Or.inl ⟨(router?_congr rfl rfl ref).trans hr', ?_⟩
    rw [heard_singleton]
    exact heardAt_of_ne fun other octets => ht other (.data octets)
  | @delivered _ other d rest hq =>
    rw [heard_singleton]
    by_cases hne : other = ref
    · subst hne
      exact (h.told_goes hq hr').imp_right Or.inr
    · rw [onDelivery_router?_of_ne d (Ne.symm hne)] at hr'
      refine Or.inl ⟨(router?_congr rfl rfl ref).trans hr', ?_⟩
      cases d with
      | data octets => rw [heardAt_data, if_neg fun hc => hne hc.1]
      | ready link host => rfl
      | failure reason host => rfl
      | event event => rfl
  | noted _ id op => exact Or.inl ⟨hr', rfl⟩
  | completed _ id =>
    refine Or.inl ⟨Eq.trans ?_ hr', rfl⟩
    exact (modifyStream_router? (f := fun x => { x with isCompleted := true }) (fun _ => rfl)
      (fun _ _ => rfl) ref).symm
  | destroyed hnumber hover => exact Or.inl ⟨destroyRouter_router? hr', rfl⟩
  | dropped _ id => exact Or.inl ⟨dropStream_router? hr', rfl⟩

/-! ## Moves

What other moves leave of a router: nothing is heard, and nothing is forgotten. -/

theorem Works.nextId {σ : Type} {s s' : Session σ} {other : RouterRef} (h : Works other s s') :
    s'.nextId = s.nextId := by
  obtain ⟨ops, -, g, side, notes, panic, -, rfl⟩ := h
  rfl

theorem dropRouters_source {σ : Type} (slots : List Nat) (s : Session σ) (id : StreamId) :
    (slots.foldl (fun s slot => s.dropRouter (s.refTo id slot)) s).source = s.source := by
  induction slots generalizing s with
  | nil => rfl
  | cons slot rest ih => exact (ih _).trans (dropRouter_works s _).source

/-- Numbers are only given out, and it is always the same pools that are asked. -/
theorem Move.frame {σ : Type} {s s' : Session σ} {m : List (Session σ × Task)} (hm : Move R D m s s') :
    s.nextId ≤ s'.nextId ∧ s'.source = s.source := by
  have hworks : ∀ {other : RouterRef} {s₁ : Session σ}, Works other s₁ s' →
      s₁.nextId = s.nextId → s₁.source = s.source → s.nextId ≤ s'.nextId ∧ s'.source = s.source :=
    fun hw hnext hsource => ⟨Nat.le_of_eq (hw.nextId.trans hnext).symm, hw.source.trans hsource⟩
  cases hm with
  | aside ha => exact ⟨Nat.le_of_eq ha.nextId.symm, ha.source⟩
  | began hb => exact ⟨hb.nextId ▸ Nat.le_succ _, hb.source⟩
  | passed hn hfree => exact ⟨Nat.le_refl _, rfl⟩
  | refused hn hrouter event status => exact ⟨Nat.le_refl _, rfl⟩
  | @engaged _ x slot hn hrouter cluster host =>
    exact hworks (startExchange_works (s.pass x.id) _ cluster host x.request) rfl rfl
  | @wrote _ other rest hq => exact hworks (writeCall_works (s.leave rest) other) rfl rfl
  | popped hq ht => exact ⟨Nat.le_refl _, rfl⟩
  | @delivered _ other d rest hq => exact hworks (onDelivery_works (s.leave rest) other d) rfl rfl
  | noted _ id op => exact ⟨Nat.le_refl _, rfl⟩
  | completed _ id => exact ⟨Nat.le_refl _, rfl⟩
  | @destroyed _ other hnumber hover => exact hworks (destroyRouter_works s other) rfl rfl
  | dropped _ id =>
    unfold Session.dropStream
    split
    · exact ⟨Nat.le_refl _, rfl⟩
    · next x _ =>
      exact ⟨Nat.le_of_eq (dropRouters_frame x.routers s id { stream := 0 }).2.1.symm,
        dropRouters_source x.routers s id⟩

/-- A connection keeps its number. -/
theorem Move.number {σ : Type} {s s' : Session σ} {m : List (Session σ × Task)}
    (hm : Move R D m s s') : s'.number = s.number := by
  cases hm with
  | aside ha => exact ha.number
  | began hb => exact hb.number
  | passed hn hfree => rfl
  | refused hn hrouter event status => rfl
  | @engaged _ x slot hn hrouter cluster host =>
    exact (startExchange_works (s.pass x.id) _ cluster host x.request).number
  | @wrote _ other rest hq => exact (writeCall_works (s.leave rest) other).number
  | popped hq ht => rfl
  | @delivered _ other d rest hq => exact (onDelivery_works (s.leave rest) other d).number
  | noted _ id op => rfl
  | completed _ id => rfl
  | @destroyed _ other hnumber hover => exact (destroyRouter_works s other).number
  | dropped _ id =>
    unfold Session.dropStream
    split
    · rfl
    · next x _ => exact (dropRouters_frame x.routers s id { stream := 0 }).1

theorem Moves.number {σ : Type} {s s' : Session σ} {ms : List (Session σ × Task)}
    (hm : Moves R D ms s s') : s'.number = s.number := by
  induction hm with
  | refl s => rfl
  | snoc _ hlast ih => exact hlast.number.trans ih

theorem Moves.source {σ : Type} {s s' : Session σ} {ms : List (Session σ × Task)}
    (hm : Moves R D ms s s') : s'.source = s.source := by
  induction hm with
  | refl s => rfl
  | snoc _ hm ih => exact hm.frame.2.trans ih

/-- A move takes up one task at most, and routers are then what they were before. -/
theorem Move.tasks (hm : Move R D m s s') :
    m = [] ∨ ∃ x, m = [x] ∧ ∀ ref, x.1.router? ref = s.router? ref := by
  cases hm with
  | popped hq ht => exact Or.inr ⟨_, rfl, fun ref => router?_congr rfl rfl ref⟩
  | wrote hq | delivered hq => exact Or.inr ⟨_, rfl, fun ref => router?_congr rfl rfl ref⟩
  | noted _ id op => exact Or.inr ⟨_, rfl, fun _ => rfl⟩
  | aside | began | passed | refused | engaged | completed | destroyed | dropped =>
    exact Or.inl rfl

/-- What a router is told is done by the move that takes it up. -/
theorem Move.of_deliver {x : Session TcpPools × Task} {d : Delivery} (hm : Move R D [x] s s')
    (hx : x.2 = .router ref (.deliver d)) :
    ∃ rest, s.queue.posted = .router ref (.deliver d) :: rest ∧ x.1 = s.leave rest ∧
      s' = x.1.onDelivery ref d := by
  cases hm with
  | popped hq ht => exact absurd hx (ht ref d)
  | wrote hq => cases hx
  | delivered hq =>
    cases hx
    exact ⟨_, hq, rfl, rfl⟩
  | noted _ id op => cases hx

theorem Move.unheard (hm : Move R D m s s') (h : (s.router? ref).any Router.holds = false) :
    heard ref m = [] := by
  rcases hm.tasks with rfl | ⟨x, rfl, hx⟩
  · rfl
  · rw [heard_singleton]
    exact heardAt_of_not_holds ((congrArg (Option.any Router.holds) (hx ref)).trans h)

/-! ## Runs

A trail goes from the beginning of the stream to the moment in question and can be cut anywhere, so
that all octets up to that moment are what the decoder has read. -/

/-- What a session goes through, with the tasks that it takes up: moves while a router is on its
course, and what pools tell routers in between. The course is noted at every move, as otherwise
nothing would be known about the router at the moment at which a trail is cut. -/
inductive Trail (R : RouterRef → Request → Prop) (ref : RouterRef) :
    List (Session TcpPools × Task) → Session TcpPools → Session TcpPools → Prop
  /-- Nothing happens. -/
  | refl (s : Session TcpPools) : Trail R ref [] s s
  | move {s₁ s₂ s₃ : Session TcpPools} {ms m : List (Session TcpPools × Task)}
    {past : List RouterOp} (h : Trail R ref ms s₁ s₂) (hc : OnCourse ref past s₂)
    (hm : Move R True m s₂ s₃) :
    Trail R ref (ms ++ m) s₁ s₃
  /-- A router is going to be told something. -/
  | told {s₁ s₂ : Session TcpPools} {ms : List (Session TcpPools × Task)} (h : Trail R ref ms s₁ s₂)
    (other : RouterRef) (d : Delivery) : Trail R ref ms s₁ (s₂.post (.router other (.deliver d)))

theorem Trail.trans (h₁ : Trail R ref ms s₁ s₂) (h₂ : Trail R ref ns s₂ s₃) :
    Trail R ref (ms ++ ns) s₁ s₃ := by
  induction h₂ with
  | refl s => simpa using h₁
  | move _ hc hm ih =>
    rw [← List.append_assoc]
    exact (ih h₁).move hc hm
  | told _ other d ih => exact (ih h₁).told other d

theorem OnCourse.trail_moves (h : OnCourse ref past s) (hm : Moves R True ms s s') :
    Trail R ref ms s s' := by
  induction hm with
  | refl s => exact .refl s
  | snoc hfirst hlast ih => exact (ih h).move (h.moves hfirst) hlast

theorem OnCourse.trail_step (h : OnCourse ref past s) (op : SessionOp) :
    Trail (Routed (s.actsIn op)) ref (s.takenIn op) s (s.step op) := by
  by_cases hdeliver : ∃ other d, op = .deliver other d
  · obtain ⟨other, d, rfl⟩ := hdeliver
    exact (Trail.refl s).told other d
  · exact h.trail_moves (step_moves s fun other d he => hdeliver ⟨other, d, he⟩)

theorem Trail.mono {R' : RouterRef → Request → Prop} (hR : ∀ ref r, R ref r → R' ref r)
    (h : Trail R ref ms s s') : Trail R' ref ms s s' := by
  induction h with
  | refl s => exact .refl s
  | move _ hc hm ih => exact ih.move hc (hm.mono hR)
  | told _ other d ih => exact ih.told other d

theorem OnCourse.trail {ops : List SessionOp} (h : OnCourse ref past s)
    (hops : answersOnce ref s ops = true) :
    Trail (Routed (s.acts ops)) ref (s.history ops) s (s.after ops) := by
  induction ops generalizing s past with
  | nil => exact .refl s
  | cons op ops ih =>
    obtain ⟨hop, hrest⟩ := (Bool.and_eq_true _ _).mp hops
    have h' := h.step op fun d he hans => by
      subst he
      simpa [hans] using hop
    exact ((h.trail_step op).mono fun _ _ => Routed.mono (List.subset_append_left _ _)).trans
      ((ih h' hrest).mono fun _ _ => Routed.mono (List.subset_append_right _ _))

theorem Trail.source (h : Trail R ref ms s s') : s'.source = s.source := by
  induction h with
  | refl s => rfl
  | move _ _ hm ih => exact hm.frame.2.trans ih
  | told _ other d ih => exact ih

/-- Every task is taken up by a move. -/
theorem Trail.at {x : Session TcpPools × Task} (h : Trail R ref (ms ++ x :: later) s s') :
    ∃ s₂ s₃ past, Trail R ref ms s s₂ ∧ OnCourse ref past s₂ ∧ Move R True [x] s₂ s₃ ∧
      Trail R ref later s₃ s' := by
  generalize hall : ms ++ x :: later = all at h
  induction h generalizing later with
  | refl s => simp at hall
  | told _ other d ih =>
    obtain ⟨s₂, s₃, past, h₁, hc, hm, h₂⟩ := ih hall
    exact ⟨s₂, s₃, past, h₁, hc, hm, h₂.told other d⟩
  | move hfirst hc hm ih =>
    rcases hm.tasks with rfl | ⟨y, rfl, -⟩
    · rw [List.append_nil] at hall
      obtain ⟨s₂, s₃, past, h₁, hc₂, hm₂, h₂⟩ := ih hall
      exact ⟨s₂, s₃, past, h₁, hc₂, hm₂, List.append_nil later ▸ h₂.move hc hm⟩
    -- The task of the last move is the one that is looked for, or it is the last of `later`.
    · rcases List.eq_nil_or_concat later with rfl | ⟨init, z, rfl⟩
      · obtain ⟨rfl, hx⟩ := List.append_inj' hall rfl
        cases hx
        exact ⟨_, _, _, hfirst, hc, hm, .refl _⟩
      · rw [List.concat_eq_append, ← List.cons_append, ← List.append_assoc] at hall
        obtain ⟨hinit, hz⟩ := List.append_inj' hall rfl
        cases hz
        obtain ⟨s₂, s₃, past, h₁, hc₂, hm₂, h₂⟩ := ih hinit
        exact ⟨s₂, s₃, past, h₁, hc₂, hm₂, List.concat_eq_append ▸ h₂.move hc hm⟩

/-- Where the reading of a router stands, if it is there. Before its stream begins nothing was read
for it, which has to be said, since a router that begins has read nothing. -/
structure HasRead (ref : RouterRef) (octets : Bytes) (s : Session TcpPools) : Prop where
  early : s.nextId ≤ ref.stream → octets = []
  router : ∀ r, s.router? ref = some r → r.HasRead octets

/-- A router that is gone, or has let go of everything. Its stream must have begun, or else the
router could still begin and hold something later. -/
structure HasNothingLeft (ref : RouterRef) (s : Session TcpPools) : Prop where
  begun : ref.stream < s.nextId
  ended : ∀ r, s.router? ref = some r → ∃ e, r.exchange = some e ∧ e.Over

theorem OnCourse.begun (h : OnCourse ref past s) {r : Router} (hr : s.router? ref = some r) :
    ref.stream < s.nextId := by
  obtain ⟨x, hx, -⟩ := h.router?_cases hr
  exact Nat.lt_of_not_le (h.toPlaced.begun hx)

theorem HasRead.move (h : HasRead ref octets s) (hc : OnCourse ref past s) (hm : Move R D m s s') :
    HasRead ref (octets ++ heard ref m) s' where
  early hle := by
    have hle' := Nat.le_trans hm.frame.1 hle
    have hnone : s.router? ref = none := by
      cases hr : s.router? ref with
      | none => rfl
      | some r => exact absurd (hc.begun hr) (Nat.not_lt.mpr hle')
    rw [h.early hle', hm.unheard (by rw [hnone]; rfl)]
    rfl
  router r' hr' := by
    obtain ⟨hr, hnone⟩ | ⟨rfl, hid, hnone⟩ | ⟨r, hr, hgoes⟩ := hc.goes hm hr'
    · rw [hnone, List.append_nil]
      exact h.router r' hr
    · rw [hnone, h.early (Nat.le_of_eq hid.symm)]
      rfl
    · exact (h.router r hr).goes hgoes

theorem HasRead.trail (h : HasRead ref octets s) (ht : Trail R ref ms s s') :
    HasRead ref (octets ++ heard ref ms) s' := by
  induction ht with
  | refl s => exact (List.append_nil octets).symm ▸ h
  | move _ hc hm ih =>
    rw [heard_append, ← List.append_assoc]
    exact (ih h).move hc hm
  | told _ other d ih => exact ⟨(ih h).early, (ih h).router⟩

theorem HasNothingLeft.not_holds (h : HasNothingLeft ref s) : (s.router? ref).any Router.holds = false := by
  cases hr : s.router? ref with
  | none => rfl
  | some r =>
    obtain ⟨e, he, ho⟩ := h.ended r hr
    simp [Router.holds, he, ho.link]

theorem HasNothingLeft.move (h : HasNothingLeft ref s) (hc : OnCourse ref past s) (hm : Move R D m s s') :
    HasNothingLeft ref s' where
  begun := Nat.lt_of_lt_of_le h.begun hm.frame.1
  ended r' hr' := by
    obtain ⟨hr, -⟩ | ⟨-, hid, -⟩ | ⟨r, hr, hgoes⟩ := hc.goes hm hr'
    · exact h.ended r' hr
    · exact absurd h.begun (by omega)
    · obtain ⟨e, he, hover⟩ := h.ended r hr
      generalize heard ref m = data at hgoes
      cases hgoes with
      | asked hwaits =>
        have hpending := (hwaits e he).pending
        rw [hover.pending] at hpending
        cases hpending
      | wrote he' hh | read he' hh | ended he' hh =>
        obtain rfl := Option.some.inj (he.symm.trans he')
        exact absurd hover hh.not_over

/-- Whatever comes for a router that has let go of everything, it does not read it. -/
theorem HasNothingLeft.trail (h : HasNothingLeft ref s) (ht : Trail R ref ms s s') :
    HasNothingLeft ref s' ∧ ∀ x ∈ ms, (x.1.router? ref).any Router.holds = false := by
  induction ht with
  | refl s => exact ⟨h, fun x hx => nomatch hx⟩
  | told _ other d ih => exact ⟨⟨(ih h).1.begun, (ih h).1.ended⟩, (ih h).2⟩
  | move _ hc hm ih =>
    obtain ⟨hthrough, hall⟩ := ih h
    refine ⟨hthrough.move hc hm, fun x hx => ?_⟩
    rcases List.mem_append.mp hx with hx | hx
    · exact hall x hx
    · rcases hm.tasks with rfl | ⟨y, rfl, hy⟩
      · cases hx
      · rw [List.mem_singleton.mp hx, hy]
        exact hthrough.not_holds

/-- Octets for a router that holds no connection are dropped. -/
theorem onDelivery_of_not_holds (h : (s.router? ref).any Router.holds = false) (octets : Bytes) :
    s.onDelivery ref (.data octets) = s := by
  rcases onDelivery_cases s ref (.data octets) with ⟨-, heq⟩ | ⟨r, e, hr, he, heq⟩
  · exact heq
  · rw [heq]
    rw [hr, Option.any_some, Router.holds_eq he, Bool.not_eq_false'] at h
    exact if_pos h

/-! ## What becomes of a connection that is read from

The connection is closed or kept when the frame is complete. Which of the two depends on the reply
only, and not on octets behind it. -/

open ReplyDecoder (nextFrame Answers)

/-- A router that holds a connection is told octets from it. It goes on holding the connection as
long as all that it has read is no whole frame. Else it is through, and whether the connection is
kept depends on nothing but the first reply in what it has read. -/
theorem OnCourse.reads {link : LinkId} {r : Router} {e : Exchange} (h : OnCourse ref past s)
    (data : Bytes) (hread : HasRead ref octets s) (hsource : s.source = TcpPools.source)
    (hr : s.router? ref = some r) (he : r.exchange = some e) (hlink : e.link = some link) :
    let seen := octets ++ data
    let s' := s.onDelivery ref (.data data)
    nextFrame e.transport octets = .ok none ∧
    ((nextFrame e.transport seen = .ok none ∧ s'.link? ref = some link) ∨
    (nextFrame e.transport seen ≠ .ok none ∧ HasNothingLeft ref s' ∧ s'.link? ref = none ∧
      ∃ kept : Bool, (kept = true ↔ s.side.pools.isOpen link = true ∧
        s.side.pools.isLodged link = true ∧ ∃ rest, Answers e.transport seen rest) ∧
        s'.side.pools.isOpen link = kept ∧
        s'.side.pools.idleCount link = s.side.pools.idleCount link + kept.toNat)) := by
  intro seen s'
  obtain ⟨x, hx, hxr⟩ := h.router?_cases hr
  obtain ⟨-, hh, hsane, -, -⟩ := h.holding hx hxr he (by rw [hlink]; rfl)
  -- It holds a connection, so its response is not complete and the octets are not passed over.
  have hgo : ¬(e.link.isNone || e.responseComplete) = true := by simp [hlink, hh.incomplete]
  have hdone := (hread.router r hr).of_some he hh.not_over
  obtain ⟨isOver, d', t, ht, -, hstep⟩ := Exchange.onData_course r.decoder data s.now hh hsane
  obtain ⟨hpools, r₂, hr₂, hex₂, -⟩ := onHostData_work hr hgo ht
  have hs' : s' = s.onHostData ref r e data := by
    show s.onDelivery ref (.data data) = _
    simp only [Session.onDelivery, hr, Option.bind_some, he, Option.map_some]
  rw [← hs'] at hpools hr₂
  refine ⟨hdone.unfinished, ?_⟩
  obtain ⟨hnone, -, hholds, -⟩ | ⟨hsome, hover, how, hcommands, hhow⟩ := hdone.onData hh ht
  · refine Or.inl ⟨hnone, ?_⟩
    rw [link?_of_exchange hr₂ hex₂, hholds.link, hlink]
  -- The octets complete a frame, or cannot begin one. Either way the exchange is over, and what is
  -- done with the connection is the one command that `letsGo_kept` is about.
  · rw [if_pos hover] at hstep
    have hnext : s'.nextId = s.nextId := by rw [hs']; exact (onHostData_works hr e data).nextId
    have hthrough : HasNothingLeft ref s' := by
      refine ⟨hnext ▸ h.begun hr, fun r' hr' => ?_⟩
      obtain rfl := Option.some.inj (hr₂.symm.trans hr')
      exact ⟨_, hex₂, hstep.1⟩
    have hkept := TcpPools.letsGo_kept ref hcommands hlink s.side.pools
    rw [hsource] at hpools
    rw [← hpools] at hkept
    refine Or.inr ⟨hsome, hthrough, ?_, _, ?_, hkept.1, hkept.2⟩
    · rw [link?_of_exchange hr₂ hex₂, hcommands.link]
    · rw [Bool.and_eq_true, Bool.and_eq_true, Option.isNone_iff_eq_none, hhow]
      exact ⟨fun hk => ⟨hk.1.2, hk.2, hk.1.1⟩, fun hk => ⟨⟨hk.2.2, hk.1⟩, hk.2.1⟩⟩

theorem opened_hasRead (number : Nat) (plan : Plan) (flags : Flags) (source : PoolSource TcpPools)
    (side : HostSide TcpPools) (stats : ListenerStats) (clock : Clock) (ref : RouterRef) :
    HasRead ref [] (opened number plan flags source side stats clock) := by
  refine ⟨fun _ => rfl, fun r hr => ?_⟩
  unfold Session.router? at hr
  split at hr
  · cases hr
  · cases hr

/-- What decides whether a connection that was read from is kept. A connection of a client was
opened and things have happened to it in any order, its pools answering a router that waits at most
once. Take any moment at which a router that holds a connection is told octets of it, and all that
it has then read from the connection. Before that moment this was no whole frame. The router goes on
holding the connection as long as it still is none. Else it lets go of it, and the pool keeps the
connection open and idle exactly if it was open, its pool is there, and what was read begins with a
reply of a host that wants to stay. Whatever is behind that reply makes no difference, and octets
that come later for the router come to nothing. -/
theorem opened_surplus (number : Nat) (plan : Plan) (flags : Flags) (side : HostSide TcpPools)
    (stats : ListenerStats) (clock : Clock) (id : StreamId) (slot : Nat) (ops : List SessionOp)
    (hops : answersOnce { session := number, stream := id, slot }
      (opened number plan flags TcpPools.source side stats clock) ops = true) :
    let s₀ := opened number plan flags TcpPools.source side stats clock
    let ref := s₀.refTo id slot
    let moments := s₀.history ops
    ∀ i m octets r e link, moments[i]? = some m → m.2 = .router ref (.deliver (.data octets)) →
      m.1.router? ref = some r → r.exchange = some e → e.link = some link →
      let seen := heard ref (moments.take i) ++ octets
      let pools := m.1.side.pools
      let s := m.1.runTask m.2
      nextFrame e.transport (heard ref (moments.take i)) = .ok none ∧
      (s.link? ref = some link ↔ nextFrame e.transport seen = .ok none) ∧
      (nextFrame e.transport seen ≠ .ok none → s.link? ref = none ∧
        (s.side.pools.isOpen link = true ↔ pools.isOpen link = true ∧ pools.isLodged link = true ∧
          ∃ rest, rest <:+ seen ∧ Answers e.transport seen rest) ∧
        (s.side.pools.isOpen link = true →
          s.side.pools.idleCount link = pools.idleCount link + 1) ∧
        ∀ m' ∈ moments.drop (i + 1), ∀ more, m'.2 = .router ref (.deliver (.data more)) →
          m'.1.runTask m'.2 = m'.1) := by
  intro s₀ ref moments i m octets r e link hm htask hr he hlink seen pools s
  have htrail : Trail (Routed (s₀.acts ops)) ref moments s₀ (s₀.after ops) :=
    (opened_onCourse number plan flags TcpPools.source side stats clock id slot).trail hops
  obtain ⟨hi, hget⟩ := List.getElem?_eq_some_iff.mp hm
  have hsplit : moments = moments.take i ++ m :: moments.drop (i + 1) := by
    rw [← hget, ← List.drop_eq_getElem_cons hi, List.take_append_drop]
  rw [hsplit] at htrail
  -- The run is cut at the moment in question: a trail before it, the move that takes the octets up,
  -- and a trail behind it.
  obtain ⟨s₁, s₂, past, hbefore, hcourse, hmove, hafter⟩ := htrail.at
  obtain ⟨rest, hq, hleft, rfl⟩ := hmove.of_deliver htask
  have hread := (opened_hasRead number plan flags TcpPools.source side stats clock ref).trail hbefore
  have hs : s = m.1.onDelivery ref (.data octets) := by
    show m.1.runTask m.2 = _
    rw [htask]
    rfl
  have hcourse' : OnCourse ref _ m.1 := hleft ▸ hcourse.leave hq
  have hread' : HasRead ref (heard ref (moments.take i)) m.1 := hleft ▸ ⟨hread.early, hread.router⟩
  have hsource : m.1.source = TcpPools.source := hleft ▸ hbefore.source
  obtain ⟨hearlier, hcases⟩ := hcourse'.reads octets hread' hsource hr he hlink
  rw [← hs] at hcases hafter
  refine ⟨hearlier, ?_, fun hsome => ?_⟩
  · obtain ⟨hnone, hheld⟩ | ⟨hsome, -, hfree, -⟩ := hcases
    · exact ⟨fun _ => hnone, fun _ => hheld⟩
    · refine ⟨fun hheld => ?_, fun hnone => absurd hnone hsome⟩
      rw [hfree] at hheld
      cases hheld
  -- From here on the router has let go of everything, and that lasts for the rest of the run.
  · obtain ⟨-, hthrough, hfree, kept, hkept, hopen, hidle⟩ := hcases.resolve_left fun h => hsome h.1
    refine ⟨hfree, ?_, fun ho => ?_, fun m' hm' more hmore => ?_⟩
    · rw [hopen, hkept]
      refine and_congr_right' (and_congr_right' (exists_congr fun rest => ?_))
      refine ⟨fun ha => ⟨?_, ha⟩, fun ha => ha.2⟩
      obtain ⟨frame, kind, reply, hframe, -⟩ := ha
      exact ReplyDecoder.nextFrame_suffix hframe
    · rw [hidle, ← hopen, ho]
      rfl
    · rw [hmore]
      exact onDelivery_of_not_holds ((hthrough.trail hafter).2 m' hm') more

/-- An octet stands behind the reply in the read that completes it, and one more comes later. The
connection is idle and open all the same. -/
theorem opened_surplus_behind_reply :
    let plan : Plan :=
      { label := "edge", routes := ⟨[({}, { name := "all", cluster := some "c" })]⟩,
        parts := [⟨.decoder, .router 0⟩] }
    let host : HostRef := { address := "h:1", cluster := "c" }
    let side : HostSide TcpPools :=
      { generations := [{ list := [{ config := { name := "c", hosts := ["h:1"]
                                                 transport := .unframed }
                                     hosts := [{ address := "h:1", cluster := "c" }] }] }],
        pools := { pools := [{ host, most := 1, idle := [0] }], links := [{ pool := 0 }],
                   current := StringMap.insert {} host.label 0 } }
    let s₀ := opened 0 plan {} TcpPools.source side (.start "edge" 0) {}
    let ref := s₀.refTo 0 0
    let octets := Bytes.ofText "ok \"hi\"\nx"
    let ops : List SessionOp := [.request { service := "users", method := "get" },
      .deliver ref (.data octets), .deliver ref (.data (Bytes.ofText "y")), .run]
    ∃ m, (s₀.history ops)[0]? = some m ∧ m.2 = .router ref (.deliver (.data octets)) ∧
      m.1.link? ref = some 0 ∧ (m.1.runTask m.2).link? ref = none ∧
      (m.1.runTask m.2).side.pools.isOpen 0 = true ∧
      (m.1.runTask m.2).side.pools.idleCount 0 = 1 ∧ Answers .unframed octets (Bytes.ofText "x") := by
  intro plan host side s₀ ref octets ops
  have hops : answersOnce ref s₀ ops = true := by decide +kernel
  obtain ⟨m, hm⟩ : ∃ m, (s₀.history ops)[0]? = some m :=
    Option.isSome_iff_exists.mp (by decide +kernel)
  -- What stands there before and after the task with both the reply and an octet behind it.
  have hall : ((s₀.history ops)[0]?).all (fun m =>
      m.2.delivery? = some (ref, .data octets) ∧ m.1.link? ref = some 0 ∧
      (m.1.router? ref).any (fun r => r.exchange.any (·.transport == .unframed)) ∧
      m.1.side.pools.idleCount 0 = 0 ∧ (m.1.runTask m.2).side.pools.isOpen 0) = true := by
    decide +kernel
  rw [hm, Option.all_some, decide_eq_true_iff] at hall
  obtain ⟨htold, hlink, htransport, hidle, hopen⟩ := hall
  have htask := Task.eq_of_delivery? htold
  obtain ⟨r, e, hr, he, hlink'⟩ := link?_eq_some_iff.mp hlink
  rw [hr, Option.any_some, he, Option.any_some, beq_iff_eq] at htransport
  have hframe : nextFrame .unframed octets =
      .ok (some (Bytes.ofText "ok \"hi\"\n", Bytes.ofText "x")) := rfl
  obtain ⟨-, -, hfree⟩ := opened_surplus 0 plan {} side (.start "edge" 0) {} 0 0 ops hops 0 m octets r
    e 0 hm htask hr he hlink'
  rw [htransport] at hfree
  obtain ⟨hnone, hkept, hcount, -⟩ := hfree fun h => nomatch hframe.symm.trans h
  obtain ⟨-, -, rest, -, frame, kind, reply, hfound, hreply⟩ := hkept.mp hopen
  cases hframe.symm.trans hfound
  exact ⟨m, hm, htask, hlink, hnone, hopen, by rw [hcount hopen, hidle], _, kind, reply, hfound,
    hreply⟩

end Session

end RpcProxy

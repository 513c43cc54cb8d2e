import RpcProxy.Proofs.Pool.SentCalls
import RpcProxy.Proofs.Session.RouterShares

/-!
# Calls and answers on connections to hosts

A connection is used for one call after another. What has passed on it is kept in an `Account`: the
calls that were written, and how many of them were answered in a way that left the connection fit
for another call. The accounts are kept beside the program and are seen by nothing in it. They are
needed because the program keeps no such record: a pool counts calls with a number that wraps
around, and nobody remembers who wrote them.

A `Scene` is all that matters here: what every router of every session has in mind and has to do,
and the pools. It leaves out streams, buffers and clients, so that what two sessions do to the same
pools can be said without either of them. `AccountsFit` is what holds of a scene at every moment.
Its core is `Place`, which says where a connection can be and what its account looks like there. An
idle connection owes no answer; one that a router holds owes the answer to that router's call, if
the call was written. The places exclude each other, so that a connection in one of them is known
not to be on its way to anybody else, nor held, nor kept by its pool.

Two more facts have to be carried along, since they decide in which place a connection will be next.
A router that waits for a request is the one that has made it and is answered once (`Queued`);
otherwise two routers could be brought the same connection. And who has written a call does not
write another (`OneRouterEach`); otherwise the numbers would be one off.

A share of a router (`Share`) changes the place of one connection at most. All others are left alone
(`Place.away`), so every kind of share owes one lemma about the connection it is about.
-/

set_option autoImplicit false

namespace RpcProxy

/-! ## Accounts

An account has the calls of one connection in the order in which they were sent, and the answers
that were read on it. -/

/-- A call that a router has written. -/
structure Call where
  router : RouterRef
  /-- How the connection frames messages. -/
  transport : Config.Transport
  request : Request

/-- What is sent for a call that has `k` calls before it on its connection. -/
def Call.octets (k : Nat) (c : Call) : Bytes :=
  c.transport.frame ((RequestLine.ofRequest c.request).encode (some (Int32.ofNat k)))

/-- What has passed on a connection. -/
structure Account where
  /-- The calls that were written, in order. -/
  calls : List Call := []
  /-- Who has read an answer that has left the connection fit for another call, in order. -/
  answers : List RouterRef := []

/-- Who has written calls, in order. Compared with those who have read answers, it tells which
answer is owed. -/
def Account.routers (a : Account) : List RouterRef := a.calls.map (·.router)

/-- Everything that was sent. -/
def Account.sends (a : Account) : List Bytes := a.calls.mapIdx Call.octets

/-! ## What a router has to do

The errands of a router, apart from what it asks of its stream. Which of them may wait at a time
depends on where its call stands. -/

/-- Whether something that a router has to do brings it a connection. -/
def RouterOp.brings (link : LinkId) : RouterOp → Bool
  | .deliver d => d.brings link
  | .write | .ask _ => false

theorem RouterOp.brings_ready (link l : LinkId) (host : HostRef) :
    (RouterOp.deliver (.ready link host)).brings l = (link == l) := rfl

/-- What a router has to do itself, other than what its stream does for it. Whether it has written
its call depends on these alone; a stream can be asked for something at any time. -/
def errands (ops : List RouterOp) : List RouterOp := ops.filter (!·.isAsk)

/-- What a router has to do suits what it has in mind. It is said of the tasks that are put aside,
because what a router does next is decided when it puts them aside, and until it takes them up
nothing must come in between. -/
structure TasksSuit (R : Request → Prop) (m : Option Router) (ops : List RouterOp) : Prop where
  /-- Before its request comes it has nothing to do. -/
  blank : ∀ r, m = some r → r.exchange = none → errands ops = []
  /-- While it waits for its pool, it can only be answered. -/
  waits : ∀ r e, m = some r → r.exchange = some e → e.pending.isSome →
    (∀ op ∈ errands ops, op.isAnswer = true) ∧ e.requestComplete = false
  /-- With a connection and a call that is not written yet, it writes before anything else. -/
  unsent : ∀ r e, m = some r → r.exchange = some e → e.link.isSome → e.requestComplete = false →
    ∃ rest, errands ops = .write :: rest
  /-- Its call is made of a request that came to it. -/
  line : ∀ r e, m = some r → r.exchange = some e →
    ∃ request, R request ∧ r.line = some (.ofRequest request)

/-- A router that has written a call will not write another, and has this call in mind as long as it
holds the connection. -/
def WritesNoMore (c : Call) (m : Option Router) : Prop :=
  ∀ r, m = some r → ∃ e, r.exchange = some e ∧ e.pending = none ∧
    (e.link.isSome → e.requestComplete = true ∧ e.transport = c.transport ∧
      r.line = some (.ofRequest c.request))

/-- Where an exchange can stand: it waits for its pool, holds a connection, or has come to its
end. -/
def WaitsHoldsOrOver (m : Option Router) : Prop :=
  ∀ r e, m = some r → r.exchange = some e → e.Waiting ∨ e.Holding ∨ e.Over

/-! ## Scenes

What routers of all sessions have in mind and what they have to do, with the pools. Sessions are not
part of it, so that nothing has to be said about who works when. -/

/-- All routers, be they there or not, and the pools. A router that has not come yet is one whose
stream has not begun, and one that is gone is one whose stream has; so nothing that was ever said of
a router is lost with it. -/
@[ext] structure Scene where
  /-- What a router has in mind, while it is there. -/
  mind : RouterRef → Option Router
  toDo : RouterRef → List RouterOp
  /-- Whether its stream has begun. -/
  born : RouterRef → Prop
  pools : TcpPools

namespace Scene

/-- The connection that a router holds. -/
def link? (S : Scene) (ref : RouterRef) : Option LinkId := (S.mind ref).bind (·.link?)

/-- How often a connection is on its way to a router. -/
def comes (S : Scene) (ref : RouterRef) (l : LinkId) : Nat := (S.toDo ref).countP (·.brings l)

/-- A router has nothing to do with a connection: it neither holds it nor is about to be brought
it. -/
structure Unrelated (S : Scene) (l : LinkId) (ref : RouterRef) : Prop where
  link : S.link? ref ≠ some l
  comes : S.comes ref l = 0

/-- What holds of an open connection that a router holds: nobody has told the router of its end, and
it owes the answer to the router's call once that is written. Before that the call is ready to be
written, under the number that the connection will have then, with nothing of it sent. -/
structure Live (S : Scene) (a : Account) (l : LinkId) (ref : RouterRef) (r : Router) (e : Exchange) :
    Prop where
  quiet : ∀ event, .deliver (.event event) ∉ S.toDo ref
  written : e.requestComplete = true →
    S.pools.number l = Int32.ofNat a.calls.length ∧ a.routers = a.answers ++ [ref]
  unsent : e.requestComplete = false →
    S.pools.number l = Int32.ofNat (a.calls.length + 1) ∧ a.routers = a.answers ∧
      r.pendingWrite = (r.line.map (·.encode (some (Int32.ofNat a.calls.length)))).getD []

/-- Where a connection is, and what its account looks like there. A connection can only go from one
of these places to the next by something that a router or a socket does. -/
inductive Place (S : Scene) (a : Account) (l : LinkId) : Prop
  /-- There is no such connection yet. -/
  | unknown (howner : S.pools.owner? l = none) (hidle : S.pools.idleCount l = 0)
    (hapart : ∀ ref, S.Unrelated l ref) (hnumber : S.pools.number l = 0) (ha : a = {})
  /-- It is new, and on its way to a router. -/
  | way (ref : RouterRef) (howner : S.pools.owner? l = some none) (hidle : S.pools.idleCount l = 0)
    (hcomes : S.comes ref l = 1) (hlink : S.link? ref ≠ some l)
    (hapart : ∀ other, other ≠ ref → S.Unrelated l other) (hnumber : S.pools.number l = 0) (ha : a = {})
  /-- It is kept for the next call. -/
  | idle (howner : S.pools.owner? l = some none) (hidle : S.pools.idleCount l = 1)
    (hapart : ∀ ref, S.Unrelated l ref) (hnumber : S.pools.number l = Int32.ofNat a.calls.length)
    (ha : a.routers = a.answers)
  /-- A router has it. What is said of its account ends with the connection, since a router that has
  not heard of the end yet may go on writing, and nothing of that is sent. -/
  | held (ref : RouterRef) (r : Router) (e : Exchange) (hr : S.mind ref = some r)
    (he : r.exchange = some e) (hlink : e.link = some l)
    (howner : S.pools.owner? l = some (some ref)) (hidle : S.pools.idleCount l = 0)
    (hcomes : S.comes ref l = 0) (hapart : ∀ other, other ≠ ref → S.Unrelated l other)
    (hlive : S.pools.isOpen l = true → S.Live a l ref r e)
  /-- Nobody will ever use it again, since no router has it and its pool has not kept it. Its
  account may owe an answer for ever. -/
  | astray (howner : S.pools.owner? l = some none) (hidle : S.pools.idleCount l = 0)
    (hapart : ∀ ref, S.Unrelated l ref)

/-- What a router has to do with a connection stays the same. Other things that it has in mind or
has to do may change, and ends of other connections may be told to it. -/
structure SameRelation (S S' : Scene) (l : LinkId) (ref : RouterRef) : Prop where
  comes : S'.comes ref l = S.comes ref l
  events : S.link? ref = some l → ∀ event, .deliver (.event event) ∈ S'.toDo ref →
    .deliver (.event event) ∈ S.toDo ref
  mind : S'.mind ref = S.mind ref ∨ (S.link? ref ≠ some l ∧ S'.link? ref ≠ some l)

variable {S S' : Scene} {a : Account} {l link : LinkId} {ref other : RouterRef}

theorem link?_eq_some_iff :
    S.link? ref = some l ↔ ∃ r e, S.mind ref = some r ∧ r.exchange = some e ∧ e.link = some l :=
  Router.bind_link?_eq_some_iff

theorem link?_congr (h : S'.mind ref = S.mind ref) : S'.link? ref = S.link? ref := by
  unfold link?
  rw [h]

theorem SameRelation.same (hmind : S'.mind ref = S.mind ref) (htoDo : S'.toDo ref = S.toDo ref)
    (l : LinkId) : SameRelation S S' l ref where
  comes := by rw [Scene.comes, htoDo]; rfl
  events _ event h := htoDo ▸ h
  mind := Or.inl hmind

theorem SameRelation.unheld (h : SameRelation S S' l ref) (hl : S.link? ref ≠ some l) :
    S'.link? ref ≠ some l := by
  rcases h.mind with hsame | ⟨-, hl'⟩
  · rwa [link?_congr hsame]
  · exact hl'

theorem SameRelation.apart (h : SameRelation S S' l ref) (ha : S.Unrelated l ref) : S'.Unrelated l ref :=
  ⟨h.unheld ha.link, h.comes.trans ha.comes⟩

/-- A connection that is left alone stays in its place, unless its pool keeps it no longer. -/
theorem Place.away (h : S.Place a l) (hp : S.pools.AtMostCloses S'.pools l)
    (hb : ∀ ref, SameRelation S S' l ref) : S'.Place a l := by
  have hle := hp.idle
  cases h with
  | unknown howner hidle hapart hnumber ha =>
    exact .unknown (hp.owner.trans howner) (by omega) (fun ref => (hb ref).apart (hapart ref))
      (hp.number.trans hnumber) ha
  | way ref howner hidle hcomes hlink hapart hnumber ha =>
    exact .way ref (hp.owner.trans howner) (by omega) ((hb ref).comes.trans hcomes)
      ((hb ref).unheld hlink) (fun other hne => (hb other).apart (hapart other hne))
      (hp.number.trans hnumber) ha
  | idle howner hidle hapart hnumber ha =>
    have howner' := hp.owner.trans howner
    have hapart' := fun ref => (hb ref).apart (hapart ref)
    -- A pool may always drop a connection that it keeps, when it closes it for having too many.
    by_cases hkept : S'.pools.idleCount l = 1
    · exact .idle howner' hkept hapart' (hp.number.trans hnumber) ha
    · exact .astray howner' (by omega) hapart'
  | held ref r e hr he hlink howner hidle hcomes hapart hlive =>
    -- Its holder has the same in mind as before; a change is allowed to those only who have nothing
    -- to do with it.
    have hlink? : S.link? ref = some l := link?_eq_some_iff.mpr ⟨r, e, hr, he, hlink⟩
    have hsame : S'.mind ref = S.mind ref := (hb ref).mind.resolve_right fun h => h.1 hlink?
    refine .held ref r e (hsame.trans hr) he hlink (hp.owner.trans howner) (by omega)
      ((hb ref).comes.trans hcomes) (fun other hne => (hb other).apart (hapart other hne)) fun ho => ?_
    have hthen := hlive (hp.state ho)
    refine ⟨fun event hmem => hthen.quiet event ((hb ref).events hlink? event hmem), ?_, ?_⟩
    · rw [hp.number]
      exact hthen.written
    · rw [hp.number]
      exact hthen.unsent
  | astray howner hidle hapart =>
    exact .astray (hp.owner.trans howner) (by omega) fun ref => (hb ref).apart (hapart ref)

/-! ## What holds of a scene

The invariant, and the frame for a share: if one router acts, what is known of others is carried
along. -/

/-- Routers and the requests that they wait for know each other. Each half is used where the other
is at a loss. When an attempt to connect is over, the request is known and its router has to be
found waiting; when a router goes, the router is known and its request has to be found, to be taken
back. -/
structure Queued (S : Scene) : Prop where
  /-- A router that waits is the one that has asked, and is not answered before its request is
  over. -/
  waits : ∀ ref r e h, S.mind ref = some r → r.exchange = some e → e.pending = some h →
    ∃ q, S.pools.requests[h]? = some q ∧ q.router = ref ∧ q.cancelled = none ∧
      (q.isOver = false → (S.toDo ref).countP RouterOp.isAnswer = 0)
  /-- A router that is there and has asked waits for every request of its own that is neither over
  nor taken back. -/
  asked : ∀ h q, S.pools.requests[h]? = some q → S.born q.router ∧
    ∀ r, S.mind q.router = some r → ∃ e, r.exchange = some e ∧
      (q.isOver = false → q.cancelled = none → e.pending = some h)
  /-- A router that goes leaves no such request behind. -/
  underway : ∀ (h : Nat) (q : ConnectRequest), S.pools.requests[h]? = some q → q.isOver = false →
    q.cancelled = none → (S.mind q.router).isSome

/-- Every call is one router's, who will not write another. The second half would not be kept
without the first, since nothing else keeps a router from writing again. -/
structure OneRouterEach (R : RouterRef → Request → Prop) (A : LinkId → Account) (S : Scene) : Prop where
  spent : ∀ l c, c ∈ (A l).calls → S.born c.router ∧ R c.router c.request ∧ WritesNoMore c (S.mind c.router)
  once : ∀ {l k l' k' : Nat} {c c' : Call}, (A l).calls[k]? = some c → (A l').calls[k']? = some c' →
    c.router = c'.router → l = l' ∧ k = k'

/-- What holds of a scene at every moment. -/
structure AccountsFit (R : RouterRef → Request → Prop) (A : LinkId → Account) (S : Scene) : Prop where
  place : ∀ l, S.Place (A l) l
  sends : ∀ l, S.pools.sends l = (A l).sends
  unborn : ∀ ref, ¬S.born ref → S.mind ref = none ∧ S.toDo ref = []
  tasks : ∀ ref, TasksSuit (R ref) (S.mind ref) (S.toDo ref)
  queued : S.Queued
  booked : OneRouterEach R A S

/-- The scene fits with accounts that have grown, `n` telling who has read an answer more. Calls are
only ever added, and answers only where a piece of work says so; that is what makes the accounts of
a whole course readable from its pieces. -/
def FitsGrown (R : RouterRef → Request → Prop) (A : LinkId → Account) (n : LinkId → List RouterRef)
    (S : Scene) : Prop :=
  ∃ A', AccountsFit R A' S ∧ ∀ l, (A l).calls <+: (A' l).calls ∧ (A' l).answers = (A l).answers ++ n l

/-- One router has taken up `taken` and put `ops` behind other work. What it has then in mind, and
what pools it leaves, is for its share to say. -/
structure Acted (ref : RouterRef) (taken ops : List RouterOp) (S S' : Scene) : Prop where
  own : ∀ op ∈ ops, op.isOwn
  toDo : ∃ left, S.toDo ref = taken ++ left ∧ S'.toDo ref = left ++ ops
  born : S'.born = S.born
  minds : ∀ other, other ≠ ref → S'.mind other = S.mind other
  toDos : ∀ other, other ≠ ref → S'.toDo other = S.toDo other
  gone : S.mind ref = none → S'.mind ref = none

section

variable {R : RouterRef → Request → Prop} {A A' : LinkId → Account} {taken ops : List RouterOp}

theorem AccountsFit.goes (h : AccountsFit R A S) : FitsGrown R A (fun _ => []) S :=
  ⟨A, h, fun _ => ⟨List.prefix_rfl, (List.append_nil _).symm⟩⟩

theorem AccountsFit.born_of_mind {r : Router} (h : AccountsFit R A S) (hr : S.mind ref = some r) :
    S.born ref := by
  refine Classical.byContradiction fun hnot => ?_
  rw [(h.unborn ref hnot).1] at hr
  cases hr

theorem AccountsFit.born_of_mem {op : RouterOp} (h : AccountsFit R A S) (hop : op ∈ S.toDo ref) :
    S.born ref := by
  refine Classical.byContradiction fun hnot => ?_
  rw [(h.unborn ref hnot).2] at hop
  cases hop

/-! ### Lists of things to do -/

theorem errands_append (ops more : List RouterOp) :
    errands (ops ++ more) = errands ops ++ errands more := List.filter_append ..

theorem own_brings (hown : ∀ op ∈ ops, op.isOwn) (l : LinkId) : ops.countP (·.brings l) = 0 := by
  rw [List.countP_eq_zero]
  intro op hop
  cases op with
  | write | ask => simp [RouterOp.brings]
  | deliver d => exact absurd (hown _ hop) id

theorem own_answers (hown : ∀ op ∈ ops, op.isOwn) : ops.countP RouterOp.isAnswer = 0 := by
  rw [List.countP_eq_zero]
  intro op hop
  simp [(hown op hop).not_isAnswer]

theorem Acted.comes (ha : Acted ref taken ops S S') (l : LinkId) :
    taken.countP (·.brings l) + S'.comes ref l = S.comes ref l := by
  obtain ⟨left, hleft, hleft'⟩ := ha.toDo
  have hown := own_brings ha.own l
  unfold Scene.comes
  rw [hleft, hleft', List.countP_append, List.countP_append, hown, Nat.add_zero]

theorem Acted.answers (ha : Acted ref taken ops S S') : taken.countP RouterOp.isAnswer +
    (S'.toDo ref).countP RouterOp.isAnswer = (S.toDo ref).countP RouterOp.isAnswer := by
  obtain ⟨left, hleft, hleft'⟩ := ha.toDo
  rw [hleft, hleft', List.countP_append, List.countP_append, own_answers ha.own, Nat.add_zero]

theorem Acted.events (ha : Acted ref taken ops S S') (event : ConnectionEvent)
    (h : .deliver (.event event) ∈ S'.toDo ref) : .deliver (.event event) ∈ S.toDo ref := by
  obtain ⟨left, hleft, hleft'⟩ := ha.toDo
  rw [hleft'] at h
  rcases List.mem_append.mp h with h | h
  · exact hleft ▸ List.mem_append_right taken h
  · exact absurd (ha.own _ h) id

/-! ### What others have to do with it -/

/-- Connections that a router brings nowhere and does not hold are left alone by it. -/
theorem AccountsFit.place_away (h : AccountsFit R A S) (ha : Acted ref taken ops S S') {l : LinkId}
    (htaken : ∀ op ∈ taken, op.brings l = false)
    (hmind : S'.mind ref = S.mind ref ∨ (S.link? ref ≠ some l ∧ S'.link? ref ≠ some l))
    (hp : S.pools.AtMostCloses S'.pools l) : S'.Place (A l) l := by
  refine (h.place l).away hp fun other => ?_
  by_cases hother : other = ref
  · subst hother
    refine ⟨?_, fun _ => ha.events, hmind⟩
    have hcomes := ha.comes l
    have hnone : taken.countP (·.brings l) = 0 := by
      rw [List.countP_eq_zero]
      intro op hop
      simp [htaken op hop]
    omega
  · exact .same (ha.minds other hother) (ha.toDos other hother) l

theorem Acted.apart (ha : Acted ref taken ops S S') (hne : other ≠ ref) (h : S.Unrelated l other) :
    S'.Unrelated l other :=
  (SameRelation.same (ha.minds other hne) (ha.toDos other hne) l).apart h

theorem AccountsFit.unborn_acted (h : AccountsFit R A S) (ha : Acted ref taken ops S S') (hborn : S.born ref)
    (other : RouterRef) (hnot : ¬S'.born other) : S'.mind other = none ∧ S'.toDo other = [] := by
  have hne : other ≠ ref := by
    rintro rfl
    rw [ha.born] at hnot
    exact hnot hborn
  rw [ha.minds other hne, ha.toDos other hne]
  exact h.unborn other (ha.born ▸ hnot)

theorem AccountsFit.tasksSuit_acted (h : AccountsFit R A S) (ha : Acted ref taken ops S S')
    (hown : TasksSuit (R ref) (S'.mind ref) (S'.toDo ref)) (other : RouterRef) :
    TasksSuit (R other) (S'.mind other) (S'.toDo other) := by
  by_cases hne : other = ref
  · exact hne ▸ hown
  · rw [ha.minds other hne, ha.toDos other hne]
    exact h.tasks other

/-! ### Requests -/

/-- No request is made or taken back. A router that does not wait any more has been answered. -/
theorem Queued.kept (h : S.Queued) (ha : Acted ref taken ops S S')
    (hrequests : S'.pools.requests = S.pools.requests)
    (hstays : (S.mind ref).isSome → (S'.mind ref).isSome)
    (hnew : ∀ r' e' i, S'.mind ref = some r' → r'.exchange = some e' → e'.pending = some i →
      ∃ r e, S.mind ref = some r ∧ r.exchange = some e ∧ e.pending = some i ∧
        (S'.toDo ref).countP RouterOp.isAnswer ≤ (S.toDo ref).countP RouterOp.isAnswer)
    (hold : ∀ r r' e, S.mind ref = some r → S'.mind ref = some r' → r.exchange = some e →
      ∃ e', r'.exchange = some e' ∧ ∀ i, e.pending = some i →
        e'.pending = some i ∨ (S.toDo ref).countP RouterOp.isAnswer ≠ 0) : S'.Queued := by
  refine ⟨fun other r e i hr he hi => ?_, fun i q hq => ?_, fun i q hq ho hc => ?_⟩
  · rw [hrequests]
    by_cases hne : other = ref
    · subst hne
      obtain ⟨r₀, e₀, hr₀, he₀, hi₀, hle⟩ := hnew r e i hr he hi
      obtain ⟨q, hq, hrouter, hkept, hquiet⟩ := h.waits other r₀ e₀ i hr₀ he₀ hi₀
      refine ⟨q, hq, hrouter, hkept, fun ho => ?_⟩
      have hzero := hquiet ho
      omega
    · rw [ha.minds other hne] at hr
      rw [ha.toDos other hne]
      exact h.waits other r e i hr he hi
  · rw [hrequests] at hq
    obtain ⟨hborn, hfinds⟩ := h.asked i q hq
    refine ⟨ha.born ▸ hborn, fun r' hr' => ?_⟩
    by_cases hne : q.router = ref
    · rw [hne] at hr' hfinds
      cases hr : S.mind ref with
      | none =>
        rw [ha.gone hr] at hr'
        cases hr'
      | some r =>
        obtain ⟨e, he, hwaits⟩ := hfinds r hr
        obtain ⟨e', he', hkeeps⟩ := hold r r' e hr hr' he
        refine ⟨e', he', fun ho hc => (hkeeps i (hwaits ho hc)).resolve_right fun hanswered => ?_⟩
        -- A router that was answered just now would have an answer waiting, and its request would
        -- be over.
        obtain ⟨q', hq', -, -, hquiet⟩ := h.waits ref r e i hr he (hwaits ho hc)
        obtain rfl := Option.some.inj (hq.symm.trans hq')
        exact hanswered (hquiet ho)
    · rw [ha.minds _ hne] at hr'
      exact hfinds r' hr'
  · rw [hrequests] at hq
    have hthere := h.underway i q hq ho hc
    by_cases hne : q.router = ref
    · rw [hne] at hthere ⊢
      exact hstays hthere
    · rwa [ha.minds _ hne]

/-- A router that has asked for nothing yet asks, and waits. -/
theorem Queued.appended {r r' : Router} {e' : Exchange} {q : ConnectRequest} (h : S.Queued)
    (ha : Acted ref taken ops S S') (hborn : S.born ref)
    (hrequests : S'.pools.requests = S.pools.requests ++ [q]) (hrouter : q.router = ref)
    (hcancelled : q.cancelled = none) (hr : S.mind ref = some r) (hnone : r.exchange = none)
    (hr' : S'.mind ref = some r') (he' : r'.exchange = some e')
    (hpending : e'.pending = some S.pools.requests.length)
    (hquiet : (S'.toDo ref).countP RouterOp.isAnswer = 0) : S'.Queued := by
  have hlast : ∀ {i : Nat} {q₁ : ConnectRequest}, S'.pools.requests[i]? = some q₁ →
      S.pools.requests[i]? = some q₁ ∨ (i = S.pools.requests.length ∧ q = q₁) := by
    intro i q₁ hq₁
    rw [hrequests] at hq₁
    by_cases hlt : i < S.pools.requests.length
    · rw [List.getElem?_append_left hlt] at hq₁
      exact Or.inl hq₁
    · obtain ⟨hi, -⟩ := List.getElem?_eq_some_iff.mp hq₁
      rw [List.length_append, List.length_singleton] at hi
      -- Anything beyond the old requests is the new one.
      obtain rfl : i = S.pools.requests.length :=
        Nat.le_antisymm (Nat.le_of_lt_succ hi) (Nat.not_lt.mp hlt)
      exact Or.inr ⟨rfl, Option.some.inj (List.getElem?_concat_length.symm.trans hq₁)⟩
  refine ⟨fun other r₁ e₁ i hr₁ he₁ hi => ?_, fun i q₁ hq₁ => ?_, fun i q₁ hq₁ ho hc => ?_⟩
  · rw [hrequests]
    by_cases hne : other = ref
    · subst hne
      obtain rfl := Option.some.inj (hr'.symm.trans hr₁)
      obtain rfl := Option.some.inj (he'.symm.trans he₁)
      obtain rfl := Option.some.inj (hpending.symm.trans hi)
      exact ⟨q, List.getElem?_concat_length, hrouter, hcancelled, fun _ => hquiet⟩
    · rw [ha.minds other hne] at hr₁
      obtain ⟨q₁, hq₁, hrest⟩ := h.waits other r₁ e₁ i hr₁ he₁ hi
      rw [ha.toDos other hne]
      have hlt := (List.getElem?_eq_some_iff.mp hq₁).1
      exact ⟨q₁, (List.getElem?_append_left hlt).trans hq₁, hrest⟩
  · rcases hlast hq₁ with hq₁ | ⟨rfl, rfl⟩
    · obtain ⟨hb, hfinds⟩ := h.asked i q₁ hq₁
      refine ⟨ha.born ▸ hb, fun r₁ hr₁ => ?_⟩
      by_cases hne : q₁.router = ref
      · -- Whoever asked before has an exchange.
        obtain ⟨e, he, -⟩ := hfinds r (hne ▸ hr)
        rw [hnone] at he
        cases he
      · rw [ha.minds _ hne] at hr₁
        exact hfinds r₁ hr₁
    · rw [hrouter]
      refine ⟨ha.born ▸ hborn, fun r₁ hr₁ => ⟨e', ?_, fun _ _ => hpending⟩⟩
      obtain rfl := Option.some.inj (hr'.symm.trans hr₁)
      exact he'
  · by_cases hne : q₁.router = ref
    · rw [hne, hr']
      rfl
    · rcases hlast hq₁ with hq₁ | ⟨rfl, rfl⟩
      · rw [ha.minds _ hne]
        exact h.underway i q₁ hq₁ ho hc
      · exact absurd hrouter hne

/-- A router goes, and nobody else's request is touched. -/
theorem Queued.gone (h : S.Queued) (ha : Acted ref taken ops S S') (hnone : S'.mind ref = none)
    (hrequests : ∀ (i : Nat) (q' : ConnectRequest), S'.pools.requests[i]? = some q' →
      ∃ q : ConnectRequest, S.pools.requests[i]? = some q ∧ q'.router = q.router ∧
        (q.router ≠ ref → q' = q))
    (hothers : ∀ (i : Nat) (q : ConnectRequest), S.pools.requests[i]? = some q → q.router ≠ ref →
      S'.pools.requests[i]? = some q)
    (hleft : ∀ (i : Nat) (q' : ConnectRequest), S'.pools.requests[i]? = some q' → q'.router = ref →
      q'.isOver = false → q'.cancelled ≠ none) : S'.Queued := by
  refine ⟨fun other r e i hr he hi => ?_, fun i q' hq' => ?_, fun i q' hq' ho hc => ?_⟩
  -- A router that is still there is another than the one that went.
  · have hne : other ≠ ref := by
      rintro rfl
      rw [hnone] at hr
      cases hr
    rw [ha.minds other hne] at hr
    obtain ⟨q, hq, hrouter, hrest⟩ := h.waits other r e i hr he hi
    rw [ha.toDos other hne]
    exact ⟨q, hothers i q hq (hrouter ▸ hne), hrouter, hrest⟩
  · obtain ⟨q, hq, hrouter, hsame⟩ := hrequests i q' hq'
    obtain ⟨hborn, hfinds⟩ := h.asked i q hq
    rw [hrouter]
    refine ⟨ha.born ▸ hborn, fun r hr => ?_⟩
    have hne : q.router ≠ ref := by
      intro heq
      rw [heq, hnone] at hr
      cases hr
    rw [ha.minds _ hne] at hr
    rw [hsame hne]
    exact hfinds r hr
  · obtain ⟨q, hq, hrouter, hsame⟩ := hrequests i q' hq'
    have hne : q.router ≠ ref := fun heq => hleft i q' hq' (hrouter.trans heq) ho hc
    obtain rfl := hsame hne
    rw [ha.minds _ hne]
    exact h.underway i q' hq ho hc

/-! ### Calls -/

/-- No call is written, and who has written one does not get another. -/
theorem OneRouterEach.kept (h : OneRouterEach R A S) (ha : Acted ref taken ops S S')
    (hcalls : ∀ l, (A' l).calls = (A l).calls)
    (hspent : ∀ c, WritesNoMore c (S.mind ref) → WritesNoMore c (S'.mind ref)) : OneRouterEach R A' S' := by
  refine ⟨fun l c hc => ?_, fun {l k l' k' c c'} hc hc' => ?_⟩
  · rw [hcalls] at hc
    obtain ⟨hborn, hrouted, hdone⟩ := h.spent l c hc
    refine ⟨ha.born ▸ hborn, hrouted, ?_⟩
    by_cases hne : c.router = ref
    · rw [hne] at hdone ⊢
      exact hspent c hdone
    · rwa [ha.minds _ hne]
  · rw [hcalls] at hc hc'
    exact h.once hc hc'

/-- A router that has not written a call yet writes one. -/
theorem OneRouterEach.wrote (link : LinkId) (c : Call) (h : OneRouterEach R A S)
    (ha : Acted ref taken ops S S')
    (hcall : (A' link).calls = (A link).calls ++ [c])
    (hcalls : ∀ l, l ≠ link → (A' l).calls = (A l).calls) (hrouter : c.router = ref)
    (hborn : S.born ref) (hrouted : R ref c.request) (hunspent : ∀ c', ¬WritesNoMore c' (S.mind ref))
    (hspent : WritesNoMore c (S'.mind ref)) : OneRouterEach R A' S' := by
  have hcases : ∀ {l k : Nat} {c' : Call}, (A' l).calls[k]? = some c' →
      (A l).calls[k]? = some c' ∨ (l = link ∧ k = (A link).calls.length ∧ c' = c) := by
    intro l k c' hc'
    by_cases hl : l = link
    · subst hl
      rw [hcall] at hc'
      by_cases hk : k < (A l).calls.length
      · rw [List.getElem?_append_left hk] at hc'
        exact Or.inl hc'
      · have hlt := (List.getElem?_eq_some_iff.mp hc').1
        rw [List.length_append, List.length_singleton] at hlt
        obtain rfl : k = (A l).calls.length := by omega
        exact Or.inr ⟨rfl, rfl, (Option.some.inj (List.getElem?_concat_length.symm.trans hc')).symm⟩
    · rw [hcalls l hl] at hc'
      exact Or.inl hc'
  -- Who has written a call before is somebody else, as `ref` could still write.
  have hother : ∀ {l k : Nat} {c' : Call}, (A l).calls[k]? = some c' → c'.router ≠ ref := by
    rintro l k c' hc' rfl
    exact hunspent c' (h.spent l c' (List.mem_of_getElem? hc')).2.2
  refine ⟨fun l c' hc' => ?_, fun {l k l' k' c₁ c₂} hc₁ hc₂ heq => ?_⟩
  · obtain ⟨k, hk⟩ := List.mem_iff_getElem?.mp hc'
    rcases hcases hk with hk | ⟨-, -, rfl⟩
    · obtain ⟨hb, hr, hdone⟩ := h.spent l c' (List.mem_of_getElem? hk)
      refine ⟨ha.born ▸ hb, hr, ?_⟩
      rwa [ha.minds _ (hother hk)]
    · rw [hrouter]
      exact ⟨ha.born ▸ hborn, hrouted, hspent⟩
  -- Two calls of one router: both old, or one of them the new one, whose writer has no other.
  · rcases hcases hc₁ with h₁ | ⟨rfl, rfl, rfl⟩
    · rcases hcases hc₂ with h₂ | ⟨rfl, rfl, rfl⟩
      · exact h.once h₁ h₂ heq
      · exact absurd (heq.trans hrouter) (hother h₁)
    · rcases hcases hc₂ with h₂ | ⟨rfl, rfl, rfl⟩
      · exact absurd (heq.symm.trans hrouter) (hother h₂)
      · exact ⟨rfl, rfl⟩

end

end Scene

end RpcProxy

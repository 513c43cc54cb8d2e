import RpcProxy.Proofs.Session.CallScene

/-!
# Every share keeps a scene in order

One lemma for each kind of share (`Share`): what the router does to the connection that the share is
about, and what the connection's account looks like behind it. They come together in
`AccountsFit.share`.

Two of them carry the weight. When a router writes its call (`AccountsFit.wrote`,
`AccountsFit.sent`), the number in the call is the number of calls before it, since the number of a
connection moves on with each call that begins and a call that begins on an open connection is
written. When a router is done with an answer (`AccountsFit.ended`), the connection goes back open
only if the answer is complete and the host did not ask to leave, and then the account owes nothing.

A router that waits gets its connection in two steps: the call begins when the connection comes
(`AccountsFit.begun`), and is written by a task of its own (`AccountsFit.wrote`). In between, the
number of the connection has moved on and the call is not written. That gap is why `TasksSuit`
speaks of the order in which a router's tasks come: the call that was counted is written before the
router takes anything else up.

All else is bookkeeping, and most lemmas are instances of `AccountsFit.touched_kept` or
`AccountsFit.untouched`: at most one connection changes its place, and only its account has to be
looked at.
-/

set_option autoImplicit false

namespace RpcProxy

/-- Whether a router is told of octets. -/
def RouterOp.isData : RouterOp → Bool
  | .deliver (.data _) => true
  | .deliver _ | .write | .ask _ => false

/-- Whether a router has got a whole answer from a host that did not ask to leave. -/
def Router.isAnswered (r : Router) : Bool := r.exchange.any fun e => e.responseComplete && !e.draining

/-- Whether a router that takes up some tasks reads the end of such an answer on a connection. Only
octets count: a connection that ends gives no answer, even if the end is what makes the exchange let
go. -/
def answersOn (link : LinkId) (taken : List RouterOp) (m m' : Option Router) : Bool :=
  taken.any RouterOp.isData && (m.bind (·.link?) == some link) && m'.any Router.isAnswered

theorem answersOn_of_no_data {taken : List RouterOp} (h : taken.any RouterOp.isData = false)
    (link : LinkId) (m m' : Option Router) : answersOn link taken m m' = false := by
  rw [answersOn, h, Bool.false_and, Bool.false_and]

theorem answersOn_of_not_answered {m' : Option Router} (h : m'.any Router.isAnswered = false)
    (link : LinkId) (taken : List RouterOp) (m : Option Router) :
    answersOn link taken m m' = false := by
  rw [answersOn, h, Bool.and_false]

theorem not_isAnswered {r : Router} {e : Exchange} (he : r.exchange = some e)
    (hc : e.responseComplete = false) : (some r).any Router.isAnswered = false := by
  simp [Router.isAnswered, he, hc]

/-- Whether a router that holds a connection reads the end of an answer there when it is told
something. -/
theorem answersOn_of_held {m m' : Option Router} {r' : Router} {e' : Exchange} {link : LinkId}
    (d : Delivery) (l : LinkId) (hl : m.bind (·.link?) = some link) (hr' : m' = some r')
    (he' : r'.exchange = some e') : answersOn l [.deliver d] m m' =
      ((RouterOp.deliver d).isData && (some link == some l) &&
        (e'.responseComplete && !e'.draining)) := by
  have hanswered : m'.any Router.isAnswered = (e'.responseComplete && !e'.draining) := by
    rw [hr']
    simp [Router.isAnswered, he']
  rw [answersOn, hl, hanswered]
  simp

/-- Whoever is not told that the waiting is over gets no connection. -/
theorem RouterOp.brings_of_not_isAnswer {d : Delivery} (hd : d.isAnswer = false) (l : LinkId) :
    (RouterOp.deliver d).brings l = false := by
  cases d with
  | ready | failure => cases hd
  | data | event => rfl

/-! ## What a router has to do

The tasks of a router are its errands in the order in which they will be done. What they may be
depends on where its call stands, and taking one up leaves the rest as it was. -/

theorem errands_cons {op : RouterOp} (h : op.isAsk = false) (ops : List RouterOp) :
    errands (op :: ops) = op :: errands ops := List.filter_cons_of_pos (by rw [h]; rfl)

theorem TasksSuit.congr {R : Request → Prop} {m : Option Router} {ops ops' : List RouterOp}
    (h : TasksSuit R m ops) (hops : errands ops' = errands ops) : TasksSuit R m ops' := by
  obtain ⟨hblank, hwaits, hunsent, hline⟩ := h
  rw [← hops] at hblank hwaits hunsent
  exact ⟨hblank, hwaits, hunsent, hline⟩

theorem TasksSuit.absent (R : Request → Prop) (ops : List RouterOp) : TasksSuit R none ops where
  blank _ h := nomatch h
  waits _ _ h := nomatch h
  unsent _ _ h := nomatch h
  line _ _ h := nomatch h

/-- A task is taken up that is not the writing of a call, or finds nothing to write. -/
theorem TasksSuit.took {R : Request → Prop} {m : Option Router} {op : RouterOp} {ops : List RouterOp}
    (h : TasksSuit R m (op :: ops)) (hw : op = .write → ∀ r e, m = some r → r.exchange = some e →
      e.link = none ∨ e.requestComplete = true) : TasksSuit R m ops := by
  cases hask : op.isAsk with
  | true =>
    cases op with
    | ask op => exact h.congr rfl
    | write | deliver => cases hask
  | false =>
    have herrands := errands_cons hask ops
    refine ⟨fun r hr hnone => ?_, fun r e hr he hi => ?_, fun r e hr he hl hunsent => ?_, h.line⟩
    · have hempty := h.blank r hr hnone
      rw [herrands] at hempty
      cases hempty
    · obtain ⟨hall, hnot⟩ := h.waits r e hr he hi
      exact ⟨fun x hx => hall x (herrands ▸ List.mem_cons_of_mem op hx), hnot⟩
    · obtain ⟨rest, hrest⟩ := h.unsent r e hr he hl hunsent
      obtain ⟨rfl, -⟩ := List.cons.inj (herrands.symm.trans hrest)
      rcases hw rfl r e hr he with hno | hdone
      · rw [hno] at hl
        cases hl
      · rw [hunsent] at hdone
        cases hdone

/-- What a router has to do suits it if its exchange waits for nothing and a call that it has yet to
write comes first. -/
theorem TasksSuit.settled {R : Request → Prop} {m : Option Router} {r : Router} {e : Exchange}
    {ops : List RouterOp} (hr : m = some r) (he : r.exchange = some e) (hidle : e.pending = none)
    (hfirst : e.link.isSome → e.requestComplete = false → ∃ rest, errands ops = .write :: rest)
    (hline : ∃ request, R request ∧ r.line = some (.ofRequest request)) : TasksSuit R m ops := by
  subst hr
  refine ⟨fun r₁ hr₁ hnone => ?_, fun r₁ e₁ hr₁ he₁ hi => ?_, fun r₁ e₁ hr₁ he₁ hl hnot => ?_,
    fun r₁ _ hr₁ _ => Option.some.inj hr₁ ▸ hline⟩ <;> obtain rfl := Option.some.inj hr₁
  · rw [he] at hnone
    cases hnone
  · obtain rfl := Option.some.inj (he.symm.trans he₁)
    rw [hidle] at hi
    cases hi
  · obtain rfl := Option.some.inj (he.symm.trans he₁)
    exact hfirst hl hnot

/-- Whatever a router has to do suits it once it is done with its exchange. -/
theorem TasksSuit.over {R : Request → Prop} {m : Option Router} {r : Router} {e : Exchange}
    (ops : List RouterOp) (hr : m = some r) (he : r.exchange = some e) (hover : e.Over)
    (hline : ∃ request, R request ∧ r.line = some (.ofRequest request)) : TasksSuit R m ops := by
  refine .settled hr he hover.pending (fun hl _ => ?_) hline
  rw [hover.link] at hl
  cases hl

/-- Whatever a router has to do suits it if it has a connection and its call is written. -/
theorem TasksSuit.holding {R : Request → Prop} {m : Option Router} {r : Router} {e : Exchange}
    (ops : List RouterOp) (hr : m = some r) (he : r.exchange = some e) (hh : e.Holding)
    (hsent : e.requestComplete = true)
    (hline : ∃ request, R request ∧ r.line = some (.ofRequest request)) : TasksSuit R m ops := by
  refine .settled hr he hh.pending (fun _ hnot => ?_) hline
  rw [hsent] at hnot
  cases hnot

/-- A router that waits has nothing to do but to take its answer up. -/
theorem TasksSuit.answered {R : Request → Prop} {r : Router} {e : Exchange} {op : RouterOp}
    {ops : List RouterOp} (h : TasksSuit R (some r) (op :: ops)) (he : r.exchange = some e)
    (hi : e.pending.isSome) (hop : op.isAnswer = true)
    (hone : (op :: ops).countP RouterOp.isAnswer ≤ 1) :
    errands ops = [] ∧ e.requestComplete = false := by
  obtain ⟨hall, hnot⟩ := h.waits r e rfl he hi
  refine ⟨List.eq_nil_iff_forall_not_mem.mpr fun x hx => ?_, hnot⟩
  have hask : op.isAsk = false := by
    cases op with
    | ask => cases hop
    | write | deliver => rfl
  have hans := hall x (errands_cons hask ops ▸ List.mem_cons_of_mem op hx)
  have hpos : 0 < ops.countP RouterOp.isAnswer :=
    List.countP_pos_iff.mpr ⟨x, (List.mem_filter.mp hx).1, hans⟩
  rw [List.countP_cons_of_pos hop] at hone
  omega

/-! ## Accounts

An account is written to at its end, and only that of one connection at a time. -/

/-- The accounts, but with another one for a certain connection. -/
def entered (A : LinkId → Account) (link : LinkId) (a : Account) : LinkId → Account :=
  fun l => if l = link then a else A l

def Account.push (a : Account) (c : Call) : Account := { a with calls := a.calls ++ [c] }

theorem Account.push_sends (a : Account) (c : Call) :
    (a.push c).sends = a.sends ++ [c.octets a.calls.length] := by
  simp [Account.sends, Account.push, List.mapIdx_append]

theorem Account.push_length (a : Account) (c : Call) :
    (a.push c).calls.length = a.calls.length + 1 := List.length_append

theorem Account.push_routers (a : Account) (c : Call) :
    (a.push c).routers = a.routers ++ [c.router] := List.map_append

@[simp] theorem entered_self (A : LinkId → Account) (link : LinkId) (a : Account) :
    entered A link a link = a := if_pos rfl

theorem entered_of_ne (A : LinkId → Account) {link l : LinkId} (hl : l ≠ link) (a : Account) :
    entered A link a l = A l := if_neg hl

theorem entered_same (A : LinkId → Account) (link : LinkId) : entered A link (A link) = A := by
  funext l
  by_cases hl : l = link
  · rw [hl, entered_self]
  · exact entered_of_ne A hl _

namespace Scene

variable {R : RouterRef → Request → Prop} {A : LinkId → Account} {S S' : Scene}
  {taken ops : List RouterOp} {ref : RouterRef} {link : LinkId} {a : Account}
  {n : LinkId → List RouterRef}
  {r r' : Router} {e e' : Exchange}

/-! ## Putting a scene together

A share changes one router and what it holds. These lemmas take the change of the one, and give the
scene with all others as they were; what has to be shown of the change is left as hypotheses. -/

theorem FitsGrown.congr {n' : LinkId → List RouterRef} (h : FitsGrown R A n S) (hn : ∀ l, n' l = n l) :
    FitsGrown R A n' S := by
  obtain rfl : n' = n := funext hn
  exact h

/-- No connection is touched that the router has to do with. -/
theorem AccountsFit.untouched (h : AccountsFit R A S) (ha : Acted ref taken ops S S') (hborn : S.born ref)
    (hbrings : ∀ op ∈ taken, ∀ l, op.brings l = false)
    (hmind : S'.mind ref = S.mind ref ∨ ∀ l, S.link? ref ≠ some l ∧ S'.link? ref ≠ some l)
    (hatMost : ∀ l, S.pools.AtMostCloses S'.pools l)
    (hattuned : TasksSuit (R ref) (S'.mind ref) (S'.toDo ref)) (hqueued : S'.Queued)
    (hspent : ∀ c, WritesNoMore c (S.mind ref) → WritesNoMore c (S'.mind ref)) : AccountsFit R A S' where
  place l := h.place_away ha (fun op hop => hbrings op hop l) (hmind.imp_right fun hm => hm l)
    (hatMost l)
  sends l := (hatMost l).sends.trans (h.sends l)
  unborn := h.unborn_acted ha hborn
  tasks := h.tasksSuit_acted ha hattuned
  queued := hqueued
  booked := h.booked.kept ha (fun _ => rfl) hspent

theorem AccountsFit.touched (h : AccountsFit R A S) (ha : Acted ref taken ops S S') (hborn : S.born ref)
    (hbrings : ∀ op ∈ taken, ∀ l, l ≠ link → op.brings l = false)
    (hmind : ∀ l, l ≠ link → S.link? ref ≠ some l ∧ S'.link? ref ≠ some l)
    (hatMost : ∀ l, l ≠ link → S.pools.AtMostCloses S'.pools l) (hplace : S'.Place a link)
    (hsends : S'.pools.sends link = a.sends)
    (hattuned : TasksSuit (R ref) (S'.mind ref) (S'.toDo ref)) (hqueued : S'.Queued)
    (hbooked : OneRouterEach R (entered A link a) S') : AccountsFit R (entered A link a) S' where
  place l := by
    by_cases hl : l = link
    · rw [hl, entered_self]
      exact hplace
    · rw [entered_of_ne A hl]
      exact h.place_away ha (fun op hop => hbrings op hop l hl) (Or.inr (hmind l hl)) (hatMost l hl)
  sends l := by
    by_cases hl : l = link
    · rw [hl, entered_self]
      exact hsends
    · rw [entered_of_ne A hl]
      exact (hatMost l hl).sends.trans (h.sends l)
  unborn := h.unborn_acted ha hborn
  tasks := h.tasksSuit_acted ha hattuned
  queued := hqueued
  booked := hbooked

theorem AccountsFit.goes_entered (h : AccountsFit R (entered A link a) S')
    (hcalls : (A link).calls <+: a.calls)
    (hanswers : a.answers = (A link).answers ++ n link) (hn : ∀ l, l ≠ link → n l = []) :
    FitsGrown R A n S' := by
  refine ⟨_, h, fun l => ?_⟩
  by_cases hl : l = link
  · rw [hl, entered_self]
    exact ⟨hcalls, hanswers⟩
  · rw [entered_of_ne A hl, hn l hl]
    exact ⟨List.prefix_rfl, (List.append_nil _).symm⟩

/-- A connection is touched on which no call is written. -/
theorem AccountsFit.touched_kept (h : AccountsFit R A S) (ha : Acted ref taken ops S S') (hborn : S.born ref)
    (hbrings : ∀ op ∈ taken, ∀ l, l ≠ link → op.brings l = false)
    (hmind : ∀ l, l ≠ link → S.link? ref ≠ some l ∧ S'.link? ref ≠ some l)
    (hatMost : ∀ l, l ≠ link → S.pools.AtMostCloses S'.pools l)
    (hcalls : a.calls = (A link).calls) (hplace : S'.Place a link)
    (hsends : S'.pools.sends link = S.pools.sends link)
    (hattuned : TasksSuit (R ref) (S'.mind ref) (S'.toDo ref)) (hqueued : S'.Queued)
    (hspent : ∀ c, WritesNoMore c (S.mind ref) → WritesNoMore c (S'.mind ref)) :
    AccountsFit R (entered A link a) S' := by
  refine h.touched ha hborn hbrings hmind hatMost hplace ?_ hattuned hqueued ?_
  · rw [hsends, h.sends, Account.sends, Account.sends, hcalls]
  · refine h.booked.kept ha (fun l => ?_) hspent
    by_cases hl : l = link
    · rw [hl, entered_self, hcalls]
    · rw [entered_of_ne A hl]

theorem AccountsFit.born_of_taken {op : RouterOp} (h : AccountsFit R A S) (ha : Acted ref taken ops S S')
    (hop : op ∈ taken) : S.born ref := by
  obtain ⟨left, hleft, -⟩ := ha.toDo
  exact h.born_of_mem (hleft ▸ List.mem_append_left left hop)

theorem mind_unique {r₁ : Router} {e₁ : Exchange} (hr : S.mind ref = some r)
    (he : r.exchange = some e) (hr₁ : S.mind ref = some r₁) (he₁ : r₁.exchange = some e₁) :
    r = r₁ ∧ e = e₁ := by
  obtain rfl := Option.some.inj (hr.symm.trans hr₁)
  exact ⟨rfl, Option.some.inj (he.symm.trans he₁)⟩

theorem link?_of_mind (hr : S.mind ref = some r) (he : r.exchange = some e) :
    S.link? ref = e.link := by
  unfold link? Router.link?
  rw [hr, Option.bind_some, he, Option.bind_some]

theorem link?_of_none (hr : S.mind ref = none) : S.link? ref = none := by
  unfold link?
  rw [hr]
  rfl

theorem link?_of_blank (hr : S.mind ref = some r) (hnone : r.exchange = none) :
    S.link? ref = none := by
  unfold link? Router.link?
  rw [hr, Option.bind_some, hnone]
  rfl

/-- A connection that a router holds is in its place. -/
theorem AccountsFit.held (h : AccountsFit R A S) (hr : S.mind ref = some r) (he : r.exchange = some e)
    (hlink : e.link = some link) : S.pools.owner? link = some (some ref) ∧
      S.pools.idleCount link = 0 ∧ S.comes ref link = 0 ∧
      (∀ other, other ≠ ref → S.Unrelated link other) ∧
      (S.pools.isOpen link = true → S.Live (A link) link ref r e) := by
  have hl : S.link? ref = some link := (link?_of_mind hr he).trans hlink
  cases h.place link with
  | unknown _ _ hapart | idle _ _ hapart | astray _ _ hapart => exact absurd hl (hapart ref).link
  | way other _ _ _ hnot hapart =>
    by_cases hne : ref = other
    · exact absurd (hne ▸ hl) hnot
    · exact absurd hl (hapart ref hne).link
  | held other r₁ e₁ hr₁ he₁ hlink₁ howner hidle hcomes hapart hlive =>
    by_cases hne : ref = other
    · subst hne
      obtain rfl := Option.some.inj (hr.symm.trans hr₁)
      obtain rfl := Option.some.inj (he.symm.trans he₁)
      exact ⟨howner, hidle, hcomes, hapart, hlive⟩
    · exact absurd hl (hapart ref hne).link

/-- A connection that is on its way to a router is new. -/
theorem AccountsFit.coming (h : AccountsFit R A S) (hcomes : S.comes ref link ≠ 0) :
    S.pools.owner? link = some none ∧ S.pools.idleCount link = 0 ∧ S.comes ref link = 1 ∧
      (∀ other, other ≠ ref → S.Unrelated link other) ∧ S.pools.number link = 0 ∧ A link = {} := by
  cases h.place link with
  | unknown _ _ hapart | idle _ _ hapart | astray _ _ hapart => exact absurd (hapart ref).comes hcomes
  | way other howner hidle hcame _ hapart hnumber ha =>
    by_cases hne : ref = other
    · subst hne
      exact ⟨howner, hidle, hcame, hapart, hnumber, ha⟩
    · exact absurd (hapart ref hne).comes hcomes
  | held other _ _ _ _ _ _ _ hnone hapart =>
    by_cases hne : ref = other
    · subst hne
      exact absurd hnone hcomes
    · exact absurd (hapart ref hne).comes hcomes

/-- A connection that lies idle is nobody's, and its account is even. -/
theorem AccountsFit.idle (h : AccountsFit R A S) (hidle : 0 < S.pools.idleCount link) :
    S.pools.owner? link = some none ∧ S.pools.idleCount link = 1 ∧ (∀ ref, S.Unrelated link ref) ∧
      S.pools.number link = Int32.ofNat (A link).calls.length ∧
      (A link).routers = (A link).answers := by
  cases h.place link with
  | unknown _ hnone | way _ _ hnone | held _ _ _ _ _ _ _ hnone | astray _ hnone => omega
  | idle howner hone hapart hnumber ha => exact ⟨howner, hone, hapart, hnumber, ha⟩

/-! ## Calls and requests of the router itself

Two parts of the invariant speak of one router: the call that it has in an account, after which it
writes no other (`OneRouterEach`), and the requests to connect that stand in its name (`Queued`). -/

theorem spent_holding {m : Option Router} {c : Call} (hr : m = some r) (he : r.exchange = some e)
    (hh : e.Holding) (hsent : e.requestComplete = true) (htransport : e.transport = c.transport)
    (hline : r.line = some (.ofRequest c.request)) : WritesNoMore c m := by
  subst hr
  intro r₁ hr₁
  obtain rfl := Option.some.inj hr₁
  exact ⟨e, he, hh.pending, fun _ => ⟨hsent, htransport, hline⟩⟩

/-- A router that is done with its exchange writes nothing any more, whatever it has written. -/
theorem spent_over {m : Option Router} (c : Call) (hr : m = some r) (he : r.exchange = some e)
    (hover : e.Over) : WritesNoMore c m := by
  subst hr
  intro r₁ hr₁
  obtain rfl := Option.some.inj hr₁
  refine ⟨e, he, hover.pending, fun hl => ?_⟩
  rw [hover.link] at hl
  cases hl

/-- A router that has no exchange yet, or waits for its connection, has written no call. -/
theorem not_spent {m : Option Router} (c : Call) (hr : m = some r)
    (hnot : ∀ e, r.exchange = some e → e.pending = none → e.link.isSome ∧ e.requestComplete = false) :
    ¬WritesNoMore c m := by
  subst hr
  intro hspent
  obtain ⟨e, he, hidle, hdone⟩ := hspent r rfl
  obtain ⟨hl, hunsent⟩ := hnot e he hidle
  rw [(hdone hl).1] at hunsent
  cases hunsent

/-- A router that waits for nothing any more was told of what it waited for. -/
theorem Queued.settles (h : S.Queued) (ha : Acted ref taken ops S S')
    (hrequests : S'.pools.requests = S.pools.requests) (hr' : S'.mind ref = some r')
    (he' : r'.exchange = some e') (hi' : e'.pending = none)
    (hanswered : ∀ r e i, S.mind ref = some r → r.exchange = some e → e.pending = some i →
      (S.toDo ref).countP RouterOp.isAnswer ≠ 0) : S'.Queued := by
  refine h.kept ha hrequests (fun _ => by rw [hr']; rfl) (fun r₁ e₁ i hr₁ he₁ hi => ?_)
    fun r₁ r₂ e₁ hr₁ hr₂ he₁ => ?_
  · obtain ⟨-, rfl⟩ := mind_unique hr' he' hr₁ he₁
    rw [hi'] at hi
    cases hi
  · obtain rfl := Option.some.inj (hr'.symm.trans hr₂)
    exact ⟨e', he', fun i hi => Or.inr (hanswered r₁ e₁ i hr₁ he₁ hi)⟩

/-- A router that waits for nothing has left no request behind that it could be told of. -/
theorem Queued.held (h : S.Queued) (ha : Acted ref taken ops S S')
    (hrequests : S'.pools.requests = S.pools.requests) (hr : S.mind ref = some r)
    (hold : ∀ e, r.exchange = some e → e.pending = none) (hr' : S'.mind ref = some r')
    (he' : r'.exchange = some e') (hi' : e'.pending = none) : S'.Queued := by
  refine h.settles ha hrequests hr' he' hi' fun r₁ e₁ i hr₁ he₁ hi => ?_
  obtain rfl := Option.some.inj (hr.symm.trans hr₁)
  rw [hold e₁ he₁] at hi
  cases hi

/-! ## Nothing happens to connections

Shares in which the router asks for something, waits, or is through. Its mind may change, but it
holds what it held. -/

/-- A router takes up a task that is for its stream to do or comes to nothing, or it asks something
of its stream. -/
theorem AccountsFit.rested (h : AccountsFit R A S) (ha : Acted ref taken ops S S')
    (hpools : S'.pools = S.pools)
    (hmind : S'.mind ref = S.mind ref) (hborn : S.born ref)
    (hbrings : ∀ op ∈ taken, ∀ l, op.brings l = false)
    (hattuned : TasksSuit (R ref) (S'.mind ref) (S'.toDo ref)) : AccountsFit R A S' := by
  refine h.untouched ha hborn hbrings (Or.inl hmind) (fun l => hpools ▸ TcpPools.AtMostCloses.refl _ l)
    hattuned ?_ (fun _ hs => hmind ▸ hs)
  refine h.queued.kept ha (by rw [hpools]) (fun hs => hmind ▸ hs) (fun r e i hr he hi => ?_)
    fun r r' e hr hr' he => ?_
  · have hle := ha.answers
    exact ⟨r, e, hmind ▸ hr, he, hi, by omega⟩
  · obtain rfl := Option.some.inj (hr.symm.trans (hmind ▸ hr'))
    exact ⟨e, he, fun i hi => Or.inl hi⟩

/-- A router that has no part in a move leaves everything as it is. -/
theorem Acted.eq_of_rest (ha : Acted ref [] [] S S') (hpools : S'.pools = S.pools)
    (hmind : S'.mind ref = S.mind ref) : S' = S := by
  obtain ⟨left, hleft, hleft'⟩ := ha.toDo
  refine Scene.ext (funext fun other => ?_) (funext fun other => ?_) ha.born hpools
  · by_cases hne : other = ref
    · rw [hne, hmind]
    · exact ha.minds other hne
  · by_cases hne : other = ref
    · rw [hne, hleft, hleft', List.append_nil, List.nil_append]
    · exact ha.toDos other hne

/-- A router takes up a task that brings no connection and writes no call. -/
theorem AccountsFit.took {op : RouterOp} (h : AccountsFit R A S) (ha : Acted ref [op] [] S S')
    (hpools : S'.pools = S.pools) (hmind : S'.mind ref = S.mind ref)
    (hready : ∀ link host, op ≠ .deliver (.ready link host))
    (hw : op = .write → ∀ r e, S.mind ref = some r → r.exchange = some e →
      e.link = none ∨ e.requestComplete = true) : AccountsFit R A S' := by
  obtain ⟨left, hleft, hleft'⟩ := ha.toDo
  refine h.rested ha hpools hmind (h.born_of_taken ha List.mem_cons_self) (fun x hx l => ?_) ?_
  · rw [List.mem_singleton.mp hx]
    cases op with
    | write | ask => rfl
    | deliver d =>
      cases d with
      | ready link host => exact absurd rfl (hready link host)
      | failure | data | event => rfl
  · have hattuned := h.tasks ref
    rw [hleft] at hattuned
    rw [hmind, hleft', List.append_nil]
    exact hattuned.took hw

/-- A router asks something of its stream. -/
theorem AccountsFit.asked {op : StreamOp} (h : AccountsFit R A S) (ha : Acted ref [] [.ask op] S S')
    (hpools : S'.pools = S.pools) (hmind : S'.mind ref = S.mind ref) (hborn : S.born ref) :
    AccountsFit R A S' := by
  obtain ⟨left, hleft, hleft'⟩ := ha.toDo
  refine h.rested ha hpools hmind hborn nofun ?_
  have hattuned := h.tasks ref
  rw [hleft] at hattuned
  rw [hmind, hleft']
  refine hattuned.congr ?_
  rw [errands_append, List.nil_append]
  exact List.append_nil _

/-- A router is done without ever having had a connection. -/
theorem AccountsFit.over (h : AccountsFit R A S) (ha : Acted ref taken ops S S') (hborn : S.born ref)
    (hbrings : ∀ op ∈ taken, ∀ l, op.brings l = false) (hatMost : ∀ l, S.pools.AtMostCloses S'.pools l)
    (hrequests : S'.pools.requests = S.pools.requests) (hfree : S.link? ref = none)
    (hr' : S'.mind ref = some r') (he' : r'.exchange = some e') (hover : e'.Over)
    (hline : ∃ request, R ref request ∧ r'.line = some (.ofRequest request))
    (hanswered : ∀ r e i, S.mind ref = some r → r.exchange = some e → e.pending = some i →
      (S.toDo ref).countP RouterOp.isAnswer ≠ 0) : AccountsFit R A S' := by
  refine h.untouched ha hborn hbrings (Or.inr fun l => ?_) hatMost (.over _ hr' he' hover hline)
    (h.queued.settles ha hrequests hr' he' hover.pending hanswered)
    fun c _ => spent_over c hr' he' hover
  rw [hfree, link?_of_mind hr' he', hover.link]
  exact ⟨nofun, nofun⟩

/-- A router waits for its pool. -/
theorem AccountsFit.waits {cluster : Config.Cluster} {host : HostRef} {q : ConnectRequest}
    (h : AccountsFit R A S) (ha : Acted ref [] [] S S')
    (hpools : S'.pools = (TcpPools.source.ask cluster host ref S.pools).2.2)
    (hrequests : S'.pools.requests = S.pools.requests ++ [q]) (hrouter : q.router = ref)
    (hcancelled : q.cancelled = none) (hr : S.mind ref = some r) (hnone : r.exchange = none)
    (hr' : S'.mind ref = some r') (he' : r'.exchange = some e')
    (hpending : e'.pending = some S.pools.requests.length) (hlink : e'.link = none)
    (hunsent : e'.requestComplete = false)
    (hline : ∃ request, R ref request ∧ r'.line = some (.ofRequest request)) : AccountsFit R A S' := by
  obtain ⟨left, hleft, hleft'⟩ := ha.toDo
  have hsame : S'.toDo ref = S.toDo ref := by rw [hleft', hleft, List.append_nil, List.nil_append]
  -- A router that has not asked before has nothing on its way.
  have hempty : errands (S'.toDo ref) = [] := hsame ▸ (h.tasks ref).blank r hr hnone
  have hquiet : (S'.toDo ref).countP RouterOp.isAnswer = 0 := by
    rw [List.countP_eq_zero]
    intro op hop hans
    have hmem : op ∈ errands (S'.toDo ref) := by
      refine List.mem_filter.mpr ⟨hop, ?_⟩
      cases op with
      | ask => cases hans
      | write | deliver => rfl
    rw [hempty] at hmem
    cases hmem
  have hborn := h.born_of_mind hr
  -- Asking may drop idle connections of a pool that is replaced, and lends none here.
  have hatMost := (TcpPools.ask_asked cluster host ref S.pools).toDropsIdle.atMostCloses
    (TcpPools.ask_quiet cluster host ref S.pools)
  refine h.untouched ha hborn nofun (Or.inr fun l => ?_) (fun l => hpools ▸ hatMost l) ?_
    (h.queued.appended ha hborn hrequests hrouter hcancelled hr hnone hr' he' hpending hquiet)
    fun _ hspent => ?_
  · rw [link?_of_blank hr hnone, link?_of_mind hr' he', hlink]
    exact ⟨nofun, nofun⟩
  · refine ⟨fun _ _ _ => hempty, fun r₁ e₁ hr₁ he₁ _ => ⟨?_, ?_⟩, fun r₁ e₁ hr₁ he₁ hl => ?_,
      fun r₁ e₁ hr₁ he₁ => ?_⟩
    · rw [hempty]
      exact fun _ hop => nomatch hop
    · exact (mind_unique hr' he' hr₁ he₁).2 ▸ hunsent
    · obtain ⟨-, rfl⟩ := mind_unique hr' he' hr₁ he₁
      rw [hlink] at hl
      cases hl
    · exact (mind_unique hr' he' hr₁ he₁).1 ▸ hline
  · refine absurd hspent (not_spent _ hr fun e he _ => ?_)
    rw [hnone] at he
    cases he

/-! ## Routers that go

A router leaves by taking its request back or by letting its connection go. In both cases nothing is
to be left that names it. -/

/-- A router that waits for nothing has left no request behind. -/
theorem Queued.settled {i : HandleId} {q : ConnectRequest} (h : S.Queued) (hr : S.mind ref = some r)
    (hidle : ∀ e, r.exchange = some e → e.pending = none) (hq : S.pools.requests[i]? = some q)
    (hrouter : q.router = ref) (ho : q.isOver = false) : q.cancelled ≠ none := by
  intro hc
  obtain ⟨e, he, hwaits⟩ := (h.asked i q hq).2 r (hrouter.symm ▸ hr)
  have hi := hwaits ho hc
  rw [hidle e he] at hi
  cases hi

/-- A router goes that has nothing to let go of. -/
theorem AccountsFit.left (h : AccountsFit R A S) (ha : Acted ref [] [] S S') (hpools : S'.pools = S.pools)
    (hr : S.mind ref = some r) (hidle : ∀ e, r.exchange = some e → e.pending = none)
    (hfree : S.link? ref = none) (hnone : S'.mind ref = none) : AccountsFit R A S' := by
  refine h.untouched ha (h.born_of_mind hr) nofun (Or.inr fun l => ?_)
    (fun l => hpools ▸ TcpPools.AtMostCloses.refl _ l) (hnone ▸ .absent _ _) ?_ fun _ _ r' hr' => ?_
  · rw [hfree, link?_of_none hnone]
    exact ⟨nofun, nofun⟩
  · refine h.queued.gone ha hnone (fun i q hq => ⟨q, ?_, rfl, fun _ => rfl⟩) (fun i q hq _ => ?_)
      fun i q hq => ?_
    · rwa [hpools] at hq
    · rwa [hpools]
    · rw [hpools] at hq
      exact h.queued.settled hr hidle hq
  · rw [hnone] at hr'
    cases hr'

/-- A router goes that waits for its pool, and takes its request back. -/
theorem AccountsFit.withdrew {i : HandleId} {policy : CancelPolicy} (h : AccountsFit R A S)
    (ha : Acted ref [] [] S S')
    (hpools : S'.pools = TcpPools.source.performAll ref [.cancel i policy] S.pools)
    (hr : S.mind ref = some r) (he : r.exchange = some e) (hi : e.pending = some i)
    (hlink : e.link = none) (hnone : S'.mind ref = none) : AccountsFit R A S' := by
  obtain ⟨q, hq, hrouter, -⟩ := h.queued.waits ref r e i hr he hi
  have hrequests : S'.pools.requests =
      S.pools.requests.modify i fun r => { r with cancelled := some policy } := by
    rw [hpools]
    rfl
  refine h.untouched ha (h.born_of_mind hr) nofun (Or.inr fun l => ?_)
    (fun l => hpools ▸ TcpPools.cancel_atMostCloses ref i policy S.pools l) (hnone ▸ .absent _ _) ?_
    fun _ _ r' hr' => ?_
  · rw [link?_of_mind hr he, hlink, link?_of_none hnone]
    exact ⟨nofun, nofun⟩
  · refine h.queued.gone ha hnone (fun j q' hq' => ?_) (fun j q₁ hq₁ hne => ?_)
      fun j q' hq' hrouter' ho hc => ?_
    · rw [hrequests, List.getElem?_modify] at hq'
      obtain ⟨q₁, hq₁, rfl⟩ := Option.map_eq_some_iff.mp hq'
      refine ⟨q₁, hq₁, ?_, fun hne => ?_⟩
      · split <;> rfl
      · refine if_neg ?_
        rintro rfl
        obtain rfl := Option.some.inj (hq.symm.trans hq₁)
        exact hne hrouter
    · rw [hrequests, List.getElem?_modify_ne, hq₁]
      rintro rfl
      obtain rfl := Option.some.inj (hq.symm.trans hq₁)
      exact hne hrouter
    · -- The one request that it waits for is taken back, and there is no other.
      rw [hrequests, List.getElem?_modify] at hq'
      obtain ⟨q₁, hq₁, rfl⟩ := Option.map_eq_some_iff.mp hq'
      by_cases hij : i = j
      · rw [if_pos hij] at hc
        cases hc
      · rw [if_neg hij] at hrouter' ho hc
        obtain ⟨e₁, he₁, hwaits⟩ := (h.queued.asked j q₁ hq₁).2 r (hrouter'.symm ▸ hr)
        obtain rfl := Option.some.inj (he.symm.trans he₁)
        exact hij (Option.some.inj (hi.symm.trans (hwaits ho hc)))
  · rw [hnone] at hr'
    cases hr'

/-- A connection that was let go of belongs to nobody; it is kept if it is open and its pool is
there. -/
theorem letGo_place {S' : Scene} {how : Option CloseType} (hpools : S'.pools =
      TcpPools.source.performAll ref (LinkCommand.letGo how (some link)) S.pools)
    (hknown : (S.pools.owner? link).isSome) (hidle : S.pools.idleCount link = 0)
    (hapart : ∀ other, S'.Unrelated link other)
    (hkept : how = none → S.pools.isOpen link = true →
      S.pools.number link = Int32.ofNat a.calls.length ∧ a.routers = a.answers) :
    S'.Place a link := by
  have hgives : TcpPools.GivesBack link S.pools S'.pools :=
    hpools ▸ TcpPools.letGo_givesBack how link S.pools
  have hnumber := (TcpPools.letGo_quiet ref how (some link) S.pools).number link
  obtain ⟨-, hidle'⟩ := TcpPools.letGo_kept ref how link S.pools
  rw [← hpools] at hnumber hidle'
  have howner : S'.pools.owner? link = some none := by
    obtain ⟨o, ho⟩ := Option.isSome_iff_exists.mp hknown
    rw [hgives.owner, ho]
    rfl
  rw [hidle, Nat.zero_add] at hidle'
  cases hback : how.isNone && S.pools.isOpen link && S.pools.isLodged link with
  | true =>
    rw [hback] at hidle'
    rw [Bool.and_eq_true, Bool.and_eq_true, Option.isNone_iff_eq_none] at hback
    obtain ⟨hn, hbalanced⟩ := hkept hback.1.1 hback.1.2
    exact .idle howner hidle' hapart (hnumber.trans hn) hbalanced
  | false =>
    rw [hback] at hidle'
    exact .astray howner hidle' hapart

/-- A router goes that holds a connection, and closes it. -/
theorem AccountsFit.broke {kind : CloseType} (h : AccountsFit R A S) (ha : Acted ref [] [] S S')
    (hwaits : e.pending = none)
    (hpools : S'.pools =
      TcpPools.source.performAll ref (LinkCommand.letGo (some kind) (some link)) S.pools)
    (hr : S.mind ref = some r) (he : r.exchange = some e) (hlink : e.link = some link)
    (hnone : S'.mind ref = none) : AccountsFit R A S' := by
  -- The connection it held is closed, and it had no other.
  obtain ⟨howner, hidle, hcomes, hapart, -⟩ := h.held hr he hlink
  rw [← entered_same A link]
  refine h.touched_kept ha (h.born_of_mind hr) nofun (fun l hl => ?_) (fun l hl => ?_) rfl ?_ ?_
    (hnone ▸ .absent _ _) ?_ fun _ _ r' hr' => ?_
  · rw [link?_of_mind hr he, hlink, link?_of_none hnone]
    exact ⟨fun heq => hl (Option.some.inj heq).symm, nofun⟩
  · exact hpools ▸ TcpPools.letGo_atMostCloses ref (some kind) S.pools hl
  · refine letGo_place hpools (by rw [howner]; rfl) hidle (fun other => ?_) nofun
    by_cases hne : other = ref
    · have hcomes' := ha.comes link
      rw [hne]
      refine ⟨by rw [link?_of_none hnone]; exact nofun, ?_⟩
      rw [hcomes, List.countP_nil] at hcomes'
      omega
    · exact ha.apart hne (hapart other hne)
  · rw [hpools]
    exact (TcpPools.letGo_quiet ref (some kind) (some link) S.pools).sends link
  · have hrequests : S'.pools.requests = S.pools.requests := by
      rw [hpools]
      exact TcpPools.letGo_requests ref (some kind) (some link) S.pools
    refine h.queued.gone ha hnone (fun i q hq => ⟨q, ?_, rfl, fun _ => rfl⟩) (fun i q hq _ => ?_)
      fun i q hq => ?_
    · rwa [hrequests] at hq
    · rwa [hrequests]
    · rw [hrequests] at hq
      exact h.queued.settled hr
        (fun e₁ he₁ => Option.some.inj (he.symm.trans he₁) ▸ hwaits) hq
  · rw [hnone] at hr'
    cases hr'

/-! ## Connections that come

A connection comes to the router that waits for it, or to one that has changed its mind. -/

/-- A connection comes that the router has no use for. -/
theorem AccountsFit.gaveBack {host : HostRef} (h : AccountsFit R A S)
    (ha : Acted ref [.deliver (.ready link host)] [] S S')
    (hpools : S'.pools = TcpPools.source.performAll ref (LinkCommand.letGo none (some link)) S.pools)
    (hmind : S'.mind ref = S.mind ref) (hfree : S.link? ref = none)
    (hidle : ∀ r e, S.mind ref = some r → r.exchange ≠ some e) : AccountsFit R A S' := by
  obtain ⟨left, hleft, hleft'⟩ := ha.toDo
  have hcomes := ha.comes link
  have hone : [RouterOp.deliver (.ready link host)].countP (·.brings link) = 1 := by
    simp only [List.countP_singleton, RouterOp.brings_ready, beq_self_eq_true, if_true]
  rw [hone] at hcomes
  -- The task it takes up brings the connection, which was therefore on the way to it alone.
  have hpos : S.comes ref link ≠ 0 := by omega
  obtain ⟨howner, hnone, hcame, hapart, hnumber, haccount⟩ := h.coming hpos
  rw [← entered_same A link]
  have hfree' : S'.link? ref = none := (link?_congr hmind).trans hfree
  refine h.touched_kept ha (h.born_of_taken ha List.mem_cons_self) (fun op hop l hl => ?_)
    (fun l hl => ?_) (fun l hl => ?_) rfl ?_ ?_ ?_ ?_ fun _ hspent => hmind ▸ hspent
  · rw [List.mem_singleton.mp hop, RouterOp.brings_ready]
    exact beq_eq_false_iff_ne.mpr (Ne.symm hl)
  · rw [hfree, hfree']
    exact ⟨nofun, nofun⟩
  · exact hpools ▸ TcpPools.letGo_atMostCloses ref none S.pools hl
  · refine letGo_place hpools (by rw [howner]; rfl) hnone (fun other => ?_) fun _ _ => ?_
    · by_cases hne : other = ref
      · rw [hne]
        exact ⟨by rw [hfree']; exact nofun, by omega⟩
      · exact ha.apart hne (hapart other hne)
    · rw [hnumber, haccount]
      exact ⟨rfl, rfl⟩
  · rw [hpools]
    exact (TcpPools.letGo_quiet ref none (some link) S.pools).sends link
  · have hattuned := h.tasks ref
    rw [hleft] at hattuned
    rw [hmind, hleft', List.append_nil]
    exact hattuned.took nofun
  · have hrequests : S'.pools.requests = S.pools.requests := by
      rw [hpools]
      exact TcpPools.letGo_requests ref none (some link) S.pools
    refine h.queued.kept ha hrequests (fun hs => hmind ▸ hs) (fun r e i hr he _ => ?_)
      fun r r' e hr _ he => ?_
    · exact absurd he (hidle r e (hmind ▸ hr))
    · exact absurd he (hidle r e hr)

/-- The connection comes that a router has waited for. -/
theorem AccountsFit.begun {host : HostRef} (h : AccountsFit R A S)
    (ha : Acted ref [.deliver (.ready link host)] [.write] S S')
    (hpools : S'.pools = TcpPools.source.performAll ref
      (LinkCommand.begin link (TcpPools.source.state? link S.pools)) S.pools)
    (hone : (S.toDo ref).countP RouterOp.isAnswer ≤ 1)
    (hr : S.mind ref = some r) (he : r.exchange = some e) (hw : e.Waiting)
    (hr' : S'.mind ref = some r') (he' : r'.exchange = some e') (hh : e'.Holding)
    (hlink : e'.link = some link) (hline : r'.line = r.line)
    (hpending : r'.pendingWrite = (r.line.map (·.encode
      (some ((TcpPools.source.state? link S.pools).getD {}).next))).getD [])
    (hsent : e'.requestComplete = e.requestComplete) : AccountsFit R A S' := by
  obtain ⟨left, hleft, hleft'⟩ := ha.toDo
  have hcomes := ha.comes link
  have hcount : [RouterOp.deliver (.ready link host)].countP (·.brings link) = 1 := by
    simp only [List.countP_singleton, RouterOp.brings_ready, beq_self_eq_true, if_true]
  rw [hcount] at hcomes
  have hpos : S.comes ref link ≠ 0 := by omega
  obtain ⟨howner, hidle, hcame, hapart, hnumber, haccount⟩ := h.coming hpos
  have hattuned := h.tasks ref
  rw [List.singleton_append] at hleft
  rw [hr, hleft] at hattuned
  rw [hleft] at hone
  obtain ⟨hempty, hnot⟩ := hattuned.answered he hw.pending rfl hone
  -- The request was not said to be complete while the router waited, so it is not now: the call is
  -- still to be written.
  have hunsent : e'.requestComplete = false := hsent.trans hnot
  obtain ⟨htakes, hsends, -, hnext⟩ := TcpPools.begin_takes ref link S.pools
  rw [← hpools] at htakes hsends hnext
  rw [← entered_same A link]
  refine h.touched_kept ha (h.born_of_taken ha List.mem_cons_self) (fun op hop l hl => ?_)
    (fun l hl => ?_) (fun l hl => ?_) rfl ?_ (hsends link) ?_ ?_ fun _ hspent => ?_
  · rw [List.mem_singleton.mp hop, RouterOp.brings_ready]
    exact beq_eq_false_iff_ne.mpr (Ne.symm hl)
  · rw [link?_of_mind hr he, hw.link, link?_of_mind hr' he', hlink]
    exact ⟨nofun, fun heq => hl (Option.some.inj heq).symm⟩
  · exact hpools ▸ TcpPools.begin_atMostCloses ref S.pools hl
  · refine .held ref r' e' hr' he' hlink ?_ ?_ (by omega)
      (fun other hne => ha.apart hne (hapart other hne)) fun _ => ⟨fun event hmem => ?_, ?_, fun _ => ?_⟩
    · rw [htakes.owner, howner]
      rfl
    · rw [htakes.idle, hidle]
    · -- What a router that waits has to do is to take up an answer, which an event is not.
      have hmem' := ha.events event hmem
      have hin : RouterOp.deliver (.event event) ∈ errands (S.toDo ref) :=
        List.mem_filter.mpr ⟨hmem', rfl⟩
      exact absurd (((h.tasks ref).waits r e hr he hw.pending).1 _ hin) Bool.false_ne_true
    · rw [hunsent]
      exact nofun
    · rw [hnext (by rw [howner]; rfl), hnumber, haccount, hpending, hline]
      refine ⟨rfl, rfl, ?_⟩
      rw [show ((TcpPools.source.state? link S.pools).getD {}).next = S.pools.number link from rfl,
        hnumber]
      rfl
  · have herrands : errands (S'.toDo ref) = [.write] := by
      rw [hleft', errands_append, hempty]
      rfl
    exact .settled hr' he' hh.pending (fun _ _ => ⟨[], herrands⟩)
      (hline ▸ (h.tasks ref).line r e hr he)
  · have hrequests : S'.pools.requests = S.pools.requests := by
      rw [hpools]
      exact TcpPools.begin_requests ref link _ S.pools
    refine h.queued.settles ha hrequests hr' he' hh.pending fun _ _ _ _ _ _ => ?_
    rw [hleft, List.countP_cons_of_pos rfl]
    exact Nat.succ_ne_zero _
  · refine absurd hspent (not_spent _ hr fun e₁ he₁ hnone => ?_)
    obtain rfl := Option.some.inj (he.symm.trans he₁)
    have hsome := hw.pending
    rw [hnone] at hsome
    cases hsome

/-! ## Calls that are written

The one share that writes to an account. It asks that nothing was written for this call before,
which is known from where the exchange stands. -/

/-- A router that has its connection, but has not written its call, does that before anything
else. -/
theorem AccountsFit.not_unsent {op : RouterOp} {left : List RouterOp} (h : AccountsFit R A S)
    (hleft : S.toDo ref = op :: left) (hask : op.isAsk = false) (hop : op ≠ .write)
    (hr : S.mind ref = some r) (he : r.exchange = some e) (hl : e.link.isSome) :
    e.requestComplete = true := by
  cases hsent : e.requestComplete with
  | true => rfl
  | false =>
    obtain ⟨rest, hrest⟩ := (h.tasks ref).unsent r e hr he hl hsent
    rw [hleft, errands_cons hask] at hrest
    exact absurd (List.cons.inj hrest).1 hop

/-- A router writes its call on the connection that it has waited for. -/
theorem AccountsFit.wrote (h : AccountsFit R A S) (ha : Acted ref [.write] [] S S')
    (hpools : S'.pools = TcpPools.source.performAll ref
      [.write link (e.transport.frame r.pendingWrite)] S.pools)
    (hr : S.mind ref = some r) (he : r.exchange = some e) (hh : e.Holding)
    (hlink : e.link = some link) (hunsent : e.requestComplete = false)
    (hr' : S'.mind ref = some r') (he' : r'.exchange = some e') (hh' : e'.Holding)
    (hlink' : e'.link = some link) (hline : r'.line = r.line) (hsent : e'.requestComplete = true)
    (htransport : e'.transport = e.transport) : FitsGrown R A (fun _ => []) S' := by
  obtain ⟨howner, hidle, hcomes, hapart, hlive⟩ := h.held hr he hlink
  obtain ⟨request, hrouted, hrequest⟩ := (h.tasks ref).line r e hr he
  obtain ⟨hkeeps, hnumber, -, hsends⟩ := TcpPools.write_sends ref link
    (e.transport.frame r.pendingWrite) S.pools
  have hrequests : S'.pools.requests = S.pools.requests := by
    rw [hpools]
    exact TcpPools.write_requests ref link _ S.pools
  have hatMost : ∀ l, l ≠ link → S.pools.AtMostCloses S'.pools l := fun l hl =>
    hpools ▸ TcpPools.write_atMostCloses ref _ S.pools hl
  rw [← hpools] at hkeeps hnumber hsends
  have hcomes' : S'.comes ref link = 0 := by
    have hcount := ha.comes link
    omega
  have hborn := h.born_of_mind hr
  have hmind : ∀ l, l ≠ link → S.link? ref ≠ some l ∧ S'.link? ref ≠ some l := by
    intro l hl
    rw [link?_of_mind hr he, hlink, link?_of_mind hr' he', hlink']
    exact ⟨fun heq => hl (Option.some.inj heq).symm, fun heq => hl (Option.some.inj heq).symm⟩
  have hunspent : ∀ c, ¬WritesNoMore c (S.mind ref) := fun c => not_spent c hr fun e₁ he₁ _ =>
    Option.some.inj (he.symm.trans he₁) ▸ ⟨hh.link, hunsent⟩
  have hbrings : ∀ op ∈ [RouterOp.write], ∀ l, l ≠ link → op.brings l = false := by
    intro op hop l _
    rw [List.mem_singleton.mp hop]
    rfl
  have hattuned := TasksSuit.holding (R := R ref) (S'.toDo ref) hr' he' hh' hsent
    ⟨request, hrouted, hline.trans hrequest⟩
  have hqueued := h.queued.held ha hrequests hr
    (fun e₁ he₁ => Option.some.inj (he.symm.trans he₁) ▸ hh.pending) hr' he' hh'.pending
  have hplace : ∀ {a : Account}, (S'.pools.isOpen link = true → S'.Live a link ref r' e') →
      S'.Place a link := fun hthen =>
    .held ref r' e' hr' he' hlink' ((hkeeps.owner link).trans howner)
      ((hkeeps.idle link).trans hidle) hcomes' (fun other hne => ha.apart hne (hapart other hne)) hthen
  cases hopen : S.pools.isOpen link with
  | false =>
    -- What is written on a connection that was closed is not sent.
    rw [hopen, if_neg Bool.false_ne_true, List.append_nil] at hsends
    refine AccountsFit.goes ?_
    rw [← entered_same A link]
    refine h.touched_kept ha hborn hbrings hmind hatMost rfl (hplace fun ho => ?_) hsends hattuned
      hqueued fun c hspent => absurd hspent (hunspent c)
    rw [hkeeps.state, hopen] at ho
    cases ho
  | true =>
    obtain ⟨hn, hbalanced, hwrite⟩ := (hlive hopen).unsent hunsent
    rw [hopen, if_pos rfl, hwrite, hrequest, h.sends] at hsends
    have hfits : AccountsFit R (entered A link ((A link).push ⟨ref, e.transport, request⟩)) S' := by
      refine h.touched ha hborn hbrings hmind hatMost (hplace fun _ => ⟨fun event hmem => ?_,
        fun _ => ⟨?_, ?_⟩, ?_⟩) ?_ hattuned hqueued ?_
      · exact (hlive hopen).quiet event (ha.events event hmem)
      · rw [hnumber, hn, Account.push_length]
      · rw [Account.push_routers, hbalanced]
        rfl
      · rw [hsent]
        exact nofun
      · rw [hsends, Account.push_sends]
        rfl
      · refine h.booked.wrote link ⟨ref, e.transport, request⟩ ha ?_ (fun l hl => ?_)
          rfl hborn hrouted hunspent
          (spent_holding hr' he' hh' hsent htransport (hline.trans hrequest))
        · rw [entered_self]
          rfl
        · rw [entered_of_ne A hl]
    exact hfits.goes_entered (List.prefix_append _ _) (List.append_nil _).symm fun _ _ => rfl

/-- A request comes to a router that gets a connection at once, and writes its call. -/
theorem AccountsFit.sent {p : TcpPools} {found : HostRef} {transport : Config.Transport} {request : Request}
    (h : AccountsFit R A S) (ha : Acted ref [] [] S S')
    (hasked : TcpPools.Asked (.ready link found) S.pools p)
    (hquiet : S.pools.Quiet p) (hsame : p.requests = S.pools.requests)
    (hpools : S'.pools = TcpPools.source.performAll ref
      (LinkCommand.begin link (TcpPools.source.state? link p) ++
        [.write link (transport.frame ((RequestLine.ofRequest request).encode
          (some ((TcpPools.source.state? link p).getD {}).next)))]) p)
    (hr : S.mind ref = some r) (hnone : r.exchange = none) (hrouted : R ref request)
    (hr' : S'.mind ref = some r') (he' : r'.exchange = some e') (hh' : e'.Holding)
    (hlink' : e'.link = some link) (hline : r'.line = some (.ofRequest request))
    (hsent : e'.requestComplete = true) (htransport : e'.transport = transport) :
    FitsGrown R A (fun _ => []) S' := by
  obtain ⟨hopen, hless⟩ := hasked.ready link found rfl
  obtain ⟨howner, hone, hapart, hn, hbalanced⟩ := h.idle (show 0 < S.pools.idleCount link by omega)
  have hatMost := hasked.toDropsIdle.atMostCloses hquiet
  generalize hoctets : transport.frame ((RequestLine.ofRequest request).encode
    (some ((TcpPools.source.state? link p).getD {}).next)) = octets at hpools
  rw [PoolSource.performAll_append] at hpools
  obtain ⟨htakes, hsends₁, -, hnext⟩ := TcpPools.begin_takes ref link p
  have hrequests₁ := TcpPools.begin_requests ref link (TcpPools.source.state? link p) p
  have hspared₁ := fun {l : LinkId} (hl : l ≠ link) => TcpPools.begin_atMostCloses ref p hl
  generalize TcpPools.source.performAll ref (LinkCommand.begin link (TcpPools.source.state? link p)) p =
    p₁ at hpools htakes hsends₁ hnext hrequests₁ hspared₁
  obtain ⟨hkeeps, hnumber₂, -, hsends₂⟩ := TcpPools.write_sends ref link octets p₁
  have hrequests₂ := TcpPools.write_requests ref link octets p₁
  have hspared₂ := fun {l : LinkId} (hl : l ≠ link) => TcpPools.write_atMostCloses ref octets p₁ hl
  rw [← hpools] at hkeeps hnumber₂ hsends₂ hrequests₂
  -- The connection was idle, so its account owed nothing and its number was the number of calls on
  -- it.
  have hnumber : S'.pools.number link = Int32.ofNat ((A link).calls.length + 1) := by
    have hknown : (p.owner? link).isSome := by rw [hasked.owner, howner]; rfl
    rw [hnumber₂, hnext hknown, hquiet.number, hn, Int32.ofNat_add]
    rfl
  have hopen' : p₁.isOpen link = true := by rw [htakes.state, hopen]
  have hborn := h.born_of_mind hr
  have hunspent : ∀ c, ¬WritesNoMore c (S.mind ref) := fun c => not_spent c hr fun e₁ he₁ _ => by
    rw [hnone] at he₁
    cases he₁
  have hfits : AccountsFit R (entered A link ((A link).push ⟨ref, transport, request⟩)) S' := by
    refine h.touched ha hborn nofun (fun l hl => ?mind) (fun l hl => ?spared) ?place ?sends
      (.holding _ hr' he' hh' hsent ⟨request, hrouted, hline⟩) ?queued ?booked
    case mind =>
      rw [link?_of_blank hr hnone, link?_of_mind hr' he', hlink']
      exact ⟨nofun, fun heq => hl (Option.some.inj heq).symm⟩
    case spared =>
      rw [hpools]
      exact (hatMost l).trans ((hspared₁ hl).trans (hspared₂ hl))
    case place =>
      refine .held ref r' e' hr' he' hlink' ?_ ?_ ?_ (fun other hne => ha.apart hne (hapart other))
        fun _ => ⟨fun event hmem => ?_, fun _ => ⟨?_, ?_⟩, ?_⟩
      · rw [hkeeps.owner, htakes.owner, hasked.owner, howner]
        rfl
      · rw [hkeeps.idle, htakes.idle]
        omega
      · have hcount := ha.comes link
        have hfree := (hapart ref).comes
        omega
      · -- Nobody was told anything before the request came.
        have hin : RouterOp.deliver (.event event) ∈ errands (S.toDo ref) :=
          List.mem_filter.mpr ⟨ha.events event hmem, rfl⟩
        rw [(h.tasks ref).blank r hr hnone] at hin
        cases hin
      · rw [hnumber, Account.push_length]
      · rw [Account.push_routers, hbalanced]
        rfl
      · rw [hsent]
        exact nofun
    case sends =>
      rw [hsends₂, hopen', if_pos rfl, hsends₁, hquiet.sends, h.sends, Account.push_sends, ← hoctets]
      rw [show ((TcpPools.source.state? link p).getD {}).next = p.number link from rfl,
        hquiet.number, hn]
      rfl
    case queued =>
      refine h.queued.held ha (hrequests₂.trans (hrequests₁.trans hsame)) hr (fun e he => ?_) hr' he'
        hh'.pending
      rw [hnone] at he
      cases he
    case booked =>
      refine h.booked.wrote link ⟨ref, transport, request⟩ ha ?_ (fun l hl => ?_)
        rfl hborn hrouted hunspent (spent_holding hr' he' hh' hsent htransport hline)
      · rw [entered_self]
        rfl
      · rw [entered_of_ne A hl]
  exact hfits.goes_entered (List.prefix_append _ _) (List.append_nil _).symm fun _ _ => rfl

/-! ## Answers

Octets that are read complete an answer or do not, and the end of a connection is the last that is
heard of it. -/

/-- A router reads, and there is more to come. -/
theorem AccountsFit.read {octets : Bytes} (h : AccountsFit R A S)
    (ha : Acted ref [.deliver (.data octets)] [] S S')
    (hpools : S'.pools = S.pools) (hr : S.mind ref = some r) (he : r.exchange = some e)
    (hh : e.Holding) (hr' : S'.mind ref = some r') (he' : r'.exchange = some e') (hh' : e'.Holding)
    (hlink : e'.link = e.link) (hline : r'.line = r.line)
    (hsent : e'.requestComplete = e.requestComplete) (htransport : e'.transport = e.transport) :
    AccountsFit R A S' := by
  obtain ⟨left, hleft, -⟩ := ha.toDo
  obtain ⟨link, hlink₀⟩ := Option.isSome_iff_exists.mp hh.link
  obtain ⟨howner, hidle, hcomes, hapart, hlive⟩ := h.held hr he hlink₀
  -- Octets are read behind the call, since a call that is not written comes before anything else.
  have hdone : e.requestComplete = true := h.not_unsent hleft rfl nofun hr he hh.link
  have hdone' : e'.requestComplete = true := hsent.trans hdone
  have hlink' : e'.link = some link := hlink.trans hlink₀
  obtain ⟨request, hrouted, hrequest⟩ := (h.tasks ref).line r e hr he
  rw [← entered_same A link]
  refine h.touched_kept ha (h.born_of_mind hr) (fun op hop l _ => ?brings) (fun l hl => ?mind)
    (fun l _ => hpools ▸ TcpPools.AtMostCloses.refl _ l) rfl ?place (by rw [hpools])
    (.holding _ hr' he' hh' hdone' ⟨request, hrouted, hline.trans hrequest⟩) ?queued
    fun c hspent => ?spent
  case brings =>
    rw [List.mem_singleton.mp hop]
    rfl
  case mind =>
    rw [link?_of_mind hr he, hlink₀, link?_of_mind hr' he', hlink']
    exact ⟨fun heq => hl (Option.some.inj heq).symm, fun heq => hl (Option.some.inj heq).symm⟩
  case place =>
    have hcount := ha.comes link
    refine .held ref r' e' hr' he' hlink' (hpools ▸ howner) (hpools ▸ hidle) (by omega)
      (fun other hne => ha.apart hne (hapart other hne)) fun ho => ?_
    have hthen := hlive (hpools ▸ ho)
    refine ⟨fun event hmem => hthen.quiet event (ha.events event hmem), fun _ => ?_, ?_⟩
    · rw [hpools]
      exact hthen.written hdone
    · rw [hdone']
      exact nofun
  case queued =>
    exact h.queued.held ha (by rw [hpools]) hr
      (fun e₁ he₁ => Option.some.inj (he.symm.trans he₁) ▸ hh.pending) hr' he' hh'.pending
  case spent =>
    obtain ⟨e₁, he₁, -, hkept⟩ := hspent r hr
    obtain rfl := Option.some.inj (he.symm.trans he₁)
    obtain ⟨-, htransport₀, hline₀⟩ := hkept hh.link
    exact spent_holding hr' he' hh' hdone' (htransport.trans htransport₀) (hline.trans hline₀)

/-- A router has read the end of an answer, or is told that its connection has ended. -/
theorem AccountsFit.ended {d : Delivery} {how : Option CloseType} (h : AccountsFit R A S)
    (ha : Acted ref [.deliver d] ops S S')
    (hpools : S'.pools = TcpPools.source.performAll ref (LinkCommand.letGo how e.link) S.pools)
    (hd : d.isAnswer = false) (hr : S.mind ref = some r) (he : r.exchange = some e) (hh : e.Holding)
    (hr' : S'.mind ref = some r') (he' : r'.exchange = some e') (hover : e'.Over)
    (hline : r'.line = r.line) (hevent : ∀ event, d = .event event → how = none)
    (hdata : ∀ octets, d = .data octets →
      (how = none ↔ e'.responseComplete = true ∧ e'.draining = false)) :
    FitsGrown R A (fun l => if answersOn l [.deliver d] (S.mind ref) (S'.mind ref) then [ref] else [])
      S' := by
  obtain ⟨left, hleft, -⟩ := ha.toDo
  obtain ⟨link, hlink⟩ := Option.isSome_iff_exists.mp hh.link
  obtain ⟨howner, hidle, hcomes, hapart, hlive⟩ := h.held hr he hlink
  have hdone : e.requestComplete = true := h.not_unsent hleft rfl nofun hr he hh.link
  rw [hlink] at hpools
  have hrequests : S'.pools.requests = S.pools.requests := by
    rw [hpools]
    exact TcpPools.letGo_requests ref how (some link) S.pools
  have hfree' : S'.link? ref = none := (link?_of_mind hr' he').trans hover.link
  have hanswers := fun l => answersOn_of_held d l ((link?_of_mind hr he).trans hlink) hr' he'
  generalize hn : ((RouterOp.deliver d).isData && (e'.responseComplete && !e'.draining)) = answered
  -- One more answer is entered if it was read to its end and the host stays. Otherwise the account
  -- keeps owing it, and the connection is closed.
  have hfits : AccountsFit R (entered A link { A link with
      answers := (A link).answers ++ if answered then [ref] else [] }) S' := by
    obtain ⟨request, hrouted, hrequest⟩ := (h.tasks ref).line r e hr he
    refine h.touched_kept ha (h.born_of_mind hr) (fun op hop l _ => ?brings) (fun l hl => ?mind)
      (fun l hl => hpools ▸ TcpPools.letGo_atMostCloses ref how S.pools hl) rfl ?place ?sends
      (.over _ hr' he' hover ⟨request, hrouted, hline.trans hrequest⟩) ?queued
      fun c _ => spent_over c hr' he' hover
    case brings =>
      rw [List.mem_singleton.mp hop]
      exact RouterOp.brings_of_not_isAnswer hd l
    case mind =>
      rw [link?_of_mind hr he, hlink, hfree']
      exact ⟨fun heq => hl (Option.some.inj heq).symm, nofun⟩
    case place =>
      refine letGo_place hpools (by rw [howner]; rfl) hidle (fun other => ?_) fun hhow hopen => ?_
      · by_cases hne : other = ref
        · have hcount := ha.comes link
          rw [hne]
          exact ⟨by rw [hfree']; exact nofun, by omega⟩
        · exact ha.apart hne (hapart other hne)
      · -- An open connection is given back open only behind a whole answer.
        obtain ⟨hnumber, howed⟩ := (hlive hopen).written hdone
        cases d with
        | ready | failure => cases hd
        | event event =>
          refine absurd ?_ ((hlive hopen).quiet event)
          rw [hleft]
          exact List.mem_cons_self
        | data octets =>
          obtain ⟨hcomplete, hstays⟩ := (hdata octets rfl).mp hhow
          rw [hcomplete, hstays] at hn
          subst hn
          exact ⟨hnumber, howed⟩
    case sends =>
      rw [hpools]
      exact (TcpPools.letGo_quiet ref how (some link) S.pools).sends link
    case queued =>
      exact h.queued.held ha hrequests hr
        (fun e₁ he₁ => Option.some.inj (he.symm.trans he₁) ▸ hh.pending) hr' he' hover.pending
  refine hfits.goes_entered List.prefix_rfl ?_ fun l hl => ?_
  · rw [hanswers, ← hn]
    simp
  · rw [hanswers]
    simp [Ne.symm hl]

/-! ## Every share

One case for each rule of `Share`. -/

/-- What a router lets go of when it goes: nothing, its request or its connection. -/
theorem WaitsHoldsOrOver.leaves (h : WaitsHoldsOrOver (some r)) :
    (r.leaves = [] ∧ r.link? = none ∧ ∀ e, r.exchange = some e → e.pending = none) ∨
    (∃ e i, r.exchange = some e ∧ e.pending = some i ∧ e.link = none ∧ r.leaves = [.cancel i .keep]) ∨
    ∃ e l, r.exchange = some e ∧ e.pending = none ∧ e.link = some l ∧
      r.leaves = LinkCommand.letGo (some .noFlush) (some l) := by
  cases he : r.exchange with
  | none =>
    refine Or.inl ⟨?_, ?_, fun e he' => absurd he'.symm (Option.some_ne_none e)⟩
    · rw [Router.leaves, he]
      rfl
    · rw [Router.link?, he]
      rfl
  | some e =>
    -- What it leaves is what its exchange leaves.
    have hleaves : r.leaves = e.leave (some .noFlush) := by
      rw [Router.leaves, he]
      rfl
    rw [hleaves]
    unfold Exchange.leave
    rcases h r e rfl he with hw | hh | ho
    · obtain ⟨i, hi⟩ := Option.isSome_iff_exists.mp hw.pending
      rw [hi, hw.link]
      exact Or.inr (Or.inl ⟨e, i, rfl, hi, hw.link, rfl⟩)
    · obtain ⟨link, hlink⟩ := Option.isSome_iff_exists.mp hh.link
      rw [hh.pending, hlink]
      exact Or.inr (Or.inr ⟨e, link, rfl, hh.pending, hlink, rfl⟩)
    · rw [ho.pending, ho.link]
      refine Or.inl ⟨rfl, ?_, fun e' he' => Option.some.inj he' ▸ ho.pending⟩
      rw [Router.link?, he]
      exact ho.link

/-- A router that goes lets go of all it has. -/
theorem AccountsFit.gone (h : AccountsFit R A S) (ha : Acted ref [] [] S S')
    (hpoised : WaitsHoldsOrOver (S.mind ref))
    (hpools : S'.pools = TcpPools.source.performAll ref r.leaves S.pools) (hr : S.mind ref = some r)
    (hnone : S'.mind ref = none) : AccountsFit R A S' := by
  rw [hr] at hpoised
  rcases WaitsHoldsOrOver.leaves hpoised with ⟨hleaves, hlink, hidle⟩ | ⟨e, i, he, hi, hlink, hleaves⟩ |
    ⟨e, link, he, hi, hlink, hleaves⟩
  · rw [hleaves] at hpools
    refine h.left ha hpools hr hidle ?_ hnone
    unfold Scene.link?
    rw [hr]
    exact hlink
  · rw [hleaves] at hpools
    exact h.withdrew ha hpools hr he hi hlink hnone
  · rw [hleaves] at hpools
    exact h.broke ha hi hpools hr he hlink hnone

/-- A router that does not take anything in gets no answer. -/
theorem not_answersOn_of_waitsHoldsOrOver {m : Option Router} (h : WaitsHoldsOrOver m) (l : LinkId)
    (taken : List RouterOp) : answersOn l taken m m = false := by
  refine Bool.eq_false_iff.mpr fun hanswers => ?_
  unfold answersOn at hanswers
  rw [Bool.and_eq_true, Bool.and_eq_true] at hanswers
  obtain ⟨⟨-, hlink⟩, hany⟩ := hanswers
  obtain ⟨r, rfl, hanswered⟩ := (Option.any_eq_true _ _).mp hany
  obtain ⟨e, he, hcomplete⟩ := (Option.any_eq_true _ _).mp hanswered
  have hl : e.link = some l := by simpa [Router.link?, he] using hlink
  rcases h r e rfl he with hw | hh | ho
  · rw [hw.link] at hl
    cases hl
  · rw [hh.incomplete] at hcomplete
    cases hcomplete
  · rw [ho.link] at hl
    cases hl

/-- Whatever the share of a router is, the scene fits behind it. -/
theorem AccountsFit.share {ds : List PoolAction} (h : AccountsFit R A S) (ha : Acted ref taken ops S S')
    (hone : (S.toDo ref).countP RouterOp.isAnswer ≤ 1) (hpoised : WaitsHoldsOrOver (S.mind ref))
    (hpools : S'.pools = TcpPools.source.playAll ref ds S.pools)
    (hs : Session.Share (R ref) TcpPools.source S.pools ref taken ds ops (S.mind ref) (S'.mind ref)) :
    FitsGrown R A (fun l => if answersOn l taken (S.mind ref) (S'.mind ref) then [ref] else []) S' := by
  generalize hm : S.mind ref = m at hs
  generalize hm' : S'.mind ref = m' at hs
  have hgoes : AccountsFit R A S' → (∀ l, answersOn l taken m m' = false) →
      FitsGrown R A (fun l => if answersOn l taken m m' then [ref] else []) S' := by
    intro hfits hnone
    refine hfits.goes.congr fun l => ?_
    rw [hnone]
    rfl
  have hdeaf : taken.any RouterOp.isData = false → ∀ l, answersOn l taken m m' = false :=
    fun hnone l => answersOn_of_no_data hnone l m m'
  -- Only a router that reads the end of an answer makes the books longer: `ended` is the one case in
  -- which more is to be shown than what holds of the scene.
  cases hs with
  | rest =>
    have hsame : S' = S := ha.eq_of_rest hpools (hm'.trans hm.symm)
    exact hgoes (hsame ▸ h) (hdeaf rfl)
  | took hready hw =>
    exact hgoes (h.took ha hpools (hm'.trans hm.symm) hready (hm ▸ hw)) fun l =>
      not_answersOn_of_waitsHoldsOrOver (hm ▸ hpoised) l _
  | gaveBack link host hidle =>
    refine hgoes (h.gaveBack ha hpools (hm'.trans hm.symm) ?_ fun r e hr => hidle r e (hm ▸ hr))
      (hdeaf rfl)
    unfold link? Router.link?
    rw [hm]
    cases m with
    | none => rfl
    | some r =>
      cases he : r.exchange with
      | none => simp [he]
      | some e => exact absurd he (hidle r e rfl)
  | born =>
    -- Where there was no router, there is none behind its share.
    have hnone := ha.gone hm
    rw [hm'] at hnone
    cases hnone
  | gone r =>
    rw [PoolSource.playAll_commands] at hpools
    exact hgoes (h.gone ha hpoised hpools hm hm') (hdeaf rfl)
  | refused status hnone =>
    exact hgoes (h.asked ha hpools (hm'.trans hm.symm) (h.born_of_mind hm)) (hdeaf rfl)
  | @waits r request cluster host i hnone hrouted hask =>
    obtain ⟨pool, hi, hrequests⟩ | ⟨hno, -⟩ := TcpPools.ask_requests cluster host ref S.pools
    · obtain rfl : i = S.pools.requests.length := PoolAnswer.pending.inj (hask.symm.trans hi)
      have hpools' : S'.pools = (TcpPools.source.ask cluster host ref S.pools).2.2 := hpools
      exact hgoes (h.waits ha hpools' (hpools' ▸ hrequests) rfl rfl hm hnone hm' rfl rfl rfl rfl
        ⟨request, hrouted, rfl⟩) (hdeaf rfl)
    · exact absurd hask (hno i)
  | @sent r r' request cluster host found link shared e' hnone hrouted hask hshared hline hex hh hlink
      hsent htransport =>
    have hrequests := TcpPools.ask_requests_same fun _ hi =>
      PoolAnswer.noConfusion (hask.symm.trans hi)
    have hasked := TcpPools.ask_asked cluster host ref S.pools
    have hask' : (TcpPools.ask cluster host ref S.pools).1 = .ready link found := hask
    rw [hask'] at hasked
    subst hshared
    rw [PoolSource.playAll_asked] at hpools
    refine (h.sent ha hasked (TcpPools.ask_quiet cluster host ref S.pools) hrequests hpools hm hnone
      hrouted hm' hex hh hlink hline hsent htransport).congr fun l => ?_
    rw [hdeaf rfl]
    rfl
  | @failed r r' request cluster host reason found e' _ hnone hrouted hask hline hex hover hops =>
    have hrequests := TcpPools.ask_requests_same fun _ hi =>
      PoolAnswer.noConfusion (hask.symm.trans hi)
    have hatMost := (TcpPools.ask_asked cluster host ref S.pools).toDropsIdle.atMostCloses
      (TcpPools.ask_quiet cluster host ref S.pools)
    have hpools' : S'.pools = (TcpPools.ask cluster host ref S.pools).2.2 := hpools
    refine hgoes (h.over ha (h.born_of_mind hm) nofun (fun l => hpools' ▸ hatMost l)
      (hpools' ▸ hrequests) (link?_of_blank hm hnone) hm' hex hover ⟨request, hrouted, hline⟩
      fun r₁ e₁ i hr₁ he₁ _ => ?_) (hdeaf rfl)
    obtain rfl := Option.some.inj (hm.symm.trans hr₁)
    rw [hnone] at he₁
    cases he₁
  | @begun r r' e e' link host shared he hw hshared hline hpending hex hh hlink hsent htransport =>
    subst hshared
    rw [PoolSource.playAll_commands] at hpools
    exact hgoes (h.begun ha hpools hone hm he hw hm' hex hh hlink hline hpending hsent) (hdeaf rfl)
  | @denied r r' e e' reason host _ he hw hline hex hover hops =>
    obtain ⟨left, hleft, -⟩ := ha.toDo
    obtain ⟨request, hrouted, hrequest⟩ := (h.tasks ref).line r e hm he
    refine hgoes (h.over ha (h.born_of_mind hm) (fun op hop l => ?_)
      (fun l => hpools ▸ TcpPools.AtMostCloses.refl _ l) (congrArg TcpPools.requests hpools)
      ((link?_of_mind hm he).trans hw.link) hm' hex hover ⟨request, hrouted, hline.trans hrequest⟩
      fun _ _ _ _ _ _ => ?_) (hdeaf rfl)
    · rw [List.mem_singleton.mp hop]
      rfl
    · rw [hleft, List.singleton_append, List.countP_cons_of_pos rfl]
      exact Nat.succ_ne_zero _
  | @wrote r r' e e' link he hh hlink hunsent hline hex hh' hlink' hsent htransport =>
    have hpools' := hpools.trans (PoolSource.playAll_commands TcpPools.source ref
      [.write link (e.transport.frame r.pendingWrite)] S.pools)
    refine (h.wrote ha hpools' hm he hh hlink hunsent hm' hex hh' hlink' hline hsent htransport).congr
      fun l => ?_
    rw [hdeaf rfl]
    rfl
  | @read r r' e e' octets he hh hline hex hh' hlink hsent htransport =>
    refine hgoes (h.read ha hpools hm he hh hm' hex hh' hlink hline hsent htransport) fun l => ?_
    exact answersOn_of_not_answered (not_isAnswered hex hh'.incomplete) l _ _
  | @ended r r' e e' d how _ he hh hd hevent hdata hline hex hover hops =>
    rw [PoolSource.playAll_commands] at hpools
    rw [← hm, ← hm']
    exact h.ended ha hpools hd hm he hh hm' hex hover hline hevent hdata

end Scene

end RpcProxy

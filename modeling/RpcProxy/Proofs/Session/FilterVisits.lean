import RpcProxy.Proofs.Session.RouterMoves

/-!
# Messages and filters

`decodeThrough_visits` and `encodeOnly_visits` say what a message that goes on meets, and what
becomes of its stream: the filters of its chain one after another, up to the first one that stops
it, each of them shown what the one before it has left.

The program keeps no record of this. It goes through the places that are left, moves a cursor and
changes the stream as it goes. A `Visit` is what a filter was shown, what it left and what it said,
and the functions of `MessageEvents` compute the visits along with the run. What is proved here is
that those visits are what filters of the chain do (`OfRequest`, `OfResponse`), in the order of the
path (`Call`), linked to each other (`Chained`), and that the cursor and the message of the stream
are those behind them.

Routers are among the filters. What a router says about a request depends on pools, so of a visit of
a router only that the request is left as it was can be told from the chain alone.
-/

set_option autoImplicit false

namespace RpcProxy

/-! ## Filters on the way -/

/-- What a filter makes of a request. A router leaves it as it is; whether the request goes on from
there is not said. -/
def Part.onRequest (p : Part) (view : StreamView) (r : Request) : Verdict Request :=
  match p.kind with
  | .plain b => b.onRequest view r
  | .accessLog _ | .router _ => { message := r }

/-- What a filter makes of a response, the number of which says which one of its stream it is. -/
def Part.onResponse (p : Part) (view : StreamView) (number : Nat) (r : Response) :
    Verdict Response :=
  match p.kind with
  | .plain b => b.onResponse view number r
  | .accessLog _ | .router _ => { message := r }

/-- What a filter does besides when its stream ends. -/
def Part.onEnd (p : Part) (id : StreamId) : Asides :=
  match p.kind with
  | .plain b => b.atEnd p.side id
  | .accessLog _ | .router _ => {}

/-- A filter for direct responses lets a request go on as it is, or asks its stream for one
reply. -/
theorem directResponse_cases (view : StreamView) (r : Request) :
    directResponse.onRequest view r = { message := r } ∨
      ∃ status, directResponse.onRequest view r =
        { message := r, asks := [(view.id, .localReply status .nothing)], status := .stop } := by
  unfold directResponse
  dsimp only
  split
  · exact Or.inr ⟨_, rfl⟩
  · split
    · exact Or.inr ⟨_, rfl⟩
    · exact Or.inl rfl

namespace Visit

variable {α : Type}

/-- The first filter is shown a message, and each other one what the one before it has left. -/
def Chained (m : α) : List (Visit α) → Prop
  | [] => True
  | v :: vs => v.shown = m ∧ Chained v.left vs

/-- The message behind some filters. -/
def behind (m : α) (vs : List (Visit α)) : α := vs.foldl (fun _ v => v.left) m

/-- A message meets the filters of `path` one after another, up to the first one that stops it. All
but the last have let it go on; if the last one has, too, the path is at its end. -/
structure Call (path : List Nat) (vs : List (Visit α)) : Prop where
  order : vs.map (·.slot) <+: path
  unstopped : ∀ v ∈ vs.dropLast, v.status = .continue
  ends : vs.map (·.slot) = path ∨ ∃ v, vs.getLast? = some v ∧ v.status = .stop

/-- A filter of a chain does to a request what filters of its kind do. -/
def OfRequest (parts : List Part) (view : StreamView) (v : Visit Request) : Prop :=
  ∃ part, parts[v.slot]? = some part ∧ v.left = (part.onRequest view v.shown).message ∧
    (part.isRouter = false → v.status = (part.onRequest view v.shown).status)

/-- A filter of a chain does to a response what filters of its kind do. -/
def OfResponse (parts : List Part) (view : StreamView) (number : Nat) (v : Visit Response) : Prop :=
  ∃ part, parts[v.slot]? = some part ∧ v.left = (part.onResponse view number v.shown).message ∧
    v.status = (part.onResponse view number v.shown).status

theorem Call.nil : Call [] ([] : List (Visit α)) := ⟨List.nil_prefix, by simp, Or.inl rfl⟩

theorem Call.stopped {v : Visit α} (hv : v.status = .stop) (path : List Nat) :
    Call (v.slot :: path) [v] where
  order := by simp
  unstopped := by simp
  ends := Or.inr ⟨v, rfl, hv⟩

theorem Call.cons {v : Visit α} {vs : List (Visit α)} {path : List Nat} (hv : v.status = .continue)
    (h : Call path vs) : Call (v.slot :: path) (v :: vs) where
  order := by simpa using h.order
  unstopped w hw := by
    cases vs with
    | nil => cases hw
    | cons u us =>
      rcases List.mem_cons.mp hw with rfl | hw
      · exact hv
      · exact h.unstopped w hw
  ends := by
    rcases h.ends with h | ⟨w, hw, hstop⟩
    · exact Or.inl (by simp [h])
    · refine Or.inr ⟨w, ?_, hstop⟩
      rw [List.getLast?_cons, hw]
      rfl

end Visit

namespace Session

variable {σ : Type}

/-! ## Meeting one filter -/

/-- Nothing but a certain stream has changed, along with tasks, routers and what is logged. Numbers
and the client's connection are the same, and a promise that was broken stays broken. -/
structure OnlyOneChanged (id : StreamId) (s s' : Session σ) : Prop where
  plan : s'.plan = s.plan
  nextId : s'.nextId = s.nextId
  connection : s'.connection = s.connection
  broken : s.panic.isSome = true → s'.panic.isSome = true
  others : ∀ other, other ≠ id → s'.stream? other = s.stream? other

section

variable {s s₁ s₂ s₃ : Session σ} {id : StreamId} {ref : RouterRef}

theorem OnlyOneChanged.refl (id : StreamId) (s : Session σ) : OnlyOneChanged id s s :=
  ⟨rfl, rfl, rfl, fun h => h, fun _ _ => rfl⟩

theorem OnlyOneChanged.trans (h₁ : OnlyOneChanged id s₁ s₂) (h₂ : OnlyOneChanged id s₂ s₃) :
    OnlyOneChanged id s₁ s₃ where
  plan := h₂.plan.trans h₁.plan
  nextId := h₂.nextId.trans h₁.nextId
  connection := h₂.connection.trans h₁.connection
  broken h := h₂.broken (h₁.broken h)
  others other hne := (h₂.others other hne).trans (h₁.others other hne)

theorem OnlyOneChanged.modifyStream {f : Stream → Stream} (hf : ∀ x, (f x).id = x.id) :
    OnlyOneChanged id s (s.modifyStream id f) where
  plan := rfl
  nextId := rfl
  connection := rfl
  broken h := h
  others other hne := by
    rw [stream?_modifyStream hf]
    cases hx : s.stream? other with
    | none => rfl
    | some x => rw [Option.map_some, if_neg fun he => hne ((stream?_id hx).symm.trans he)]

theorem afterFilter_stream? (s : Session σ) (a : Asides) (id : StreamId) :
    (s.afterFilter a).stream? id = s.stream? id := by
  rw [afterFilter_eq]
  rfl

theorem afterFilter_onlyOneChanged (s : Session σ) (id : StreamId) (a : Asides) :
    OnlyOneChanged id s (s.afterFilter a) := by
  rw [afterFilter_eq]
  exact ⟨rfl, rfl, rfl, fun h => h, fun _ _ => rfl⟩

theorem Works.stream? (h : Works ref s₁ s₂) : ∃ g : Memory → Memory, ∀ id : StreamId,
    s₂.stream? id = (s₁.stream? id).map (·.recall ref g) := by
  obtain ⟨ops, -, g, side, notes, panic, -, rfl⟩ := h
  exact ⟨g, stream?_of_map (Stream.recall_id ref g) rfl⟩

theorem Works.nearby (h : Works ref s₁ s₂) : OnlyOneChanged ref.stream s₁ s₂ := by
  have hstreams := h.stream?
  obtain ⟨ops, -, g, side, notes, panic, -, rfl⟩ := h
  refine ⟨rfl, rfl, rfl, fun hbroken => by simp [hbroken], fun other hne => ?_⟩
  obtain ⟨g, hg⟩ := hstreams
  rw [hg]
  cases hx : s₁.stream? other with
  | none => rfl
  | some x => rw [Option.map_some, Stream.recall, if_neg fun he => hne ((stream?_id hx).symm.trans he)]

theorem decodeOne_onlyOneChanged (s : Session σ) (x : Stream) (slot : Nat) :
    OnlyOneChanged x.id s (s.decodeOne x slot).2 := by
  unfold Session.decodeOne
  split
  · exact OnlyOneChanged.refl x.id s
  · refine OnlyOneChanged.trans ?_ (afterFilter_onlyOneChanged _ x.id _)
    exact OnlyOneChanged.modifyStream fun _ => rfl
  · exact OnlyOneChanged.modifyStream fun _ => rfl
  · exact (route_works s (s.refTo x.id slot) _ _ _).nearby

theorem encodeOne_onlyOneChanged (s : Session σ) (x : Stream) (r : Response) (slot : Nat) :
    OnlyOneChanged x.id s (s.encodeOne x r slot).2 := by
  unfold Session.encodeOne
  split
  · refine OnlyOneChanged.trans ?_ (afterFilter_onlyOneChanged _ x.id _)
    exact OnlyOneChanged.modifyStream fun _ => rfl
  · exact OnlyOneChanged.modifyStream fun _ => rfl
  · exact OnlyOneChanged.refl x.id s

theorem amend_stream? {x : Stream} (hx : s.stream? x.id = some x) (slot : Nat)
    (fill : AccessLog.Entry → AccessLog.Entry) :
    ∃ slots, slots.map (·.part) = x.slots.map (·.part) ∧
      (s.modifyStream x.id (·.amend slot fill)).stream? x.id = some { x with slots } :=
  ⟨_, (Stream.Alike.amend x slot fill).parts,
    stream?_modifyStream_same (f := fun y => y.amend slot fill) (fun _ => rfl) hx⟩

/-- A request meets a filter of its chain. -/
theorem decodeOne_stream? {x : Stream} {slot : Nat} {part : Part} (hx : s.stream? x.id = some x)
    (hpart : (x.slots[slot]?).map (·.part) = some part) :
    (part.isRouter = false → (s.decodeOne x slot).1 = (part.onRequest x.view x.request).status) ∧
    ∃ slots, slots.map (·.part) = x.slots.map (·.part) ∧ (s.decodeOne x slot).2.stream? x.id =
      some { x with request := (part.onRequest x.view x.request).message, slots } := by
  obtain ⟨⟨part', memory⟩, hslot, rfl⟩ := Option.map_eq_some_iff.mp hpart
  obtain ⟨side, kind⟩ := part'
  unfold Session.decodeOne
  rw [hslot]
  cases kind with
  | plain b =>
    refine ⟨fun _ => rfl, x.slots, rfl, (afterFilter_stream? _ _ x.id).trans ?_⟩
    exact stream?_modifyStream_same
      (f := fun y => { y with request := (b.onRequest x.view x.request).message }) (fun _ => rfl) hx
  | accessLog sink =>
    exact ⟨fun _ => rfl, amend_stream? hx slot _⟩
  | router generation =>
    refine ⟨nofun, ?_⟩
    obtain ⟨g, hg⟩ := (route_works s (s.refTo x.id slot) generation x.route? x.request).stream?
    refine ⟨(x.recall (s.refTo x.id slot) g).slots, Stream.recall_parts _ g x, ?_⟩
    dsimp only
    rw [hg, hx, Option.map_some, Stream.recall_eq]
    rfl

/-- A response meets a filter of its chain. -/
theorem encodeOne_stream? {x : Stream} {r : Response} {slot : Nat} {part : Part}
    (hx : s.stream? x.id = some x) (hr : x.response = some r)
    (hpart : (x.slots[slot]?).map (·.part) = some part) :
    (s.encodeOne x r slot).1 = (part.onResponse x.view x.answers r).status ∧
    ∃ slots, slots.map (·.part) = x.slots.map (·.part) ∧ (s.encodeOne x r slot).2.stream? x.id =
      some { x with response := some (part.onResponse x.view x.answers r).message, slots } := by
  obtain ⟨⟨part', memory⟩, hslot, rfl⟩ := Option.map_eq_some_iff.mp hpart
  obtain ⟨side, kind⟩ := part'
  unfold Session.encodeOne
  rw [hslot]
  cases kind with
  | plain b =>
    refine ⟨rfl, x.slots, rfl, (afterFilter_stream? _ _ x.id).trans ?_⟩
    exact stream?_modifyStream_same
      (f := fun y => { y with response := some (b.onResponse x.view x.answers r).message })
      (fun _ => rfl) hx
  | accessLog sink =>
    have hsame : x = { x with response := some r } := by rw [← hr]
    obtain ⟨slots, hslots, hfound⟩ := amend_stream? hx slot fun entry =>
      { entry with status := r.status.code.name }
    exact ⟨rfl, slots, hslots, hfound.trans (by rw [hsame]; rfl)⟩
  | router generation =>
    have hsame : x = { x with response := some r } := by rw [← hr]
    exact ⟨rfl, x.slots, rfl, hx.trans (congrArg some hsame)⟩

/-! ## Meeting filters one after another -/

theorem decodeThrough_onlyOneChanged (slots : List Nat) (s : Session σ) (id : StreamId) :
    OnlyOneChanged id s (s.decodeThrough id slots) :=
  decodeThrough_invariant (P := OnlyOneChanged id s)
    (fun _ h => h.trans (OnlyOneChanged.modifyStream fun _ => rfl))
    (fun _ x slot h hx => h.trans (stream?_id hx ▸ decodeOne_onlyOneChanged _ x slot)) slots s (.refl id s)

theorem encodeOnly_onlyOneChanged (slots : List Nat) (s : Session σ) (id : StreamId) :
    OnlyOneChanged id s (s.encodeOnly id slots).2 :=
  encodeOnly_invariant (P := OnlyOneChanged id s)
    (fun _ h => h.trans (OnlyOneChanged.modifyStream fun _ => rfl))
    (fun _ x r slot h hx _ => h.trans (stream?_id hx ▸ encodeOne_onlyOneChanged _ x r slot)) slots s
    (.refl id s)

/-- What a request that goes on meets, and what becomes of its stream. -/
theorem decodeThrough_visits {slots : List Nat} {x : Stream} (hx : s.stream? x.id = some x)
    (hslots : ∀ slot ∈ slots, slot < x.slots.length) :
    let visits := s.decodeVisits x.id slots
    Visit.Call slots visits ∧ Visit.Chained x.request visits ∧
    (∀ v ∈ visits, v.OfRequest (x.slots.map (·.part)) x.view) ∧
    ∃ slots', slots'.map (·.part) = x.slots.map (·.part) ∧
      (s.decodeThrough x.id slots).stream? x.id = some { x with
        request := Visit.behind x.request visits
        decoded := x.decoded + visits.length
        slots := slots' } := by
  -- The induction is on the places ahead; the stream that is shown changes at each of them.
  induction slots generalizing s x with
  | nil => exact ⟨.nil, trivial, by simp [decodeVisits], x.slots, rfl, hx⟩
  | cons slot rest ih =>
    have hpass : (s.pass x.id).stream? x.id = some { x with decoded := x.decoded + 1 } :=
      stream?_modifyStream_same (f := fun y => { y with decoded := y.decoded + 1 }) (fun _ => rfl) hx
    have hin : slot < x.slots.length := hslots slot List.mem_cons_self
    have hpart : (x.slots[slot]?).map (·.part) = some x.slots[slot].part := by
      rw [List.getElem?_eq_getElem hin, Option.map_some]
    obtain ⟨hstatus, ms, hms, hmet⟩ := decodeOne_stream? (s := s.pass x.id)
      (x := { x with decoded := x.decoded + 1 }) hpass hpart
    rw [decodeThrough_cons, decodeVisits, hpass]
    dsimp only
    generalize (s.pass x.id).decodeOne { x with decoded := x.decoded + 1 } slot = met at hmet hstatus
    obtain ⟨status, s'⟩ := met
    dsimp only at hmet hstatus ⊢
    rw [hmet]
    dsimp only [Option.map_some, Option.getD_some]
    -- The filter at this place was shown the request as it stood, and left it as it is now.
    have hof : Visit.OfRequest (x.slots.map (·.part)) x.view
        { slot, shown := x.request
          left := (x.slots[slot].part.onRequest x.view x.request).message, status } := by
      refine ⟨x.slots[slot].part, ?_, rfl, hstatus⟩
      rw [List.getElem?_map, List.getElem?_eq_getElem hin, Option.map_some]
    cases status with
    | stop =>
      rw [if_neg (by decide)]
      refine ⟨.stopped (v := ⟨slot, _, _, .stop⟩) rfl rest, ⟨rfl, trivial⟩, fun v hv => ?_, ms, hms,
        hmet⟩
      rw [List.mem_singleton.mp hv]
      exact hof
    | «continue» =>
      have hlen : ms.length = x.slots.length := by simpa using congrArg List.length hms
      have hrest : ∀ i ∈ rest, i < ms.length := fun i hi =>
        hlen ▸ hslots i (List.mem_cons_of_mem slot hi)
      obtain ⟨hcall, hchain, hall, ms', hms', hend⟩ := ih
        (x := { x with request := _, decoded := x.decoded + 1, slots := ms }) hmet hrest
      rw [if_pos rfl]
      refine ⟨.cons (v := ⟨slot, _, _, .continue⟩) rfl hcall, ⟨rfl, hchain⟩, fun v hv => ?_, ms',
        hms'.trans hms, hend.trans ?_⟩
      · rcases List.mem_cons.mp hv with rfl | hv
        · exact hof
        · exact hms ▸ hall v hv
      · simp only [Visit.behind, List.foldl_cons, List.length_cons, Nat.add_assoc, Nat.add_comm 1]

/-- What a response that goes on meets, and what becomes of its stream. -/
theorem encodeOnly_visits {slots : List Nat} {x : Stream} {r : Response}
    (hx : s.stream? x.id = some x) (hr : x.response = some r)
    (hslots : ∀ slot ∈ slots, slot < x.slots.length) :
    let visits := s.encodeVisits x.id slots
    Visit.Call slots visits ∧ Visit.Chained r visits ∧
    (∀ v ∈ visits, v.OfResponse (x.slots.map (·.part)) x.view x.answers) ∧
    ((s.encodeOnly x.id slots).1 = .continue → visits.map (·.slot) = slots) ∧
    ∃ slots', slots'.map (·.part) = x.slots.map (·.part) ∧
      (s.encodeOnly x.id slots).2.stream? x.id = some { x with
        response := some (Visit.behind r visits)
        encoded := x.encoded + visits.length
        slots := slots' } := by
  induction slots generalizing s x r with
  | nil =>
    have hsame : x = { x with response := some r } := by rw [← hr]
    exact ⟨.nil, trivial, by simp [encodeVisits], fun _ => rfl, x.slots, rfl,
      hx.trans (congrArg some hsame)⟩
  | cons slot rest ih =>
    have hpass : (s.passBack x.id).stream? x.id = some { x with encoded := x.encoded + 1 } :=
      stream?_modifyStream_same (f := fun y => { y with encoded := y.encoded + 1 }) (fun _ => rfl) hx
    have hin : slot < x.slots.length := hslots slot List.mem_cons_self
    have hpart : (x.slots[slot]?).map (·.part) = some x.slots[slot].part := by
      rw [List.getElem?_eq_getElem hin, Option.map_some]
    obtain ⟨hstatus, ms, hms, hmet⟩ := encodeOne_stream? (s := s.passBack x.id)
      (x := { x with encoded := x.encoded + 1 }) hpass hr hpart
    rw [encodeOnly, encodeVisits, hpass]
    dsimp only
    generalize (s.passBack x.id).encodeOne { x with encoded := x.encoded + 1 } = meet at hmet hstatus ⊢
    rw [hr]
    dsimp only
    generalize meet r slot = met at hmet hstatus
    obtain ⟨status, s'⟩ := met
    dsimp only at hmet hstatus ⊢
    rw [hmet]
    dsimp only [Option.bind_some, Option.getD_some]
    -- The filter at this place was shown the response as it stood, and left it as it is now.
    have hof : Visit.OfResponse (x.slots.map (·.part)) x.view x.answers
        { slot, shown := r
          left := (x.slots[slot].part.onResponse x.view x.answers r).message, status } := by
      refine ⟨x.slots[slot].part, ?_, rfl, hstatus⟩
      rw [List.getElem?_map, List.getElem?_eq_getElem hin, Option.map_some]
    cases status with
    | stop =>
      rw [if_neg (by decide)]
      refine ⟨.stopped (v := ⟨slot, _, _, .stop⟩) rfl rest, ⟨rfl, trivial⟩, fun v hv => ?_,
        fun hgo => ?_, ms, hms, hmet⟩
      · rw [List.mem_singleton.mp hv]
        exact hof
      · cases hgo
    | «continue» =>
      have hlen : ms.length = x.slots.length := by simpa using congrArg List.length hms
      have hrest : ∀ i ∈ rest, i < ms.length := fun i hi =>
        hlen ▸ hslots i (List.mem_cons_of_mem slot hi)
      obtain ⟨hcall, hchain, hall, hthrough, ms', hms', hend⟩ := ih
        (x := { x with response := some _, encoded := x.encoded + 1, slots := ms }) hmet rfl hrest
      rw [if_pos rfl]
      refine ⟨.cons (v := ⟨slot, _, _, .continue⟩) rfl hcall, ⟨rfl, hchain⟩, fun v hv => ?_,
        fun hgo => ?_, ms', hms'.trans hms, hend.trans ?_⟩
      · rcases List.mem_cons.mp hv with rfl | hv
        · exact hof
        · exact hms ▸ hall v hv
      · rw [List.map_cons, hthrough hgo]
      · simp only [Visit.behind, List.foldl_cons, List.length_cons, Nat.add_assoc, Nat.add_comm 1]

end

end Session

end RpcProxy

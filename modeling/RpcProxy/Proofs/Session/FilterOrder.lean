import Mathlib.Data.List.Induction
import RpcProxy.Proofs.Session.MessageSteps

/-!
# The chain of filters

Requests meet the filters of a listener in the order of the settings and responses meet them in
reverse, whatever the filters make of them and however often a stream is told to go on. `Course` is
a small machine that accepts what may happen to the messages of one stream: it keeps the filters
that the request has met, and the response that was set last with the filters that it has met since.
Two cursors of the stream stand for these lists (`Stands`), and every message step of a session
keeps them in step with the machine (`Traced.messageStep`).

Why a machine, and not the statement itself, is carried along: what is stated (`Chained`) speaks
about every prefix of the events, so it would have to be taken apart and put together again at each
step, and it says too little to be kept, since nothing in it ties the events to the cursors. The
machine remembers exactly what the stream does. It is an inductive relation rather than a function
because what it accepts has premises (a call is along the path, the visits are linked) that a
computed state would have to drop or to carry as proofs.

A response can be set anew after others have met some filters, even in the middle of the chain, and
a new one begins at its last filter again. That is why the response in the machine comes with its
own visits, why visits of earlier responses are forgotten, and why the number of responses
(`answers`) is told to filters.

`Course.chained` is the bridge to plain words, and `opened_chain`, the main result, says them for
every stream of every connection.
-/

set_option autoImplicit false

namespace RpcProxy

/-! ## Paths

The places of a chain that a request passes, and those that a response passes, in their order. A
path has no place twice, so that a number of places passed says which they were. -/

/-- The places of the filters that requests pass, in their order. -/
def requestPath (parts : List Part) : List Nat :=
  (List.range parts.length).filter fun i => (parts[i]?).any (·.side.decodes)

/-- The places of the filters that responses pass, in their order. -/
def responsePath (parts : List Part) : List Nat :=
  ((List.range parts.length).filter fun i => (parts[i]?).any (·.side.encodes)).reverse

/-- What all filters make of a response, the number of which says which one of its stream it is. The
filters are asked directly, so this is what the octets that are written are compared with, and not a
record of them. -/
def behindAll (parts : List Part) (view : StreamView) (number : Nat) (r : Response) : Response :=
  (parts.filter (·.side.encodes)).reverse.foldl
    (fun r part => (part.onResponse view number r).message) r

theorem nodup_requestPath (parts : List Part) : (requestPath parts).Nodup :=
  List.nodup_range.filter _

theorem nodup_responsePath (parts : List Part) : (responsePath parts).Nodup :=
  List.pairwise_reverse.mpr ((List.nodup_range.filter _).imp Ne.symm)

theorem Stream.decoders_eq (x : Stream) : x.decoders = requestPath (x.slots.map (·.part)) := by
  unfold Stream.decoders requestPath
  rw [List.length_map]
  refine List.filter_congr fun i _ => ?_
  simp [List.getElem?_map, Option.any_map]

theorem Stream.encoders_eq (x : Stream) : x.encoders = responsePath (x.slots.map (·.part)) := by
  unfold Stream.encoders responsePath
  rw [List.length_map]
  refine congrArg List.reverse (List.filter_congr fun i _ => ?_)
  simp [List.getElem?_map, Option.any_map]

/-- The filters at the places that satisfy a condition are those that satisfy it. -/
theorem filterMap_range_filter (p : Part → Bool) (parts : List Part) :
    ((List.range parts.length).filter fun i => (parts[i]?).any p).filterMap (parts[·]?) =
      parts.filter p := by
  have hgeneral : ∀ n, n ≤ parts.length →
      ((List.range n).filter fun i => (parts[i]?).any p).filterMap (parts[·]?) =
        (parts.take n).filter p := by
    intro n
    induction n with
    | zero => exact fun _ => rfl
    | succ n ih =>
      intro hn
      have hget : parts[n]? = some parts[n] := List.getElem?_eq_getElem hn
      rw [List.range_succ, List.filter_append, List.filterMap_append, ih (Nat.le_of_lt hn),
        List.take_add_one, hget, List.filter_append]
      congr 1
      cases hp : p parts[n] with
      | true => simp [hget, hp]
      | false => simp [hget, hp]
  rw [hgeneral parts.length (Nat.le_refl _), List.take_length]

namespace Visit

variable {α : Type} {m : α} {vs us : List (Visit α)}

theorem behind_append (m : α) (vs us : List (Visit α)) :
    behind m (vs ++ us) = behind (behind m vs) us := List.foldl_append

theorem Chained.append (h₁ : Chained m vs) (h₂ : Chained (behind m vs) us) : Chained m (vs ++ us) := by
  induction vs generalizing m with
  | nil => exact h₂
  | cons v vs ih => exact ⟨h₁.1, ih h₁.2 h₂⟩

/-- A call that begins behind `vs` goes on with the path where they have left off. -/
theorem Call.extends {path : List Nat} (h : vs.map (·.slot) <+: path)
    (hcall : Call (path.drop vs.length) us) : (vs ++ us).map (·.slot) <+: path := by
  obtain ⟨rest, hrest⟩ := h
  have hdrop : path.drop vs.length = rest := by
    rw [← hrest, List.drop_append_of_le_length (by simp)]
    simp
  obtain ⟨more, hmore⟩ := hdrop ▸ hcall.order
  exact ⟨more, by rw [← hrest, ← hmore, List.map_append, List.append_assoc]⟩

/-- Behind filters of a chain a response is what they make of it one after another. -/
theorem behind_eq_foldl {parts : List Part} {view : StreamView} {number : Nat} {r : Response}
    {vs : List (Visit Response)} (hchain : Chained r vs)
    (hof : ∀ v ∈ vs, v.OfResponse parts view number) :
    behind r vs = ((vs.map (·.slot)).filterMap (parts[·]?)).foldl
      (fun r part => (part.onResponse view number r).message) r := by
  induction vs generalizing r with
  | nil => rfl
  | cons v vs ih =>
    obtain ⟨part, hpart, hleft, -⟩ := hof v List.mem_cons_self
    rw [hchain.1] at hleft
    rw [List.map_cons, List.filterMap_cons_some hpart, List.foldl_cons, ← hleft]
    exact ih hchain.2 fun u hu => hof u (List.mem_cons_of_mem v hu)

theorem behind_eq_behindAll {parts : List Part} {view : StreamView} {number : Nat} {r : Response}
    {vs : List (Visit Response)} (hchain : Chained r vs)
    (hof : ∀ v ∈ vs, v.OfResponse parts view number) (hall : vs.map (·.slot) = responsePath parts) :
    behind r vs = behindAll parts view number r := by
  rw [behind_eq_foldl hchain hof, hall, responsePath, List.filterMap_reverse,
    filterMap_range_filter]
  rfl

end Visit

/-! ## What may happen

The machine, and what its runs have in common: each message meets a prefix of its path, resumes
where it stopped, and shows each filter what the last one left. -/

namespace StreamEvent

/-- The filters that the request has met. -/
def requestVisits (es : List StreamEvent) : List (Visit Request) :=
  es.flatMap fun
    | .decoding visits => visits
    | _ => []

/-- The response that was set last, with the filters that it has met since then. -/
def current (es : List StreamEvent) : Option (Response × List (Visit Response)) :=
  es.foldl (fun c e =>
    match e with
    | .answered r => some (r, [])
    | .encoding visits => c.map fun (r, past) => (r, past ++ visits)
    | _ => c) none

/-- How many responses were set; the one that was set last has this number. -/
def answers (es : List StreamEvent) : Nat :=
  es.countP fun
    | .answered _ => true
    | _ => false

theorem answers_append (es fs : List StreamEvent) : answers (es ++ fs) = answers es + answers fs :=
  List.countP_append

/-- The octets that were written to the client, one list for each time. -/
def written (es : List StreamEvent) : List Bytes :=
  es.filterMap fun
    | .wrote octets => some octets
    | _ => none

end StreamEvent

open StreamEvent (requestVisits current answers answers_append written)

/-- What may happen to the messages of a stream whose chain is `parts`. The indices are the events,
the filters that the request has met, the response with the filters that it has met, and whether it
was written.

Every rule asks that nothing was written before, so a reply is the last thing that happens. A
request may go on at any time, also when a response is there: filters can be asked to go on by
others, and a stream that has been answered does not stop its request. -/
inductive Course (parts : List Part) (view : StreamView) (request : Request) :
    List StreamEvent → List (Visit Request) → Option (Response × List (Visit Response)) → Bool → Prop
  /-- It begins with the request, before all filters. -/
  | began : Course parts view request [.began request] [] none false
  /-- The request goes on: it meets filters in their order, each of which sees what the last has
  left. -/
  | decoding {es : List StreamEvent} {vs visits : List (Visit Request)}
    {c : Option (Response × List (Visit Response))} (h : Course parts view request es vs c false)
    (hcall : Visit.Call ((requestPath parts).drop vs.length) visits)
    (hchain : Visit.Chained (Visit.behind request vs) visits)
    (hof : ∀ v ∈ visits, v.OfRequest parts view) :
    Course parts view request (es ++ [.decoding visits]) (vs ++ visits) c false
  /-- A response is set, in front of all filters, in place of any other. -/
  | answered {es : List StreamEvent} {vs : List (Visit Request)}
    {c : Option (Response × List (Visit Response))} (h : Course parts view request es vs c false)
    (r : Response) : Course parts view request (es ++ [.answered r]) vs (some (r, [])) false
  /-- The response goes on, in the order of its own path. -/
  | encoding {es : List StreamEvent} {vs : List (Visit Request)} {r : Response}
    {past visits : List (Visit Response)}
    (h : Course parts view request es vs (some (r, past)) false)
    (hcall : Visit.Call ((responsePath parts).drop past.length) visits)
    (hchain : Visit.Chained (Visit.behind r past) visits)
    (hof : ∀ v ∈ visits, v.OfResponse parts view (answers es)) :
    Course parts view request (es ++ [.encoding visits]) vs (some (r, past ++ visits)) false
  /-- The response is written when it has met all filters. -/
  | wrote {es : List StreamEvent} {vs : List (Visit Request)} {r : Response}
    {past : List (Visit Response)} (h : Course parts view request es vs (some (r, past)) false)
    (hall : past.map (·.slot) = responsePath parts) :
    Course parts view request (es ++ [.wrote (Visit.behind r past).encode]) vs (some (r, past)) true

namespace Course

variable {parts : List Part} {view : StreamView} {request : Request} {es before rest : List StreamEvent}
  {vs : List (Visit Request)} {c : Option (Response × List (Visit Response))} {done : Bool}
  {e : StreamEvent}

theorem head?_eq (h : Course parts view request es vs c done) : es.head? = some (.began request) := by
  induction h with
  | began => rfl
  | decoding _ _ _ _ ih | answered _ _ ih | encoding _ _ _ _ ih | wrote _ _ ih =>
    rw [List.head?_append, ih, Option.some_or]

/-- A stream begins once. -/
theorem began_mem {request' : Request} (h : Course parts view request es vs c done)
    (hmem : .began request' ∈ es) : request' = request := by
  induction h with
  | began =>
    cases List.mem_singleton.mp hmem
    rfl
  | decoding _ _ _ _ ih | answered _ _ ih | encoding _ _ _ _ ih | wrote _ _ ih =>
    rcases List.mem_append.mp hmem with hmem | hmem
    · exact ih hmem
    · cases List.mem_singleton.mp hmem

theorem requestVisits_eq (h : Course parts view request es vs c done) : requestVisits es = vs := by
  induction h with
  | began => rfl
  | decoding _ _ _ _ ih => rw [requestVisits, List.flatMap_append, ← requestVisits, ih]; simp
  | answered _ r ih => rw [requestVisits, List.flatMap_append, ← requestVisits, ih]; simp
  | encoding _ _ _ _ ih => rw [requestVisits, List.flatMap_append, ← requestVisits, ih]; simp
  | wrote _ _ ih => rw [requestVisits, List.flatMap_append, ← requestVisits, ih]; simp

theorem current_eq (h : Course parts view request es vs c done) : current es = c := by
  induction h with
  | began => rfl
  | decoding _ _ _ _ ih => rw [current, List.foldl_append, ← current, ih]; rfl
  | answered _ r ih => rw [current, List.foldl_append, ← current, ih]; rfl
  | encoding _ _ _ _ ih => rw [current, List.foldl_append, ← current, ih]; rfl
  | wrote _ _ ih => rw [current, List.foldl_append, ← current, ih]; rfl

theorem written_length (h : Course parts view request es vs c done) :
    (written es).length = done.toNat := by
  induction h with
  | began => rfl
  | decoding _ _ _ _ ih => simpa [written] using ih
  | answered _ r ih => simpa [written] using ih
  | encoding _ _ _ _ ih => simpa [written] using ih
  | wrote _ _ ih => simpa [written] using ih

/-- Requests meet filters in order. -/
theorem requests (h : Course parts view request es vs c done) :
    vs.map (·.slot) <+: requestPath parts ∧ Visit.Chained request vs ∧
      ∀ v ∈ vs, v.OfRequest parts view := by
  induction h with
  | began => exact ⟨List.nil_prefix, trivial, fun v hv => nomatch hv⟩
  | decoding _ hcall hchain hof ih =>
    obtain ⟨horder, hchained, hall⟩ := ih
    refine ⟨Visit.Call.extends horder hcall, hchained.append hchain, fun v hv => ?_⟩
    rcases List.mem_append.mp hv with hv | hv
    · exact hall v hv
    · exact hof v hv
  | answered _ r ih => exact ih
  | encoding _ _ _ _ ih => exact ih
  | wrote _ _ ih => exact ih

/-- Responses meet filters in reverse. -/
theorem responses (h : Course parts view request es vs c done) {r : Response}
    {past : List (Visit Response)} (hc : c = some (r, past)) :
    past.map (·.slot) <+: responsePath parts ∧ Visit.Chained r past ∧
      ∀ v ∈ past, v.OfResponse parts view (answers es) := by
  induction h generalizing past with
  | began => cases hc
  | decoding _ _ _ _ ih =>
    rw [answers_append]
    exact ih hc
  | answered _ r' ih =>
    obtain ⟨-, rfl⟩ := Prod.mk.inj (Option.some.inj hc)
    exact ⟨List.nil_prefix, trivial, fun v hv => nomatch hv⟩
  | encoding _ hcall hchain hof ih =>
    obtain ⟨rfl, rfl⟩ := Prod.mk.inj (Option.some.inj hc)
    obtain ⟨horder, hchained, hall⟩ := ih rfl
    rw [answers_append]
    refine ⟨Visit.Call.extends horder hcall, hchained.append hchain, fun v hv => ?_⟩
    rcases List.mem_append.mp hv with hv | hv
    · exact hall v hv
    · exact hof v hv
  | wrote _ _ ih =>
    rw [answers_append]
    exact ih hc

/-- All but the last event may happen, too, and then nothing was written. -/
theorem init (h : Course parts view request (es ++ [e]) vs c done) (hne : es ≠ []) :
    ∃ vs' c', Course parts view request es vs' c' false := by
  generalize hall : es ++ [e] = all at h
  cases h with
  | began =>
    cases es with
    | nil => exact absurd rfl hne
    | cons b es => simp at hall
  | decoding h | answered h | encoding h | wrote h =>
    obtain ⟨rfl, -⟩ := List.append_inj' hall rfl
    exact ⟨_, _, h⟩

/-- What has happened until some moment may happen. -/
theorem upTo (h : Course parts view request (before ++ rest) vs c done) (hne : before ≠ []) :
    ∃ vs' c' done', Course parts view request before vs' c' done' := by
  induction rest using List.reverseRecOn generalizing vs c done with
  | nil => exact ⟨vs, c, done, List.append_nil before ▸ h⟩
  | append_singleton rest e ih =>
    rw [← List.append_assoc] at h
    obtain ⟨vs', c', h'⟩ := h.init (by simp [hne])
    exact ih h'

theorem at_decoding {visits : List (Visit Request)}
    (h : Course parts view request (es ++ [.decoding visits]) vs c done) :
    Visit.Call ((requestPath parts).drop (requestVisits es).length) visits := by
  generalize hall : es ++ [.decoding visits] = all at h
  cases h with
  | began => cases es with
    | nil => cases hall
    | cons e es => simp at hall
  | decoding h hcall =>
    obtain ⟨rfl, he⟩ := List.append_inj' hall rfl
    cases he
    rwa [h.requestVisits_eq]
  | answered h | encoding h | wrote h => simp at hall

theorem at_encoding {visits : List (Visit Response)}
    (h : Course parts view request (es ++ [.encoding visits]) vs c done) :
    ∃ r past, current es = some (r, past) ∧
      Visit.Call ((responsePath parts).drop past.length) visits := by
  generalize hall : es ++ [.encoding visits] = all at h
  cases h with
  | began => cases es with
    | nil => cases hall
    | cons e es => simp at hall
  | encoding h hcall =>
    obtain ⟨rfl, he⟩ := List.append_inj' hall rfl
    cases he
    exact ⟨_, _, h.current_eq, hcall⟩
  | decoding h | answered h | wrote h => simp at hall

theorem at_wrote {octets : Bytes} (h : Course parts view request (es ++ [.wrote octets]) vs c done) :
    ∃ r past, current es = some (r, past) ∧ past.map (·.slot) = responsePath parts ∧
      octets = (behindAll parts view (answers es) r).encode := by
  generalize hall : es ++ [.wrote octets] = all at h
  cases h with
  | began => cases es with
    | nil => cases hall
    | cons e es => simp at hall
  | wrote h hpassed =>
    obtain ⟨rfl, he⟩ := List.append_inj' hall rfl
    cases he
    obtain ⟨-, hchain, hof⟩ := h.responses rfl
    exact ⟨_, _, h.current_eq, hpassed, by rw [Visit.behind_eq_behindAll hchain hof hpassed]⟩
  | decoding h | answered h | encoding h => simp at hall

end Course

/-- What happens to the messages of a stream whose chain is `parts`, in plain words. This is the
statement; `Course` is how it is proved. Each field is about the events alone, and those that speak
of some moment take the events before it as a prefix. -/
structure Chained (parts : List Part) (view : StreamView) (es : List StreamEvent) : Prop where
  /-- The request meets filters in the order of the settings, each of them at most once. -/
  requests : (requestVisits es).map (·.slot) <+: requestPath parts ∧
    ((requestVisits es).map (·.slot)).Nodup
  /-- It goes on behind the filter that stopped it, up to the next one that does. -/
  decodes : ∀ before visits rest, es = before ++ .decoding visits :: rest →
    Visit.Call ((requestPath parts).drop (requestVisits before).length) visits
  /-- Each filter is shown what the one before it has left, and does what it does. -/
  requestFilters : ∀ request rest, es = .began request :: rest →
    Visit.Chained request (requestVisits es) ∧ ∀ v ∈ requestVisits es, v.OfRequest parts view
  /-- At any time the response that was set last has met filters in reverse order, each of them at
  most once since it was set. Each filter was shown what the one before it had left, and did what it
  does. -/
  responses : ∀ before rest r past, es = before ++ rest → current before = some (r, past) →
    past.map (·.slot) <+: responsePath parts ∧ (past.map (·.slot)).Nodup ∧ Visit.Chained r past ∧
      ∀ v ∈ past, v.OfResponse parts view (answers before)
  /-- It goes on behind the filter that stopped it, up to the next one that does. -/
  encodes : ∀ before visits rest, es = before ++ .encoding visits :: rest →
    ∃ r past, current before = some (r, past) ∧
      Visit.Call ((responsePath parts).drop past.length) visits
  /-- What is written is the response that was set last, and only when it has met all filters: its
  text, with what they have made of it one after another. -/
  replies : ∀ before octets rest, es = before ++ .wrote octets :: rest →
    ∃ r past, current before = some (r, past) ∧ past.map (·.slot) = responsePath parts ∧
      octets = (behindAll parts view (answers before) r).encode
  /-- There is at most one reply. -/
  once : (written es).length ≤ 1

theorem Chained.written_eq {parts : List Part} {view : StreamView} {es : List StreamEvent}
    {octets : Bytes} (h : Chained parts view es) (hin : octets ∈ written es) :
    written es = [octets] := by
  obtain ⟨line, hline⟩ := List.length_eq_one_iff.mp (Nat.le_antisymm h.once (List.length_pos_of_mem hin))
  rw [hline] at hin ⊢
  rw [List.mem_singleton.mp hin]

/-- Everything that the machine accepts is in order. -/
theorem Course.chained {parts : List Part} {view : StreamView} {request : Request}
    {es : List StreamEvent} {vs : List (Visit Request)}
    {c : Option (Response × List (Visit Response))} {done : Bool}
    (h : Course parts view request es vs c done) : Chained parts view es := by
  have hupTo : ∀ before e rest, es = before ++ e :: rest →
      ∃ vs' c' done', Course parts view request (before ++ [e]) vs' c' done' := by
    intro before e rest hes
    rw [hes, List.append_cons] at h
    exact h.upTo (by simp)
  obtain ⟨horder, hchain, hof⟩ := h.requests
  rw [← h.requestVisits_eq] at horder hchain hof
  refine ⟨⟨horder, (nodup_requestPath parts).sublist horder.sublist⟩, ?decodes, ?requestFilters,
      ?responses, ?encodes, ?replies, ?once⟩
  case decodes =>
    intro before visits rest hes
    obtain ⟨vs', c', done', h'⟩ := hupTo before _ rest hes
    exact h'.at_decoding
  case requestFilters =>
    intro request' rest hes
    -- The first event of a course is that the stream begins with its request.
    have hfirst : request' = request := by
      have hhead := h.head?_eq
      rw [hes] at hhead
      cases hhead
      rfl
    exact hfirst ▸ ⟨hchain, hof⟩
  case responses =>
    intro before rest r past hes hc
    have hne : before ≠ [] := by
      rintro rfl
      cases hc
    rw [hes] at h
    obtain ⟨vs', c', done', h'⟩ := h.upTo hne
    obtain ⟨horder, hchain, hof⟩ := h'.responses (h'.current_eq.symm.trans hc)
    exact ⟨horder, (nodup_responsePath parts).sublist horder.sublist, hchain, hof⟩
  case encodes =>
    intro before visits rest hes
    obtain ⟨vs', c', done', h'⟩ := hupTo before _ rest hes
    exact h'.at_encoding
  case replies =>
    intro before octets rest hes
    obtain ⟨vs', c', done', h'⟩ := hupTo before _ rest hes
    exact h'.at_wrote
  case once =>
    rw [h.written_length]
    exact Bool.toNat_le done

/-! ## Streams and their courses

The machine is run beside the session. Each step of the session that concerns messages is a step of
the machine, and the cursor of the stream says where it stands. -/

/-- Where a stream stands on its course: its cursors count the filters that its messages have met,
and its messages are what these have left. Cursors count places on a path, and since a path has no
place twice, the number says which filters they were. The route is looked up once, for the request
as it came, which is why a view of the stream is the same at all times. -/
structure Stands (parts : List Part) (plan : Plan) (request : Request) (given : Nat)
    (vs : List (Visit Request)) (c : Option (Response × List (Visit Response))) (done : Bool)
    (x : Stream) : Prop where
  /-- The filters of the stream are those of its chain. -/
  filters : x.slots.map (·.part) = parts
  /-- The request has met as many filters as it visited. -/
  decoded : x.decoded = vs.length
  /-- The request is what these filters have left. -/
  asked : x.request = Visit.behind request vs
  /-- The response is what its filters have left, if there is one. -/
  answer : x.response = c.map fun (r, past) => Visit.behind r past
  /-- So many responses were set. -/
  answers : x.answers = given
  /-- The response has met as many filters as it visited. -/
  encoded : ∀ r past, c = some (r, past) → x.encoded = past.length
  /-- The route is that of the request as it came; a stream without filters has none. -/
  route : parts = [] ∨ x.route = some (plan.routes.find? request)
  /-- A stream whose reply was written is over. -/
  live : x.isLive = true → done = false

section

variable {parts : List Part} {plan : Plan} {request : Request} {given : Nat}
  {vs : List (Visit Request)} {c : Option (Response × List (Visit Response))} {done : Bool}
  {x y : Stream}

theorem Stands.keeps (h : Stands parts plan request given vs c done x) (hk : x.Keeps y) :
    Stands parts plan request given vs c done y where
  filters := hk.parts.trans h.filters
  decoded := hk.decoded.trans h.decoded
  asked := hk.request.trans h.asked
  answer := hk.response.trans h.answer
  answers := hk.answers.trans h.answers
  encoded r past hc := hk.encoded.trans (h.encoded r past hc)
  route := h.route.imp_right hk.route.trans
  live hlive := h.live (hk.live hlive)

theorem Session.resolve_isLive (x : Stream) (routes : RouteTable) :
    (x.resolve routes).isLive = x.isLive := by
  unfold Stream.resolve
  split
  · rfl
  · rfl

/-- A route that is looked up once more is the same. -/
theorem Stands.resolve (h : Stands parts plan request given vs c done x) (routes : RouteTable) :
    Stands parts plan request given vs c done (x.resolve routes) := by
  unfold Stream.resolve
  split
  · exact h
  · next hnone =>
    refine ⟨h.filters, h.decoded, h.asked, h.answer, h.answers, h.encoded, Or.inl ?_, h.live⟩
    refine h.route.resolve_right fun hroute => ?_
    rw [hnone] at hroute
    cases hroute

/-- What filters see of a stream: its number, and the route of the request as it came. -/
def viewOf (plan : Plan) (id : StreamId) (request : Request) : StreamView :=
  { id, route := plan.routes.find? request, isReset := false }

theorem Stands.view (h : Stands parts plan request given vs c done x) (hlive : x.isLive = true) :
    parts = [] ∨ x.view = viewOf plan x.id request := by
  refine h.route.imp_right fun hroute => ?_
  have hreset : x.isReset = false := by simpa using (Bool.and_eq_true_iff.mp hlive).1
  simp [Stream.view, Stream.route?, viewOf, hroute, hreset]

/-- No message meets a filter of an empty chain. -/
theorem Visit.Call.of_nil {α : Type} {vs : List (Visit α)} {n : Nat}
    (h : Visit.Call (([] : List Nat).drop n) vs) : vs = [] := by
  have horder := h.order
  rw [List.drop_nil, List.prefix_nil, List.map_eq_nil_iff] at horder
  exact horder

end

namespace Session

variable {σ : Type} {plan : Plan} {id : StreamId} {es : List StreamEvent} {s s' : Session σ}
  {as : List Act}

/-- The events of one stream, among those of all. -/
def own (id : StreamId) (as : List Act) : List StreamEvent :=
  as.filterMap fun a => if a.1 = id then some a.2 else none

theorem own_cons_self (e : StreamEvent) : own id [(id, e)] = [e] := by simp [own]

theorem own_cons_of_ne {other : StreamId} (h : other ≠ id) (e : StreamEvent) :
    own id [(other, e)] = [] := by simp [own, h]

/-- The events of a stream are its course, and the stream stands where they have brought it. A
stream that was put away has its course, too, but stands nowhere; hence the last condition is only
about streams that are found. Its chain is that of the settings or, if a promise was broken when it
began, empty. -/
structure Traced (plan : Plan) (id : StreamId) (es : List StreamEvent) (s : Session σ) : Prop where
  works : s.plan = plan
  early : s.nextId ≤ id → es = []
  begun : id < s.nextId → ∃ parts request vs c done,
    (parts = plan.parts ∨ parts = [] ∧ s.panic.isSome = true) ∧
    Course parts (viewOf plan id request) request es vs c done ∧
    ∀ x, s.stream? id = some x → Stands parts plan request (answers es) vs c done x

/-- Nothing happens to a stream. -/
theorem Traced.same (h : Traced plan id es s) (hplan : s'.plan = s.plan)
    (hnext : id < s'.nextId ↔ id < s.nextId)
    (hbroken : s.panic.isSome = true → s'.panic.isSome = true)
    (hstream : ∀ y, s'.stream? id = some y → ∃ x, s.stream? id = some x ∧ x.Keeps y) :
    Traced plan id es s' where
  works := hplan.trans h.works
  early hid := h.early (Nat.not_lt.mp fun hlt => Nat.not_lt.mpr hid (hnext.mpr hlt))
  begun hid := by
    obtain ⟨parts, request, vs, c, done, hparts, hcourse, hstands⟩ := h.begun (hnext.mp hid)
    refine ⟨parts, request, vs, c, done, hparts.imp_right fun hp => ⟨hp.1, hbroken hp.2⟩, hcourse,
      fun y hy => ?_⟩
    obtain ⟨x, hx, hkeeps⟩ := hstream y hy
    exact (hstands x hx).keeps hkeeps

theorem Traced.elsewhere (h : Traced plan id es s) {other : StreamId} (hne : id ≠ other)
    (hn : OnlyOneChanged other s s') : Traced plan id es s' :=
  h.same hn.plan (by rw [hn.nextId]) hn.broken fun y hy =>
    ⟨y, (hn.others id hne).symm.trans hy, .refl y⟩

theorem Traced.rests (h : Traced plan id es s) (hr : Rests s s') : Traced plan id es s' :=
  h.same hr.plan (by rw [hr.nextId]) hr.broken (hr.streams id)

/-- Something happens to a stream that is there. -/
theorem Traced.event {x : Stream} {e : StreamEvent} (h : Traced plan id es s) (hn : s.Numbered)
    (hx : s.stream? id = some x) (hplan : s'.plan = s.plan) (hnext : s'.nextId = s.nextId)
    (hbroken : s.panic.isSome = true → s'.panic.isSome = true)
    (hgo : ∀ parts request vs c done, Course parts (viewOf plan id request) request es vs c done →
      Stands parts plan request (answers es) vs c done x → ∃ vs' c' done',
        Course parts (viewOf plan id request) request (es ++ [e]) vs' c' done' ∧
        ∀ y, s'.stream? id = some y →
          Stands parts plan request (answers es + answers [e]) vs' c' done' y) :
    Traced plan id (es ++ [e]) s' := by
  have hid : id < s.nextId := by
    refine Nat.lt_of_not_le fun hle => ?_
    rw [hn id hle] at hx
    cases hx
  refine ⟨hplan.trans h.works, fun hle => absurd hid (Nat.not_lt.mpr (hnext ▸ hle)), fun _ => ?_⟩
  obtain ⟨parts, request, vs, c, done, hparts, hcourse, hstands⟩ := h.begun hid
  obtain ⟨vs', c', done', hcourse', hstands'⟩ := hgo parts request vs c done hcourse (hstands x hx)
  exact ⟨parts, request, vs', c', done', hparts.imp_right fun hp => ⟨hp.1, hbroken hp.2⟩, hcourse',
    answers_append es [e] ▸ hstands'⟩

theorem Traced.began {request : Request} {x : Stream} (h : Traced plan id es s) (hn : s.Numbered)
    (ho : Opens s request x s') : Traced plan id (es ++ own id [(s.nextId, .began request)]) s' := by
  by_cases hid : s.nextId = id
  · subst hid
    have hfound : s'.stream? s.nextId = some x := by
      rw [ho.stream?, hn s.nextId (Nat.le_refl _), if_pos rfl]
      rfl
    rw [h.early (Nat.le_refl _), own_cons_self]
    refine ⟨ho.plan.trans h.works, fun hle => absurd (ho.nextId ▸ hle) (Nat.not_succ_le_self _),
      fun _ => ?_⟩
    refine ⟨x.slots.map (·.part), request, [], none, false, ?_, .began, fun y hy => ?_⟩
    · refine ho.slots.imp (fun hslots => ?_) fun hslots => ⟨by rw [hslots.1]; rfl, hslots.2⟩
      rw [hslots.1, List.map_map, h.works]
      exact List.map_id _
    · obtain rfl := Option.some.inj (hfound.symm.trans hy)
      refine ⟨rfl, ho.decoded, ho.request, ho.response, ho.answers, nofun, ?_, fun _ => rfl⟩
      refine ho.slots.symm.imp (fun hslots => by rw [hslots.1]; rfl) fun hslots => ?_
      rw [hslots.2, ho.request, h.works]
  · rw [own_cons_of_ne hid, List.append_nil]
    refine h.same ho.plan ?_ ho.broken fun y hy => ⟨y, ?_, .refl y⟩
    · rw [ho.nextId]
      exact ⟨fun hlt => Nat.lt_of_le_of_ne (Nat.le_of_lt_succ hlt) (Ne.symm hid), Nat.lt_succ_of_lt⟩
    · rwa [ho.stream?, if_neg hid, Option.or_none] at hy

theorem Traced.decoding {x : Stream} (h : Traced plan x.id es s) (hn : s.Numbered)
    (hx : s.stream? x.id = some x) (hlive : x.isLive = true) :
    Traced plan x.id (es ++ [.decoding ((s.modifyStream x.id (·.resolve s.plan.routes)).decodeVisits
        x.id (x.decoders.drop x.decoded))])
      ((s.modifyStream x.id (·.resolve s.plan.routes)).decodeThrough x.id
        (x.decoders.drop x.decoded)) := by
  have hnear : OnlyOneChanged x.id s ((s.modifyStream x.id (·.resolve s.plan.routes)).decodeThrough x.id
      (x.decoders.drop x.decoded)) :=
    OnlyOneChanged.trans (OnlyOneChanged.modifyStream fun y => resolve_id y _)
      (decodeThrough_onlyOneChanged _ _ x.id)
  refine h.event hn hx hnear.plan hnear.nextId hnear.broken fun parts request vs c done hcourse hs => ?_
  obtain rfl := hs.live hlive
  -- What is ahead is what the request has not passed yet, and that is known from the visits so far.
  have hpath : x.decoders.drop x.decoded = (requestPath parts).drop vs.length := by
    rw [Stream.decoders_eq, hs.filters, hs.decoded]
  have hs' := hs.resolve s.plan.routes
  have hlive' : (x.resolve s.plan.routes).isLive = true := (resolve_isLive x _).trans hlive
  have hid : (x.resolve s.plan.routes).id = x.id := resolve_id x _
  have hx' : (s.modifyStream x.id (·.resolve s.plan.routes)).stream? x.id =
      some (x.resolve s.plan.routes) := stream?_modifyStream_same (fun y => resolve_id y _) hx
  generalize s.modifyStream x.id (·.resolve s.plan.routes) = s₁ at hx'
  generalize x.resolve s.plan.routes = y at hs' hlive' hid hx'
  rw [hpath]
  rw [← hid] at hx' hcourse ⊢
  have hin : ∀ slot ∈ (requestPath parts).drop vs.length, slot < y.slots.length := by
    intro slot hslot
    rw [← hs'.filters, ← Stream.decoders_eq] at hslot
    exact Stream.lt_of_mem_decoders (List.mem_of_mem_drop hslot)
  obtain ⟨hcall, hchain, hof, ms, hms, hfound⟩ := decodeThrough_visits hx' hin
  generalize s₁.decodeVisits y.id ((requestPath parts).drop vs.length) = visits at *
  refine ⟨_, _, _, hcourse.decoding hcall (hs'.asked ▸ hchain) fun v hv => ?_, fun z hz => ?_⟩
  -- With no filters there is nothing to show. Otherwise each of them is shown the stream with its
  -- route.
  · rcases hs'.view hlive' with hnil | hview
    · rw [hnil] at hcall
      rw [hcall.of_nil] at hv
      cases hv
    · rw [← hs'.filters, ← hview]
      exact hof v hv
  · obtain rfl := Option.some.inj (hfound.symm.trans hz)
    refine ⟨hms.trans hs'.filters, ?_, ?_, hs'.answer, hs'.answers, hs'.encoded, hs'.route,
      fun _ => rfl⟩
    · rw [List.length_append, ← hs'.decoded]
    · rw [Visit.behind_append, ← hs'.asked]

theorem Traced.answered {x : Stream} (h : Traced plan x.id es s) (hn : s.Numbered)
    (hx : s.stream? x.id = some x) (hlive : x.isLive = true) (r : Response) :
    Traced plan x.id (es ++ [.answered r]) (s.modifyStream x.id (·.setResponse r)) := by
  refine h.event hn hx rfl rfl (fun h => h) fun parts request vs c done hcourse hs => ?_
  obtain rfl := hs.live hlive
  refine ⟨_, _, _, hcourse.answered r, fun y hy => ?_⟩
  rw [stream?_modifyStream_same (f := (·.setResponse r)) (fun _ => rfl) hx] at hy
  obtain rfl := Option.some.inj hy
  refine ⟨hs.filters, hs.decoded, hs.asked, rfl, congrArg (· + 1) hs.answers, fun r' past hc => ?_,
    hs.route, fun _ => rfl⟩
  obtain ⟨-, rfl⟩ := Prod.mk.inj (Option.some.inj hc)
  rfl

theorem Traced.encoding {x : Stream} {r : Response} (h : Traced plan x.id es s) (hn : s.Numbered)
    (hx : s.stream? x.id = some x) (hlive : x.isLive = true) (hr : x.response = some r) :
    Traced plan x.id (es ++ [.encoding (s.encodeVisits x.id (x.encoders.drop x.encoded))])
      (s.encodeOnly x.id (x.encoders.drop x.encoded)).2 := by
  have hnear := encodeOnly_onlyOneChanged (x.encoders.drop x.encoded) s x.id
  refine h.event hn hx hnear.plan hnear.nextId hnear.broken fun parts request vs c done hcourse hs => ?_
  obtain rfl := hs.live hlive
  have hslots : ∀ i ∈ x.encoders.drop x.encoded, i < x.slots.length := fun i hi =>
    Stream.lt_of_mem_encoders (List.mem_of_mem_drop hi)
  obtain ⟨hcall, hchain, hof, -, ms, hms, hfound⟩ := encodeOnly_visits hx hr hslots
  generalize s.encodeVisits x.id (x.encoders.drop x.encoded) = visits at *
  -- There is a response, so one was set, and the cursor counts the filters that it has met.
  have hanswer := hs.answer
  rw [hr] at hanswer
  obtain ⟨⟨r₀, past⟩, rfl, hbehind⟩ := Option.map_eq_some_iff.mp hanswer.symm
  dsimp only at hbehind
  rw [Stream.encoders_eq, hs.filters, hs.encoded r₀ past rfl] at hcall
  refine ⟨_, _, _, hcourse.encoding hcall (hbehind ▸ hchain) fun v hv => ?_, fun z hz => ?_⟩
  · rcases hs.view hlive with hnil | hview
    · rw [hnil] at hcall
      rw [hcall.of_nil] at hv
      cases hv
    · rw [← hs.filters, ← hview, ← hs.answers]
      exact hof v hv
  · obtain rfl := Option.some.inj (hfound.symm.trans hz)
    refine ⟨hms.trans hs.filters, hs.decoded, hs.asked, ?_, hs.answers, fun r' past' hc => ?_,
      hs.route, fun _ => rfl⟩
    · show some (Visit.behind r visits) = some (Visit.behind r₀ (past ++ visits))
      rw [Visit.behind_append, hbehind]
    · obtain ⟨-, rfl⟩ := Prod.mk.inj (Option.some.inj hc)
      rw [List.length_append, ← hs.encoded r₀ past rfl]

theorem Traced.replied {x : Stream} {r : Response} (h : Traced plan x.id es s) (hn : s.Numbered)
    (hr : Replies s x r s') : Traced plan x.id (es ++ [.wrote r.encode]) s' := by
  refine h.event hn hr.found hr.plan hr.nextId hr.broken fun parts request vs c done hcourse hs => ?_
  obtain rfl := hs.live hr.live
  have hanswer := hs.answer
  rw [hr.answer] at hanswer
  obtain ⟨⟨r₀, past⟩, rfl, rfl⟩ := Option.map_eq_some_iff.mp hanswer.symm
  -- The cursor is at the end of the path, so the response has met all of it.
  have hall : past.map (·.slot) = responsePath parts := by
    obtain ⟨horder, -, -⟩ := hcourse.responses rfl
    refine horder.eq_of_length_le ?_
    have hend := List.drop_eq_nil_iff.mp hr.through
    rw [Stream.encoders_eq, hs.filters, hs.encoded r₀ past rfl] at hend
    rwa [List.length_map]
  refine ⟨_, _, _, hcourse.wrote hall, fun y hy => ?_⟩
  obtain ⟨z, hz, hsteady⟩ := hr.toSameMessages.stream? hy
  obtain rfl := Option.some.inj (hr.found.symm.trans hz)
  refine ⟨(by rw [hsteady.slots, hs.filters]), hsteady.decoded.trans hs.decoded,
    hsteady.request.trans hs.asked, hsteady.response.trans hs.answer,
    hsteady.answers.trans hs.answers, fun r' past' hc => hsteady.encoded.trans (hs.encoded r' past' hc),
    hs.route.imp_right hsteady.route.trans, fun hlive => ?_⟩
  rw [hr.ended y hy] at hlive
  cases hlive

/-- Every message step keeps streams on their courses. -/
theorem Traced.messageStep (h : Traced plan id es s) (hn : s.Numbered) (hs : MessageStep as s s') :
    Traced plan id (es ++ own id as) s' := by
  cases as with
  | nil => exact (List.append_nil es).symm ▸ h.rests hs.rests
  | cons a as =>
    -- Whatever happens to the message of another stream is none of the events of this one.
    cases hs with
    | began ho => exact h.began hn ho
    | @decoding _ x hx hlive =>
      by_cases hid : x.id = id
      · subst hid
        rw [own_cons_self]
        exact h.decoding hn hx hlive
      · rw [own_cons_of_ne hid, List.append_nil]
        exact h.elsewhere (Ne.symm hid) (OnlyOneChanged.trans
          (OnlyOneChanged.modifyStream fun y => resolve_id y _)
          (decodeThrough_onlyOneChanged _ _ x.id))
    | @answered _ x hx hlive r =>
      by_cases hid : x.id = id
      · subst hid
        rw [own_cons_self]
        exact h.answered hn hx hlive r
      · rw [own_cons_of_ne hid, List.append_nil]
        exact h.elsewhere (Ne.symm hid) (OnlyOneChanged.modifyStream fun _ => rfl)
    | @encoding _ x r hx hlive hr =>
      by_cases hid : x.id = id
      · subst hid
        rw [own_cons_self]
        exact h.encoding hn hx hlive hr
      · rw [own_cons_of_ne hid, List.append_nil]
        exact h.elsewhere (Ne.symm hid) (encodeOnly_onlyOneChanged _ s x.id)
    | @replied _ _ x r hr =>
      by_cases hid : x.id = id
      · subst hid
        rw [own_cons_self]
        exact h.replied hn hr
      · rw [own_cons_of_ne hid, List.append_nil]
        refine h.same hr.plan (by rw [hr.nextId]) hr.broken fun y hy => ?_
        obtain ⟨z, hz, hsteady⟩ := hr.toSameMessages.stream? hy
        exact ⟨z, hz, hsteady.keeps⟩

theorem own_append (id : StreamId) (as bs : List Act) : own id (as ++ bs) = own id as ++ own id bs :=
  List.filterMap_append

theorem Traced.messageSteps {s₁ s₂ : Session σ} (h : Traced plan id es s₁) (hn : s₁.Numbered)
    (hs : MessageSteps as s₁ s₂) : Traced plan id (es ++ own id as) s₂ := by
  induction hs with
  | refl s => exact (List.append_nil es).symm ▸ h
  | snoc hfirst hlast ih =>
    rw [own_append, ← List.append_assoc]
    exact (ih h hn).messageStep (hfirst.numbered hn) hlast

/-! ## What the client gets

All octets that were written are those of responses that were written, in their order. -/

/-- What is written to the client by something that happens. -/
def octetsOf (a : Act) : Bytes :=
  match a.2 with
  | .wrote octets => octets
  | _ => []

/-- What waits for the client is what was written since it was last dropped, and all that was ever
written is counted, `before` octets of it having been there at the start. What waits is a suffix of
what was written, since it is only dropped altogether. -/
structure Accounted (before : Nat) (as : List Act) (s : Session σ) : Prop where
  output : ∃ kept, kept <:+ as ∧ s.connection.output = kept.flatMap octetsOf
  count : s.connection.written = before + (as.flatMap octetsOf).length

theorem Accounted.messageStep {before : Nat} {bs : List Act} (h : Accounted before as s)
    (hs : MessageStep bs s s') : Accounted before (as ++ bs) s' := by
  obtain ⟨kept, hkept, houtput⟩ := h.output
  -- What is written is added to the octets that wait, or to those that were taken since.
  have hadds : ∀ {a : Act}, s'.connection.output = s.connection.output ++ octetsOf a →
      s'.connection.written = s.connection.written + (octetsOf a).length →
      Accounted before (as ++ [a]) s' := by
    intro a hout hcount
    refine ⟨⟨kept ++ [a], ?_, ?_⟩, ?_⟩
    · obtain ⟨gone, hgone⟩ := hkept
      exact ⟨gone, by rw [← hgone, List.append_assoc]⟩
    · rw [hout, houtput, List.flatMap_append, List.flatMap_singleton]
    · rw [hcount, h.count, List.flatMap_append, List.flatMap_singleton, List.length_append,
        Nat.add_assoc]
  have hsame : ∀ {a : Act}, octetsOf a = [] → s'.connection = s.connection →
      Accounted before (as ++ [a]) s' := by
    intro a ha hc
    exact hadds (by rw [ha, hc, List.append_nil]) (by rw [ha, hc]; rfl)
  cases bs with
  | nil =>
    rw [List.append_nil]
    refine ⟨?_, hs.rests.written.trans h.count⟩
    -- Octets that wait may have been taken meanwhile, and then counting begins anew.
    rcases hs.rests.output with hout | hout
    · exact ⟨kept, hkept, hout.trans houtput⟩
    · exact ⟨[], List.nil_suffix, hout⟩
  | cons b bs =>
    cases hs with
    | began ho => exact hsame rfl ho.connection
    | decoding hx hlive =>
      exact hsame rfl (decodeThrough_onlyOneChanged _ _ _).connection
    | answered hx hlive r => exact hsame rfl rfl
    | encoding hx hlive hr => exact hsame rfl (encodeOnly_onlyOneChanged _ s _).connection
    | replied hr => exact hadds hr.output hr.written

theorem Accounted.messageSteps {before : Nat} {bs : List Act} {s₁ s₂ : Session σ}
    (h : Accounted before as s₁) (hs : MessageSteps bs s₁ s₂) : Accounted before (as ++ bs) s₂ := by
  induction hs with
  | refl s => exact (List.append_nil as).symm ▸ h
  | snoc _ hlast ih =>
    rw [← List.append_assoc]
    exact (ih h).messageStep hlast

/-! ## Runs

A session that was opened has no streams, so that its courses are empty; the rest is carried
along. -/

/-- What holds of the past and the present of a session, and is kept by message steps and by tasks
that are posted, holds after everything that happens. Posting is apart from the steps since it comes
from outside and may be anything: what the task does is seen when it is taken up. -/
theorem after_messageSteps {P : List Act → Session σ → Prop}
    (hsteps : ∀ as bs s s', s.Numbered → MessageSteps bs s s' → P as s → P (as ++ bs) s')
    (hpost : ∀ as (s : Session σ) t, P as s → P as (s.post t)) (ops : List SessionOp) :
    ∀ (as : List Act) (s : Session σ), s.Numbered → P as s → P (as ++ s.acts ops) (s.after ops) := by
  induction ops with
  | nil => exact fun as s _ hp => (List.append_nil as).symm ▸ hp
  | cons op ops ih =>
    intro as s hn hp
    have hstep : (s.step op).Numbered ∧ P (as ++ s.actsIn op) (s.step op) := by
      by_cases hask : ∃ t, s.step op = s.post t ∧ s.actsIn op = []
      · obtain ⟨t, hpost', hnone⟩ := hask
        rw [hpost', hnone, List.append_nil]
        exact ⟨hn, hpost as s t hp⟩
      · have hs : MessageSteps (s.actsIn op) s (s.step op) := by
          refine step_messageSteps hn (fun id o he => hask ⟨.stream id o, ?_⟩)
            fun ref d he => hask ⟨.router ref (.deliver d), ?_⟩
          · rw [he]
            exact ⟨rfl, rfl⟩
          · rw [he]
            exact ⟨rfl, rfl⟩
        exact ⟨hs.numbered hn, hsteps as _ s _ hn hs hp⟩
    have hall := ih _ _ hstep.1 hstep.2
    rwa [List.append_assoc] at hall

theorem Numbered.after {s : Session σ} (hn : s.Numbered) (ops : List SessionOp) :
    (s.after ops).Numbered :=
  after_messageSteps (P := fun _ s => s.Numbered) (fun _ _ _ _ hn hs _ => hs.numbered hn)
    (fun _ _ _ hn => hn) ops [] s hn hn

theorem opened_numbered (number : Nat) (plan : Plan) (flags : Flags) (source : PoolSource σ)
    (side : HostSide σ) (stats : ListenerStats) (clock : Clock) :
    (opened number plan flags source side stats clock).Numbered := fun _ _ => rfl

/-- Where a stream stands after anything that has happened to its connection. -/
theorem opened_traced (number : Nat) (plan : Plan) (flags : Flags) (source : PoolSource σ)
    (side : HostSide σ) (stats : ListenerStats) (clock : Clock) (ops : List SessionOp)
    (id : StreamId) :
    let s₀ := opened number plan flags source side stats clock
    Traced plan id (s₀.course id ops) (s₀.after ops) :=
  after_messageSteps (P := fun as s => Traced plan id (own id as) s)
    (fun as bs s s' hn hs h => by rw [own_append]; exact h.messageSteps hn hs)
    (fun as s t h => ⟨h.works, h.early, h.begun⟩) ops [] _
    (opened_numbered number plan flags source side stats clock)
    ⟨rfl, fun _ => rfl, fun h => absurd h (Nat.not_lt_zero id)⟩

/-- How the filters of a chain treat messages. A connection of a client was opened, with filters
that answer and change messages as they like, and things have happened to it in any order. Take any
stream, and all that has happened to its messages.

The chain of the stream is that of the settings, unless the clock showed a time before 1970 to a
filter that notes it, which nothing survives. What happens along it is said by `Chained`. What waits
for the client is what streams have written since it was last dropped, and nothing else was ever
written. -/
theorem opened_chain (number : Nat) (plan : Plan) (flags : Flags) (source : PoolSource σ)
    (side : HostSide σ) (stats : ListenerStats) (clock : Clock) (ops : List SessionOp)
    (id : StreamId) :
    let s₀ := opened number plan flags source side stats clock
    let s := s₀.after ops
    let events := s₀.course id ops
    (events = [] ∨ ∃ parts request rest,
      (parts = plan.parts ∨ parts = [] ∧ s.panic.isSome = true) ∧ events = .began request :: rest ∧
      Chained parts (viewOf plan id request) events) ∧
    (∃ kept, kept <:+ s₀.acts ops ∧ s.connection.output = kept.flatMap octetsOf) ∧
    s.connection.written = ((s₀.acts ops).flatMap octetsOf).length := by
  intro s₀ s events
  have hn := opened_numbered number plan flags source side stats clock
  have htraced : Traced plan id events s :=
    after_messageSteps (P := fun as s => Traced plan id (own id as) s)
      (fun as bs s s' hn hs h => by rw [own_append]; exact h.messageSteps hn hs)
      (fun as s t h => ⟨h.works, h.early, h.begun⟩) ops [] s₀ hn
      ⟨rfl, fun _ => rfl, fun h => absurd h (Nat.not_lt_zero id)⟩
  have haccounted : Accounted 0 (s₀.acts ops) s :=
    after_messageSteps (P := Accounted 0) (fun as bs s s' _ hs h => h.messageSteps hs)
      (fun as s t h => ⟨h.output, h.count⟩) ops [] s₀ hn ⟨⟨[], List.suffix_refl [], rfl⟩, rfl⟩
  refine ⟨?_, haccounted.output, haccounted.count.trans (Nat.zero_add _)⟩
  by_cases hid : s.nextId ≤ id
  · exact Or.inl (htraced.early hid)
  -- The number was given out, so the stream began at some time, be it still there or not.
  · obtain ⟨parts, request, vs, c, done, hparts, hcourse, -⟩ := htraced.begun (Nat.lt_of_not_le hid)
    obtain ⟨rest, hrest⟩ : ∃ rest, events = .began request :: rest := by
      have hhead := hcourse.head?_eq
      cases hevents : events with
      | nil => rw [hevents] at hhead; cases hhead
      | cons e rest =>
        rw [hevents] at hhead
        cases hhead
        exact ⟨rest, rfl⟩
    exact Or.inr ⟨parts, request, rest, hparts, hrest, hcourse.chained⟩

end Session

end RpcProxy

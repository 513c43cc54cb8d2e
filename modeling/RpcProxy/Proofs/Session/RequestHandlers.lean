import RpcProxy.Proofs.Server.RoutesKnown
import RpcProxy.Proofs.Session.FilterOrder
import RpcProxy.Proofs.Session.RouterShares

/-!
# Who sees to a request

A request passes the filters of its chain until one of them sees to it: it answers, or it starts an
exchange with a host. Among the filters that settings can name there are two that do. A router sees
to every request whose route names a cluster, and a filter for direct responses sees to those whose
route has one (`Part.Handles`). All others let requests pass (`Part.Passes`).

A request that nobody sees to waits until its client goes away. Nothing in its stream says so: it is
in flight like any other. What tells the two apart is what beginning the stream has left behind, a
task for a reply or a router with an exchange (`Attended`), and so this is what the theorem is
about. On the way there, the request is followed from filter to filter (`BoundForHost`), with all
that is known of those ahead; a filter either ends its way or takes one step of it.

Whether there can be a request that nobody sees to is decided when a listener gets its router: that
looks for a route with a cluster and without a direct response. So `opened_attended` finds one gap.
A route may name a cluster and have a direct response, and if no other route asks for a router, the
listener has none; its requests are then seen to only if the settings list a filter for direct
responses.
-/

set_option autoImplicit false

namespace RpcProxy

/-- The name of the filter that gives direct responses. -/
def directName : String := "direct_response"

/-! ## Filters

Which filters of a configuration answer requests, which send them to hosts, and which let them pass;
and what of it can be read off the listener. -/

/-- A filter that lets every request pass and asks for nothing. -/
def Part.Passes (p : Part) : Prop :=
  match p.kind with
  | .plain b => ∀ view r, (b.onRequest view r).status = .continue ∧ (b.onRequest view r).asks = []
  | .accessLog _ => True
  | .router _ => False

/-- A filter that sees to requests of a route. -/
def Part.Handles (route : Route) (p : Part) : Prop :=
  match p.kind with
  | .plain b => b = directResponse ∧ route.direct.isSome = true
  | .accessLog _ => False
  | .router _ => route.cluster.isSome = true

/-- A filter that settings can name, together with what it does about requests of a route. The last
case is a filter for direct responses and a route without one: it lets the request pass, but not
whatever the request is. -/
def Part.HandlesOrPasses (route : Route) (p : Part) : Prop :=
  p.Handles route ∨ p.Passes ∨ p.kind = .plain directResponse ∧ route.direct = none

theorem builtIn_parts {faults : FileFaults} {f : Config.Filter} {parts : List Part}
    (h : builtIn faults f = .ok parts) :
    f.name = directName ∧ parts = [⟨.decoder, .plain directResponse⟩] ∨
      f.name ≠ directName ∧ ∀ part ∈ parts, part.Passes := by
  unfold builtIn at h
  split at h
  · next hname =>
    dsimp only at h
    split at h
    · cases h
    · cases h
      refine Or.inr ⟨by rw [hname]; decide, fun part hpart => ?_⟩
      rw [List.mem_singleton.1 hpart]
      exact trivial
  · next hname =>
    cases h
    exact Or.inl ⟨hname, rfl⟩
  · next hname =>
    cases h
    refine Or.inr ⟨by rw [hname]; decide, fun part hpart => ?_⟩
    rcases List.mem_append.1 hpart with hpart | hpart
    · split at hpart
      · cases hpart
      · rw [List.mem_singleton.1 hpart]
        exact fun _ _ => ⟨rfl, rfl⟩
    · split at hpart
      · cases hpart
      · rw [List.mem_singleton.1 hpart]
        exact fun _ _ => ⟨rfl, rfl⟩
  · cases h

/-- What the filters are that settings can name. -/
theorem FilterRegistry.parts_of_build {generation : Nat} {faults : FileFaults} {f : Config.Filter}
    {parts : List Part} (h : (FilterRegistry.routing generation).build faults f = .ok parts) :
    f.name = routerName ∧ parts = [⟨.decoder, .router generation⟩] ∨
      f.name = directName ∧ parts = [⟨.decoder, .plain directResponse⟩] ∨
      f.name ≠ routerName ∧ f.name ≠ directName ∧ ∀ part ∈ parts, part.Passes := by
  by_cases hrouter : f.name = routerName
  · simp only [FilterRegistry.build, find?_routing, hrouter, if_true, Except.ok.injEq] at h
    exact Or.inl ⟨hrouter, h.symm⟩
  · simp only [FilterRegistry.build, find?_routing, hrouter, if_false] at h
    rcases builtIn_parts h with hdirect | ⟨hname, hparts⟩
    · exact Or.inr (Or.inl hdirect)
    · exact Or.inr (Or.inr ⟨hrouter, hname, hparts⟩)

theorem Part.not_handles_of_passes {p : Part} (h : p.Passes) (route : Route) : ¬p.Handles route := by
  obtain ⟨side, kind⟩ := p
  intro hsees
  cases kind with
  | plain b =>
    -- A filter for direct responses stops requests of a route that has one.
    obtain ⟨rfl, hdirect⟩ := hsees
    obtain ⟨status, hstatus⟩ := Option.isSome_iff_exists.1 hdirect
    have hpass := (h { id := 0, route := some route, isReset := false } default).1
    simp [directResponse, hstatus] at hpass
  | accessLog sink => exact hsees
  | router generation => exact h

theorem exists_of_mapM_ok {α β ε : Type} {f : α → Except ε β} {xs : List α} {ys : List β}
    (h : xs.mapM f = .ok ys) {x : α} (hx : x ∈ xs) : ∃ y ∈ ys, f x = .ok y := by
  induction xs generalizing ys with
  | nil => cases hx
  | cons a xs ih =>
    rw [List.mapM_cons] at h
    cases ha : f a with
    | error e =>
      rw [ha] at h
      cases h
    | ok b =>
      cases hxs : xs.mapM f with
      | error e =>
        rw [ha, hxs] at h
        cases h
      | ok rest =>
        rw [ha, hxs] at h
        cases h
        rcases List.mem_cons.1 hx with rfl | hx
        · exact ⟨b, List.mem_cons_self, ha⟩
        · obtain ⟨y, hy, hfy⟩ := ih hxs hx
          exact ⟨y, List.mem_cons_of_mem b hy, hfy⟩

/-- Whether settings list a filter. -/
def Config.Listener.lists (l : Config.Listener) (name : String) : Bool :=
  l.filters.any (·.name == name)

/-- Whether a chain that is built from settings has a filter that sees to requests of a route which
names a cluster. It is read off the settings alone, and computable. -/
def Config.Listener.attends (l : Config.Listener) (route : RpcProxy.Route) : Bool :=
  Server.sendsToHosts l || route.direct.isSome && l.lists directName

theorem Config.Listener.withRouter_lists_direct (l : Config.Listener) :
    l.withRouter.lists directName = l.lists directName := by
  unfold Config.Listener.withRouter
  split
  · simp [Config.Listener.lists, show (routerName == directName) = false from by decide]
  · rfl

theorem Part.not_isRouter_of_passes {p : Part} (h : p.Passes) : p.isRouter = false := by
  obtain ⟨side, kind⟩ := p
  cases kind with
  | plain b => rfl
  | accessLog sink => rfl
  | router generation => exact absurd h id

section OfListener

variable {generation : Nat} {faults : FileFaults} {l : Config.Listener} {p : Plan} {route : Route}

/-- Every filter of a chain comes from one that the settings list, or from the router that is
added. -/
theorem Plan.listed_of_ofListener (h : Plan.ofListener (.routing generation) faults l = .ok p)
    {part : Part} (hpart : part ∈ p.parts) : ∃ f ∈ l.withRouter.filters, ∃ ps,
      (FilterRegistry.routing generation).build faults f = .ok ps ∧ part ∈ ps := by
  obtain ⟨codec, routes, parts, -, -, hparts, rfl⟩ := Plan.ofConfig_eq_ok_iff.1 h
  obtain ⟨ps, hps, hpart⟩ := List.mem_flatten.1 hpart
  obtain ⟨i, hi⟩ := List.mem_iff_getElem?.1 hps
  obtain ⟨f, hf, hbuilt⟩ := Watched.getElem?_of_mapM_ok hparts hi
  exact ⟨f, List.mem_of_getElem? hf, ps, hbuilt, hpart⟩

/-- Every filter that is listed is built into the chain. -/
theorem Plan.built_of_ofListener (h : Plan.ofListener (.routing generation) faults l = .ok p)
    {f : Config.Filter} (hf : f ∈ l.withRouter.filters) : ∃ ps,
      (FilterRegistry.routing generation).build faults f = .ok ps ∧ ∀ part ∈ ps, part ∈ p.parts := by
  obtain ⟨codec, routes, parts, -, -, hparts, rfl⟩ := Plan.ofConfig_eq_ok_iff.1 h
  obtain ⟨ps, hps, hbuilt⟩ := exists_of_mapM_ok hparts hf
  exact ⟨ps, hbuilt, fun part hpart => List.mem_flatten.2 ⟨ps, hps, hpart⟩⟩

/-- Each filter of a chain sees to the requests of a route or lets them pass. -/
theorem Plan.handlesOrPasses_of_ofListener (h : Plan.ofListener (.routing generation) faults l = .ok p)
    (hcluster : route.cluster.isSome = true) : ∀ part ∈ p.parts, part.HandlesOrPasses route := by
  intro part hpart
  obtain ⟨f, -, ps, hbuilt, hpart⟩ := Plan.listed_of_ofListener h hpart
  rcases FilterRegistry.parts_of_build hbuilt with ⟨-, rfl⟩ | ⟨-, rfl⟩ | ⟨-, -, hpasses⟩
  · rw [List.mem_singleton.1 hpart]
    exact Or.inl hcluster
  · rw [List.mem_singleton.1 hpart]
    cases hdirect : route.direct with
    | none => exact Or.inr (Or.inr ⟨rfl, hdirect⟩)
    | some status => exact Or.inl ⟨rfl, by rw [hdirect]; rfl⟩
  · exact Or.inr (Or.inl (hpasses part hpart))

/-- A filter that sees to the requests of a route is there exactly if the settings provide for
it. -/
theorem Plan.attends_iff_of_ofListener (h : Plan.ofListener (.routing generation) faults l = .ok p)
    (hcluster : route.cluster.isSome = true) :
    (∃ part ∈ p.parts, part.side.decodes = true ∧ part.Handles route) ↔ l.attends route = true := by
  rw [Config.Listener.attends, Bool.or_eq_true, ← Config.Listener.withRouter_lists_direct,
    Bool.and_eq_true]
  constructor
  · rintro ⟨part, hpart, -, hsees⟩
    obtain ⟨f, hf, ps, hbuilt, hpart⟩ := Plan.listed_of_ofListener h hpart
    -- Every filter of the chain comes from a name in the settings.
    rcases FilterRegistry.parts_of_build hbuilt with ⟨hname, -⟩ | ⟨hname, rfl⟩ | ⟨-, -, hpasses⟩
    · exact Or.inl (List.any_eq_true.2 ⟨f, hf, by simpa using hname⟩)
    · rw [List.mem_singleton.1 hpart] at hsees
      exact Or.inr ⟨hsees.2, List.any_eq_true.2 ⟨f, hf, by simpa using hname⟩⟩
    · exact absurd hsees (Part.not_handles_of_passes (hpasses part hpart) route)
  · rintro (hsends | ⟨hdirect, hlists⟩)
    · obtain ⟨f, hf, hname⟩ := List.any_eq_true.1 hsends
      obtain ⟨ps, hbuilt, hall⟩ := Plan.built_of_ofListener h hf
      rcases FilterRegistry.parts_of_build hbuilt with ⟨-, rfl⟩ | ⟨hname', -⟩ | ⟨hname', -, -⟩
      · exact ⟨_, hall _ List.mem_cons_self, rfl, hcluster⟩
      · rw [hname'] at hname
        exact absurd hname (by decide)
      · exact absurd (by simpa using hname) hname'
    · obtain ⟨f, hf, hname⟩ := List.any_eq_true.1 hlists
      obtain ⟨ps, hbuilt, hall⟩ := Plan.built_of_ofListener h hf
      rcases FilterRegistry.parts_of_build hbuilt with ⟨hname', -⟩ | ⟨-, rfl⟩ | ⟨-, hname', -⟩
      · rw [hname'] at hname
        exact absurd hname (by decide)
      · exact ⟨_, hall _ List.mem_cons_self, rfl, rfl, hdirect⟩
      · exact absurd (by simpa using hname) hname'

theorem Plan.not_isRouter_of_ofListener (h : Plan.ofListener (.routing generation) faults l = .ok p)
    (hsends : Server.sendsToHosts l = false) : ∀ part ∈ p.parts, part.isRouter = false := by
  intro part hpart
  obtain ⟨f, hf, ps, hbuilt, hpart⟩ := Plan.listed_of_ofListener h hpart
  rcases FilterRegistry.parts_of_build hbuilt with ⟨hname, -⟩ | ⟨-, rfl⟩ | ⟨-, -, hpasses⟩
  · have hfound : Server.sendsToHosts l = true := List.any_eq_true.2 ⟨f, hf, by simpa using hname⟩
    rw [hsends] at hfound
    cases hfound
  · rw [List.mem_singleton.1 hpart]
    rfl
  · exact Part.not_isRouter_of_passes (hpasses part hpart)

end OfListener

/-- A route that names a cluster and has no direct response gives its listener a router. -/
theorem Plan.sendsToHosts_of_find? {generation : Nat} {faults : FileFaults} {l : Config.Listener}
    {p : Plan} (h : Plan.ofListener (.routing generation) faults l = .ok p) {request : Request}
    {route : Route} (hfound : p.routes.find? request = some route)
    (hcluster : route.cluster.isSome = true) (hdirect : route.direct = none) :
    Server.sendsToHosts l = true := by
  obtain ⟨codec, routes, parts, -, hroutes, -, rfl⟩ := Plan.ofConfig_eq_ok_iff.1 h
  obtain ⟨entry, hentry, rfl⟩ := Option.map_eq_some_iff.1 hfound
  obtain ⟨r, hr, hname, hanswer⟩ :=
    RouteTable.mem_of_ofConfig hroutes entry (List.mem_of_find?_eq_some hentry)
  rw [Config.Listener.withRouter_routes] at hr
  have hneeds : l.routesToCluster = true := by
    refine List.any_eq_true.2 ⟨r, hr, ?_⟩
    rw [hname] at hcluster
    rw [hdirect] at hanswer
    simp [hcluster, ← Option.not_isSome, ← hanswer]
  unfold Server.sendsToHosts Config.Listener.withRouter
  cases hlists : l.filters.any (·.name == routerName) with
  | true => simp [hlists]
  | false => simp [hneeds, hlists]

/-! ## Sessions

A request that begins is answered, or goes to a router, or passes all filters. In the last case
nobody is left who could answer it. -/

/-- Whether a task asks for a reply to a stream. -/
def Task.repliesTo (id : StreamId) : Task → Bool
  | .stream other (.localReply _ _) => other = id
  | .router ref (.ask (.localReply _ _)) => ref.stream = id
  | _ => false

/-- What a request meets are the filters of its chain that are for requests. -/
theorem Stream.exists_decoder_iff (x : Stream) (P : Part → Prop) :
    (∃ slot ∈ x.decoders, ∃ part, (x.slots[slot]?).map (·.part) = some part ∧ P part) ↔
      ∃ part ∈ x.slots.map (·.part), part.side.decodes = true ∧ P part := by
  constructor
  · rintro ⟨slot, hslot, part, hthere, hholds⟩
    refine ⟨part, List.mem_of_getElem? ((List.getElem?_map ..).trans hthere), ?_, hholds⟩
    have hside := (List.mem_filter.1 hslot).2
    obtain ⟨y, hy, rfl⟩ := Option.map_eq_some_iff.1 hthere
    simpa [hy] using hside
  · rintro ⟨part, hin, hside, hholds⟩
    obtain ⟨y, hmem, rfl⟩ := List.mem_map.1 hin
    obtain ⟨slot, hy⟩ := List.mem_iff_getElem?.1 hmem
    refine ⟨slot, List.mem_filter.2 ⟨?_, by rw [hy]; exact hside⟩, y.part, by rw [hy]; rfl, hholds⟩
    exact List.mem_range.2 (List.getElem?_eq_some_iff.1 hy).1

namespace Session

variable {σ : Type} {s s' : Session σ} {x : Stream} {slot : Nat} {part : Part} {route : Route}

/-- Somebody has seen to a stream while `s` became `s'`: a reply was asked for, or a router of the
stream has an exchange with a host. An exchange counts even while it waits for its pool, since every
pool answers. -/
def Attended (id : StreamId) (s s' : Session σ) : Prop :=
  (∃ ts, s'.queue.posted = s.queue.posted ++ ts ∧ ts.any (·.repliesTo id) = true) ∨
    ∃ slot r e, s'.router? (s'.refTo id slot) = some r ∧ r.exchange = some e

/-- Nothing was put behind other work before. -/
theorem Attended.behind {s₀ : Session σ} {id : StreamId} (h : Attended id s s')
    (hposted : s.queue.posted = s₀.queue.posted) : Attended id s₀ s' := by
  refine h.imp_left ?_
  rintro ⟨ts, hts, hany⟩
  exact ⟨ts, hposted ▸ hts, hany⟩

/-- Whatever the answer of the pool is, a router that has asked for a connection has an exchange. -/
theorem startExchange_exchange {ref : RouterRef} {r : Router} (hr : s.router? ref = some r)
    (cluster : Config.Cluster) (host : HostRef) (request : Request) :
    ∃ r' e, (s.startExchange ref cluster host request).router? ref = some r' ∧
      r'.exchange = some e := by
  obtain ⟨status, t, -, -, hmind, -⟩ := engage_router? hr cluster host request
  have hengaged : ∃ r' e, (s.engage ref cluster host request).2.router? ref = some r' ∧
      r'.exchange = some e := ⟨_, t.exchange, hmind, Router.foldl_note_exchange _ _⟩
  rcases startExchange_cases s ref cluster host request with ⟨-, heq⟩ | ⟨-, heq⟩
  · rw [heq]
    exact hengaged
  · rw [heq]
    rcases writeCall_cases (s.engage ref cluster host request).2 ref with
      hsame | ⟨r₁, e₁, hr₁, he₁, hgo⟩
    · rw [hsame]
      exact hengaged
    · obtain ⟨-, -, r', envelope, hr', -, hex⟩ := writeCall_touches hr₁ he₁ hgo
      exact ⟨r', _, hr', hex⟩

/-- A router that a request with a cluster comes to asks for a reply or starts an exchange. -/
theorem route_attends {ref : RouterRef} {r : Router} (hr : s.router? ref = some r)
    (hnumber : ref.session = s.number) (generation : Nat) (hcluster : route.cluster.isSome = true)
    (request : Request) :
    (s.route ref generation (some route) request).1 = .stop ∧
      Attended ref.stream s (s.route ref generation (some route) request).2 := by
  obtain ⟨name, hname⟩ := Option.isSome_iff_exists.1 hcluster
  have hrefuse : ∀ (side : HostSide σ) (event : RouterEvent) (status : Status),
      Attended ref.stream s ({ s with side }.refuse ref event status) :=
    fun side event status => Or.inl ⟨_, rfl, by simp [Task.repliesTo]⟩
  have hstart : ∀ (side : HostSide σ) (cluster : Config.Cluster) (host : HostRef),
      Attended ref.stream s ({ s with side }.startExchange ref cluster host request) := by
    intro side cluster host
    have hr' : ({ s with side } : Session σ).router? ref = some r := hr
    obtain ⟨r', e, hr', he⟩ := startExchange_exchange hr' cluster host request
    have hworks := startExchange_works { s with side } ref cluster host request
    refine Or.inr ⟨ref.slot, r', e, ?_, he⟩
    rw [← hr']
    exact congrArg _ (congrArg (RouterRef.mk · ref.stream ref.slot) (hworks.number.trans hnumber.symm))
  unfold Session.route
  simp only [hname]
  split
  · exact ⟨rfl, hstart _ _ _⟩
  · exact ⟨rfl, hrefuse _ _ _⟩
  · exact ⟨rfl, hrefuse _ _ _⟩

/-- A request comes to a filter that sees to it. -/
theorem decodeOne_attends (hfound : s.stream? x.id = some x)
    (hpart : (x.slots[slot]?).map (·.part) = some part) (hroute : x.route? = some route)
    (hsees : part.Handles route) (hwhole : part.isRouter = true → (x.router? slot).isSome) :
    (s.decodeOne x slot).1 = .stop ∧ Attended x.id s (s.decodeOne x slot).2 := by
  obtain ⟨⟨⟨side, kind⟩, memory⟩, hslot, rfl⟩ := Option.map_eq_some_iff.1 hpart
  unfold Session.decodeOne
  rw [hslot]
  cases kind with
  | plain b =>
    obtain ⟨rfl, hdirect⟩ := hsees
    obtain ⟨status, hstatus⟩ := Option.isSome_iff_exists.1 hdirect
    have hverdict : directResponse.onRequest x.view x.request =
        { message := x.request, asks := [(x.id, .localReply status .nothing)], status := .stop } := by
      simp [directResponse, Stream.view, hroute, hstatus]
    dsimp only
    rw [hverdict, afterFilter_eq]
    exact ⟨rfl, Or.inl ⟨_, rfl, by simp [Asides.tasks, Task.repliesTo]⟩⟩
  | accessLog sink => exact absurd hsees id
  | router generation =>
    dsimp only
    obtain ⟨r, hr⟩ := Option.isSome_iff_exists.1 (hwhole rfl)
    have hr' : s.router? (s.refTo x.id slot) = some r := by
      show (if s.number = s.number then (s.stream? x.id).bind (·.router? slot) else none) = some r
      rw [if_pos rfl, hfound]
      exact hr
    rw [hroute]
    exact route_attends hr' rfl generation hsees x.request

/-- A request comes to a filter that lets it pass. -/
theorem decodeOne_passes (hpart : (x.slots[slot]?).map (·.part) = some part)
    (hroute : x.route? = some route)
    (hpasses : part.Passes ∨ part.kind = .plain directResponse ∧ route.direct = none) :
    (s.decodeOne x slot).1 = .continue ∧
      (s.decodeOne x slot).2.queue.posted = s.queue.posted := by
  obtain ⟨⟨⟨side, kind⟩, memory⟩, hslot, rfl⟩ := Option.map_eq_some_iff.1 hpart
  unfold Session.decodeOne
  rw [hslot]
  cases kind with
  | plain b =>
    have hverdict : (b.onRequest x.view x.request).status = .continue ∧
        (b.onRequest x.view x.request).asks = [] := by
      rcases hpasses with hpasses | ⟨hkind, hdirect⟩
      · exact hpasses x.view x.request
      · obtain rfl := FilterKind.plain.inj hkind
        simp [directResponse, Stream.view, hroute, hdirect]
    dsimp only
    rw [afterFilter_eq, Asides.tasks, hverdict.2, List.map_nil, List.append_nil]
    exact ⟨hverdict.1, rfl⟩
  | accessLog sink => exact ⟨rfl, rfl⟩
  | router generation =>
    rcases hpasses with hpasses | ⟨hkind, -⟩
    · exact absurd hpasses id
    · cases hkind

/-- A stream whose request is at `slots`, with a route that names a cluster and with all its
routers. A router that is not there any more would let the request pass without a word. -/
structure BoundForHost (route : Route) (s : Session σ) (x : Stream) (slots : List Nat) : Prop where
  found : s.stream? x.id = some x
  ahead : x.decoders.drop x.decoded = slots
  live : x.isCompleted = false
  resolved : x.route = some (some route)
  handlesOrPasses : ∀ (slot : Nat) (part : Part), (x.slots[slot]?).map (·.part) = some part → part.HandlesOrPasses route
  whole : ∀ slot, (x.router? slot).isSome = x.hasRouter slot

namespace BoundForHost

variable {rest : List Nat}

theorem next (h : BoundForHost route s x (slot :: rest)) : Next s x slot := by
  refine ⟨h.found, ?_, h.live, by rw [h.resolved]; rfl⟩
  have hhead := congrArg (·[0]?) h.ahead
  simpa using hhead

/-- The filter that the request is at. -/
theorem mind (h : BoundForHost route s x (slot :: rest)) :
    ∃ part, (x.slots[slot]?).map (·.part) = some part ∧ part.HandlesOrPasses route := by
  have hmem : slot ∈ x.decoders := List.mem_of_getElem? h.next.here
  have hlt := Stream.lt_of_mem_decoders hmem
  have hpart : (x.slots[slot]?).map (·.part) = some x.slots[slot].part := by
    rw [List.getElem?_eq_getElem hlt, Option.map_some]
  exact ⟨_, hpart, h.handlesOrPasses slot _ hpart⟩

/-- A filter has let the request pass. -/
theorem passed (h : BoundForHost route s x (slot :: rest))
    (hgo : ((s.pass x.id).decodeOne { x with decoded := x.decoded + 1 } slot).1 = .continue) :
    ∃ y, BoundForHost route ((s.pass x.id).decodeOne { x with decoded := x.decoded + 1 } slot).2 y rest ∧
      y.id = x.id ∧ y.slots.map (·.part) = x.slots.map (·.part) := by
  obtain ⟨-, hstays⟩ := h.next.decodeOne_moves (R := fun _ _ => True) (D := True) trivial
  obtain ⟨y, hy, halike⟩ := hstays hgo
  have hid : y.id = x.id := halike.id
  refine ⟨y, ⟨by rw [hid]; exact hy, ?_, halike.ended.trans h.live, ?_, fun i part hpart => ?_,
    fun i => ?_⟩, hid, halike.parts⟩
  · have hdec : y.decoders = x.decoders := halike.decoders
    have hcur : y.decoded = x.decoded + 1 := halike.decoded
    rw [hdec, hcur, ← List.tail_drop, h.ahead, List.tail_cons]
  · rcases halike.route with hnone | hsame
    · have hlooked := h.resolved
      rw [show x.route = none from hnone] at hlooked
      cases hlooked
    · exact hsame.trans h.resolved
  · exact h.handlesOrPasses i part ((Stream.part_congr halike.parts i).symm.trans hpart)
  · rw [halike.routers i, Stream.hasRouter_congr halike.parts i]
    exact h.whole i

/-- A request comes to a filter, which sees to it or lets it pass. -/
theorem meets (h : BoundForHost route s x (slot :: rest)) {part : Part}
    (hpart : (x.slots[slot]?).map (·.part) = some part) :
    let met := (s.pass x.id).decodeOne { x with decoded := x.decoded + 1 } slot
    part.Handles route ∧ met.1 = .stop ∧ Attended x.id s met.2 ∨
      ¬part.Handles route ∧ met.1 = .continue ∧ met.2.queue.posted = s.queue.posted := by
  intro met
  have hroute : x.route? = some route := by rw [Stream.route?, h.resolved]; rfl
  by_cases hsees : part.Handles route
  · obtain ⟨hstop, hattended⟩ := decodeOne_attends (s := s.pass x.id)
      (x := { x with decoded := x.decoded + 1 }) h.next.found_behind hpart hroute hsees
      fun hrouter => by
        show (x.router? slot).isSome = true
        rw [h.whole, Stream.hasRouter]
        obtain ⟨y, hy, rfl⟩ := Option.map_eq_some_iff.1 hpart
        rw [hy]
        exact hrouter
    exact Or.inl ⟨hsees, hstop, hattended⟩
  · have hpasses := (h.handlesOrPasses slot part hpart).resolve_left hsees
    obtain ⟨hgo, hposted⟩ := decodeOne_passes (s := s.pass x.id)
      (x := { x with decoded := x.decoded + 1 }) hpart hroute hpasses
    exact Or.inr ⟨hsees, hgo, hposted⟩

/-- A request goes on behind a filter, or is stopped by it. -/
theorem unfolds (h : BoundForHost route s x (slot :: rest)) :
    let met := (s.pass x.id).decodeOne { x with decoded := x.decoded + 1 } slot
    (met.1 = .stop → s.decodeThrough x.id (slot :: rest) = met.2 ∧
      ∃ v, s.decodeVisits x.id (slot :: rest) = [v] ∧ v.status = .stop) ∧
    (met.1 = .continue → s.decodeThrough x.id (slot :: rest) = met.2.decodeThrough x.id rest ∧
      ∃ v, s.decodeVisits x.id (slot :: rest) = v :: met.2.decodeVisits x.id rest ∧
        v.slot = slot ∧ v.status = .continue) := by
  intro met
  rw [decodeThrough_cons, decodeVisits, h.next.found_behind]
  dsimp only
  generalize hmet : (s.pass x.id).decodeOne { x with decoded := x.decoded + 1 } slot = found
  have heq : met = found := hmet
  obtain ⟨status, s'⟩ := found
  rw [heq]
  constructor
  · rintro rfl
    exact ⟨rfl, _, rfl, rfl⟩
  · rintro rfl
    exact ⟨rfl, _, rfl, rfl, rfl⟩

/-- A request goes on, and somebody ahead sees to it. -/
theorem attended {slots : List Nat} (h : BoundForHost route s x slots)
    (hsees : ∃ slot ∈ slots, ∃ part, (x.slots[slot]?).map (·.part) = some part ∧ part.Handles route) :
    (∃ v, (s.decodeVisits x.id slots).getLast? = some v ∧ v.status = .stop) ∧
      Attended x.id s (s.decodeThrough x.id slots) := by
  induction slots generalizing s x with
  | nil =>
    obtain ⟨slot, hslot, -⟩ := hsees
    cases hslot
  | cons slot rest ih =>
    obtain ⟨part, hpart, -⟩ := h.mind
    obtain ⟨hstops, hgoes⟩ := h.unfolds
    rcases h.meets hpart with ⟨-, hstop, hattended⟩ | ⟨hnot, hgo, hposted⟩
    · obtain ⟨heq, v, hvisits, hv⟩ := hstops hstop
      rw [heq, hvisits]
      exact ⟨⟨v, rfl, hv⟩, hattended⟩
    · obtain ⟨heq, w, hvisits, -, -⟩ := hgoes hgo
      obtain ⟨y, hbound, hid, hparts⟩ := h.passed hgo
      rw [heq, hvisits]
      -- The filter that was passed is not the one that sees to the request.
      have hlater : ∃ slot ∈ rest, ∃ part, (y.slots[slot]?).map (·.part) = some part ∧
          part.Handles route := by
        obtain ⟨i, hi, q, hq, hsees⟩ := hsees
        rcases List.mem_cons.1 hi with rfl | hi
        · rw [hpart] at hq
          obtain rfl := Option.some.inj hq
          exact absurd hsees hnot
        · exact ⟨i, hi, q, (Stream.part_congr hparts i).trans hq, hsees⟩
      obtain ⟨⟨v, hlast, hv⟩, hattended⟩ := ih hbound hlater
      rw [hid] at hlast hattended
      refine ⟨⟨v, ?_, hv⟩, hattended.behind hposted⟩
      rw [List.getLast?_cons, hlast]
      rfl

/-- A request goes on, and nobody ahead sees to it. -/
theorem unattended {slots : List Nat} (h : BoundForHost route s x slots)
    (hsees : ¬∃ slot ∈ slots, ∃ part, (x.slots[slot]?).map (·.part) = some part ∧ part.Handles route) :
    (∀ v ∈ s.decodeVisits x.id slots, v.status = .continue) ∧
      (s.decodeVisits x.id slots).map (·.slot) = slots ∧
      (s.decodeThrough x.id slots).queue.posted = s.queue.posted ∧
      ∃ y, BoundForHost route (s.decodeThrough x.id slots) y [] ∧ y.id = x.id ∧
        y.slots.map (·.part) = x.slots.map (·.part) := by
  induction slots generalizing s x with
  | nil => exact ⟨nofun, rfl, rfl, x, h, rfl, rfl⟩
  | cons slot rest ih =>
    obtain ⟨part, hpart, -⟩ := h.mind
    rcases h.meets hpart with ⟨hhere, -, -⟩ | ⟨-, hgo, hposted⟩
    · exact absurd ⟨slot, List.mem_cons_self, part, hpart, hhere⟩ hsees
    · obtain ⟨heq, w, hvisits, hslot, hw⟩ := h.unfolds.2 hgo
      obtain ⟨y, hbound, hid, hparts⟩ := h.passed hgo
      rw [heq, hvisits]
      have hnobody : ¬∃ slot ∈ rest, ∃ part, (y.slots[slot]?).map (·.part) = some part ∧
          part.Handles route := by
        rintro ⟨i, hi, q, hq, hlater⟩
        exact hsees ⟨i, List.mem_cons_of_mem slot hi, q, (Stream.part_congr hparts i).symm.trans hq,
          hlater⟩
      obtain ⟨hvs, hall, hsame, z, hz, hzid, hzparts⟩ := ih hbound hnobody
      rw [hid] at hvs hall hsame hz hzid
      exact ⟨List.forall_mem_cons.2 ⟨hw, hvs⟩, by rw [List.map_cons, hall, hslot], hsame.trans hposted, z,
        hz, hzid, hzparts.trans hparts⟩

end BoundForHost

/-- A stream that begins without a broken promise has the filters of the settings and its route, and
its request goes to all filters in turn. -/
theorem beginStream_decodes (h : s.Numbered) (request : Request)
    (hfine : (s.beginStream request).panic = none) :
    ∃ (s₁ : Session σ) (x : Stream), x.id = s.nextId ∧
      x.slots = s.plan.parts.map (Slot.start s.nextId s.clock) ∧
      x.route = some (s.plan.routes.find? request) ∧ x.decoded = 0 ∧ x.isCompleted = false ∧
      s₁.stream? x.id = some x ∧ s₁.queue.posted = s.queue.posted ∧
      s.beginStream request = s₁.decodeThrough x.id x.decoders ∧
      s.beginEvents request = [.began request, .decoding (s₁.decodeVisits x.id x.decoders)] := by
  unfold Session.beginStream at hfine ⊢
  unfold beginEvents
  dsimp only at hfine ⊢
  by_cases hused : s.nextId + 1 ≥ UInt64.size
  · rw [if_pos hused] at hfine
    cases hfine
  · rw [if_neg hused] at hfine ⊢
    rw [if_neg hused]
    obtain ⟨info, span, log, -, hopen⟩ := openSpan_eq { s with nextId := s.nextId + 1 } request
    rw [hopen] at hfine ⊢
    dsimp only at hfine ⊢
    by_cases hstuck : (decide (s.clock.wall < 0) && s.plan.parts.any (·.stamps)) = true
    · rw [if_pos hstuck] at hfine
      cases hfine
    · rw [if_neg hstuck, if_neg hstuck, if_neg hstuck]
      generalize hx : ({ id := s.nextId, request, info, span, inserted := true
                         slots := s.plan.parts.map (Slot.start s.nextId s.clock) } : Stream) = x
      generalize hs₁ : { s with nextId := s.nextId + 1, log }.insertStream x = s₁
      have hstreams : s₁.streams = s.streams ++ [x] := by rw [← hs₁]; rfl
      have hplan : s₁.plan = s.plan := by rw [← hs₁]; rfl
      have hid : x.id = s.nextId := by rw [← hx]
      obtain ⟨hfound, -⟩ := modifyStream_append (f := fun y => y) h hstreams hid
      have hresolved := stream?_modifyStream_same (f := (·.resolve s₁.plan.routes))
        (fun y => resolve_id y _) hfound
      refine ⟨s₁.modifyStream s.nextId (·.resolve s₁.plan.routes), x.resolve s₁.plan.routes, ?_⟩
      rw [resolve_id, hid]
      refine ⟨rfl, by rw [← hx]; rfl, by rw [← hplan, ← hx]; rfl, by rw [← hx]; rfl, by rw [← hx]; rfl,
        hresolved, by rw [← hs₁]; rfl, ?_⟩
      have hlive : x.isLive = true := by rw [← hx]; rfl
      -- Resolving the route leaves the filters and the place in the chain.
      have hsame : (x.resolve s₁.plan.routes).decoders = x.decoders.drop x.decoded := by rw [← hx]; rfl
      unfold Session.continueDecoding decodingEvents
      rw [hfound]
      dsimp only
      rw [hlive, hsame]
      exact ⟨rfl, rfl⟩

/-- Settings that change later are those of later connections. -/
theorem opened_plan (number : Nat) (plan : Plan) (flags : Flags) (source : PoolSource σ)
    (side : HostSide σ) (stats : ListenerStats) (clock : Clock) (ops : List SessionOp) :
    ((opened number plan flags source side stats clock).after ops).plan = plan :=
  (opened_traced number plan flags source side stats clock ops 0).works

/-- Who sees to a request whose route names a cluster. A listener was set up as settings say, a
connection of a client was opened, and things have happened to it in any order; then a request
comes, and a stream begins for it without a broken promise.

The request goes to the filters of the chain in turn. It ends at a filter that stops it exactly if
the settings provide for somebody to see to it, and exactly then a reply was asked for or an
exchange has begun. Where they do not, nothing of the two happens, and the request runs past the
last filter. A route without a direct response is always provided for. -/
theorem opened_attended {generation : Nat} {faults : FileFaults} {l : Config.Listener} {plan : Plan}
    (hplan : Plan.ofListener (.routing generation) faults l = .ok plan) (number : Nat) (flags : Flags)
    (source : PoolSource σ) (side : HostSide σ) (stats : ListenerStats) (clock : Clock)
    (ops : List SessionOp) (request : Request) (route : Route)
    (hroute : plan.routes.find? request = some route) (hcluster : route.cluster.isSome = true) :
    let s := (opened number plan flags source side stats clock).after ops
    (s.beginStream request).panic = none →
    (∃ visits, s.beginEvents request = [.began request, .decoding visits] ∧
      ((∃ v, visits.getLast? = some v ∧ v.status = .stop) ↔ l.attends route = true) ∧
      ((∀ v ∈ visits, v.status = .continue) ∧ visits.map (·.slot) = requestPath plan.parts ↔
        l.attends route = false)) ∧
    (Attended s.nextId s (s.beginStream request) ↔ l.attends route = true) ∧
    (route.direct = none → l.attends route = true) := by
  intro s hfine
  have hn : s.Numbered :=
    (opened_numbered number plan flags source side stats clock).after ops
  have hkept : s.plan = plan := opened_plan number plan flags source side stats clock ops
  obtain ⟨s₁, x, hid, hslots, hlooked, hdecoded, hlive, hfound, hposted, hbegin, hevents⟩ :=
    beginStream_decodes hn request hfine
  rw [hkept] at hslots hlooked
  have hparts := start_parts hslots
  have hpart : ∀ slot : Nat, (x.slots[slot]?).map (·.part) = plan.parts[slot]? := by
    intro slot
    rw [← List.getElem?_map, hparts]
  -- At the first filter, the stream has its route and all its routers.
  have hbound : BoundForHost route s₁ x x.decoders := by
    refine ⟨hfound, by rw [hdecoded, List.drop_zero], hlive, by rw [hlooked, hroute],
      fun slot part h => ?_, fun slot => ?_⟩
    · rw [hpart] at h
      exact Plan.handlesOrPasses_of_ofListener hplan hcluster part (List.mem_of_getElem? h)
    · rw [start_router? hslots]
      cases x.hasRouter slot with
      | false => rfl
      | true => rfl
  have hahead : (∃ slot ∈ x.decoders, ∃ part, (x.slots[slot]?).map (·.part) = some part ∧
      part.Handles route) ↔ l.attends route = true := by
    rw [← Plan.attends_iff_of_ofListener hplan hcluster, ← hparts]
    exact x.exists_decoder_iff _
  have hdirect : route.direct = none → l.attends route = true := by
    intro hdirect
    rw [Config.Listener.attends, Plan.sendsToHosts_of_find? hplan hroute hcluster hdirect, Bool.true_or]
  have hpath : x.decoders = requestPath plan.parts := by rw [Stream.decoders_eq, hparts]
  rw [hbegin, ← hid]
  cases hprovided : l.attends route with
  | true =>
    obtain ⟨⟨v, hlast, hv⟩, hattended⟩ := hbound.attended (hahead.2 hprovided)
    refine ⟨⟨_, hevents, iff_of_true ⟨v, hlast, hv⟩ rfl, iff_of_false ?_ nofun⟩,
      iff_of_true (hattended.behind hposted) rfl, fun _ => rfl⟩
    rintro ⟨hgo, -⟩
    rw [hgo v (List.mem_of_getLast? hlast)] at hv
    cases hv
  | false =>
    have hnobody := fun h => Bool.false_ne_true (hprovided.symm.trans (hahead.1 h))
    obtain ⟨hgo, hall, hsame, y, hy, hyid, hyparts⟩ := hbound.unattended hnobody
    refine ⟨⟨_, hevents, iff_of_false ?_ nofun, iff_of_true ⟨hgo, hall.trans hpath⟩ rfl⟩,
      iff_of_false ?_ nofun, hprovided ▸ hdirect⟩
    · rintro ⟨v, hlast, hv⟩
      rw [hgo v (List.mem_of_getLast? hlast)] at hv
      cases hv
    · rintro (⟨ts, hts, hany⟩ | ⟨slot, r, e, hr, -⟩)
      · rw [hsame, hposted] at hts
        obtain rfl : ts = [] := List.self_eq_append_right.1 hts
        cases hany
      · -- A router would be there only if the settings had one.
        have hrouter : x.hasRouter slot = true := by
          rw [← Stream.hasRouter_congr hyparts slot, ← hy.whole slot, Option.isSome_iff_exists]
          refine ⟨r, ?_⟩
          have hthere : (s₁.decodeThrough x.id x.decoders).stream? x.id = some y := hyid ▸ hy.found
          simpa [router?, refTo, hthere] using hr
        have hsends : Server.sendsToHosts l = false := by
          rw [Config.Listener.attends, Bool.or_eq_false_iff] at hprovided
          exact hprovided.1
        obtain ⟨y, hslot, hisRouter⟩ := (Option.any_eq_true _ _).1 hrouter
        have hthere := (hpart slot).symm.trans (congrArg (Option.map (·.part)) hslot)
        have hno := Plan.not_isRouter_of_ofListener hplan hsends y.part (List.mem_of_getElem? hthere)
        rw [hisRouter] at hno
        cases hno

/-- A route names a cluster and has a direct response, and the settings list no filter. They are
accepted, and a request of the route runs past the last filter with nobody having seen to it. -/
theorem opened_attended_both_named :
    let faults : FileFaults := fun _ => none
    let l : Config.Listener :=
      { name := "edge", address := "x"
        routes := [{ name := "all", cluster := some "c", directResponse := some { message := "hi" } }] }
    let config : Config := { listeners := [l], clusters := [{ name := "c", hosts := ["h:1"] }] }
    let request : Request := { service := "users", method := "get" }
    config.Valid ∧ ∃ plan, Plan.ofListener (.routing 0) faults l = .ok plan ∧
      ∃ route, plan.routes.find? request = some route ∧ route.cluster = some "c" ∧
        let s := opened 0 plan {} TcpPools.source { pools := {} } (.start "edge" 0) {}
        ∃ visits, s.beginEvents request = [.began request, .decoding visits] ∧
          (∀ v ∈ visits, v.status = .continue) ∧ ¬Attended s.nextId s (s.beginStream request) := by
  intro faults l config request
  obtain ⟨plan, hplan⟩ : ∃ plan, Plan.ofListener (.routing 0) faults l = .ok plan := ⟨_, rfl⟩
  obtain ⟨route, hroute, hname⟩ :
      ∃ route, plan.routes.find? request = some route ∧ route.cluster = some "c" := by
    cases hplan
    exact ⟨_, rfl, rfl⟩
  have hfine : ((opened 0 plan {} TcpPools.source { pools := {} } (.start "edge" 0)
      {}).beginStream request).panic = none := by
    cases hplan
    rfl
  have hprovided : l.attends route = false := by
    rw [Config.Listener.attends, show l.lists directName = false from rfl, Bool.and_false]
    rfl
  obtain ⟨⟨visits, hevents, -, hpast⟩, hattended, -⟩ := opened_attended hplan 0 {} TcpPools.source
    { pools := {} } (.start "edge" 0) {} [] request route hroute (by rw [hname]; rfl) hfine
  refine ⟨rfl, plan, hplan, route, hroute, hname, visits, hevents, (hpast.2 hprovided).1, fun h => ?_⟩
  exact Bool.false_ne_true (hprovided.symm.trans (hattended.1 h))

end Session

end RpcProxy

import RpcProxy.Proofs.Server.Reload
import RpcProxy.Session.Routing

/-!
# Routes lead to clusters that there are

The routes of a listener and the clusters that its router chooses from are built together, but they
are built anew only now and then, and not always with success. `Plan.Leads` says that a plan has
routes and clusters of one configuration: every cluster that a route names is among the clusters of
every generation for which the plan has a router. Building a plan from an accepted configuration
makes it so (`Plan.leads_of_ofListener`), and generations that are added behind the others cannot
change it.

It would be wrong to speak of the clusters of the latest configuration. A listener that cannot be
built goes on with its old plan, whose routes may name clusters that were dropped since. It goes on
with the old clusters as well, which is why these are kept, each under the number of its generation.

`Server.Reachable` are the servers that accepted configurations lead to, with any traffic in
between.
-/

set_option autoImplicit false

namespace RpcProxy

/-! ## Names of clusters

A cluster is found by its name in the generation that was set up with it. -/

def Clusters.names (cs : Clusters) : List String := cs.list.map (·.name)

theorem Cluster.name_of_ofConfig {c : Config.Cluster} {cluster : Cluster}
    (h : Cluster.ofConfig c = .ok cluster) : cluster.name = c.name := by
  unfold Cluster.ofConfig at h
  split at h
  · cases h
  · cases h
    rfl

theorem Cluster.names_of_mapM_ofConfig {cs : List Config.Cluster} {list : List Cluster}
    (h : cs.mapM Cluster.ofConfig = .ok list) : list.map (·.name) = cs.map (·.name) := by
  induction cs generalizing list with
  | nil =>
    cases h
    rfl
  | cons c cs ih =>
    rw [List.mapM_cons] at h
    cases hc : Cluster.ofConfig c with
    | error e => simp [hc, bind, Except.bind] at h
    | ok cluster =>
      cases hcs : cs.mapM Cluster.ofConfig with
      | error e => simp [hc, hcs, bind, Except.bind] at h
      | ok rest =>
        simp only [hc, hcs, bind, Except.bind, pure, Except.pure, Except.ok.injEq] at h
        subst h
        rw [List.map_cons, List.map_cons, ih hcs, Cluster.name_of_ofConfig hc]

/-- Clusters that are set up have the names of the settings. -/
theorem Server.names_of_setUpClusters {cs : List Config.Cluster} {clusters : Clusters}
    (h : setUpClusters cs = .ok clusters) : clusters.names = cs.map (·.name) := by
  unfold setUpClusters Clusters.ofConfig at h
  cases hlist : cs.mapM Cluster.ofConfig with
  | error e => simp [hlist, bind, Except.bind, Except.mapError] at h
  | ok list =>
    simp only [hlist, bind, Except.bind, pure, Except.pure, Except.mapError, Except.ok.injEq] at h
    subst h
    exact Cluster.names_of_mapM_ofConfig hlist

theorem Clusters.indexOf?_of_mem_names {cs : Clusters} {name : String} (h : name ∈ cs.names) :
    ∃ i cluster, cs.indexOf? name = some i ∧ cs.list[i]? = some cluster ∧ cluster.name = name := by
  obtain ⟨c, hc, hname⟩ := List.mem_map.1 h
  have hfound : (cs.indexOf? name).isSome := by
    rw [Clusters.indexOf?, List.findIdx?_isSome, List.any_eq_true]
    exact ⟨c, hc, by simpa using hname⟩
  obtain ⟨i, hi⟩ := Option.isSome_iff_exists.1 hfound
  obtain ⟨hlt, hat, -⟩ := List.findIdx?_eq_some_iff_getElem.1 hi
  exact ⟨i, cs.list[i], hi, List.getElem?_eq_getElem hlt, by simpa using hat⟩

/-- The only reason why there is no host of a cluster that there is: all its hosts are ejected. -/
theorem Clusters.choose_of_mem_names {cs : Clusters} {name : String} (h : name ∈ cs.names)
    (generation : Nat) (now : Instant) :
    (∃ cluster host cs', cs.choose generation name now = (.ok (cluster, host), cs') ∧
      cluster.name = name ∧ host.cluster = name) ∨
    ∃ cs', cs.choose generation name now = (.error (.noHealthyHost name), cs') := by
  obtain ⟨i, c, hi, hc, hname⟩ := Clusters.indexOf?_of_mem_names h
  unfold Clusters.choose
  simp only [hi, hc]
  unfold Cluster.choose
  cases c.eligible now with
  | nil => exact Or.inr ⟨_, by rw [hname]⟩
  | cons j js => exact Or.inl ⟨_, _, _, rfl, hname, hname⟩

/-! ## Accepted configurations

A file is refused if a route names a cluster that the file does not have. -/

/-- The routes of accepted listeners name clusters that there are. -/
theorem Config.clusters_of_listenerFault?_eq_none {clusters seen : List String}
    {ls : List Config.Listener} (h : Config.listenerFault? clusters seen ls = none) :
    ∀ l ∈ ls, ∀ r ∈ l.routes, ∀ name, r.cluster = some name → name ∈ clusters := by
  induction ls generalizing seen with
  | nil => simp
  | cons l ls ih =>
    rw [Config.listenerFault?] at h
    split at h
    · cases h
    · split at h
      · cases h
      · obtain ⟨-, h⟩ := Option.or_eq_none_iff.1 h
        obtain ⟨hroutes, h⟩ := Option.or_eq_none_iff.1 h
        refine List.forall_mem_cons.2 ⟨fun r hr name hname => ?_, ih h⟩
        have hnone := List.findSome?_eq_none_iff.1 hroutes r hr
        simpa [Config.routeFault?, hname] using hnone

/-! ## Plans

A plan names the generation of clusters to which its router sends, which is the one it was built
with. -/

/-- What is built from the settings of routes has the clusters of the settings. -/
theorem RouteTable.mem_of_ofConfig {cs : List Config.Route} {table : RouteTable}
    (h : RouteTable.ofConfig cs = .ok table) :
    ∀ entry ∈ table.routes, ∃ c ∈ cs, entry.2.cluster = c.cluster ∧
      entry.2.direct.isSome = c.directResponse.isSome := by
  unfold RouteTable.ofConfig at h
  cases hroutes : cs.mapM fun c => do pure (RouteMatch.ofConfig c, ← Route.ofConfig c) with
  | error e =>
    rw [hroutes] at h
    cases h
  | ok routes =>
    rw [hroutes] at h
    cases h
    intro entry hentry
    obtain ⟨i, hi⟩ := List.mem_iff_getElem?.1 hentry
    obtain ⟨c, hc, hbuilt⟩ := Watched.getElem?_of_mapM_ok hroutes hi
    refine ⟨c, List.mem_of_getElem? hc, ?_⟩
    unfold Route.ofConfig at hbuilt
    cases hdirect : c.directResponse with
    | none =>
      rw [hdirect] at hbuilt
      cases hbuilt
      exact ⟨rfl, rfl⟩
    | some d =>
      rw [hdirect] at hbuilt
      dsimp only at hbuilt
      cases hstatus : Status.ofConfig d with
      | error e =>
        rw [hstatus] at hbuilt
        cases hbuilt
      | ok status =>
        rw [hstatus] at hbuilt
        cases hbuilt
        exact ⟨rfl, rfl⟩

theorem builtIn_not_router {faults : FileFaults} {f : Config.Filter} {parts : List Part}
    (h : builtIn faults f = .ok parts) : ∀ part ∈ parts, ∀ g, part.kind ≠ .router g := by
  unfold builtIn at h
  split at h
  · dsimp only at h
    split at h
    · cases h
    · cases h
      simp
  · cases h
    simp
  · cases h
    intro part hpart g
    rcases List.mem_append.1 hpart with hpart | hpart
    · split at hpart
      · cases hpart
      · rw [List.mem_singleton.1 hpart]
        exact nofun
    · split at hpart
      · cases hpart
      · rw [List.mem_singleton.1 hpart]
        exact nofun
  · cases h

/-- A router that is built chooses from the generation that it is built for. -/
theorem FilterRegistry.generation_of_build {generation : Nat} {faults : FileFaults}
    {f : Config.Filter} {parts : List Part}
    (h : (FilterRegistry.routing generation).build faults f = .ok parts) :
    ∀ part ∈ parts, ∀ g, part.kind = .router g → g = generation := by
  intro part hpart g hg
  by_cases hrouter : f.name = routerName
  · simp only [FilterRegistry.build, find?_routing, hrouter, if_true, Except.ok.injEq] at h
    subst h
    rw [List.mem_singleton.1 hpart] at hg
    exact (FilterKind.router.inj hg).symm
  · simp only [FilterRegistry.build, find?_routing, hrouter, if_false] at h
    exact absurd hg (builtIn_not_router h part hpart g)

theorem Config.Listener.withRouter_routes (l : Config.Listener) : l.withRouter.routes = l.routes := by
  unfold Config.Listener.withRouter
  split
  · rfl
  · rfl

/-- Every cluster that a route of a plan names is among the clusters that a router of the plan
chooses from, `names` being the names of the clusters of each generation. Only names matter here:
hosts come and go by being ejected and restored. -/
def Plan.Leads (names : List (List String)) (p : Plan) : Prop :=
  ∀ part ∈ p.parts, ∀ g, part.kind = .router g →
    ∀ entry ∈ p.routes.routes, ∀ name, entry.2.cluster = some name →
      ∃ known, names[g]? = some known ∧ name ∈ known

theorem Plan.Leads.append {names : List (List String)} {p : Plan} (h : p.Leads names)
    (more : List (List String)) : p.Leads (names ++ more) := by
  intro part hpart g hg entry hentry name hname
  obtain ⟨known, hknown, hmem⟩ := h part hpart g hg entry hentry name hname
  refine ⟨known, ?_, hmem⟩
  rw [List.getElem?_append_left (List.getElem?_eq_some_iff.1 hknown).1]
  exact hknown

/-- A plan for a listener of an accepted configuration, built for the generation with the clusters
of that configuration. -/
theorem Plan.leads_of_ofListener {c : Config} (hc : c.Valid) {l : Config.Listener}
    (hl : l ∈ c.listeners) {generation : Nat} {faults : FileFaults} {p : Plan}
    (hp : Plan.ofListener (.routing generation) faults l = .ok p) {names : List (List String)}
    (hnames : names[generation]? = some (c.clusters.map (·.name))) : p.Leads names := by
  obtain ⟨codec, routes, parts, -, hroutes, hparts, rfl⟩ := Plan.ofConfig_eq_ok_iff.1 hp
  intro part hpart g hg entry hentry name hname
  -- The part comes from a filter of the settings, and the entry from a route.
  obtain ⟨ps, hps, hpart⟩ := List.mem_flatten.1 hpart
  obtain ⟨i, hi⟩ := List.mem_iff_getElem?.1 hps
  obtain ⟨f, -, hbuilt⟩ := Watched.getElem?_of_mapM_ok hparts hi
  obtain rfl := FilterRegistry.generation_of_build hbuilt part hpart g hg
  obtain ⟨r, hr, hcluster, -⟩ := RouteTable.mem_of_ofConfig hroutes entry hentry
  rw [Config.Listener.withRouter_routes] at hr
  have hvalid := (Option.or_eq_none_iff.1 hc).2
  exact ⟨_, hnames, Config.clusters_of_listenerFault?_eq_none hvalid l hl r hr name
    (hcluster ▸ hname)⟩

/-! ## Servers

Generations are added and never changed in their names, so that a plan which is kept finds its
clusters. -/

namespace Server

def clusterNames (s : Server) : List (List String) := s.side.generations.map Clusters.names

/-- The servers that accepted configurations lead to, each with the one that was accepted last.
Between two of them any requests may be served: that changes hosts, pools and counters, but neither
the plans of listeners nor which clusters there are. -/
inductive Reachable : Config → Server → Prop
  /-- A server is set up. -/
  | start {faults : FileFaults} {now : Instant} {c : Config} {s : Server} (hc : c.Valid)
    (hs : ofConfig faults now c = .ok s) : Reachable c s
  /-- Another configuration is accepted. -/
  | reload {before c : Config} {s : Server} (h : Reachable before s) (hc : c.Valid)
    (faults : FileFaults) : Reachable c (s.apply faults (.between before c))
  | served {c : Config} {s s' : Server} (h : Reachable c s)
    (hplans : s'.listeners.map (·.plan) = s.listeners.map (·.plan))
    (hnames : s'.clusterNames = s.clusterNames) : Reachable c s'

theorem leads_of_ofConfig {faults : FileFaults} {now : Instant} {c : Config} {s : Server}
    (hc : c.Valid) (hs : ofConfig faults now c = .ok s) :
    ∀ h ∈ s.listeners, h.plan.Leads s.clusterNames := by
  obtain ⟨⟨clusters, hclusters, hgenerations⟩, hhandles⟩ := Watched.ofConfig_ok hs
  intro h hh
  obtain ⟨i, hi⟩ := List.mem_iff_getElem?.1 hh
  obtain ⟨l, hl, -, hp⟩ := hhandles i h hi
  refine Plan.leads_of_ofListener hc (List.mem_of_getElem? hl) hp ?_
  rw [clusterNames, hgenerations, List.map_singleton, List.getElem?_cons_zero,
    names_of_setUpClusters hclusters]

/-- An update gives a handle a plan for the new clusters, or leaves it with the one it has. -/
theorem leads_of_applyTo {c : Config} (hc : c.Valid) (before : Config) (faults : FileFaults)
    {names : List (List String)} {h : ListenerHandle} (hh : h.plan.Leads names) :
    (applyTo faults (.between before c) names.length h).plan.Leads
      (names ++ [c.clusters.map (·.name)]) := by
  cases hl : c.listeners.find? (·.name == h.name) with
  | none =>
    rw [applyTo_of_absent hl]
    exact hh.append _
  | some l =>
    cases hconcerns : concerns (.between before c) l with
    | false =>
      rw [applyTo_of_not_concerns hl hconcerns]
      exact hh.append _
    | true =>
      cases hplan : Plan.ofListener (.routing names.length) faults l with
      | error e =>
        have hkept : applyTo faults (.between before c) names.length h = h := by
          simp [applyTo, show (Config.Update.between before c).config = c from rfl, hl, hconcerns,
            ListenerHandle.reload, hplan, bind, Except.bind]
        rw [hkept]
        exact hh.append _
      | ok p =>
        obtain ⟨p', hp', hbuilt⟩ := applyTo_of_concerns faults names.length hl hconcerns
        rw [hp']
        refine Plan.leads_of_ofListener hc (List.mem_of_find?_eq_some hl) (hbuilt ⟨_, p, hplan⟩) ?_
        simp

/-- Every listener has routes and clusters that belong together. -/
theorem Reachable.leads {c : Config} {s : Server} (h : Reachable c s) :
    ∀ handle ∈ s.listeners, handle.plan.Leads s.clusterNames := by
  induction h with
  | start hc hs => exact leads_of_ofConfig hc hs
  | @reload before c s _ hc faults ih =>
    obtain ⟨clusters, hclusters⟩ := setUpClusters_of_valid hc
    intro handle hhandle
    unfold apply at hhandle ⊢
    rw [show (Config.Update.between before c).config = c from rfl, hclusters] at hhandle ⊢
    dsimp only at hhandle ⊢
    obtain ⟨old, hold, rfl⟩ := List.mem_map.1 hhandle
    have hleads := leads_of_applyTo hc before faults (ih old hold)
    rw [clusterNames, List.length_map] at hleads
    rw [clusterNames, List.map_append, List.map_singleton, names_of_setUpClusters hclusters]
    exact hleads
  | @served c s s' _ hplans hnames ih =>
    intro handle hhandle
    have hmem : handle.plan ∈ s.listeners.map (·.plan) := hplans ▸ List.mem_map_of_mem hhandle
    obtain ⟨old, hold, heq⟩ := List.mem_map.1 hmem
    rw [hnames, ← heq]
    exact ih old hold

end Server

/-- The session with the clusters of a generation as the choice of a host has left them. -/
def Session.choosing {σ : Type} (s : Session σ) (generation : Nat) (cs : Clusters) : Session σ :=
  { s with side := { s.side with generations := s.side.generations.modify generation fun _ => cs } }

/-- A request whose route names a cluster that there is: the router starts an exchange with a host
of it, or refuses the request because all hosts of it are ejected. -/
theorem Session.route_of_mem_names {σ : Type} {s : Session σ} {generation : Nat} {name : String}
    (h : name ∈ (s.side.clusters generation).names) {route : Route} (hname : route.cluster = some name)
    (ref : RouterRef) (request : Request) :
    (∃ cs cluster host, cluster.name = name ∧ host.cluster = name ∧
      s.route ref generation (some route) request =
        (.stop, (s.choosing generation cs).startExchange ref cluster host request)) ∨
    ∃ cs, s.route ref generation (some route) request =
      (.stop, (s.choosing generation cs).refuse ref (.noHealthyHost name)
        { code := .unavailable, message := (RouteError.noHealthyHost name).message }) := by
  unfold Session.route
  rcases Clusters.choose_of_mem_names h generation s.now with
    ⟨cluster, host, cs', hchoose, hcluster, hhost⟩ | ⟨cs', hchoose⟩
  · refine Or.inl ⟨cs', cluster.config, host, hcluster, hhost, ?_⟩
    simp only [hname, hchoose, choosing]
  · refine Or.inr ⟨cs', ?_⟩
    simp only [hname, hchoose, choosing]

/-- No route of a running listener leads to a cluster that there is not. Take a server that was set
up from an accepted configuration and has taken up any number of accepted ones since, with any
traffic in between, and a router in the chain of one of its listeners. Every cluster that a route of
that listener names is found among the clusters that the router chooses from. So, whatever session
works by that plan and whatever request comes, the router has no use for the answer that the cluster
is unknown: it starts an exchange with a host of the cluster, or all hosts of the cluster are
ejected. -/
theorem Server.Reachable.routes_known {c : Config} {server : Server} (h : Server.Reachable c server)
    {handle : ListenerHandle} (hhandle : handle ∈ server.listeners) {part : Part}
    (hpart : part ∈ handle.plan.parts) {generation : Nat} (hrouter : part.kind = .router generation) :
    (∀ entry ∈ handle.plan.routes.routes, ∀ name, entry.2.cluster = some name →
      ∃ i cluster, (server.side.clusters generation).indexOf? name = some i ∧
        (server.side.clusters generation).list[i]? = some cluster ∧ cluster.name = name) ∧
    ∀ s : Session TcpPools, s.side = server.side → ∀ (ref : RouterRef) (request : Request) route name,
      handle.plan.routes.find? request = some route → route.cluster = some name →
        (∃ cs cluster host, cluster.name = name ∧ host.cluster = name ∧
          s.route ref generation (some route) request =
            (.stop, (s.choosing generation cs).startExchange ref cluster host request)) ∨
        ∃ cs, s.route ref generation (some route) request =
          (.stop, (s.choosing generation cs).refuse ref (.noHealthyHost name)
            { code := .unavailable, message := (RouteError.noHealthyHost name).message }) := by
  have hknown : ∀ entry ∈ handle.plan.routes.routes, ∀ name, entry.2.cluster = some name →
      name ∈ (server.side.clusters generation).names := by
    intro entry hentry name hname
    obtain ⟨known, hat, hmem⟩ := h.leads handle hhandle part hpart generation hrouter entry hentry
      name hname
    rw [Server.clusterNames, List.getElem?_map] at hat
    obtain ⟨cs, hcs, rfl⟩ := Option.map_eq_some_iff.1 hat
    rw [HostSide.clusters, List.getD_eq_getElem?_getD, hcs]
    exact hmem
  refine ⟨fun entry hentry name hname => ?_, fun s hside ref request route name hfound hname => ?_⟩
  · exact Clusters.indexOf?_of_mem_names (hknown entry hentry name hname)
  · obtain ⟨entry, hentry, rfl⟩ := Option.map_eq_some_iff.1 hfound
    refine Session.route_of_mem_names ?_ hname ref request
    rw [hside]
    exact hknown entry (List.mem_of_find?_eq_some hentry) name hname

/-- Other clusters are accepted, together with a listener whose codec there is not. The listener
goes on with the route it had, and its router with the clusters it had, among which the route's
is. -/
theorem Server.Reachable.routes_known_kept_plan :
    let faults : FileFaults := fun _ => none
    let leading (name : String) : Config.Route := { name := "all", cluster := some name }
    let old : Config :=
      { listeners := [{ name := "edge", address := "x", routes := [leading "c"] }]
        clusters := [{ name := "c", hosts := ["h:1"] }] }
    let new : Config :=
      { listeners := [{ name := "edge", address := "x", codec := "none", routes := [leading "d"] }]
        clusters := [{ name := "d", hosts := ["h:1"] }] }
    ∃ s, Server.ofConfig faults 0 old = .ok s ∧ new.Valid ∧
      let now := s.apply faults (.between old new)
      now.clusterNames = [["c"], ["d"]] ∧
      ∃ handle ∈ now.listeners, (∃ part ∈ handle.plan.parts, part.kind = .router 0) ∧
        (handle.plan.routes.routes.map (·.2.cluster)) = [some "c"] ∧
        ∃ i cluster, (now.side.clusters 0).indexOf? "c" = some i ∧
          (now.side.clusters 0).list[i]? = some cluster ∧ cluster.name = "c" := by
  intro faults leading old new
  obtain ⟨s, hs⟩ : ∃ s, Server.ofConfig faults 0 old = .ok s := ⟨_, rfl⟩
  have hold : old.Valid := rfl
  have hnew : new.Valid := rfl
  -- The reload changes the codec, so the listener keeps its running plan, built from the old file.
  have hreach := (Server.Reachable.start hold hs).reload hnew faults
  obtain ⟨handle, hhandle, part, hpart, hrouter, hroutes⟩ :
      ∃ handle ∈ (s.apply faults (.between old new)).listeners, ∃ part ∈ handle.plan.parts,
        part.kind = .router 0 ∧ handle.plan.routes.routes.map (·.2.cluster) = [some "c"] := by
    cases hs
    exact ⟨_, List.mem_cons_self, _, List.mem_cons_self, rfl, rfl⟩
  obtain ⟨entry, hentry, hcluster⟩ : ∃ entry ∈ handle.plan.routes.routes, entry.2.cluster = some "c" :=
    List.mem_map.1 (hroutes ▸ List.mem_cons_self)
  refine ⟨s, hs, hnew, ?_, handle, hhandle, ⟨part, hpart, hrouter⟩, hroutes, ?_⟩
  · cases hs
    rfl
  · exact (hreach.routes_known hhandle hpart hrouter).1 entry hentry "c" hcluster

end RpcProxy

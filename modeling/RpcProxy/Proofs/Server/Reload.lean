import RpcProxy.Server.Basic
import RpcProxy.Proofs.Config.Sameness

/-!
# Reloads

A file that is accepted is compared with the one accepted before it, not with what the listeners
run, and only what the comparison names is built anew. `Watched` is a server with the configuration
that was accepted last, and `Watched.take` what a new file does to them.

A handle is `UpToDate` if it runs what the accepted configuration says for its listener: a plan like
the one built from its settings and, if it sends requests to hosts, on clusters with its settings.
`take_upToDate` is the step and `run_upToDate` the run: a handle stays up to date as long as every
configuration that is accepted has its listener. It takes no more than one without it for the handle
to be left behind, since a listener that comes back counts as new: `reload_rule` says exactly when a
handle is given a new plan.

What a handle runs need not be equal to what would be built now. A comparison of settings finds two
of them the same whose tables are in another order, and then nothing is built. So plans are compared
by `Plan.Alike`, which ignores no more than such a comparison does. Nor need a handle run on the
latest clusters: it keeps those it was built for, as long as they are the same. That is why
`Follows` asks for some generation with clusters of the same settings.
-/

set_option autoImplicit false

namespace RpcProxy

/-! ## Plans of listeners that are alike

Settings that are alike make plans that are alike. The plan is what runs, so a listener that keeps
its plan can be said to run what the new file says. -/

/-- Plans that are equal but for the share of streams that is traced, which is the same number. The
share is kept as it was written. -/
structure Plan.Alike (p q : Plan) : Prop where
  label : p.label = q.label
  codec : p.codec = q.codec
  routes : p.routes = q.routes
  /-- The filters are equal. -/
  parts : p.parts = q.parts
  tracing : Option.Rel Config.Tracing.Alike p.tracing q.tracing

namespace Config

theorem Tracing.Alike.refl (t : Tracing) : t.Alike t := ⟨.refl, rfl, rfl, rfl, rfl⟩

theorem Tracing.Alike.trans {t u v : Tracing} (h : t.Alike u) (h' : u.Alike v) : t.Alike v :=
  ⟨h.randomSampling.trans h'.randomSampling, h.operation.trans h'.operation,
    h.verbose.trans h'.verbose, h.maxPathLength.trans h'.maxPathLength,
    h.customTags.trans h'.customTags⟩

theorem Filter.Alike.refl (f : Filter) : f.Alike f := ⟨rfl, fun _ => rfl, fun _ => rfl⟩

end Config

theorem Plan.Alike.refl (p : Plan) : p.Alike p := by
  refine ⟨rfl, rfl, rfl, rfl, ?_⟩
  cases p.tracing with
  | none => exact .none
  | some t => exact .some (.refl t)

theorem Plan.Alike.trans {p q r : Plan} (h : p.Alike q) (h' : q.Alike r) : p.Alike r := by
  refine ⟨h.label.trans h'.label, h.codec.trans h'.codec, h.routes.trans h'.routes,
    h.parts.trans h'.parts, ?_⟩
  have ht := h.tracing
  have ht' := h'.tracing
  generalize p.tracing = t at ht ⊢
  generalize q.tracing = u at ht ht'
  generalize r.tracing = v at ht' ⊢
  cases ht with
  | none =>
    cases ht'
    exact .none
  | some ht =>
    cases ht' with
    | some ht' => exact .some (ht.trans ht')

theorem FilterRegistry.find?_routing (generation : Nat) (name : String) :
    (FilterRegistry.routing generation).find? name =
      if name = routerName then some fun _ => .ok [⟨.decoder, .router generation⟩] else none := by
  simp only [routing, StringMap.ofList, StringMap.insertAll, List.foldl_cons, List.foldl_nil,
    StringMap.find?_insert]
  rfl

theorem builtIn_alike (faults : FileFaults) {f g : Config.Filter} (h : f.Alike g) :
    builtIn faults f = builtIn faults g := by
  unfold builtIn
  rw [h.name, h.string? "format", h.string? "path", h.stringMap "request", h.stringMap "response"]

theorem FilterRegistry.build_alike (generation : Nat) (faults : FileFaults) {f g : Config.Filter}
    (h : f.Alike g) :
    (FilterRegistry.routing generation).build faults f =
      (FilterRegistry.routing generation).build faults g := by
  by_cases hrouter : g.name = routerName
  · simp [FilterRegistry.build, find?_routing, h.name, hrouter]
  · simp [FilterRegistry.build, find?_routing, h.name, hrouter, builtIn_alike faults h]

/-- Whether a filter can be built does not depend on the generation of the clusters. -/
theorem FilterRegistry.build_ok {g : Nat} (g' : Nat) {faults : FileFaults} {f : Config.Filter}
    {parts : List Part} (h : (FilterRegistry.routing g).build faults f = .ok parts) :
    ∃ parts', (FilterRegistry.routing g').build faults f = .ok parts' := by
  by_cases hrouter : f.name = routerName
  · simp [FilterRegistry.build, find?_routing, hrouter]
  · refine ⟨parts, ?_⟩
    simpa [FilterRegistry.build, find?_routing, hrouter] using h

theorem mapM_build_alike (generation : Nat) (faults : FileFaults) {fs gs : List Config.Filter}
    (h : List.Forall₂ Config.Filter.Alike fs gs) :
    fs.mapM ((FilterRegistry.routing generation).build faults) =
      gs.mapM ((FilterRegistry.routing generation).build faults) := by
  induction h with
  | nil => rfl
  | cons hfg _ ih =>
    rw [List.mapM_cons, List.mapM_cons, FilterRegistry.build_alike generation faults hfg, ih]

theorem mapM_build_ok {g : Nat} (g' : Nat) {faults : FileFaults} {fs : List Config.Filter}
    {parts : List (List Part)} (h : fs.mapM ((FilterRegistry.routing g).build faults) = .ok parts) :
    ∃ parts', fs.mapM ((FilterRegistry.routing g').build faults) = .ok parts' := by
  induction fs generalizing parts with
  | nil => exact ⟨[], rfl⟩
  | cons f fs ih =>
    rw [List.mapM_cons] at h ⊢
    cases hf : (FilterRegistry.routing g).build faults f with
    | error e => simp [hf, bind, Except.bind] at h
    | ok ps =>
      cases hfs : fs.mapM ((FilterRegistry.routing g).build faults) with
      | error e => simp [hf, hfs, bind, Except.bind] at h
      | ok rest =>
        obtain ⟨ps', hps⟩ := FilterRegistry.build_ok g' hf
        obtain ⟨rest', hrest⟩ := ih hfs
        exact ⟨ps' :: rest', by simp [hps, hrest, bind, Except.bind, pure, Except.pure]⟩

theorem any_router_alike {fs gs : List Config.Filter} (h : List.Forall₂ Config.Filter.Alike fs gs) :
    fs.any (·.name == routerName) = gs.any (·.name == routerName) := by
  induction h with
  | nil => rfl
  | cons hfg _ ih => rw [List.any_cons, List.any_cons, hfg.name, ih]

theorem Config.Listener.Alike.withRouter {a b : Config.Listener} (h : a.Alike b) :
    a.withRouter.Alike b.withRouter := by
  have hneeds : (a.routesToCluster && !a.filters.any (·.name == routerName)) =
      (b.routesToCluster && !b.filters.any (·.name == routerName)) := by
    rw [Config.Listener.routesToCluster, h.routes, any_router_alike h.filters]
    rfl
  unfold Config.Listener.withRouter
  rw [hneeds]
  split
  · refine ⟨h.name, h.codec, h.statLabel, h.tracing, ?_, h.routes⟩
    exact List.rel_append h.filters (.cons (.refl _) .nil)
  · exact h

theorem Server.sendsToHosts_alike {a b : Config.Listener} (h : a.Alike b) :
    sendsToHosts a = sendsToHosts b :=
  any_router_alike h.withRouter.filters

/-- What it takes to build a plan, and what it then is. -/
theorem Plan.ofConfig_eq_ok_iff {registry : FilterRegistry} {faults : FileFaults}
    {l : Config.Listener} {p : Plan} :
    Plan.ofConfig registry faults l = .ok p ↔ ∃ codec routes parts,
      Codec.ofName l.codec = .ok codec ∧ RouteTable.ofConfig l.routes = .ok routes ∧
      l.filters.mapM (registry.build faults) = .ok parts ∧
      p = { label := l.label, codec, routes, parts := parts.flatten, tracing := l.tracing } := by
  unfold Plan.ofConfig
  cases Codec.ofName l.codec with
  | error e => simp [bind, Except.bind]
  | ok codec =>
    cases RouteTable.ofConfig l.routes with
    | error e => simp [bind, Except.bind]
    | ok routes =>
      cases l.filters.mapM (registry.build faults) with
      | error e => simp [bind, Except.bind]
      | ok parts => simp [bind, Except.bind, pure, Except.pure, eq_comm]

/-- A listener whose plan can be built, whatever generation of clusters it is for. A file for an
access log may not open, and then the handle keeps what it runs. -/
def Builds (faults : FileFaults) (l : Config.Listener) : Prop :=
  ∃ generation p, Plan.ofListener (.routing generation) faults l = .ok p

theorem Builds.of_generation {faults : FileFaults} {l : Config.Listener} (h : Builds faults l)
    (generation : Nat) : ∃ p, Plan.ofListener (.routing generation) faults l = .ok p := by
  obtain ⟨g, p, hp⟩ := h
  obtain ⟨codec, routes, parts, hcodec, hroutes, hparts, -⟩ := Plan.ofConfig_eq_ok_iff.1 hp
  obtain ⟨parts', hparts'⟩ := mapM_build_ok generation hparts
  exact ⟨_, Plan.ofConfig_eq_ok_iff.2 ⟨codec, routes, parts', hcodec, hroutes, hparts', rfl⟩⟩

theorem Plan.ofListener_alike {a b : Config.Listener} (h : a.Alike b) {generation : Nat}
    {faults : FileFaults} {p q : Plan}
    (hp : Plan.ofListener (.routing generation) faults a = .ok p)
    (hq : Plan.ofListener (.routing generation) faults b = .ok q) : p.Alike q := by
  obtain ⟨codec, routes, parts, hcodec, hroutes, hparts, rfl⟩ := Plan.ofConfig_eq_ok_iff.1 hp
  obtain ⟨codec', routes', parts', hcodec', hroutes', hparts', rfl⟩ := Plan.ofConfig_eq_ok_iff.1 hq
  have hr := h.withRouter
  rw [hr.codec, hcodec'] at hcodec
  rw [hr.routes, hroutes'] at hroutes
  rw [mapM_build_alike generation faults hr.filters, hparts'] at hparts
  cases hcodec
  cases hroutes
  cases hparts
  refine ⟨?_, rfl, rfl, rfl, hr.tracing⟩
  rw [Config.Listener.label, Config.Listener.label, hr.statLabel, hr.name]

theorem Builds.of_alike {a b : Config.Listener} (h : a.Alike b) {faults : FileFaults}
    (hb : Builds faults b) : Builds faults a := by
  obtain ⟨g, q, hq⟩ := hb
  obtain ⟨codec, routes, parts, hcodec, hroutes, hparts, -⟩ := Plan.ofConfig_eq_ok_iff.1 hq
  have hr := h.withRouter
  rw [← hr.codec] at hcodec
  rw [← hr.routes] at hroutes
  rw [← mapM_build_alike g faults hr.filters] at hparts
  exact ⟨g, _, Plan.ofConfig_eq_ok_iff.2 ⟨codec, routes, parts, hcodec, hroutes, hparts, rfl⟩⟩

/-! ## Configurations that are accepted

A file that is refused changes nothing; one that is accepted can be set up. -/

theorem Config.hosts_of_clusterFault?_eq_none {seen : List String} {cs : List Config.Cluster}
    (h : Config.clusterFault? seen cs = none) : ∀ c ∈ cs, c.hosts.isEmpty = false := by
  induction cs generalizing seen with
  | nil => simp
  | cons c cs ih =>
    rw [Config.clusterFault?] at h
    split at h
    · cases h
    · split at h
      · cases h
      · next hhosts =>
        split at h
        · cases h
        · exact List.forall_mem_cons.2 ⟨by simpa using hhosts, ih h⟩

theorem Cluster.mapM_ofConfig {cs : List Config.Cluster} (h : ∀ c ∈ cs, c.hosts.isEmpty = false) :
    ∃ list, cs.mapM Cluster.ofConfig = .ok list := by
  induction cs with
  | nil => exact ⟨[], rfl⟩
  | cons c cs ih =>
    obtain ⟨hc, hcs⟩ := List.forall_mem_cons.1 h
    obtain ⟨list, hlist⟩ := ih hcs
    rw [List.mapM_cons, hlist, Cluster.ofConfig, hc]
    exact ⟨_, rfl⟩

/-- Clusters that are accepted can be set up. -/
theorem Server.setUpClusters_of_valid {c : Config} (h : c.Valid) :
    ∃ clusters, setUpClusters c.clusters = .ok clusters := by
  have hhosts := Config.hosts_of_clusterFault?_eq_none (Option.or_eq_none_iff.1 h).1
  obtain ⟨list, hlist⟩ := Cluster.mapM_ofConfig hhosts
  exact ⟨⟨list⟩, by simp [setUpClusters, Clusters.ofConfig, hlist, bind, Except.bind, pure,
    Except.pure, Except.mapError]⟩

/-- The configuration in a file, if it is accepted. A file that cannot be read is refused like one
that makes no configuration. -/
def accepted? (file : Option Bytes) : Option Config :=
  (file.bind Bytes.toText?).bind fun text => (Config.parse text).toOption

theorem exists_of_accepted? {file : Option Bytes} {c : Config} (h : accepted? file = some c) :
    ∃ text, file.bind Bytes.toText? = some text ∧ Config.parse text = .ok c := by
  obtain ⟨text, htext, h⟩ := Option.bind_eq_some_iff.1 h
  refine ⟨text, htext, ?_⟩
  cases hparse : Config.parse text with
  | error e => simp [hparse, Except.toOption] at h
  | ok c' => simpa [hparse, Except.toOption] using h

/-! ## What an update concerns

An update names the listeners that it concerns. Others keep what they run. -/

/-- A listener that was there and that no update concerns has the settings it had, and if it sends
requests to hosts, so have the clusters. -/
theorem Server.same_of_not_concerns {before after : Config} {l l' : Config.Listener}
    (hl : before.listeners.find? (·.name == l'.name) = some l) (hl' : l' ∈ after.listeners)
    (h : concerns (.between before after) l' = false) :
    Config.sameListener l l' = true ∧
      (sendsToHosts l' = true → before.clusters = after.clusters) := by
  simp only [concerns, Config.Update.isChanged, Config.Update.between, Bool.or_eq_false_iff,
    Bool.and_eq_false_iff] at h
  obtain ⟨hchanged, hclusters⟩ := h
  constructor
  · cases hsame : Config.sameListener l l' with
    | true => rfl
    | false =>
      have hchange : Config.changeOf before.listeners l' = .changed := by
        simp [Config.changeOf, hl, hsame]
      simp only [List.contains_eq_mem, decide_eq_false_iff_not] at hchanged
      exact absurd (List.mem_map.2 ⟨l', by simp [hl', hchange], rfl⟩) hchanged
  · intro hsends
    exact Config.eq_of_sameClusters (by simpa using hclusters.resolve_right (by simp [hsends]))

/-- A listener that was not there counts as new, not as changed: only other clusters concern it. -/
theorem Server.concerns_of_absent {before after : Config} {l : Config.Listener}
    (h : before.listeners.find? (·.name == l.name) = none) :
    concerns (.between before after) l =
      (!Config.sameClusters before.clusters after.clusters && sendsToHosts l) := by
  have hchanged : (Config.Update.between before after).isChanged l.name = false := by
    simp only [Config.Update.isChanged, Config.Update.between, List.contains_eq_mem,
      decide_eq_false_iff_not]
    intro hmem
    obtain ⟨l', hl', hname⟩ := List.mem_map.1 hmem
    have hchange := (List.mem_filter.1 hl').2
    simp [Config.changeOf, hname, h] at hchange
  rw [concerns, hchanged]
  rfl

/-- An update changes nothing of a handle but its plan. -/
theorem Server.applyTo_eq (faults : FileFaults) (u : Config.Update) (generation : Nat)
    (h : ListenerHandle) : ∃ p, applyTo faults u generation h = { h with plan := p } := by
  unfold applyTo
  split
  · exact ⟨h.plan, rfl⟩
  · next l _ =>
    split
    · cases hplan : Plan.ofListener (.routing generation) faults l with
      | error e => exact ⟨h.plan, by simp [ListenerHandle.reload, hplan, bind, Except.bind]⟩
      | ok p =>
        exact ⟨p, by simp [ListenerHandle.reload, hplan, bind, Except.bind, pure, Except.pure]⟩
    · exact ⟨h.plan, rfl⟩

theorem Server.applyTo_of_absent {faults : FileFaults} {u : Config.Update} {generation : Nat}
    {h : ListenerHandle} (hl : u.config.listeners.find? (·.name == h.name) = none) :
    applyTo faults u generation h = h := by
  simp [applyTo, hl]

theorem Server.applyTo_of_not_concerns {faults : FileFaults} {u : Config.Update} {generation : Nat}
    {h : ListenerHandle} {l : Config.Listener}
    (hl : u.config.listeners.find? (·.name == h.name) = some l) (hconcerns : concerns u l = false) :
    applyTo faults u generation h = h := by
  simp [applyTo, hl, hconcerns]

/-- A handle that an update concerns gets the plan for the new clusters, if it can be built. -/
theorem Server.applyTo_of_concerns (faults : FileFaults) {u : Config.Update} (generation : Nat)
    {h : ListenerHandle} {l : Config.Listener}
    (hl : u.config.listeners.find? (·.name == h.name) = some l) (hconcerns : concerns u l = true) :
    ∃ p, applyTo faults u generation h = { h with plan := p } ∧
      (Builds faults l → Plan.ofListener (.routing generation) faults l = .ok p) := by
  cases hplan : Plan.ofListener (.routing generation) faults l with
  | error e =>
    have hkept : applyTo faults u generation h = h := by
      simp [applyTo, hl, hconcerns, ListenerHandle.reload, hplan, bind, Except.bind]
    refine ⟨h.plan, hkept, fun hbuilds => ?_⟩
    obtain ⟨p, hp⟩ := hbuilds.of_generation generation
    cases hplan.symm.trans hp
  | ok p =>
    have hnew : applyTo faults u generation h = { h with plan := p } := by
      simp [applyTo, hl, hconcerns, ListenerHandle.reload, hplan, bind, Except.bind, pure,
        Except.pure]
    exact ⟨p, hnew, fun _ => rfl⟩

/-! ## One file

A listener is up to date if it runs what the file says about it. A file that concerns it makes it
so, and one that does not leaves it so, if it has been there all the time. -/

/-- A server, and the configuration that was accepted last. -/
structure Watched where
  reloader : Config.Reloader
  server : Server

namespace Watched

variable {faults : FileFaults}

/-- A server with the configuration it was set up from. -/
def start (c : Config) (s : Server) : Watched := { reloader := { current := c }, server := s }

/-- The configuration that was accepted last. -/
def current (w : Watched) : Config := w.reloader.current

/-- The file is read anew, and the server takes up what changed. -/
def take (faults : FileFaults) (w : Watched) (file : Option Bytes) : Watched :=
  match w.reloader.reload file with
  | (none, reloader) => { w with reloader }
  | (some u, reloader) => { reloader, server := w.server.apply faults u }

/-- A file that is refused changes nothing. -/
theorem take_of_refused {w : Watched} {file : Option Bytes} (h : accepted? file = none) :
    w.take faults file = w := by
  have hreload : w.reloader.reload file = (none, w.reloader) := by
    unfold Config.Reloader.reload
    split
    · rfl
    · next text htext =>
      cases hparse : Config.parse text with
      | error e => rfl
      | ok c => simp [accepted?, htext, hparse, Except.toOption] at h
  rw [take, hreload]

theorem take_of_accepted {w : Watched} {file : Option Bytes} {c : Config}
    (h : accepted? file = some c) :
    w.take faults file =
      { reloader := { current := c }
        server := w.server.apply faults (.between w.current c) } := by
  obtain ⟨text, htext, hparse⟩ := exists_of_accepted? h
  have hreload : w.reloader.reload file = (some (.between w.current c), { current := c }) := by
    simp [Config.Reloader.reload, htext, hparse, current]
  rw [take, hreload]

/-- Accepted clusters can be set up, so the server takes every update up. -/
theorem apply_of_accepted (faults : FileFaults) {file : Option Bytes} {c : Config}
    (h : accepted? file = some c) (s : Server) (before : Config) :
    ∃ clusters, Server.setUpClusters c.clusters = .ok clusters ∧
      (s.apply faults (.between before c)).listeners =
        s.listeners.map (Server.applyTo faults (.between before c) s.side.generations.length) ∧
      (s.apply faults (.between before c)).side.generations = s.side.generations ++ [clusters] := by
  obtain ⟨text, -, hparse⟩ := exists_of_accepted? h
  obtain ⟨clusters, hclusters⟩ := Server.setUpClusters_of_valid (parse_valid hparse)
  refine ⟨clusters, hclusters, ?_⟩
  have hconfig : (Config.Update.between before c).config = c := rfl
  simp [Server.apply, hconfig, hclusters]

/-- A handle runs what a configuration says for its listener: its plan is like the one that is built
from the settings and, if it sends requests to hosts, leads to clusters set up from the settings. -/
def Follows (faults : FileFaults) (generations : List Clusters) (c : Config) (l : Config.Listener)
    (h : ListenerHandle) : Prop :=
  ∃ generation p, Plan.ofListener (.routing generation) faults l = .ok p ∧ h.plan.Alike p ∧
    (Server.sendsToHosts l = true → ∃ clusters, generations[generation]? = some clusters ∧
      Server.setUpClusters c.clusters = .ok clusters)

/-- The handle at a place runs what the accepted configuration says for its listener, unless that
cannot be built. -/
def UpToDate (faults : FileFaults) (w : Watched) (i : Nat) : Prop :=
  ∃ h l, w.server.listeners[i]? = some h ∧
    w.current.listeners.find? (·.name == h.name) = some l ∧
    (Builds faults l → Follows faults w.server.side.generations w.current l h)

/-- A handle that an update concerns is up to date after it. -/
theorem take_upToDate_of_concerns {w : Watched} {file : Option Bytes} {c : Config}
    (hfile : accepted? file = some c) {i : Nat} {h : ListenerHandle} {l : Config.Listener}
    (hi : w.server.listeners[i]? = some h) (hl : c.listeners.find? (·.name == h.name) = some l)
    (hconcerns : Server.concerns (.between w.current c) l = true) :
    (w.take faults file).UpToDate faults i := by
  obtain ⟨clusters, hclusters, hlisteners, hgenerations⟩ :=
    apply_of_accepted faults hfile w.server w.current
  rw [take_of_accepted hfile]
  obtain ⟨p, hp, hbuilt⟩ := Server.applyTo_of_concerns faults
    w.server.side.generations.length hl hconcerns
  refine ⟨{ h with plan := p }, l, ?_, hl, fun hbuilds => ?_⟩
  · rw [hlisteners, List.getElem?_map, hi, Option.map_some, hp]
  · refine ⟨_, p, hbuilt hbuilds, .refl p, fun _ => ⟨clusters, ?_, hclusters⟩⟩
    rw [hgenerations]
    simp

/-- A handle that was up to date stays so if the accepted configuration has its listener. If the
update does not concern the listener, then it was there before with the same settings; so what was
built from the old settings will do. -/
theorem take_upToDate {w : Watched} {file : Option Bytes} {c : Config}
    (hfile : accepted? file = some c) (hwf : w.current.WellFormed) {i : Nat} {h : ListenerHandle}
    (hi : w.server.listeners[i]? = some h) {l : Config.Listener}
    (hl : c.listeners.find? (·.name == h.name) = some l) (hupToDate : w.UpToDate faults i) :
    (w.take faults file).UpToDate faults i := by
  cases hconcerns : Server.concerns (.between w.current c) l with
  | true => exact take_upToDate_of_concerns hfile hi hl hconcerns
  | false =>
    obtain ⟨h', old, hi', hold, hfollows⟩ := hupToDate
    cases hi.symm.trans hi'
    obtain ⟨text, -, hparse⟩ := exists_of_accepted? hfile
    have hmem := List.mem_of_find?_eq_some hl
    have hname : l.name = h.name := by simpa using List.find?_some hl
    obtain ⟨hsame, hclusters⟩ := Server.same_of_not_concerns (hname ▸ hold) hmem hconcerns
    have halike := Config.alike_of_sameListener
      (hwf old (List.mem_of_find?_eq_some hold)) (Config.parse_wellFormed hparse l hmem) hsame
    obtain ⟨clusters, -, hlisteners, hgenerations⟩ :=
      apply_of_accepted faults hfile w.server w.current
    rw [take_of_accepted hfile]
    refine ⟨h, l, ?_, hl, fun hbuilds => ?_⟩
    · rw [hlisteners, List.getElem?_map, hi, Option.map_some,
        Server.applyTo_of_not_concerns hl hconcerns]
    · -- The handle still runs what it ran; the settings it was built from are like the new ones.
      obtain ⟨g, p, hp, hplan, hhosts⟩ := hfollows (hbuilds.of_alike halike)
      obtain ⟨q, hq⟩ := hbuilds.of_generation g
      refine ⟨g, q, hq, hplan.trans (Plan.ofListener_alike halike hp hq), fun hsends => ?_⟩
      obtain ⟨cs, hcs, hset⟩ := hhosts (Server.sendsToHosts_alike halike ▸ hsends)
      refine ⟨cs, ?_, hclusters hsends ▸ hset⟩
      rw [hgenerations, List.getElem?_append_left (List.getElem?_eq_some_iff.1 hcs).1]
      exact hcs

/-! ## Many files

From one file to any sequence of them, by induction on the last. -/

/-- Files are taken up one after another. -/
def run (faults : FileFaults) (w : Watched) (files : List (Option Bytes)) : Watched :=
  files.foldl (take faults) w

theorem take_wellFormed {w : Watched} (file : Option Bytes) (h : w.current.WellFormed) :
    (w.take faults file).current.WellFormed := by
  cases hfile : accepted? file with
  | none => rwa [take_of_refused hfile]
  | some c =>
    obtain ⟨text, -, hparse⟩ := exists_of_accepted? hfile
    rw [take_of_accepted hfile]
    exact Config.parse_wellFormed hparse

theorem run_wellFormed {w : Watched} (files : List (Option Bytes)) (h : w.current.WellFormed) :
    (run faults w files).current.WellFormed := by
  induction files generalizing w with
  | nil => exact h
  | cons file files ih => exact ih (take_wellFormed file h)

/-- A handle that the update leaves alone stays as it is. -/
theorem take_kept {w : Watched} {file : Option Bytes} {c : Config} (hfile : accepted? file = some c)
    {i : Nat} {h : ListenerHandle} (hi : w.server.listeners[i]? = some h)
    (hkept : ∀ generation, Server.applyTo faults (.between w.current c) generation h = h) :
    (w.take faults file).server.listeners[i]? = w.server.listeners[i]? := by
  obtain ⟨-, -, hlisteners, -⟩ := apply_of_accepted faults hfile w.server w.current
  rw [take_of_accepted hfile, hlisteners, List.getElem?_map, hi, Option.map_some, hkept]

/-- Nothing of a handle changes but its plan. -/
theorem take_listeners (faults : FileFaults) {w : Watched} (file : Option Bytes) {i : Nat}
    {h : ListenerHandle} (hi : w.server.listeners[i]? = some h) :
    ∃ p, (w.take faults file).server.listeners[i]? = some { h with plan := p } := by
  cases hfile : accepted? file with
  | none => exact ⟨h.plan, by rw [take_of_refused hfile, hi]⟩
  | some c =>
    obtain ⟨-, -, hlisteners, -⟩ := apply_of_accepted faults hfile w.server w.current
    obtain ⟨p, hp⟩ := Server.applyTo_eq faults (.between w.current c)
      w.server.side.generations.length h
    refine ⟨p, ?_⟩
    rw [take_of_accepted hfile, hlisteners, List.getElem?_map, hi, Option.map_some, hp]

theorem run_listeners (faults : FileFaults) {w : Watched} (files : List (Option Bytes)) {i : Nat}
    {h : ListenerHandle} (hi : w.server.listeners[i]? = some h) :
    ∃ p, (run faults w files).server.listeners[i]? = some { h with plan := p } := by
  induction files generalizing w h with
  | nil => exact ⟨h.plan, hi⟩
  | cons file files ih =>
    obtain ⟨p, hp⟩ := take_listeners faults file hi
    obtain ⟨p', hp'⟩ := ih hp
    exact ⟨p', hp'⟩

/-- A handle stays up to date as long as no configuration is accepted that does without it. -/
theorem run_upToDate {w : Watched} (hwf : w.current.WellFormed) {i : Nat} {h : ListenerHandle}
    (hi : w.server.listeners[i]? = some h) (hupToDate : w.UpToDate faults i)
    {files : List (Option Bytes)}
    (hfiles : ∀ c ∈ files.filterMap accepted?, ∃ l ∈ c.listeners, l.name = h.name) :
    (run faults w files).UpToDate faults i := by
  induction files generalizing w h with
  | nil => exact hupToDate
  | cons file files ih =>
    obtain ⟨p, hp⟩ := take_listeners faults file hi
    cases hfile : accepted? file with
    | none =>
      refine ih (take_wellFormed file hwf) hp ?_ fun c hc => hfiles c (by simpa [hfile] using hc)
      rwa [take_of_refused hfile]
    | some c =>
      rw [List.filterMap_cons_some hfile] at hfiles
      obtain ⟨⟨l, hl, hname⟩, hfiles⟩ := List.forall_mem_cons.1 hfiles
      obtain ⟨l', hl'⟩ : ∃ l', c.listeners.find? (·.name == h.name) = some l' :=
        Option.isSome_iff_exists.1 (List.find?_isSome.2 ⟨l, hl, by simpa using hname⟩)
      exact ih (take_wellFormed file hwf) hp (take_upToDate hfile hwf hi hl' hupToDate) hfiles

theorem getElem?_of_mapM_ok {α β ε : Type} {f : α → Except ε β} {xs : List α} {ys : List β}
    (h : xs.mapM f = .ok ys) {i : Nat} {y : β} (hy : ys[i]? = some y) :
    ∃ x, xs[i]? = some x ∧ f x = .ok y := by
  induction xs generalizing ys i with
  | nil =>
    cases h
    simp at hy
  | cons x xs ih =>
    rw [List.mapM_cons] at h
    cases hx : f x with
    | error e => simp [hx, bind, Except.bind] at h
    | ok y' =>
      cases hxs : xs.mapM f with
      | error e => simp [hx, hxs, bind, Except.bind] at h
      | ok ys' =>
        simp only [hx, hxs, bind, Except.bind, pure, Except.pure, Except.ok.injEq] at h
        subst h
        cases i with
        | zero => exact ⟨x, rfl, by simpa [hx] using hy⟩
        | succ i => exact ih hxs (by simpa using hy)

/-- What a server is set up with: the clusters of the configuration, and for each of its listeners
the plan that the settings of the listener make. -/
theorem ofConfig_ok {now : Instant} {c : Config} {s : Server}
    (hs : Server.ofConfig faults now c = .ok s) :
    (∃ clusters, Server.setUpClusters c.clusters = .ok clusters ∧ s.side.generations = [clusters]) ∧
      ∀ (i : Nat) (h : ListenerHandle), s.listeners[i]? = some h → ∃ l, c.listeners[i]? = some l ∧
        h.name = l.name ∧ Plan.ofListener (.routing 0) faults l = .ok h.plan := by
  unfold Server.ofConfig at hs
  cases hclusters : Server.setUpClusters c.clusters with
  | error e => simp [hclusters, bind, Except.bind] at hs
  | ok clusters =>
    cases hhandles : c.listeners.mapM (ListenerHandle.ofConfig (.routing 0) faults now) with
    | error e => simp [hclusters, hhandles, bind, Except.bind] at hs
    | ok handles =>
      simp only [hclusters, hhandles, bind, Except.bind, pure, Except.pure, Except.ok.injEq] at hs
      subst hs
      refine ⟨⟨clusters, rfl, rfl⟩, fun i h hi => ?_⟩
      obtain ⟨l, hl, hbuilt⟩ := getElem?_of_mapM_ok hhandles hi
      unfold ListenerHandle.ofConfig at hbuilt
      split at hbuilt
      · next p hp =>
        cases hbuilt
        exact ⟨l, hl, rfl, hp⟩
      · cases hbuilt

/-- At first every handle is up to date. -/
theorem start_upToDate {now : Instant} {c : Config} {s : Server} (hc : c.Valid)
    (hs : Server.ofConfig faults now c = .ok s) {i : Nat} {h : ListenerHandle}
    (hi : s.listeners[i]? = some h) :
    (start c s).UpToDate faults i := by
  obtain ⟨⟨clusters, hclusters, hgenerations⟩, hhandles⟩ := ofConfig_ok hs
  obtain ⟨l, hl, hname, hp⟩ := hhandles i h hi
  have hnodup := (Config.names_of_listenerFault?_eq_none (Option.or_eq_none_iff.1 hc).2).1
  exact ⟨h, l, hi, hname ▸ find?_name_of_nodup hnodup (List.mem_of_getElem? hl), fun _ =>
    ⟨0, h.plan, hp, .refl _, fun _ => ⟨clusters, by rw [start, hgenerations]; rfl, hclusters⟩⟩⟩

/-- Exactly when a running listener is given new settings, whatever files come. A file that is
refused changes nothing. As long as every accepted configuration has the listener, it runs what the
last one says. In general it runs what an accepted configuration says if the update concerns it or
if it was up to date before, and otherwise it stays as it is; and if the configuration before did
not have it, only other clusters concern it, whatever its settings. -/
theorem reload_rule {now : Instant} {c₀ : Config} {s₀ : Server}
    (hvalid : c₀.Valid) (hwf : c₀.WellFormed) (hs : Server.ofConfig faults now c₀ = .ok s₀) {i : Nat}
    {h₀ : ListenerHandle} (hi : s₀.listeners[i]? = some h₀) (files : List (Option Bytes)) :
    let w := run faults (start c₀ s₀) files
    (∃ p, w.server.listeners[i]? = some { h₀ with plan := p }) ∧
    ((∀ c ∈ files.filterMap accepted?, ∃ l ∈ c.listeners, l.name = h₀.name) →
      w.UpToDate faults i) ∧
    (∀ file, accepted? file = none → w.take faults file = w) ∧
    ∀ file c, accepted? file = some c →
      (w.take faults file).current = c ∧
      (c.listeners.find? (·.name == h₀.name) = none →
        (w.take faults file).server.listeners[i]? = w.server.listeners[i]?) ∧
      ∀ l, c.listeners.find? (·.name == h₀.name) = some l →
        (Server.concerns (.between w.current c) l = true → (w.take faults file).UpToDate faults i) ∧
        (w.UpToDate faults i → (w.take faults file).UpToDate faults i) ∧
        (Server.concerns (.between w.current c) l = false →
          (w.take faults file).server.listeners[i]? = w.server.listeners[i]?) ∧
        (w.current.listeners.find? (·.name == h₀.name) = none →
          Server.concerns (.between w.current c) l =
            (!Config.sameClusters w.current.clusters c.clusters && Server.sendsToHosts l)) := by
  intro w
  have hi' : (start c₀ s₀).server.listeners[i]? = some h₀ := hi
  have hwf' : (start c₀ s₀).current.WellFormed := hwf
  have hcurrent : w.current.WellFormed := run_wellFormed files hwf
  obtain ⟨p, hp⟩ := run_listeners faults files hi'
  refine ⟨⟨p, hp⟩, run_upToDate hwf' hi' (start_upToDate hvalid hs hi), fun file => take_of_refused,
    fun file c hfile => ⟨?_, fun habsent => ?_, fun l hl => ⟨?_, ?_, fun hconcerns => ?_,
      fun habsent => ?_⟩⟩⟩
  · rw [take_of_accepted hfile]
    rfl
  · exact take_kept hfile hp fun _ => Server.applyTo_of_absent habsent
  · exact take_upToDate_of_concerns hfile hp hl
  · exact take_upToDate hfile hcurrent hp hl
  · exact take_kept hfile hp fun _ => Server.applyTo_of_not_concerns hl hconcerns
  · have hname : l.name = h₀.name := by simpa using List.find?_some hl
    exact Server.concerns_of_absent (hname ▸ habsent)

/-- A listener is left out of one configuration and is back in the next with another answer: it goes
on giving the old one. -/
theorem reload_rule_listener_back :
    let faults : FileFaults := fun _ => none
    let route : Config.Route := { name := "all", directResponse := some { message := "before" } }
    let old : Config := { listeners := [{ name := "edge", address := "x", routes := [route] }] }
    let back := Bytes.ofText ("[[listeners]]\nname='edge'\naddress='x'\n" ++
      "[[listeners.routes]]\nname='all'\ndirect_response.message='after'\n")
    ∃ s c, Server.ofConfig faults 0 old = .ok s ∧ accepted? (some back) = some c ∧
      (c.listeners.map fun l => l.routes.map (·.directResponse.map (·.message))) =
        [[some "after"]] ∧
      (((run faults (start old s) [some [], some back]).server.listeners[0]?).map fun h =>
        h.plan.routes.routes.map (·.2.direct.map (·.message))) = some [some "before"] := by
  intro faults route old back
  obtain ⟨s, h, hs, hi, hname, hbefore⟩ : ∃ s h, Server.ofConfig faults 0 old = .ok s ∧
      s.listeners[0]? = some h ∧ h.name = "edge" ∧
      h.plan.routes.routes.map (·.2.direct.map (·.message)) = [some "before"] :=
    ⟨_, _, rfl, rfl, rfl, rfl⟩
  have hvalid : old.Valid := rfl
  have hwf : old.WellFormed := by simp [Config.WellFormed, Config.Listener.WellFormed, old]
  obtain ⟨c', hc', habsent⟩ : ∃ c', accepted? (some []) = some c' ∧ c'.listeners = [] :=
    ⟨_, rfl, rfl⟩
  have hcheck : ((accepted? (some back)).any fun c =>
      (c.listeners.map fun l => l.routes.map (·.directResponse.map (·.message))) ==
        [[some "after"]] &&
      (c.listeners.find? (·.name == "edge")).any (!Server.sendsToHosts ·)) = true := by
    decide +kernel
  cases hc : accepted? (some back) with
  | none => simp [hc] at hcheck
  | some c =>
    simp only [hc, Option.any_some, Bool.and_eq_true, beq_iff_eq] at hcheck
    obtain ⟨hafter, hfound⟩ := hcheck
    cases hl : c.listeners.find? (·.name == "edge") with
    | none => simp [hl] at hfound
    | some l =>
      have hsends : Server.sendsToHosts l = false := by simpa [hl] using hfound
      -- The first file leaves the listener out, and the second has it again.
      obtain ⟨-, -, -, hout⟩ := reload_rule hvalid hwf hs hi []
      obtain ⟨-, -, -, hback⟩ := reload_rule hvalid hwf hs hi [some []]
      obtain ⟨hcurrent, hkept, -⟩ := hout (some []) c' hc'
      obtain ⟨-, -, hrule⟩ := hback (some back) c hc
      obtain ⟨-, -, hstays, hnew⟩ := hrule l (by rw [hname, hl])
      have hmissing : (run faults (start old s) [some []]).current.listeners = [] :=
        (congrArg Config.listeners hcurrent).trans habsent
      have heq := hstays (by rw [hnew (by rw [hmissing]; rfl), hsends, Bool.and_false])
      have hsame : (run faults (start old s) [some [], some back]).server.listeners[0]? =
          some h := heq.trans ((hkept (by rw [habsent]; rfl)).trans hi)
      exact ⟨s, c, hs, rfl, hafter, by rw [hsame, Option.map_some, hbefore]⟩

end Watched

end RpcProxy

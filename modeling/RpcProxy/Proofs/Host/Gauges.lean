import RpcProxy.Pool.Source

/-!
# The gauges of hosts

Every host has a gauge of the requests that hold a connection to it. Two effects of an exchange move
it, one up and one down; nothing else that is done on the side of the hosts does. So what becomes of
gauges is known from these effects alone, whatever they are mixed with (`Shifts`).

`Shifts` keeps the moves in order. A gauge at zero stays there when it is moved down, so moving down
and up again is not the same as the other way round, and a sum of moves would forget which came
first. It speaks of all hosts at once, so that it composes by appending.

A host is told by its place among all hosts. What it is called plays no part, as two hosts of
different generations can have one name.
-/

set_option autoImplicit false

namespace RpcProxy

def HostRef.place (h : HostRef) : Nat × Nat × Nat := (h.generation, h.clusterIndex, h.hostIndex)

/-- Something that happens to the gauge of a host. -/
inductive GaugeMove where
  /-- A request has got a connection to the host. -/
  | up (host : HostRef)
  /-- A request holds its connection to the host no longer. -/
  | down (host : HostRef)
deriving DecidableEq, Repr

namespace GaugeMove

/-- What the gauge of `host` shows behind a move. -/
def shift (host : HostRef) (g : Gauge) : GaugeMove → Gauge
  | up h => if h.place = host.place then g.inc else g
  | down h => if h.place = host.place then g.dec else g

/-- What happens to gauges when a request that held a connection to `before` holds one to `after`.
For the same host this is nothing, and not one move down and one up. -/
def between (before after : Option HostRef) : List GaugeMove :=
  if before = after then [] else (before.map down).toList ++ (after.map up).toList

theorem between_self (h : Option HostRef) : between h h = [] := if_pos rfl

theorem between_none_left (h : Option HostRef) : between none h = (h.map up).toList := by
  cases h with
  | none => rfl
  | some h => rfl

theorem between_none_right (h : Option HostRef) : between h none = (h.map down).toList := by
  cases h with
  | none => rfl
  | some h => rfl

end GaugeMove

/-- What an effect does to gauges of hosts. -/
def Effect.gaugeMove? : Effect → Option GaugeMove
  | .hold host => some (.up host)
  | .unhold host => some (.down host)
  | _ => none

namespace Clusters

variable {cs cs' : Clusters}

def host? (cs : Clusters) (h : HostRef) : Option Host :=
  (cs.list[h.clusterIndex]?).bind (·.hosts[h.hostIndex]?)

def gauge? (cs : Clusters) (h : HostRef) : Option Gauge := (cs.host? h).map (·.active)

theorem host?_modify (cs : Clusters) (i : Nat) (f : Cluster → Cluster) (h : HostRef) :
    (cs.modify i f).host? h =
      (cs.list[h.clusterIndex]?).bind fun c =>
        (if i = h.clusterIndex then f c else c).hosts[h.hostIndex]? := by
  unfold host? modify
  rw [List.getElem?_modify]
  cases cs.list[h.clusterIndex]? with
  | none => rfl
  | some c => rfl

theorem host?_modifyHost (cs : Clusters) (h : HostRef) (f : Host → Host) (other : HostRef) :
    (cs.modifyHost h f).host? other =
      if h.clusterIndex = other.clusterIndex ∧ h.hostIndex = other.hostIndex then
        (cs.host? other).map f
      else cs.host? other := by
  unfold modifyHost
  rw [host?_modify]
  unfold host?
  cases cs.list[other.clusterIndex]? with
  | none => simp
  | some c =>
    dsimp only [Option.bind_some]
    by_cases hc : h.clusterIndex = other.clusterIndex
    · rw [if_pos hc]
      simp only [Cluster.modifyHost, List.getElem?_modify, hc, true_and]
      by_cases hi : h.hostIndex = other.hostIndex
      · simp [hi]
      · simp [hi]
    · rw [if_neg hc, if_neg fun hboth => hc hboth.1]

/-- A host is picked, and gauges show what they did. -/
theorem choose_gauge? (cs : Clusters) (generation : Nat) (name : String) (now : Instant)
    (h : HostRef) : (cs.choose generation name now).2.gauge? h = cs.gauge? h := by
  -- Choosing looks at the detectors and advances the counter; the gauges it leaves alone.
  have hlook : ∀ (c : Cluster) (i : Nat),
      ((c.choose now).2.hosts[i]?).map (·.active) = (c.hosts[i]?).map (·.active) := by
    intro c i
    have hhosts : (c.choose now).2.hosts = (c.look now).hosts := by
      unfold Cluster.choose
      dsimp only
      split
      · rfl
      · rfl
    rw [hhosts, Cluster.look, List.getElem?_map, Option.map_map]
    rfl
  have hmodify : ∀ (i : Nat) (c : Cluster), cs.list[i]? = some c →
      (cs.modify i fun _ => (c.choose now).2).gauge? h = cs.gauge? h := by
    intro i c hc
    unfold gauge?
    rw [host?_modify]
    unfold host?
    cases hcluster : cs.list[h.clusterIndex]? with
    | none => rfl
    | some d =>
      dsimp only [Option.bind_some]
      split
      · next hi =>
        subst hi
        obtain rfl := Option.some.inj (hc.symm.trans hcluster)
        exact hlook c h.hostIndex
      · rfl
  unfold choose
  split
  · rfl
  · next i _ =>
    split
    · rfl
    · next c hc =>
      dsimp only
      split
      · exact hmodify i c hc
      · exact hmodify i c hc

end Clusters

namespace HostSide

variable {σ : Type} {a b c : HostSide σ}

def gauge? (h : HostSide σ) (host : HostRef) : Option Gauge := (h.host? host).map (·.active)

theorem gauge?_eq (h : HostSide σ) (host : HostRef) :
    h.gauge? host = (h.clusters host.generation).gauge? host := rfl

/-- A gauge belongs to a host of a cluster. -/
theorem mem_of_gauge? {h : HostSide σ} {host : HostRef} {g : Gauge} (hg : h.gauge? host = some g) :
    ∃ cs ∈ h.generations, ∃ c ∈ cs.list, ∃ x ∈ c.hosts, x.active = g := by
  obtain ⟨x, hx, rfl⟩ := Option.map_eq_some_iff.mp hg
  obtain ⟨c, hc, hx⟩ := Option.bind_eq_some_iff.mp hx
  refine ⟨h.clusters host.generation, ?_, c, List.mem_of_getElem? hc, x, List.mem_of_getElem? hx, rfl⟩
  unfold clusters at hc ⊢
  rw [List.getD_eq_getElem?_getD] at hc ⊢
  cases hcs : h.generations[host.generation]? with
  | none =>
    rw [hcs] at hc
    cases hc
  | some cs => exact List.mem_of_getElem? hcs

theorem clusters_modify (h : HostSide σ) (i : Nat) (f : Clusters → Clusters) (j : Nat) :
    ({ h with generations := h.generations.modify i f } : HostSide σ).clusters j =
      if i = j ∧ j < h.generations.length then f (h.clusters j) else h.clusters j := by
  unfold clusters
  rw [List.getD_eq_getElem?_getD, List.getD_eq_getElem?_getD, List.getElem?_modify]
  by_cases hj : j < h.generations.length
  · rw [List.getElem?_eq_getElem hj]
    by_cases hi : i = j
    · simp [hi, hj]
    · simp [hi]
  · rw [List.getElem?_eq_none (Nat.not_lt.mp hj)]
    simp [hj]

theorem modifyHost_gauge? (h : HostSide σ) (host : HostRef) (f : Host → Host) (other : HostRef) :
    (h.modifyHost host f).gauge? other =
      if host.place = other.place then (h.host? other).map fun x => (f x).active
      else h.gauge? other := by
  have hplace : host.place = other.place ↔ host.generation = other.generation ∧
      host.clusterIndex = other.clusterIndex ∧ host.hostIndex = other.hostIndex := by
    unfold HostRef.place
    rw [Prod.mk.injEq, Prod.mk.injEq]
  -- A generation that is not there has no hosts.
  have hempty : ∀ {j : Nat}, ¬j < h.generations.length → ∀ r, (h.clusters j).host? r = none := by
    intro j hj r
    unfold clusters
    rw [List.getD_eq_getElem?_getD, List.getElem?_eq_none (Nat.not_lt.mp hj)]
    rfl
  rw [gauge?_eq, gauge?_eq]
  unfold modifyHost
  rw [clusters_modify]
  show _ = if host.place = other.place then
    ((h.clusters other.generation).host? other).map _ else _
  by_cases hg : host.generation = other.generation ∧ other.generation < h.generations.length
  · rw [if_pos hg, Clusters.gauge?, Clusters.host?_modifyHost]
    by_cases hi : host.clusterIndex = other.clusterIndex ∧ host.hostIndex = other.hostIndex
    · rw [if_pos hi, if_pos (hplace.mpr ⟨hg.1, hi⟩), Option.map_map]
      rfl
    · rw [if_neg hi, if_neg fun hp => hi (hplace.mp hp).2]
      rfl
  · rw [if_neg hg]
    split
    · next hp =>
      have hout : ¬other.generation < h.generations.length := fun hlt => hg ⟨(hplace.mp hp).1, hlt⟩
      rw [Clusters.gauge?, hempty hout]
      rfl
    · rfl

/-- Gauges show what they did, but for some moves. -/
def Shifts (ms : List GaugeMove) (a b : HostSide σ) : Prop :=
  ∀ host, b.gauge? host = (a.gauge? host).map fun g => ms.foldl (GaugeMove.shift host) g

theorem Shifts.same (h : ∀ host, b.gauge? host = a.gauge? host) : Shifts [] a b := by
  intro host
  rw [h]
  exact Option.map_id'.symm

theorem Shifts.refl (a : HostSide σ) : Shifts [] a a := .same fun _ => rfl

theorem Shifts.trans {ms ns : List GaugeMove} (h₁ : Shifts ms a b) (h₂ : Shifts ns b c) :
    Shifts (ms ++ ns) a c := by
  intro host
  rw [h₂, h₁, Option.map_map]
  simp only [Function.comp_def, List.foldl_append]

theorem apply_shifts (source : PoolSource σ) (ref : RouterRef) (now : Instant) (e : Effect)
    (h : HostSide σ) : Shifts e.gaugeMove?.toList h (h.apply source ref now e).2 := by
  cases e with
  | report host' result =>
    refine .same fun host => (modifyHost_gauge? h host' _ host).trans ?_
    split
    · rfl
    · rfl
  | hold host' | unhold host' =>
    intro host
    refine (modifyHost_gauge? h host' _ host).trans ?_
    unfold gauge?
    simp only [Effect.gaugeMove?, Option.toList_some, List.foldl_cons, List.foldl_nil,
      GaugeMove.shift, Option.map_map, Function.comp_def]
    split
    · rfl
    · rfl
  | count | link | startCall | beginCall | startResponse | resume | localReply | resetConnection
  | resetStream | addSize => exact .refl h

/-! ## What leaves pools and gauges alone -/

/-- Pools and gauges are the same. -/
structure Alike (a b : HostSide σ) : Prop where
  pools : b.pools = a.pools
  gauges : ∀ host, b.gauge? host = a.gauge? host

theorem Alike.refl (a : HostSide σ) : Alike a a := ⟨rfl, fun _ => rfl⟩

theorem Alike.trans (h₁ : Alike a b) (h₂ : Alike b c) : Alike a c where
  pools := h₂.pools.trans h₁.pools
  gauges host := (h₂.gauges host).trans (h₁.gauges host)

/-- A host is picked for a call. -/
theorem Alike.chosen (h : HostSide σ) (generation : Nat) (name : String) (now : Instant) :
    Alike h { h with generations := h.generations.modify generation fun _ =>
      ((h.clusters generation).choose generation name now).2 } where
  pools := rfl
  gauges host := by
    rw [gauge?_eq, gauge?_eq, clusters_modify]
    split
    · next hg =>
      rw [← hg.1]
      exact Clusters.choose_gauge? _ generation name now host
    · rfl

theorem ask_shifts (source : PoolSource σ) (cluster : Config.Cluster) (host : HostRef)
    (ref : RouterRef) (h : HostSide σ) : Shifts [] h (h.ask source cluster host ref).2 := by
  have hcount : ∀ (events : List RouterEvent) (h : HostSide σ),
      Shifts [] h (events.foldl HostSide.count h) := by
    intro events
    induction events with
    | nil => exact .refl
    | cons e rest ih => exact fun h => (Shifts.same fun _ => rfl).trans (ih (h.count e))
  exact (Shifts.same fun _ => rfl).trans (hcount _ _)

theorem foldl_count_pools (events : List RouterEvent) (h : HostSide σ) :
    (events.foldl HostSide.count h).pools = h.pools := by
  induction events generalizing h with
  | nil => rfl
  | cons e rest ih => exact ih (h.count e)

end HostSide

end RpcProxy

import RpcProxy.Proofs.Host.Ejection

/-!
# Looking at a host does not change its fate

Whether an ejection is over is noticed only when somebody looks, and who looks changes the detector:
an ejected host becomes one on probation. It makes no difference. Everything that is done with a
detector begins with a look, and of two looks only the later one counts (`look_look`). So a detector
that was looked at in between, any number of times, stands at any later time where it would stand
otherwise, and so does every host of a cluster, where picking a host is a look at all of them
(`fate_kept`).

Two detectors are not compared by their fields, which do differ once one of them was looked at, but
by what a look shows from now on (`Alike`). Anything that is reported then makes them equal, since
it looks first. Between two reports they may be as different as they like.
-/

set_option autoImplicit false

namespace RpcProxy

namespace Detector

/-! ## What happens to a detector -/

/-- Something that is done with a detector. -/
inductive Call where
  /-- An outcome is reported. -/
  | put (r : HostResult)
  /-- Somebody asks for the health of the host. -/
  | health
  /-- Somebody asks whether the host is ejected. -/
  | ejected
  /-- Somebody asks for the health and for all counters. -/
  | stats
deriving DecidableEq, Repr

/-- Whether something is done besides looking. -/
def Call.isDeed : Call → Bool
  | .put _ => true
  | .health | .ejected | .stats => false

/-- Does something with a detector. Whatever somebody asks for, the answer is read off the detector
after a look. -/
def call (d : Detector) (now : Instant) : Call → Detector
  | .put r => d.put r now
  | .health | .ejected | .stats => d.look now

/-- Something that happens to a detector. -/
inductive Happening where
  /-- Time passes, in nanoseconds. -/
  | pass (nanos : Nat)
  /-- Something is done with the detector. -/
  | call (c : Call)
deriving DecidableEq, Repr

/-- Whether something happens besides looking. -/
def Happening.isDeed : Happening → Bool
  | .pass _ => true
  | .call c => c.isDeed

/-- A detector with the time. -/
structure Timed where
  detector : Detector
  now : Instant

namespace Timed

/-- Something happens to a detector. -/
def step (w : Timed) : Happening → Timed
  | .pass nanos => { w with now := w.now + nanos }
  | .call c => { w with detector := w.detector.call w.now c }

/-- Several things happen to a detector, one after another. -/
def after (w : Timed) (hs : List Happening) : Timed := hs.foldl step w

end Timed

/-- Two detectors that nobody can tell apart from now on: at any later time both are in the same
health, both are ejected or none is, and both show the same counters. -/
structure SameFate (now : Instant) (d d' : Detector) : Prop where
  health : ∀ t, now ≤ t → (d.look t).health = (d'.look t).health
  isEjected : ∀ t, now ≤ t → d.isEjected t = d'.isEjected t
  ejections : d.ejections = d'.ejections
  requestFailures : d.requestFailures = d'.requestFailures
  connectFailures : d.connectFailures = d'.connectFailures

/-! ## Two looks -/

variable {d d' : Detector} {s t now : Instant}

/-- An ejection that is over stays so. -/
theorem expired_mono (h : s ≤ t) (hs : d.expired s = true) : d.expired t = true := by
  unfold expired at hs ⊢
  cases hat : d.ejectedAt with
  | none => simp [hat] at hs
  | some ejected =>
    simp only [hat, ge_iff_le, decide_eq_true_eq] at hs ⊢
    exact Nat.le_trans hs (Nat.sub_le_sub_right h ejected)

/-- Only the later of two looks counts. -/
theorem look_look (d : Detector) (h : s ≤ t) : (d.look s).look t = d.look t := by
  by_cases hover : (d.health = .ejected && d.expired s) = true
  · obtain ⟨hejected, hs⟩ := by simpa using hover
    have hfirst : d.look s = { d with health := .probing } := if_pos hover
    have hsecond : d.look t = { d with health := .probing } :=
      if_pos (by simp [hejected, expired_mono h hs])
    rw [hfirst, hsecond]
    exact if_neg (by simp)
  · rw [show d.look s = d from if_neg hover]

theorem look_counters (d : Detector) (t : Instant) :
    (d.look t).ejections = d.ejections ∧ (d.look t).requestFailures = d.requestFailures ∧
      (d.look t).connectFailures = d.connectFailures := by
  unfold look
  split
  · exact ⟨rfl, rfl, rfl⟩
  · exact ⟨rfl, rfl, rfl⟩

/-- Two detectors that are the same to whoever looks from now on. -/
def Alike (now : Instant) (d d' : Detector) : Prop := ∀ t, now ≤ t → d.look t = d'.look t

theorem Alike.sameFate (h : Alike now d d') : SameFate now d d' := by
  obtain ⟨hejections, hrequests, hconnects⟩ := d.look_counters now
  obtain ⟨hejections', hrequests', hconnects'⟩ := d'.look_counters now
  have hnow := h now (Nat.le_refl now)
  refine ⟨fun t ht => by rw [h t ht], fun t ht => ?_, ?_, ?_, ?_⟩
  · show ((d.look t).health == .ejected) = ((d'.look t).health == .ejected)
    rw [h t ht]
  · rw [← hejections, ← hejections', hnow]
  · rw [← hrequests, ← hrequests', hnow]
  · rw [← hconnects, ← hconnects', hnow]

/-- What is reported to detectors that are alike makes them the same. -/
theorem Alike.deed {c : Call} (h : Alike now d d') (hdeed : c.isDeed = true) :
    d.call now c = d'.call now c := by
  cases c with
  | put r =>
    show (if r.isSuccess then (d.look now).succeed else (d.look now).fail r.isLocal now) =
      if r.isSuccess then (d'.look now).succeed else (d'.look now).fail r.isLocal now
    rw [h now (Nat.le_refl now)]
  | health | ejected | stats => cases hdeed

/-- A detector that somebody has looked at is alike to what it was. -/
theorem Alike.looked {c : Call} (h : Alike now d d') (hlook : c.isDeed = false) :
    Alike now (d.call now c) d' := by
  have hcall : d.call now c = d.look now := by
    cases c with
    | put => cases hlook
    | health | ejected | stats => rfl
  rw [hcall]
  exact fun t ht => (d.look_look ht).trans (h t ht)

/-- Looks in between leave no trace. -/
theorem Timed.after_alike (hs : List Happening) (h : Alike now d d') :
    let w := after ⟨d, now⟩ hs
    let w' := after ⟨d', now⟩ (hs.filter Happening.isDeed)
    w.now = w'.now ∧ Alike w.now w.detector w'.detector := by
  induction hs generalizing d d' now with
  | nil => exact ⟨rfl, h⟩
  | cons happening rest ih =>
    cases happening with
    | pass nanos => exact ih fun t ht => h t (Nat.le_trans (Nat.le_add_right now nanos) ht)
    | call c =>
      cases hdeed : c.isDeed with
      | true =>
        have hkept : (Happening.call c :: rest).filter Happening.isDeed =
            .call c :: rest.filter Happening.isDeed := List.filter_cons_of_pos hdeed
        rw [hkept]
        exact ih fun t _ => congrArg (look · t) (h.deed hdeed)
      | false =>
        have hgone : (Happening.call c :: rest).filter Happening.isDeed =
            rest.filter Happening.isDeed := List.filter_cons_of_neg (Bool.eq_false_iff.mp hdeed)
        rw [hgone]
        exact ih (h.looked hdeed)

end Detector

/-! ## Clusters -/

namespace Cluster

/-- Something that happens to a cluster. -/
inductive Happening where
  /-- Time passes, in nanoseconds. -/
  | pass (nanos : Nat)
  /-- A host is picked. -/
  | choose
  /-- Something is done with the detector of the host at a place. -/
  | call (place : Nat) (c : Detector.Call)
deriving DecidableEq, Repr

/-- Whether something happens besides looking and picking. -/
def Happening.isDeed : Happening → Bool
  | .pass _ => true
  | .choose => false
  | .call _ c => c.isDeed

/-- What happens to the host at a place. When a host is picked, somebody asks of every host whether
it is ejected. -/
def Happening.at? (place : Nat) : Happening → Option Detector.Happening
  | .pass nanos => some (.pass nanos)
  | .choose => some (.call .ejected)
  | .call other c => if other = place then some (.call c) else none

/-- A cluster with the time. -/
structure Timed where
  cluster : Cluster
  now : Instant

namespace Timed

/-- Something happens to a cluster. -/
def step (w : Timed) : Happening → Timed
  | .pass nanos => { w with now := w.now + nanos }
  | .choose => { w with cluster := (w.cluster.choose w.now).2 }
  | .call place c =>
    { w with cluster := w.cluster.modifyHost place fun h =>
        { h with detector := h.detector.call w.now c } }

/-- Several things happen to a cluster, one after another. -/
def after (w : Timed) (hs : List Happening) : Timed := hs.foldl step w

end Timed

def detector? (c : Cluster) (place : Nat) : Option Detector := (c.hosts[place]?).map (·.detector)

/-- Whatever comes of it, picking a host looks at all of them. -/
theorem choose_detector? (c : Cluster) (now : Instant) (place : Nat) :
    (c.choose now).2.detector? place = (c.detector? place).map (·.look now) := by
  have hhosts : (c.choose now).2.hosts = (c.look now).hosts := by
    unfold choose
    dsimp only
    split
    · rfl
    · rfl
  unfold detector?
  rw [hhosts, look, List.getElem?_map, Option.map_map, Option.map_map]
  rfl

theorem modifyHost_detector? (c : Cluster) (other place : Nat) (f : Detector → Detector) :
    (c.modifyHost other fun h => { h with detector := f h.detector }).detector? place =
      (c.detector? place).map (if other = place then f else id) := by
  unfold detector? modifyHost
  rw [List.getElem?_modify]
  by_cases hplace : other = place
  · simp [hplace, Function.comp_def]
  · simp [hplace]

/-- A detector after what happens to a cluster, as the detector of the host at a place. -/
def Timed.lived (place : Nat) (now : Instant) (hs : List Happening) (d : Detector) : Detector.Timed :=
  .after ⟨d, now⟩ (hs.filterMap (Happening.at? place))

/-- A detector of a cluster lives through what happens to its host. -/
theorem Timed.after_detector? (w : Timed) (hs : List Happening) (place : Nat) :
    (w.after hs).cluster.detector? place =
        (w.cluster.detector? place).map (fun d => (lived place w.now hs d).detector) ∧
      ∀ d, (w.after hs).now = (lived place w.now hs d).now := by
  induction hs generalizing w with
  | nil => exact ⟨Option.map_id'.symm, fun _ => rfl⟩
  | cons happening rest ih =>
    cases happening with
    | pass nanos => exact ih (w.step (.pass nanos))
    | choose =>
      obtain ⟨hdetector, hnow⟩ := ih (w.step .choose)
      refine ⟨hdetector.trans ?_, fun d => hnow (d.look w.now)⟩
      show ((w.cluster.choose w.now).2.detector? place).map _ = _
      rw [choose_detector?, Option.map_map]
      rfl
    | call other c =>
      obtain ⟨hdetector, hnow⟩ := ih (w.step (.call other c))
      have hstep : (w.step (.call other c)).cluster.detector? place = _ :=
        modifyHost_detector? w.cluster other place (·.call w.now c)
      rw [hstep, Option.map_map] at hdetector
      -- A call at another place does nothing here.
      by_cases hplace : other = place
      · have hlived : (Happening.call other c :: rest).filterMap (Happening.at? place) =
            .call c :: rest.filterMap (Happening.at? place) :=
          List.filterMap_cons_some (if_pos hplace)
        unfold lived
        rw [hlived]
        rw [if_pos hplace] at hdetector
        exact ⟨hdetector, fun d => hnow (d.call w.now c)⟩
      · have hlived : (Happening.call other c :: rest).filterMap (Happening.at? place) =
            rest.filterMap (Happening.at? place) := List.filterMap_cons_none (if_neg hplace)
        unfold lived
        rw [hlived]
        rw [if_neg hplace] at hdetector
        exact ⟨hdetector, hnow⟩

/-- What a host lives through if nobody looks: the same deeds. -/
theorem filterMap_filter_isDeed (place : Nat) (hs : List Happening) :
    (hs.filter Happening.isDeed).filterMap (Happening.at? place) =
      (hs.filterMap (Happening.at? place)).filter Detector.Happening.isDeed := by
  rw [List.filterMap_filter, List.filter_filterMap]
  refine congrArg (List.filterMap · hs) (funext fun happening => ?_)
  cases happening with
  | pass nanos => rfl
  | choose => rfl
  | call other c =>
    have hat : Happening.at? place (.call other c) =
        if other = place then some (.call c) else none := rfl
    rw [hat]
    by_cases hplace : other = place
    · rw [if_pos hplace, Option.filter_some]
      rfl
    · rw [if_neg hplace, Option.filter_none, ite_self]

/-- Looking at a host changes nothing about what becomes of it: a detector that was asked for
anything in between has the same fate as without, and so has each host of a cluster of which hosts
were picked in between. -/
theorem fate_kept :
    (∀ (d : Detector) (now : Instant) (hs : List Detector.Happening),
      let w := Detector.Timed.after ⟨d, now⟩ hs
      let w' := Detector.Timed.after ⟨d, now⟩ (hs.filter Detector.Happening.isDeed)
      w.now = w'.now ∧ w.detector.SameFate w.now w'.detector) ∧
    ∀ (c : Cluster) (now : Instant) (hs : List Happening),
      let w := Timed.after ⟨c, now⟩ hs
      let w' := Timed.after ⟨c, now⟩ (hs.filter Happening.isDeed)
      w.now = w'.now ∧ ∀ place, Option.Rel (Detector.SameFate w.now) (w.cluster.detector? place)
        (w'.cluster.detector? place) := by
  constructor
  · intro d now hs
    obtain ⟨hnow, halike⟩ := Detector.Timed.after_alike hs (fun t _ => rfl : d.Alike now d)
    exact ⟨hnow, halike.sameFate⟩
  · intro c now hs w w'
    -- Each host lives through what happens at its own place, and choosing is a look at all of them.
    have hlived : ∀ place d, w.now = w'.now ∧ Detector.SameFate w.now
        (Timed.lived place now hs d).detector
        (Timed.lived place now (hs.filter Happening.isDeed) d).detector := by
      intro place d
      obtain ⟨hnow, halike⟩ := Detector.Timed.after_alike (hs.filterMap (Happening.at? place))
        (fun t _ => rfl : d.Alike now d)
      rw [← filterMap_filter_isDeed] at hnow halike
      have hw : w.now = _ := (Timed.after_detector? ⟨c, now⟩ hs place).2 d
      have hw' : w'.now = _ :=
        (Timed.after_detector? ⟨c, now⟩ (hs.filter Happening.isDeed) place).2 d
      rw [hw, hw']
      exact ⟨hnow, halike.sameFate⟩
    refine ⟨(hlived 0 default).1, fun place => ?_⟩
    have hw : w.cluster.detector? place = _ := (Timed.after_detector? ⟨c, now⟩ hs place).1
    have hw' : w'.cluster.detector? place = _ :=
      (Timed.after_detector? ⟨c, now⟩ (hs.filter Happening.isDeed) place).1
    rw [hw, hw']
    cases c.detector? place with
    | none => exact .none
    | some d => exact .some (hlived place d).2

end Cluster

end RpcProxy

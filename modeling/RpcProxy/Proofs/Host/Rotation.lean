import RpcProxy.Proofs.Host.Looks
import Mathlib.Data.List.Perm.Basic
import Mathlib.Order.Interval.Finset.Nat

/-!
# Requests go round

The counter of a cluster goes up with every choice, and its remainder by the number of hosts that
are not ejected picks one of them. That number changes as hosts are ejected and come back, so over
long runs there is no law. But while the same hosts serve, the counter runs through consecutive
numbers, their remainders run through all places in the list of these hosts (`picked_eq`), and as
many choices as there are hosts pick each of them once (`goes_round`).

The counter is not reset when hosts come or go, so a stretch of choices may begin anywhere in the
list. That is why the statement is about a permutation of the hosts and not about their order. It
may also go round at `2 ^ 64`, in the middle of such a stretch, and then the places of two choices
in a row need not be neighbours; the statement leaves that out by asking for room.
-/

set_option autoImplicit false

namespace RpcProxy.Cluster

variable {c c' : Cluster} {now now' : Instant}

/-! ## One choice -/

/-- Whether there is a host at a place and it is not ejected. -/
def Serves (c : Cluster) (now : Instant) (place : Nat) : Prop :=
  ∃ d, c.detector? place = some d ∧ d.isEjected now = false

theorem mem_eligible {place : Nat} : place ∈ c.eligible now ↔ c.Serves now place := by
  unfold eligible Serves detector?
  rw [List.mem_filter, List.mem_range]
  cases hhost : c.hosts[place]? with
  | none => simp
  | some h =>
    obtain ⟨hlt, -⟩ := List.getElem?_eq_some_iff.1 hhost
    simp [hlt]

theorem eligible_nodup (c : Cluster) (now : Instant) : (c.eligible now).Nodup :=
  List.nodup_range.filter _

theorem eligible_eq_nil_iff :
    c.eligible now = [] ↔ ∀ h ∈ c.hosts, h.detector.isEjected now = true := by
  rw [List.eq_nil_iff_forall_not_mem]
  constructor
  · intro hnone h hmem
    obtain ⟨place, hplace⟩ := List.getElem?_of_mem hmem
    by_contra hejected
    exact hnone place (mem_eligible.2 ⟨h.detector, by simp [detector?, hplace],
      Bool.eq_false_iff.2 hejected⟩)
  · intro hall place hmem
    obtain ⟨d, hd, hserves⟩ := mem_eligible.1 hmem
    obtain ⟨h, hplace, rfl⟩ := Option.map_eq_some_iff.1 hd
    simp [hall h (List.mem_of_getElem? hplace)] at hserves

/-- The list of places that are picked from depends only on which hosts serve. -/
theorem eligible_congr (hlength : c.hosts.length = c'.hosts.length)
    (h : ∀ place, c.Serves now place ↔ c'.Serves now' place) :
    c.eligible now = c'.eligible now' := by
  have hnow : ∀ place, place ∈ c.eligible now ↔ place ∈ c'.eligible now' := fun place =>
    mem_eligible.trans ((h place).trans mem_eligible.symm)
  unfold eligible at hnow ⊢
  rw [hlength] at hnow ⊢
  refine List.filter_congr fun place hplace => Bool.eq_iff_iff.2 ?_
  simpa only [List.mem_filter, and_iff_right hplace] using hnow place

theorem choose_cases (c : Cluster) (now : Instant) :
    (c.eligible now = [] ∧ (c.choose now).1 = .error (.noHealthyHost c.name) ∧
      (c.choose now).2.counter = c.counter) ∨
    ∃ place, (c.eligible now)[c.counter.toNat % (c.eligible now).length]? = some place ∧
      (c.choose now).1 = .ok place ∧ (c.choose now).2.counter = c.counter + 1 := by
  unfold choose
  cases hplaces : c.eligible now with
  | nil => exact .inl ⟨rfl, rfl, rfl⟩
  | cons i is =>
    have hlt : c.counter.toNat % (i :: is).length < (i :: is).length :=
      Nat.mod_lt _ (Nat.succ_pos _)
    refine .inr ⟨_, ?_, rfl, rfl⟩
    rw [List.getD_eq_getElem?_getD, List.getElem?_eq_getElem hlt, Option.getD_some]

theorem choose_frame (c : Cluster) (now : Instant) :
    (c.choose now).2.name = c.name ∧ (c.choose now).2.hosts.length = c.hosts.length := by
  have hlook : (c.look now).hosts.length = c.hosts.length := List.length_map _
  unfold choose
  cases c.eligible now with
  | nil => exact ⟨rfl, hlook⟩
  | cons i is => exact ⟨rfl, hlook⟩

/-! ## Choices in a row -/

/-- A choice, with the cluster and the time just before. -/
structure Pick where
  moment : Timed
  answer : Except RouteError Nat

/-- A choice as it should be. -/
structure Pick.Just (name : String) (p : Pick) : Prop where
  /-- It fails when all hosts are ejected, and only then. -/
  fails_iff : p.answer = .error (.noHealthyHost name) ↔
    ∀ h ∈ p.moment.cluster.hosts, h.detector.isEjected p.moment.now = true
  /-- It fails in no other way, and a choice that fails is not counted. -/
  error : ∀ e, p.answer = .error e → e = .noHealthyHost name ∧
    (p.moment.step .choose).cluster.counter = p.moment.cluster.counter
  serves : ∀ place, p.answer = .ok place → p.moment.cluster.Serves p.moment.now place

namespace Timed

/-- Every choice while things happen to a cluster, in order. -/
def picks (w : Timed) : List Happening → List Pick
  | [] => []
  | .choose :: hs =>
    { moment := w, answer := (w.cluster.choose w.now).1 } :: (w.step .choose).picks hs
  | e :: hs => (w.step e).picks hs

/-- The places that are picked, in order. -/
def picked (w : Timed) (hs : List Happening) : List Nat :=
  (w.picks hs).filterMap (·.answer.toOption)

variable {w : Timed}

theorem step_name (w : Timed) (e : Happening) : (w.step e).cluster.name = w.cluster.name := by
  cases e with
  | pass | call => rfl
  | choose => exact (w.cluster.choose_frame w.now).1

theorem step_length (w : Timed) (e : Happening) :
    (w.step e).cluster.hosts.length = w.cluster.hosts.length := by
  cases e with
  | pass => rfl
  | call place c => exact List.length_modify _ _ _
  | choose => exact (w.cluster.choose_frame w.now).2

theorem just (w : Timed) :
    Pick.Just w.cluster.name { moment := w, answer := (w.cluster.choose w.now).1 } := by
  obtain ⟨hnone, hanswer, hcounter⟩ | ⟨place, hplace, hanswer, -⟩ := choose_cases w.cluster w.now
  · have hejected := eligible_eq_nil_iff.1 hnone
    refine ⟨iff_of_true hanswer hejected, fun e he => ?_, fun place he => ?_⟩
    · exact ⟨Except.error.inj (he.symm.trans hanswer), hcounter⟩
    · cases he.symm.trans hanswer
  · have hmem : place ∈ w.cluster.eligible w.now := List.mem_of_getElem? hplace
    have hnot : ¬ ∀ h ∈ w.cluster.hosts, h.detector.isEjected w.now = true := fun hejected =>
      absurd (eligible_eq_nil_iff.2 hejected) (List.ne_nil_of_mem hmem)
    refine ⟨iff_of_false (fun he => ?_) hnot, fun e he => ?_, fun other he => ?_⟩
    · cases he.symm.trans hanswer
    · cases he.symm.trans hanswer
    · exact mem_eligible.1 (Except.ok.inj (hanswer.symm.trans he) ▸ hmem)

theorem picks_just (w : Timed) (hs : List Happening) : ∀ p ∈ w.picks hs, p.Just w.cluster.name := by
  induction hs generalizing w with
  | nil => exact fun p hp => nomatch hp
  | cons e hs ih =>
    have hrest := step_name w e ▸ ih (w.step e)
    cases e with
    | pass | call => exact hrest
    | choose =>
      intro p hp
      cases List.mem_cons.1 hp with
      | inl h => exact h ▸ w.just
      | inr h => exact hrest p h

theorem picks_length (w : Timed) (hs : List Happening) :
    ∀ p ∈ w.picks hs, p.moment.cluster.hosts.length = w.cluster.hosts.length := by
  induction hs generalizing w with
  | nil => exact fun p hp => nomatch hp
  | cons e hs ih =>
    have hrest := step_length w e ▸ ih (w.step e)
    cases e with
    | pass | call => exact hrest
    | choose =>
      intro p hp
      cases List.mem_cons.1 hp with
      | inl h => exact h ▸ rfl
      | inr h => exact hrest p h

/-- While the same hosts serve, choices go through the list of them in order and begin anew behind
its end. -/
theorem picked_eq {places : List Nat} {n : Nat} (hs : List Happening)
    (hsame : ∀ p ∈ w.picks hs, p.moment.cluster.eligible p.moment.now = places)
    (hcounter : w.cluster.counter = UInt64.ofNat n)
    (hwrap : n + (w.picked hs).length ≤ UInt64.size) :
    (w.picked hs).map some =
      (List.range' n (w.picked hs).length).map fun m => places[m % places.length]? := by
  induction hs generalizing w n with
  | nil => rfl
  | cons e hs ih =>
    cases e with
    | pass nanos => exact ih (w := w.step (.pass nanos)) hsame hcounter hwrap
    | call place c => exact ih (w := w.step (.call place c)) hsame hcounter hwrap
    | choose =>
      have hplaces : w.cluster.eligible w.now = places := hsame ⟨w, _⟩ List.mem_cons_self
      have hrest : ∀ p ∈ (w.step .choose).picks hs, _ := fun p hp =>
        hsame p (List.mem_cons_of_mem _ hp)
      obtain ⟨-, hanswer, hcount⟩ | ⟨place, hplace, hanswer, hcount⟩ :=
        choose_cases w.cluster w.now
      · have hpicked : w.picked (.choose :: hs) = (w.step .choose).picked hs :=
          List.filterMap_cons_none (congrArg Except.toOption hanswer)
        rw [hpicked] at hwrap ⊢
        exact ih hrest (hcount.trans hcounter) hwrap
      · have hpicked : w.picked (.choose :: hs) = place :: (w.step .choose).picked hs :=
          List.filterMap_cons_some (congrArg Except.toOption hanswer)
        rw [hpicked, List.length_cons] at hwrap ⊢
        -- The counter has not wrapped, so that it stands at the number of picks.
        have hn : w.cluster.counter.toNat = n := by
          rw [hcounter]
          exact UInt64.toNat_ofNat_of_lt (by omega)
        have hnext : (w.step .choose).cluster.counter = UInt64.ofNat (n + 1) := by
          rw [UInt64.ofNat_add, ← hcounter]
          exact hcount
        rw [List.map_cons, List.range'_succ, List.map_cons, ih hrest hnext (by omega), ← hplace,
          hplaces, hn]

/-- Consecutive numbers have all remainders. -/
theorem map_mod_perm {α : Type} (places : List α) (n : Nat) :
    ((List.range' n places.length).map fun m => places[m % places.length]?).Perm
      (places.map some) := by
  have hmod : ((List.range' n places.length).map (· % places.length)).Perm
      (List.range places.length) := by
    have h := Nat.multiset_Ico_map_mod n places.length
    rw [Multiset.Ico, Nat.Ico_eq_range', Multiset.map_coe, Nat.add_sub_cancel_left] at h
    exact Multiset.coe_eq_coe.1 h
  have hall : (List.range places.length).map (places[·]?) = places.map some :=
    List.ext_getElem (by simp) fun i h₁ h₂ => by simp
  calc ((List.range' n places.length).map fun m => places[m % places.length]?)
      = ((List.range' n places.length).map (· % places.length)).map (places[·]?) :=
        List.map_map.symm
    List.Perm _ ((List.range places.length).map (places[·]?)) := hmod.map _
    _ = places.map some := hall

theorem picked_perm {places : List Nat} (hs : List Happening)
    (hsame : ∀ p ∈ w.picks hs, p.moment.cluster.eligible p.moment.now = places)
    (hcount : (w.picked hs).length = places.length)
    (hwrap : w.cluster.counter.toNat + places.length ≤ UInt64.size) :
    (w.picked hs).Perm places := by
  have heq := picked_eq hs hsame UInt64.ofNat_toNat.symm (hcount ▸ hwrap)
  rw [hcount] at heq
  exact (List.map_perm_map_iff (Option.some_injective Nat)).1 (heq ▸ map_mod_perm places _)

end Timed

/-- Requests go round among the hosts that serve. Whatever happens to a cluster, a choice fails when
all hosts are ejected and only then, is not counted when it fails, and picks a host that serves when
it does not. And whenever the hosts that serve stay the same during as many successful choices as
there are such hosts, and the counter does not run over, each of them is picked once. -/
theorem goes_round (c : Cluster) (now : Instant) (hs : List Happening) :
    (∀ p ∈ Timed.picks ⟨c, now⟩ hs, p.Just c.name) ∧
    ∀ before window after, hs = before ++ window ++ after →
      let w := Timed.after ⟨c, now⟩ before
      ∀ serving : Finset Nat,
        (∀ p ∈ w.picks window, ∀ place,
          p.moment.cluster.Serves p.moment.now place ↔ place ∈ serving) →
        (w.picked window).length = serving.card →
        w.cluster.counter.toNat + serving.card ≤ UInt64.size →
        (w.picked window).Nodup ∧ ∀ place, place ∈ w.picked window ↔ place ∈ serving := by
  refine ⟨Timed.picks_just ⟨c, now⟩ hs, ?_⟩
  intro before window _ _ w serving hserving hcount hwrap
  cases hpicks : w.picks window with
  | nil =>
    have hpicked : w.picked window = [] := congrArg (List.filterMap _) hpicks
    rw [hpicked] at hcount ⊢
    rw [Finset.card_eq_zero.1 hcount.symm]
    simp
  | cons p ps =>
    have hp : p ∈ w.picks window := hpicks ▸ List.mem_cons_self
    have hsame : ∀ q ∈ w.picks window,
        q.moment.cluster.eligible q.moment.now = p.moment.cluster.eligible p.moment.now := by
      intro q hq
      refine eligible_congr ?_ fun place => (hserving q hq place).trans (hserving p hp place).symm
      rw [Timed.picks_length w window q hq, Timed.picks_length w window p hp]
    have hplaces : ∀ place, place ∈ p.moment.cluster.eligible p.moment.now ↔ place ∈ serving :=
      fun place => mem_eligible.trans (hserving p hp place)
    have hlength : (p.moment.cluster.eligible p.moment.now).length = serving.card := by
      rw [← List.toFinset_card_of_nodup (eligible_nodup _ _)]
      exact congrArg Finset.card (Finset.ext fun place => by simp [hplaces])
    have hperm := Timed.picked_perm window hsame (hcount.trans hlength.symm) (hlength ▸ hwrap)
    exact ⟨hperm.nodup_iff.2 (eligible_nodup _ _), fun place => hperm.mem_iff.trans (hplaces place)⟩

/-- Three hosts, of which the one in the middle is ejected: the first choices go to and fro between
the other two, and once it is back three choices reach all of them. -/
theorem goes_round_three_hosts :
    let c : Cluster := {
      config := { name := "users", hosts := ["a:1", "b:1", "c:1"] }
      hosts := ["a:1", "b:1", "c:1"].map fun address => {
        address, cluster := "users"
        detector := { settings := { consecutiveLocalFailures := 1, baseEjectionMillis := 10 } } } }
    let before : List Happening := [.call 1 (.put .connectFailed), .choose, .choose, .pass (10 * milli)]
    let window : List Happening := [.choose, .call 0 (.put .requestFailed), .choose, .choose]
    let w := Timed.after ⟨c, 0⟩ before
    (Timed.picked ⟨c, 0⟩ before = [0, 2] ∧ w.picked window = [2, 0, 1]) ∧
      (∀ p ∈ w.picks window, ∀ place, p.moment.cluster.Serves p.moment.now place ↔
        place ∈ ({0, 1, 2} : Finset Nat)) ∧
      (w.picked window).length = ({0, 1, 2} : Finset Nat).card ∧
      w.cluster.counter.toNat + ({0, 1, 2} : Finset Nat).card ≤ UInt64.size ∧
      (w.picked window).Nodup ∧ ∀ place, place ∈ w.picked window ↔ place ∈ ({0, 1, 2} : Finset Nat) := by
  intro c before window w
  have hserving : ∀ p ∈ w.picks window, ∀ place, p.moment.cluster.Serves p.moment.now place ↔
      place ∈ ({0, 1, 2} : Finset Nat) := by
    intro p hp place
    have hplaces : ∀ p ∈ w.picks window, p.moment.cluster.eligible p.moment.now = [0, 1, 2] := by
      decide +kernel
    rw [← mem_eligible, hplaces p hp]
    simp
  have hcount : (w.picked window).length = ({0, 1, 2} : Finset Nat).card := by decide +kernel
  have hwrap : w.cluster.counter.toNat + ({0, 1, 2} : Finset Nat).card ≤ UInt64.size := by
    decide +kernel
  have hround := (goes_round c 0 (before ++ window)).2 before window [] (List.append_nil _).symm
    {0, 1, 2} hserving hcount hwrap
  exact ⟨by decide +kernel, hserving, hcount, hwrap, hround⟩

end RpcProxy.Cluster

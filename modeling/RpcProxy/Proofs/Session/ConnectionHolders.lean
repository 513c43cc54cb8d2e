import Mathlib.Data.List.Flatten
import Mathlib.Data.List.Nodup
import RpcProxy.Proofs.Session.RouterShares

/-!
# Who holds connections to a host

The routers of a session that hold a connection to a host are listed (`holders`), and their number
is compared with what the host's gauge shows. Others may hold connections to the same host, so the
gauge shows the number of both together (`GaugesCount`).

Every move changes what one router holds, or nothing at all, and moves gauges to match
(`MovesGauges`). Where a gauge is moved down there is somebody who is counted in it, so it does not
stand at zero; where it is moved up there is room for one more, as long as the filters that are
there at a time can be counted.

The room has to be shown since a gauge is a number of 64 bits that stops at zero but not at its
other end. A bound on streams in flight would not do: a stream that is over is kept for a while, and
its routers with it. What is bounded is the number of filters of all streams that are kept, by the
number of streams that have begun (`Proceeds`), and that is known from the requests.
-/

set_option autoImplicit false

namespace RpcProxy

/-! ## Counting

A gauge goes up and down by one, and wraps. That it shows a number needs room above and a unit
below. -/

/-- Two lists that differ in one entry at most differ in length by that entry. Holders are compared
before and behind a move by this, without a look at how the lists come about. -/
theorem length_add_of_mem_iff {α : Type} [DecidableEq α] {l l' : List α} (hl : l.Nodup)
    (hl' : l'.Nodup) (a : α) (h : ∀ b, b ≠ a → (b ∈ l' ↔ b ∈ l)) :
    l'.length + (decide (a ∈ l)).toNat = l.length + (decide (a ∈ l')).toNat := by
  have herased : (l.erase a).length = (l'.erase a).length := by
    refine List.Perm.length_eq ((List.perm_ext_iff_of_nodup (hl.erase a) (hl'.erase a)).mpr fun b => ?_)
    rw [hl.mem_erase_iff, hl'.mem_erase_iff]
    exact and_congr_right fun hb => (h b hb).symm
  have hcount : ∀ k : List α, (k.erase a).length + (decide (a ∈ k)).toNat = k.length := by
    intro k
    by_cases ha : a ∈ k
    · rw [List.length_erase_of_mem ha, decide_eq_true ha]
      exact Nat.sub_add_cancel (List.length_pos_of_mem ha)
    · rw [List.erase_of_not_mem ha, decide_eq_false ha]
      rfl
  have hl := hcount l
  have hl' := hcount l'
  omega

namespace Gauge

variable {g : Gauge}

theorem inc_toNat (h : g.value.toNat + 1 < UInt64.size) : g.inc.value.toNat = g.value.toNat + 1 := by
  show (g.value + 1).toNat = _
  rw [UInt64.toNat_add]
  exact Nat.mod_eq_of_lt h

/-- A gauge that does not stand at zero goes down by one. -/
theorem dec_toNat (h : 0 < g.value.toNat) : g.dec.value.toNat + 1 = g.value.toNat := by
  have hne : g.value ≠ 0 := fun hzero => by
    rw [hzero] at h
    exact absurd h (by decide)
  have hle : (1 : UInt64) ≤ g.value := UInt64.le_iff_toNat_le.mpr h
  unfold dec
  rw [if_neg hne]
  dsimp only
  rw [UInt64.toNat_sub_of_le _ _ hle]
  exact Nat.sub_add_cancel h

end Gauge

/-- Whether a connection that is held, if any, is one to a host. -/
def HostRef.isOf (host : HostRef) (held : Option HostRef) : Bool :=
  held.any fun h => decide (h.place = host.place)

/-- One who is counted lets go, and somebody gets a connection: the gauge goes along. -/
theorem GaugeMove.between_toNat {host : HostRef} {before after : Option HostRef} {g : Gauge} {n n' : Nat}
    (hg : g.value.toNat = n) (hn : n' + (host.isOf before).toNat = n + (host.isOf after).toNat)
    (hcounted : (host.isOf before).toNat ≤ n) (hroom : n' < UInt64.size) :
    ((between before after).foldl (shift host) g).value.toNat = n' := by
  -- A move away lowers the gauge of its own host only, where it was counted.
  have hdown : ∀ h : HostRef, (host.isOf (some h)).toNat ≤ n →
      (shift host g (.down h)).value.toNat + (host.isOf (some h)).toNat = n := by
    intro h hle
    unfold shift HostRef.isOf at *
    dsimp only [Option.any_some] at *
    by_cases hp : h.place = host.place
    · rw [if_pos hp, decide_eq_true hp]
      rw [decide_eq_true hp] at hle
      exact (Gauge.dec_toNat (hg ▸ hle)).trans hg
    · rw [if_neg hp, decide_eq_false hp]
      exact hg
  -- A move to a host raises its gauge only, which has room.
  have hup : ∀ (h : HostRef) (g : Gauge),
      g.value.toNat + (host.isOf (some h)).toNat = n' →
        (shift host g (.up h)).value.toNat = n' := by
    intro h g hg
    unfold shift HostRef.isOf at *
    dsimp only [Option.any_some] at *
    by_cases hp : h.place = host.place
    · rw [decide_eq_true hp] at hg
      rw [if_pos hp, Gauge.inc_toNat (by rw [show g.value.toNat + 1 = n' from hg]; exact hroom)]
      exact hg
    · rw [decide_eq_false hp] at hg
      rw [if_neg hp]
      exact hg
  unfold between
  split
  · next heq =>
    subst heq
    exact hg.trans (by omega)
  · cases before with
    | none =>
      cases after with
      | none => exact hg.trans (Nat.add_right_cancel hn.symm)
      | some h =>
        refine hup h g ?_
        rw [hg]
        exact hn.symm
    | some b =>
      have hbelow := hdown b hcounted
      cases after with
      | none =>
        show (shift host g (.down b)).value.toNat = n'
        have hn : n' + (host.isOf (some b)).toNat = n := hn
        omega
      | some h =>
        refine hup h _ ?_
        omega

theorem Stream.mem_routers {x : Stream} {slot : Nat} {r : Router} (h : x.router? slot = some r) :
    slot ∈ x.routers := by
  refine List.mem_filter.mpr ⟨List.mem_range.mpr ?_, by rw [h]; rfl⟩
  refine Nat.lt_of_not_le fun hle => ?_
  unfold Stream.router? at h
  rw [List.getElem?_eq_none hle] at h
  cases h

theorem Stream.length_slots {x y : Stream} (h : y.slots.map (·.part) = x.slots.map (·.part)) :
    y.slots.length = x.slots.length := by
  simpa using congrArg List.length h

namespace Session

variable {σ : Type} {ref other : RouterRef} {s s' s₁ s₂ s₃ : Session σ} {host : HostRef}

/-! ## Routers

Who holds a connection to a host, as a list. Its length is what the gauge should show. -/

def refs (s : Session σ) : List RouterRef := s.streams.flatMap fun x => x.routers.map (s.refTo x.id)

def holdsTo (s : Session σ) (host : HostRef) (ref : RouterRef) : Bool := host.isOf (s.heldHost ref)

def holders (s : Session σ) (host : HostRef) : List RouterRef := s.refs.filter (s.holdsTo host)

def filters (s : Session σ) : List Slot := s.streams.flatMap (·.slots)

/-- No two streams have the same number, nor has one a number that was not given out. So a router is
listed once. -/
structure Ranked (s : Session σ) : Prop where
  nodup : (s.streams.map (·.id)).Nodup
  bound : ∀ x ∈ s.streams, x.id < s.nextId

theorem mem_refs {r : Router} (hr : s.router? ref = some r) : ref ∈ s.refs := by
  have hnumber := session_of_router? hr
  unfold Session.router? at hr
  rw [if_pos hnumber] at hr
  obtain ⟨x, hx, hxr⟩ := Option.bind_eq_some_iff.mp hr
  refine List.mem_flatMap.mpr ⟨x, List.mem_of_find?_eq_some hx,
    List.mem_map.mpr ⟨ref.slot, Stream.mem_routers hxr, ?_⟩⟩
  rw [stream?_id hx]
  unfold Session.refTo
  rw [← hnumber]

theorem mem_holders_iff : ref ∈ s.holders host ↔ s.holdsTo host ref = true := by
  refine ⟨fun h => (List.mem_filter.mp h).2, fun h => List.mem_filter.mpr ⟨?_, h⟩⟩
  cases hr : s.router? ref with
  | some r => exact mem_refs hr
  | none =>
    unfold holdsTo heldHost at h
    rw [hold?_of_gone hr] at h
    cases h

theorem Ranked.refs_nodup (h : s.Ranked) : s.refs.Nodup := by
  refine List.nodup_flatMap.mpr ⟨fun x _ => ?_, ?_⟩
  · refine List.Nodup.map (fun i j hij => ?_) (List.nodup_range.filter _)
    exact congrArg RouterRef.slot hij
  · refine (List.pairwise_map.mp h.nodup).imp fun {x y} hne => ?_
    intro ref hx hy
    obtain ⟨i, -, rfl⟩ := List.mem_map.mp hx
    obtain ⟨j, -, hj⟩ := List.mem_map.mp hy
    exact hne (congrArg RouterRef.stream hj).symm

theorem Ranked.holders_nodup (h : s.Ranked) (host : HostRef) : (s.holders host).Nodup :=
  h.refs_nodup.filter _

theorem length_refs_le (s : Session σ) : s.refs.length ≤ s.filters.length := by
  unfold refs filters
  induction s.streams with
  | nil => exact Nat.le_refl 0
  | cons x rest ih =>
    have hrouters : x.routers.length ≤ x.slots.length := by
      have h := List.length_filter_le (fun i => (x.router? i).isSome) (List.range x.slots.length)
      rwa [List.length_range] at h
    rw [List.flatMap_cons, List.flatMap_cons, List.length_append, List.length_append, List.length_map]
    exact Nat.add_le_add hrouters ih

theorem length_holders_le (s : Session σ) (host : HostRef) :
    (s.holders host).length ≤ s.filters.length :=
  Nat.le_trans (List.length_filter_le _ _) s.length_refs_le

/-- If others hold what they held, the number of those who hold a connection to a host changes by
the one that is left. -/
theorem length_holders (h : s.Ranked) (h' : s'.Ranked) (other : RouterRef)
    (hothers : ∀ ref, ref ≠ other → s'.hold? ref = s.hold? ref) (host : HostRef) :
    (s'.holders host).length + (s.holdsTo host other).toNat =
      (s.holders host).length + (s'.holdsTo host other).toNat := by
  have hsame := length_add_of_mem_iff (h.holders_nodup host) (h'.holders_nodup host) other fun ref hne => by
    rw [mem_holders_iff, mem_holders_iff]
    unfold holdsTo heldHost
    rw [hothers ref hne]
  have hdecide : ∀ t : Session σ, decide (other ∈ t.holders host) = t.holdsTo host other := by
    intro t
    simp only [mem_holders_iff, Bool.decide_eq_true]
  rwa [hdecide, hdecide] at hsame

/-! ## Streams that begin and go

Work keeps the list of routers in order and bounded, as numbers are given out once. -/

/-- Streams have begun, or gone. There are no more filters than before but those of the streams that
have begun. The bound is written without a subtraction, so that it can be added up along a run. -/
structure Proceeds (s s' : Session σ) : Prop where
  plan : s'.plan = s.plan
  nextId : s.nextId ≤ s'.nextId
  filters : s'.filters.length + s.nextId * s.plan.parts.length ≤
    s.filters.length + s'.nextId * s.plan.parts.length
  ranked : s.Ranked → s'.Ranked

theorem Proceeds.refl (s : Session σ) : Proceeds s s := ⟨rfl, Nat.le_refl _, Nat.le_refl _, fun h => h⟩

theorem Proceeds.trans (h₁ : Proceeds s₁ s₂) (h₂ : Proceeds s₂ s₃) : Proceeds s₁ s₃ where
  plan := h₂.plan.trans h₁.plan
  nextId := Nat.le_trans h₁.nextId h₂.nextId
  filters := by
    have hfirst := h₁.filters
    have hsecond := h₂.filters
    rw [h₁.plan] at hsecond
    omega
  ranked h := h₂.ranked (h₁.ranked h)

/-- The streams are the same, and have the same number of filters. -/
theorem Proceeds.mapped {f : Stream → Stream} (hplan : s'.plan = s.plan) (hnext : s'.nextId = s.nextId)
    (hf : ∀ x, (f x).id = x.id ∧ (f x).slots.length = x.slots.length)
    (hstreams : s'.streams = s.streams.map f) : Proceeds s s' where
  plan := hplan
  nextId := Nat.le_of_eq hnext.symm
  filters := by
    have hlength : s'.filters.length = s.filters.length := by
      unfold Session.filters
      rw [hstreams, List.flatMap_map]
      induction s.streams with
      | nil => rfl
      | cons x rest ih =>
        rw [List.flatMap_cons, List.flatMap_cons, List.length_append, List.length_append, ih, (hf x).2]
    exact Nat.le_of_eq (by rw [hlength, hnext])
  ranked h := by
    refine ⟨?_, fun y hy => ?_⟩
    · rw [hstreams, List.map_map, show (fun x : Stream => x.id) ∘ f = fun x => x.id from
        funext fun x => (hf x).1]
      exact h.nodup
    · rw [hstreams] at hy
      obtain ⟨x, hx, rfl⟩ := List.mem_map.mp hy
      rw [(hf x).1, hnext]
      exact h.bound x hx

theorem RoutersUntouched.proceeds (h : RoutersUntouched s s') : Proceeds s s' := by
  obtain ⟨f, hf, hstreams⟩ := h.streams
  exact .mapped h.plan h.nextId (fun x => ⟨(hf x).id, Stream.length_slots (hf x).parts⟩) hstreams

theorem Works.proceeds (h : Works ref s s') : Proceeds s s' := by
  obtain ⟨ops, -, g, side, notes, panic, -, rfl⟩ := h
  refine .mapped (f := fun x => x.recall ref g) rfl rfl (fun x => ⟨Stream.recall_id ref g x, ?_⟩) rfl
  exact Stream.length_slots (Stream.recall_parts ref g x)

theorem modifyStream_proceeds {id : StreamId} {f : Stream → Stream}
    (hf : ∀ x, (f x).id = x.id ∧ (f x).slots.length = x.slots.length) :
    Proceeds s (s.modifyStream id f) := by
  refine .mapped (f := fun x => if x.id = id then f x else x) rfl rfl (fun x => ?_) rfl
  split
  · exact hf x
  · exact ⟨rfl, rfl⟩

theorem pass_proceeds (s : Session σ) (id : StreamId) : Proceeds s (s.pass id) :=
  modifyStream_proceeds fun _ => ⟨rfl, rfl⟩

theorem leave_proceeds (s : Session σ) (rest : List Task) : Proceeds s (s.leave rest) :=
  ⟨rfl, Nat.le_refl _, Nat.le_refl _, fun h => ⟨h.nodup, h.bound⟩⟩

theorem Begins.proceeds {x : Stream} (h : Begins s x s') : Proceeds s s' where
  plan := h.plan
  nextId := by
    rw [h.nextId]
    exact Nat.le_succ _
  filters := by
    have hwidth := h.width
    unfold Session.filters
    rw [h.streams, h.nextId, List.flatMap_append, List.length_append, List.flatMap_singleton,
      Nat.add_mul, Nat.one_mul]
    omega
  ranked hr := by
    refine ⟨?_, fun y hy => ?_⟩
    · rw [h.streams, List.map_append, List.map_singleton]
      refine List.nodup_append.mpr ⟨hr.nodup, List.nodup_singleton _, ?_⟩
      intro i hi j hj hij
      obtain ⟨y, hy, rfl⟩ := List.mem_map.mp hi
      have hlt := hr.bound y hy
      rw [List.mem_singleton.mp hj, h.id] at hij
      exact absurd hlt (by rw [hij]; exact Nat.lt_irrefl _)
    · rw [h.streams] at hy
      rw [h.nextId]
      -- The new stream has the last number that was given out.
      rcases List.mem_append.mp hy with hy | hy
      · exact Nat.lt_succ_of_lt (hr.bound y hy)
      · rw [List.mem_singleton.mp hy, h.id]
        exact Nat.lt_succ_self _

theorem filter_proceeds (s : Session σ) (p : Stream → Bool) :
    Proceeds s { s with streams := s.streams.filter p } where
  plan := rfl
  nextId := Nat.le_refl _
  filters := by
    have hle : ((s.streams.filter p).flatMap (·.slots)).length ≤ (s.streams.flatMap (·.slots)).length :=
      (List.Sublist.flatMap List.filter_sublist _).length_le
    exact Nat.add_le_add_right hle _
  ranked h := ⟨h.nodup.sublist (List.filter_sublist.map _), fun x hx => h.bound x (List.mem_of_mem_filter hx)⟩

theorem dropRouters_proceeds (slots : List Nat) (s : Session σ) (id : StreamId) :
    Proceeds s (slots.foldl (fun s slot => s.dropRouter (s.refTo id slot)) s) := by
  induction slots generalizing s with
  | nil => exact .refl s
  | cons slot rest ih => exact (dropRouter_works s _).proceeds.trans (ih _)

theorem dropStream_proceeds (s : Session σ) (id : StreamId) : Proceeds s (s.dropStream id) := by
  unfold Session.dropStream
  split
  · exact .refl s
  · next x _ => exact (dropRouters_proceeds x.routers s id).trans (filter_proceeds _ _)

section

variable {R : RouterRef → Request → Prop} {D : Prop} {m ms : List (Session σ × Task)}

theorem Move.proceeds (hm : Move R D m s s') : Proceeds s s' := by
  cases hm with
  | aside h => exact h.proceeds
  | began h => exact h.proceeds
  | passed => exact pass_proceeds s _
  | refused => exact (pass_proceeds s _).trans (refuse_works _ _ _ _).proceeds
  | engaged => exact (pass_proceeds s _).trans (startExchange_works _ _ _ _ _).proceeds
  | wrote => exact (leave_proceeds s _).trans (writeCall_works _ _).proceeds
  | popped => exact leave_proceeds s _
  | delivered => exact (leave_proceeds s _).trans (onDelivery_works _ _ _).proceeds
  | noted => exact .refl s
  | completed => exact modifyStream_proceeds fun _ => ⟨rfl, rfl⟩
  | destroyed => exact (destroyRouter_works _ _).proceeds
  | dropped => exact dropStream_proceeds _ _

theorem Moves.proceeds (hm : Moves R D ms s s') : Proceeds s s' := by
  induction hm with
  | refl s => exact .refl s
  | snoc _ hm ih => exact ih.trans hm.proceeds

end

/-! ## Gauges

The invariant for one session: the gauge of a host shows what it showed before, and one more for
each router here that holds a connection to the host. -/

/-- Gauges show how many hold connections to their hosts, those of the session together with others.
It is an equation and not a bound, so that a gauge which is moved down cannot stand at zero. -/
def GaugesCount (others : HostRef → Nat) (s : Session σ) : Prop :=
  ∀ host g, s.side.gauge? host = some g → g.value.toNat = others host + (s.holders host).length

section

variable {others : HostRef → Nat}

/-- Nobody holds anything else, and gauges show what they did. -/
theorem GaugesCount.same (h : GaugesCount others s) (hr : s.Ranked) (hr' : s'.Ranked)
    (hgauges : ∀ host, s'.side.gauge? host = s.side.gauge? host)
    (hholds : ∀ ref, s'.hold? ref = s.hold? ref) : GaugesCount others s' := by
  intro host g hg
  rw [hgauges] at hg
  rw [h host g hg]
  have hlength := length_holders hr hr' default (fun ref _ => hholds ref) host
  unfold holdsTo heldHost at hlength
  rw [hholds] at hlength
  omega

/-- One router gets a connection or lets go of one. -/
theorem GaugesCount.movesGauges (h : GaugesCount others s) (taken : List RouterOp) (hr : s.Ranked)
    (hr' : s'.Ranked) (hothers : ∀ other, other ≠ ref → s'.hold? other = s.hold? other)
    (hregrips : MovesGauges ref taken s s')
    (hroom : ∀ host, others host + s'.filters.length < UInt64.size) : GaugesCount others s' := by
  intro host g' hg'
  rw [hregrips.gauges] at hg'
  obtain ⟨g, hg, rfl⟩ := Option.map_eq_some_iff.mp hg'
  have hlength := length_holders hr hr' ref hothers host
  have hle := s'.length_holders_le host
  have hspace := hroom host
  refine GaugeMove.between_toNat (h host g hg) ?_ ?_ (by omega)
  · show _ + (s.holdsTo host ref).toNat = _ + (s'.holdsTo host ref).toNat
    omega
  · -- Who holds a connection is counted.
    show (s.holdsTo host ref).toNat ≤ _
    cases hholds : s.holdsTo host ref with
    | false => exact Nat.zero_le _
    | true =>
      have hpos := List.length_pos_of_mem (mem_holders_iff.mpr hholds)
      show 1 ≤ _
      omega

/-! ## Moves

A move changes what one router holds, and moves the gauge by as much. -/

theorem Begins.hold? {x : Stream} (hb : Begins s x s') (ref : RouterRef) :
    s'.hold? ref = s.hold? ref := by
  unfold Session.hold? Session.router?
  rw [hb.number]
  split
  · rw [stream?_append hb.streams]
    cases hy : s.stream? ref.stream with
    | some y => rfl
    | none =>
      split
      · show (x.router? ref.slot).bind Router.hold? = none
        cases hr : x.router? ref.slot with
        | none => rfl
        | some r =>
          rw [hb.blank ref.slot r hr]
          rfl
      · rfl
  · rfl

/-- A router that is dropped holds nothing, and others hold what they held. -/
theorem dropRouter_hold? (s : Session σ) (ref : RouterRef) (hnumber : ref.session = s.number)
    (other : RouterRef) :
    (s.dropRouter ref).hold? other = if other = ref then none else s.hold? other := by
  split
  · next heq =>
    subst heq
    unfold Session.dropRouter
    cases hex : (s.router? other).bind (·.exchange) with
    | none =>
      unfold Session.hold? Router.hold?
      rw [← Option.bind_assoc, hex]
      rfl
    | some e => exact hold?_of_gone (endRouter_router? s other e.drop)
  · next hne => exact hold?_congr ((dropRouter_works s ref).router?_of_ne hnumber hne)

theorem dropRouters_hold? (slots : List Nat) (s : Session σ) (id : StreamId)
    (hnumber : ref.session = s.number) :
    (slots.foldl (fun s slot => s.dropRouter (s.refTo id slot)) s).hold? ref =
      if ref.stream = id ∧ ref.slot ∈ slots then none else s.hold? ref := by
  induction slots generalizing s with
  | nil => simp
  | cons slot rest ih =>
    have hsame : (s.dropRouter (s.refTo id slot)).number = s.number := (dropRouter_works s _).number
    have hself : ref = s.refTo id slot ↔ ref.stream = id ∧ ref.slot = slot := by
      obtain ⟨number, stream, slot'⟩ := ref
      unfold Session.refTo
      simp only [RouterRef.mk.injEq]
      exact and_iff_right hnumber
    rw [List.foldl_cons, ih _ (hnumber.trans hsame.symm),
      dropRouter_hold? s (s.refTo id slot) rfl ref]
    simp only [hself, List.mem_cons]
    by_cases hid : ref.stream = id
    · by_cases hslot : ref.slot = slot
      · simp [hid, hslot]
      · simp [hid, hslot]
    · simp [hid]

/-- Streams that are dropped take their routers out of all gauges. -/
theorem GaugesCount.dropped (h : GaugesCount others s) (hr : s.Ranked)
    (hroom : ∀ host, others host + s.filters.length < UInt64.size) (id : StreamId) :
    GaugesCount others (s.dropStream id) := by
  have hrouters : ∀ (slots : List Nat) (s : Session σ), GaugesCount others s → s.Ranked →
      (∀ host, others host + s.filters.length < UInt64.size) →
      GaugesCount others (slots.foldl (fun s slot => s.dropRouter (s.refTo id slot)) s) := by
    intro slots
    induction slots with
    | nil => exact fun s h _ _ => h
    | cons slot rest ih =>
      intro s h hr hroom
      have hworks := dropRouter_works s (s.refTo id slot)
      have hr' := hworks.proceeds.ranked hr
      have hle := hworks.proceeds.filters
      rw [hworks.nextId] at hle
      have hroom' : ∀ host, others host + (s.dropRouter (s.refTo id slot)).filters.length <
          UInt64.size := fun host => by
        have := hroom host
        omega
      refine ih _ ?_ hr' hroom'
      exact h.movesGauges [] hr hr' (fun other hne => hold?_congr (hworks.router?_of_ne rfl hne))
        (dropRouter_movesGauges s _) hroom'
  unfold Session.dropStream
  split
  · exact h
  · next x hx =>
    dsimp only
    have hproceeds := dropRouters_proceeds x.routers s id
    have hthen := hrouters x.routers s h hr hroom
    have hnumber := (dropRouters_frame x.routers s id default).1
    -- The stream that goes holds nothing any more.
    have hfree := fun (ref : RouterRef) (hself : ref.session = s.number) =>
      dropRouters_hold? x.routers s id hself
    generalize x.routers.foldl (fun s slot => s.dropRouter (s.refTo id slot)) s = s₁ at *
    refine hthen.same (hproceeds.ranked hr) ((filter_proceeds s₁ _).ranked (hproceeds.ranked hr))
      (fun _ => rfl) fun other => ?_
    unfold Session.hold? Session.router?
    dsimp only
    split
    · next hself =>
      by_cases hid : other.stream = id
      · have hnone : (s₁.router? other).bind Router.hold? = none := by
          refine (hfree other (hself.trans hnumber)).trans ?_
          split
          · rfl
          · next hout =>
            unfold Session.hold? Session.router?
            rw [if_pos (hself.trans hnumber), hid, hx, Option.bind_some]
            cases hrouter : x.router? other.slot with
            | none => rfl
            | some r => exact absurd ⟨hid, Stream.mem_routers hrouter⟩ hout
        unfold Session.router? at hnone
        rw [if_pos hself] at hnone
        rw [hnone, hid, stream?_filter_same]
        rfl
      · rw [stream?_filter_ne hid]
    · rfl

/-- A move leaves gauges showing who holds connections, as long as there is room for the filters
that are there before and behind it. -/
theorem Move.gaugesCount {R : RouterRef → Request → Prop} {D : Prop} {m : List (Session σ × Task)}
    (hm : Move R D m s s') (hc : ∀ ref, ref.session = s.number → ∃ past, OnCourse ref past s)
    (h : GaugesCount others s) (hr : s.Ranked)
    (hroom : ∀ host, others host + s.filters.length < UInt64.size)
    (hroom' : ∀ host, others host + s'.filters.length < UInt64.size) : GaugesCount others s' := by
  have hr' := hm.proceeds.ranked hr
  cases hm.oneRouterActs with
  | unmoved _ _ _ hside _ hminds => exact h.same hr hr' hside.gauges fun ref => hold?_congr (hminds ref)
  | began _ hb => exact h.same hr hr' hb.side.gauges hb.hold?
  | dropped _ _ id heq => exact heq ▸ h.dropped hr hroom id
  | acted other ha =>
    have hothers : ∀ ref, ref ≠ other → s'.hold? ref = s.hold? ref :=
      fun ref hne => hold?_congr (ha.minds ref (Ne.symm hne))
    by_cases hself : other.session = s.number
    · obtain ⟨past, hcourse⟩ := hc other hself
      obtain ⟨-, -, -, -, -, -, hregrips⟩ := ha.share past hcourse
      exact h.movesGauges _ hr hr' hothers hregrips hroom'
    · have hnone : s.router? other = none := if_neg hself
      refine h.movesGauges [] hr hr' hothers (.unmoved ?_ (ha.stranger hself)) hroom'
      rw [hold?_of_gone hnone, hold?_of_gone (ha.gone hnone)]

end

end Session

end RpcProxy

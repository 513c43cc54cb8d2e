import RpcProxy.Config.Update

/-!
# A change of a watched file is reported once, when the file is quiet

A watcher is asked now and then whether its file has changed and has been quiet since. Of the past
it keeps one mark, the time of the last poll that met a change. This module puts beside it the list
of all polls, each with what was reported before it (`Watched`), and says what an answer tells about
that list.

The mark is the time of the latest poll that brought a change since the last yes (`Kept.pending`).
So a poll says yes exactly when there is such a poll and it lies far enough back. The rest follows
(`Debounced`): nothing is reported twice, nothing is reported too early, and nothing is lost.

Time is that of polls. A change is known when a poll meets it, and not when it was made, so a file
counts as quiet from the poll on that met its last change. `Poll.Exact` is the whole rule, said of
one poll and those before it, and the four laws are drawn from it without the watcher
(`Debounced.of_exact`).
-/

set_option autoImplicit false

namespace RpcProxy.Config

/-! ## Polls -/

inductive Watcher.Happening where
  /-- The file system reports something. -/
  | notice (e : FileEvent)
  | poll (now : Instant)
deriving DecidableEq, Repr

def Watcher.Happening.time? : Watcher.Happening → Option Instant
  | .notice _ => none
  | .poll now => some now

/-- A poll, as somebody who stands by sees it. -/
structure Poll where
  /-- When the watcher was asked. -/
  now : Instant
  /-- What was reported since the poll before, in order. -/
  heard : List FileEvent
  /-- What the watcher said. -/
  fired : Bool
deriving DecidableEq, Repr

/-- Whether a poll brings a change of the file with this path. -/
def Poll.brings (path : String) (p : Poll) : Bool := p.heard.any (Watcher.concerns { path })

/-- The polls since the last yes, the latest first. A yes closes what was before it: changes from
then are reported. -/
def sinceYes (polls : List Poll) : List Poll := polls.takeWhile (!·.fired)

/-- A watcher with what somebody who stands by has seen. -/
structure Watched where
  watcher : Watcher
  /-- What was reported since the last poll. -/
  heard : List FileEvent := []
  /-- All polls, the latest first. -/
  polls : List Poll := []

namespace Watched

def start (path : String) : Watched := { watcher := { path } }

/-- The poll that comes next, if it comes now. -/
def asked (w : Watched) (now : Instant) : Poll :=
  { now, heard := w.heard, fired := (w.watcher.poll now).1 }

def step (w : Watched) : Watcher.Happening → Watched
  | .notice e => { w with watcher := w.watcher.notice e, heard := w.heard ++ [e] }
  | .poll now => { watcher := (w.watcher.poll now).2, polls := w.asked now :: w.polls }

/-- Several things happen, one after another. -/
def after (w : Watched) (hs : List Watcher.Happening) : Watched := hs.foldl step w

end Watched

/-! ## What a yes means -/

/-- A poll, after the polls before it, says yes exactly when a change came since the last yes and
the latest poll that brought one, which may be this poll itself, lies far enough back. -/
def Poll.Exact (path : String) (p : Poll) (before : List Poll) : Prop :=
  p.fired = true ↔ ∃ r, (p :: sinceYes before).find? (·.brings path) = some r ∧
    r.now + quietTime ≤ p.now

/-- Polls, the latest first, that report every change of a file once, when the file is quiet. -/
structure Debounced (path : String) (polls : List Poll) : Prop where
  exact : ∀ after p before, polls = after ++ p :: before → p.Exact path before
  /-- Nothing is reported twice: between two yeses a change comes. -/
  between : ∀ after p mid q before, polls = after ++ p :: (mid ++ q :: before) →
    p.fired = true → q.fired = true → ∃ r ∈ mid, r.brings path = true
  /-- Nothing is reported early: every change that has come lies far enough back. -/
  quiet : ∀ after p before, polls = after ++ p :: before → p.fired = true →
    ∀ r ∈ p :: before, r.brings path = true → r.now + quietTime ≤ p.now
  /-- Nothing is lost: when no more changes come, the first poll that is late enough says yes. -/
  reported : ∀ after p mid r before, polls = after ++ p :: (mid ++ r :: before) →
    r.brings path = true → (∀ q ∈ p :: mid, q.brings path = false) →
    (∀ q ∈ mid, q.now < r.now + quietTime) → r.now + quietTime ≤ p.now → p.fired = true

variable {path : String} {p q r : Poll} {mid before polls : List Poll}

theorem not_quiet_at_once (t : Instant) : ¬ t + quietTime ≤ t :=
  Nat.not_le.2 (Nat.lt_add_of_pos_right (by decide))

/-- The poll that brings a change does not report it. -/
theorem Poll.Exact.not_fired (h : p.Exact path before) (hp : p.brings path = true) :
    p.fired = false := by
  refine Bool.eq_false_iff.2 fun hfired => ?_
  obtain ⟨r, hfind, hquiet⟩ := h.1 hfired
  obtain rfl : p = r := by simpa [List.find?_cons, hp] using hfind
  exact not_quiet_at_once p.now hquiet

/-- Polls at or before a yes do not count as polls since the last one. -/
theorem mem_of_mem_sinceYes (hq : q.fired = true) (h : r ∈ sinceYes (mid ++ q :: before)) :
    r ∈ mid := by
  induction mid with
  | nil => simp [sinceYes, hq] at h
  | cons m mid ih =>
    cases hm : m.fired with
    | true => simp [sinceYes, hm] at h
    | false =>
      rw [sinceYes, List.cons_append, List.takeWhile_cons_of_pos (by simp [hm])] at h
      cases List.mem_cons.1 h with
      | inl h => exact h ▸ List.mem_cons_self
      | inr h => exact List.mem_cons_of_mem _ (ih h)

/-- Polls that bring nothing hide no poll before them. -/
theorem eq_of_find?_sinceYes {found : Poll} (hmid : ∀ m ∈ mid, m.brings path = false)
    (hr : r.brings path = true)
    (h : (sinceYes (mid ++ r :: before)).find? (·.brings path) = some found) : found = r := by
  induction mid with
  | nil =>
    cases hfired : r.fired with
    | true => simp [sinceYes, hfired] at h
    | false =>
      rw [sinceYes, List.nil_append, List.takeWhile_cons_of_pos (by simp [hfired]),
        List.find?_cons_of_pos hr] at h
      exact (Option.some.inj h).symm
  | cons m mid ih =>
    cases hm : m.fired with
    | true => simp [sinceYes, hm] at h
    | false =>
      rw [sinceYes, List.cons_append, List.takeWhile_cons_of_pos (by simp [hm]),
        List.find?_cons_of_neg (by simp [hmid m List.mem_cons_self])] at h
      exact ih (fun x hx => hmid x (List.mem_cons_of_mem m hx)) h

/-- Whatever is told of single polls in terms of the polls before them tells of the whole list. -/
theorem Debounced.of_exact
    (hexact : ∀ after p before, polls = after ++ p :: before → p.Exact path before)
    (hmono : polls.Pairwise fun p q => q.now ≤ p.now) : Debounced path polls where
  exact := hexact
  between := by
    intro after p mid q before hpolls hp hq
    obtain ⟨r, hfind, hquiet⟩ := (hexact after p _ hpolls).1 hp
    refine ⟨r, ?_, List.find?_some hfind⟩
    cases List.mem_cons.1 (List.mem_of_find?_eq_some hfind) with
    | inl h => exact absurd (h ▸ hquiet) (not_quiet_at_once p.now)
    | inr h => exact mem_of_mem_sinceYes hq h
  quiet := by
    intro after p before hpolls hp r hr hbrings
    obtain ⟨last, hfind, hquiet⟩ := (hexact after p before hpolls).1 hp
    obtain ⟨-, as, bs, hsplit, hnone⟩ := List.find?_eq_some_iff_append.1 hfind
    -- The latest poll that brings a change is the latest of them all, yes or no.
    have hall : p :: before = as ++ last :: (bs ++ before.dropWhile (!·.fired)) := by
      calc p :: before = (p :: sinceYes before) ++ before.dropWhile (!·.fired) := by
            simp [sinceYes, List.takeWhile_append_dropWhile]
        _ = _ := by rw [hsplit, List.append_assoc, List.cons_append]
    have hsorted : (p :: before).Pairwise fun p q => q.now ≤ p.now :=
      (List.pairwise_append.1 (hpolls ▸ hmono)).2.1
    rw [hall] at hr hsorted
    have hle : r.now ≤ last.now := by
      rcases List.mem_append.1 hr with hr | hr
      · exact absurd hbrings (by simpa using hnone r hr)
      · rcases List.mem_cons.1 hr with rfl | hr
        · exact Nat.le_refl _
        · exact (List.pairwise_cons.1 (List.pairwise_append.1 hsorted).2.1).1 r hr
    exact Nat.le_trans (Nat.add_le_add_right hle quietTime) hquiet
  reported := by
    intro after p mid r before hpolls hr hnone hearly hlate
    have hexact_r : r.Exact path before := by
      refine hexact (after ++ p :: mid) r before ?_
      rw [hpolls, List.append_assoc, List.cons_append]
    have hmid : ∀ m ∈ mid, m.fired = false := by
      intro m hm
      refine Bool.eq_false_iff.2 fun hfired => ?_
      obtain ⟨as, bs, rfl⟩ := List.append_of_mem hm
      obtain ⟨last, hfind, hquiet⟩ := (hexact (after ++ p :: as) m (bs ++ r :: before)
        (by rw [hpolls]; simp)).1 hfired
      rw [List.find?_cons_of_neg (by simp [hnone m (List.mem_cons_of_mem p hm)])] at hfind
      obtain rfl := eq_of_find?_sinceYes
        (fun x hx => hnone x (by simp [hx])) hr hfind
      exact Nat.not_le.2 (hearly m hm) hquiet
    refine (hexact after p _ hpolls).2 ⟨r, ?_, hlate⟩
    rw [List.find?_cons_of_neg (by simp [hnone p List.mem_cons_self]), sinceYes,
      List.takeWhile_append_of_pos (by simpa using hmid),
      List.takeWhile_cons_of_pos (by simp [hexact_r.not_fired hr]), List.find?_append,
      List.find?_eq_none.2 (fun m hm => by simp [hnone m (List.mem_cons_of_mem p hm)]),
      List.find?_cons_of_pos hr, Option.none_or]

/-! ## The mark -/

namespace Watcher

/-- The time of the last poll that met a change not yet reported, with what is heard now. -/
def mark (w : Watcher) (now : Instant) : Option Instant :=
  if w.events.any w.concerns then some now else w.pending

theorem concerns_eq {w : Watcher} {path : String} (h : w.path = path) :
    w.concerns = concerns { path } := by
  funext e
  cases e <;> simp [concerns, h]

/-- A poll in terms of the mark. -/
theorem poll_eq (w : Watcher) (now : Instant) : w.poll now =
    match w.mark now with
    | some since => if now - since ≥ quietTime then (true, { path := w.path })
      else (false, { path := w.path, pending := some since })
    | none => (false, { path := w.path }) := by
  unfold poll mark
  generalize (if w.events.any w.concerns then some now else w.pending) = mark
  cases mark <;> rfl

theorem poll_fst (w : Watcher) (now : Instant) : (w.poll now).1 = true ↔
    ∃ since, w.mark now = some since ∧ since + quietTime ≤ now := by
  rw [poll_eq]
  cases w.mark now with
  | none => simp
  | some since =>
    have hpos : 0 < quietTime := by decide
    have hquiet : now - since ≥ quietTime ↔ since + quietTime ≤ now := by
      constructor <;> intro h <;> (unfold Instant at *; omega)
    by_cases h : now - since ≥ quietTime
    · simp [if_pos h, hquiet.1 h]
    · simp [if_neg h, mt hquiet.2 h]

theorem poll_snd (w : Watcher) (now : Instant) : (w.poll now).2 =
    { path := w.path, pending := if (w.poll now).1 then none else w.mark now } := by
  rw [poll_eq]
  cases w.mark now with
  | none => rfl
  | some since =>
    by_cases h : now - since ≥ quietTime
    · simp [if_pos h]
    · simp [if_neg h]

end Watcher

/-- What the watcher keeps agrees with what somebody who stands by has seen. -/
structure Watched.Kept (path : String) (w : Watched) : Prop where
  path_eq : w.watcher.path = path
  events_eq : w.watcher.events = w.heard
  /-- The mark is the time of the latest poll that brought a change since the last yes. -/
  pending_eq : w.watcher.pending = ((sinceYes w.polls).find? (·.brings path)).map (·.now)
  exact : ∀ after p before, w.polls = after ++ p :: before → p.Exact path before

namespace Watched

variable {w : Watched}

theorem Kept.start (path : String) : (start path).Kept path where
  path_eq := rfl
  events_eq := rfl
  pending_eq := rfl
  exact := by
    intro after p before h
    cases after <;> cases h

theorem Kept.notice (h : w.Kept path) (e : FileEvent) : (w.step (.notice e)).Kept path :=
  { h with events_eq := congrArg (· ++ [e]) h.events_eq }

/-- The mark that a poll decides by is the latest poll that brought a change, itself included. -/
theorem Kept.mark_eq (h : w.Kept path) (now : Instant) : w.watcher.mark now =
    ((w.asked now :: sinceYes w.polls).find? (·.brings path)).map (·.now) := by
  have hany : w.watcher.events.any w.watcher.concerns = (w.asked now).brings path := by
    rw [h.events_eq, Watcher.concerns_eq h.path_eq]
    rfl
  rw [Watcher.mark, hany, List.find?_cons]
  cases (w.asked now).brings path with
  | true => rfl
  | false => exact h.pending_eq

theorem Kept.asked (h : w.Kept path) (now : Instant) : (w.asked now).Exact path w.polls := by
  refine (Watcher.poll_fst w.watcher now).trans ?_
  rw [h.mark_eq now]
  constructor
  · rintro ⟨since, hmark, hquiet⟩
    obtain ⟨r, hfind, rfl⟩ := Option.map_eq_some_iff.1 hmark
    exact ⟨r, hfind, hquiet⟩
  · rintro ⟨r, hfind, hquiet⟩
    exact ⟨r.now, congrArg (Option.map _) hfind, hquiet⟩

theorem Kept.poll (h : w.Kept path) (now : Instant) : (w.step (.poll now)).Kept path where
  path_eq := (congrArg Watcher.path (Watcher.poll_snd w.watcher now)).trans h.path_eq
  events_eq := congrArg Watcher.events (Watcher.poll_snd w.watcher now)
  pending_eq := by
    refine (congrArg Watcher.pending (Watcher.poll_snd w.watcher now)).trans ?_
    show _ = ((sinceYes (w.asked now :: w.polls)).find? (·.brings path)).map (·.now)
    cases hfired : (w.watcher.poll now).1 with
    | true => rw [sinceYes, List.takeWhile_cons_of_neg (by simp [Watched.asked, hfired])]; rfl
    | false =>
      rw [sinceYes, List.takeWhile_cons_of_pos (by simp [Watched.asked, hfired])]
      exact h.mark_eq now
  exact := by
    intro after p before hpolls
    cases after with
    | nil =>
      obtain ⟨rfl, rfl⟩ := List.cons.inj hpolls
      exact h.asked now
    | cons a as => exact h.exact as p before (List.cons.inj hpolls).2

theorem Kept.step (h : w.Kept path) (e : Watcher.Happening) : (w.step e).Kept path := by
  cases e with
  | notice e => exact h.notice e
  | poll now => exact h.poll now

theorem Kept.after (h : w.Kept path) (hs : List Watcher.Happening) : (w.after hs).Kept path := by
  induction hs generalizing w with
  | nil => exact h
  | cons e hs ih => exact ih (h.step e)

theorem after_times (w : Watched) (hs : List Watcher.Happening) :
    (w.after hs).polls.reverse.map (·.now) =
      w.polls.reverse.map (·.now) ++ hs.filterMap Watcher.Happening.time? := by
  induction hs generalizing w with
  | nil => simp [Watched.after]
  | cons e hs ih =>
    refine (ih (w.step e)).trans ?_
    cases e with
    | notice e => rfl
    | poll now => simp [Watched.step, Watched.asked, Watcher.Happening.time?]

/-- However a watcher is asked, as long as no poll is earlier than the one before it, it reports
every change of its file once, when the file is quiet. -/
theorem debounced (path : String) (hs : List Watcher.Happening)
    (hmono : (hs.filterMap Watcher.Happening.time?).Pairwise (· ≤ ·)) :
    Debounced path ((start path).after hs).polls := by
  refine .of_exact ((Kept.start path).after hs).exact ?_
  have htimes := after_times (start path) hs
  rw [show (start path).polls = [] from rfl, List.reverse_nil, List.map_nil, List.nil_append] at htimes
  rw [← htimes, List.pairwise_map, List.pairwise_reverse] at hmono
  exact hmono

/-- A file that is saved twice in a row is reported once; what happens to its neighbour is not. -/
theorem debounced_saved_twice :
    let hs : List Watcher.Happening := [.notice (.seen .modify ["/srv/proxy.toml"]), .poll 0,
      .notice (.seen .create ["/srv/proxy.toml.swp"]), .notice (.seen .create ["/srv/proxy.toml"]),
      .poll (250 * milli), .notice .failed, .poll (500 * milli), .poll (750 * milli),
      .notice (.seen .remove ["/srv/proxy.toml.swp"]), .poll (1250 * milli)]
    (hs.filterMap Watcher.Happening.time?).Pairwise (· ≤ ·) ∧
      ((start "/srv/proxy.toml").after hs).polls.map (·.fired) = [false, true, false, false, false] ∧
      Debounced "/srv/proxy.toml" ((start "/srv/proxy.toml").after hs).polls :=
  ⟨by decide, by decide +kernel, debounced "/srv/proxy.toml" _ (by decide)⟩

end Watched

end RpcProxy.Config

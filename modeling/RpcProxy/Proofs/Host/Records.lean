import RpcProxy.Proofs.Host.Looks

/-!
# What a detector knows, told from what has happened

A detector keeps four numbers and a time, and moves between three states of health. `Watch` runs a
detector and takes a note of everything that is done with it: when it was, the health that was found
and the health that was left behind. `Watch.records` says what each number is in terms of these
notes, and when a host is ejected or restored.

The notes say nothing of what the detector counts, which would make the statement empty. They hold
what an observer could write down: which outcomes were reported and when, and whether the host was
ejected before and after. The counters are then functions of the notes (`failures`, `probation`,
`lastEjectedAt`).

The invariant behind it is `Standing`, by the health of the detector. Everything that is done begins
with a look, which the invariant bears without a note (`Standing.look`). The note is taken of what
follows: the report of an outcome, or nothing. A look may end an ejection, and the notes do not show
when; they show that the host was found on probation afterwards, which is enough.
-/

set_option autoImplicit false

namespace RpcProxy.Detector

/-! ## Notes

Each call is noted with its time and with the health before and behind it. Everything that a
detector counts is defined here again, from the notes alone. -/

/-- What is noted of something that is done with a detector. -/
structure Note where
  time : Instant
  call : Call
  /-- The health that is found, as a look shows it. -/
  found : Health
  /-- The health that is left behind. -/
  left : Health

namespace Note

def isSuccess (n : Note) : Bool :=
  match n.call with
  | .put r => r.isSuccess
  | _ => false

def isFailure (n : Note) : Bool :=
  match n.call with
  | .put r => !r.isSuccess
  | _ => false

/-- Whether a failure to connect is reported, or a failed request. -/
def isFailureOf (connecting : Bool) (n : Note) : Bool :=
  match n.call with
  | .put r => !r.isSuccess && r.isLocal == connecting
  | _ => false

/-- Whether the host becomes ejected. -/
def ejects (n : Note) : Bool := n.found != .ejected && n.left == .ejected

/-- Whether the host leaves probation for good health. -/
def restores (n : Note) : Bool := n.found == .probing && n.left == .healthy

/-- Whether the time of an ejection begins, or begins again because the host fails while ejected. -/
def setsEjectedAt (n : Note) : Bool := n.ejects || (n.found == .ejected && n.isFailure)

end Note

/-- How many failures of one origin were reported since the last success or restoration. Here and
below the latest note comes first. A success ends both runs, whatever it is a success of. -/
def failures (connecting : Bool) (past : List Note) : Nat :=
  (past.takeWhile fun n => !(n.isSuccess || n.restores)).countP (Note.isFailureOf connecting)

/-- The notes since probation began, none if the host is not on probation. -/
def probation (past : List Note) : List Note := past.takeWhile fun n => n.left == .probing

/-- When the host was ejected or failed while ejected, for the last time. -/
def lastEjectedAt (past : List Note) : Option Instant := (past.find? Note.setsEjectedAt).map Note.time

/-- The same if the host was not restored since. -/
def openEjectedAt (past : List Note) : Option Instant :=
  lastEjectedAt (past.takeWhile fun n => !n.restores)

/-- A detector with the time and with notes about all that was done with it. -/
structure Watch extends Timed where
  past : List Note := []

/-- The note about something that is done with a detector. -/
def note (d : Detector) (now : Instant) (c : Call) : Note :=
  { time := now, call := c, found := (d.look now).health, left := (d.call now c).health }

namespace Watch

/-- Something happens to a detector, and a note is taken. -/
def step (w : Watch) (h : Happening) : Watch where
  toTimed := w.toTimed.step h
  past := match h with
    | .pass _ => w.past
    | .call c => w.detector.note w.now c :: w.past

/-- Several things happen to a detector, one after another. -/
def after (w : Watch) (hs : List Happening) : Watch := hs.foldl step w

def start (settings : Config.OutlierDetection) (now : Instant) : Watch :=
  { detector := { settings }, now }

end Watch

/-- A restoration that was earned: by a success, the last of as many as are required, all of them
reported on probation with no failure in between. -/
structure RestoredBySuccesses (required : Nat) (n : Note) (earlier : List Note) : Prop where
  isSuccess : n.isSuccess = true
  clean : ∀ x ∈ probation earlier, x.isFailure = false
  enough : (probation earlier).countP Note.isSuccess + 1 = max 1 required

/-- What a detector knows, by the settings. -/
structure Records (detection : Config.OutlierDetection) (w : Watch) : Prop where
  settings : w.detector.settings = detection
  /-- A healthy host has no ejection and no successes to show. What is counted are the failures
  since the last success or restoration, and too few of them to eject it. -/
  healthy : w.detector.health = .healthy →
    w.detector.ejectedAt = none ∧ w.detector.successes = 0 ∧
    w.detector.requestFailures = failures false w.past ∧
    w.detector.connectFailures = failures true w.past ∧
    w.detector.requestFailures < max 1 detection.consecutiveFailures ∧
    w.detector.connectFailures < max 1 detection.consecutiveLocalFailures
  /-- An ejected host sits out since it was ejected or failed last. -/
  ejected : w.detector.health = .ejected →
    w.detector.ejectedAt.isSome ∧ w.detector.ejectedAt = lastEjectedAt w.past ∧ w.detector.successes = 0
  /-- A host on probation has sat out, and its successes since then are counted. They are too few to
  restore it. -/
  probing : w.detector.health = .probing →
    (∃ since, w.detector.ejectedAt = some since ∧
      since + detection.baseEjectionMillis * milli ≤ w.now) ∧
    w.detector.successes = (probation w.past).countP Note.isSuccess ∧
    w.detector.successes < max 1 detection.successThreshold
  ejections : w.detector.ejections = w.past.countP Note.ejects
  /-- From now on the host is ejected for as long as the time of its last ejection runs, counted
  from its last failure, unless it was restored. -/
  sitsOut : ∀ t, w.now ≤ t → (w.detector.isEjected t = true ↔
    ∃ since, openEjectedAt w.past = some since ∧ t < since + detection.baseEjectionMillis * milli)
  restored : ∀ later n earlier, w.past = later ++ n :: earlier → n.restores = true →
    RestoredBySuccesses detection.successThreshold n earlier

/-! ## One more note

How the counts change when a note is put in front. -/

variable {d : Detector} {n : Note} {past : List Note} {now t since : Instant}

theorem failures_cons_of_success (connecting : Bool) (h : n.isSuccess = true) :
    failures connecting (n :: past) = 0 := by
  simp [failures, h]

theorem failures_cons (connecting : Bool) (hsuccess : n.isSuccess = false)
    (hrestores : n.restores = false) :
    failures connecting (n :: past) =
      failures connecting past + if n.isFailureOf connecting then 1 else 0 := by
  simp [failures, hsuccess, hrestores, List.countP_cons]

theorem probation_cons (h : n.left = .probing) : probation (n :: past) = n :: probation past := by
  simp [probation, h]

theorem probation_cons_of_ne (h : n.left ≠ .probing) : probation (n :: past) = [] := by
  simp [probation, h]

theorem lastEjectedAt_cons (h : n.setsEjectedAt = true) : lastEjectedAt (n :: past) = some n.time := by
  simp [lastEjectedAt, h]

theorem lastEjectedAt_cons_of_not (h : n.setsEjectedAt = false) : lastEjectedAt (n :: past) = lastEjectedAt past := by
  simp [lastEjectedAt, h]

theorem openEjectedAt_cons_of_restores (h : n.restores = true) : openEjectedAt (n :: past) = none := by
  simp [openEjectedAt, lastEjectedAt, h]

theorem openEjectedAt_cons (hrestores : n.restores = false) (h : n.setsEjectedAt = true) :
    openEjectedAt (n :: past) = some n.time := by
  simp [openEjectedAt, lastEjectedAt, hrestores, h]

theorem openEjectedAt_cons_of_not (hrestores : n.restores = false) (h : n.setsEjectedAt = false) :
    openEjectedAt (n :: past) = openEjectedAt past := by
  simp [openEjectedAt, lastEjectedAt, hrestores, h]

/-! ## The invariant

Three states of a host, with what each of them knows of the past. A look may put an ejected host on
probation, and a report may do all else. -/

/-- A host in good health. -/
structure InGoodHealth (d : Detector) (past : List Note) : Prop where
  /-- It was not ejected, or that was made good for. -/
  ejectedAt : d.ejectedAt = none
  /-- No success counts for it. -/
  successes : d.successes = 0
  /-- Failed requests are counted since the last success or restoration. -/
  requestFailures : d.requestFailures = failures false past
  /-- So are failed connects. -/
  connectFailures : d.connectFailures = failures true past
  /-- They are too few to eject it. -/
  requestBound : d.requestFailures < max 1 d.settings.consecutiveFailures
  /-- So are these. -/
  connectBound : d.connectFailures < max 1 d.settings.consecutiveLocalFailures
  /-- No ejection is open. -/
  openEjectedAt : openEjectedAt past = none

/-- A host whose ejection is not made good for yet, whether its time has run or not. -/
structure EjectionOpen (d : Detector) (now : Instant) (past : List Note) (since : Instant) : Prop where
  /-- The detector has the time of the ejection or of the last failure since. -/
  ejectedAt : d.ejectedAt = some since
  /-- The notes give the same time. -/
  lastEjectedAt : lastEjectedAt past = some since
  /-- No restoration came after it. -/
  openEjectedAt : openEjectedAt past = some since
  /-- It is not in the future. -/
  since_le : since ≤ now

/-- A host on probation. -/
structure OnProbation (d : Detector) (now : Instant) (past : List Note) (since : Instant) : Prop
    extends EjectionOpen d now past since where
  /-- The host has sat out its time. -/
  served : since + d.sentence ≤ now
  /-- The successes since then are counted. -/
  successes : d.successes = (probation past).countP Note.isSuccess
  /-- They are too few to restore it. -/
  bound : d.successes < max 1 d.settings.successThreshold
  /-- No failure came since then: it would have ejected the host again. -/
  clean : ∀ x ∈ probation past, x.isFailure = false

/-- How a detector and the notes about it go together. In each state of health other fields matter,
and those that do not are what the next state will need. -/
inductive Standing (d : Detector) (now : Instant) (past : List Note) : Prop
  | healthy (health : d.health = .healthy) (work : InGoodHealth d past)
  | ejected (health : d.health = .ejected) (since : Instant) (sentence : EjectionOpen d now past since)
      (successes : d.successes = 0) (quiet : probation past = [])
  | probing (health : d.health = .probing) (since : Instant)
      (probation : OnProbation d now past since)

/-- A host in good health of which no failure is counted. -/
theorem InGoodHealth.of_zero (hat : d.ejectedAt = none) (hsuccesses : d.successes = 0)
    (hrequests : d.requestFailures = 0) (hconnects : d.connectFailures = 0)
    (hfailures : ∀ connecting, failures connecting past = 0)
    (hopen : Detector.openEjectedAt past = none) : InGoodHealth d past where
  ejectedAt := hat
  successes := hsuccesses
  requestFailures := hrequests.trans (hfailures false).symm
  connectFailures := hconnects.trans (hfailures true).symm
  requestBound := hrequests ▸ Nat.lt_of_lt_of_le Nat.one_pos (Nat.le_max_left 1 _)
  connectBound := hconnects ▸ Nat.lt_of_lt_of_le Nat.one_pos (Nat.le_max_left 1 _)
  openEjectedAt := hopen

theorem EjectionOpen.cons (h : EjectionOpen d now past since) (hrestores : n.restores = false)
    (hset : n.setsEjectedAt = false) : EjectionOpen d now (n :: past) since :=
  { h with
    lastEjectedAt := (lastEjectedAt_cons_of_not hset).trans h.lastEjectedAt
    openEjectedAt := (openEjectedAt_cons_of_not hrestores hset).trans h.openEjectedAt }

/-- A host stays on probation behind whatever is no failure, and a success counts. -/
theorem OnProbation.cons (p : OnProbation d now past since) (hleft : n.left = .probing)
    (hrestores : n.restores = false) (hset : n.setsEjectedAt = false) (hfailure : n.isFailure = false)
    (hbound : d.successes + (if n.isSuccess then 1 else 0) < max 1 d.settings.successThreshold) :
    OnProbation { d with successes := d.successes + if n.isSuccess then 1 else 0 } now (n :: past)
      since := {
  p.toEjectionOpen.cons hrestores hset with
  served := p.served
  successes := by rw [probation_cons hleft, List.countP_cons, ← p.successes]
  bound := hbound
  clean := by
    rw [probation_cons hleft]
    exact List.forall_mem_cons.mpr ⟨hfailure, p.clean⟩ }

theorem Standing.pass (h : Standing d now past) (ht : now ≤ t) : Standing d t past := by
  cases h with
  | healthy health work => exact .healthy health work
  | ejected health since s successes quiet =>
    exact .ejected health since { s with since_le := Nat.le_trans s.since_le ht } successes quiet
  | probing health since p =>
    exact .probing health since
      { p with since_le := Nat.le_trans p.since_le ht, served := Nat.le_trans p.served ht }

theorem expired_iff (hat : d.ejectedAt = some since) (hsince : since ≤ t) :
    d.expired t = true ↔ since + d.sentence ≤ t := by
  simp only [expired, hat, ge_iff_le, decide_eq_true_eq]
  rw [Nat.add_comm]
  exact Nat.le_sub_iff_add_le hsince

/-- A look needs no note: it finds what the notes tell. -/
theorem Standing.look (h : Standing d now past) : Standing (d.look now) now past := by
  cases h with
  | healthy health work =>
    rw [look_healthy health]
    exact .healthy health work
  | ejected health since s successes quiet =>
    by_cases hover : d.expired now = true
    · have hlook : d.look now = { d with health := .probing } := if_pos (by simp [health, hover])
      rw [hlook]
      have hbound : d.successes < max 1 d.settings.successThreshold := by omega
      exact .probing rfl since {
        s with
        served := (expired_iff s.ejectedAt s.since_le).mp hover
        successes := by rw [quiet]; exact successes
        bound := hbound
        clean := by rw [quiet]; exact fun x hx => nomatch hx }
    · rw [show d.look now = d from if_neg (by simp [hover])]
      exact .ejected health since s successes quiet
  | probing health since p =>
    rw [show d.look now = d from if_neg (by simp [health])]
    exact .probing health since p

/-- A note about a look tells nothing new. -/
theorem Standing.looked {c : Call} (h : Standing d now past) (hc : c.isDeed = false) :
    Standing d now ({ time := now, call := c, found := d.health, left := d.health } :: past) := by
  generalize hn : ({ time := now, call := c, found := d.health, left := d.health } : Note) = n
  -- A look is neither a success nor a failure, so that no run is made longer or broken off.
  have hquiet : n.isSuccess = false ∧ n.isFailure = false ∧
      ∀ connecting, n.isFailureOf connecting = false := by
    subst hn
    cases c with
    | put => cases hc
    | health | ejected | stats => exact ⟨rfl, rfl, fun _ => rfl⟩
  have hfound : n.found = d.health := hn ▸ rfl
  have hleft : n.left = d.health := hn ▸ rfl
  have hrestores : n.restores = false := by
    rw [Note.restores, hfound, hleft]
    cases d.health <;> rfl
  have hset : n.setsEjectedAt = false := by
    rw [Note.setsEjectedAt, Note.ejects, hfound, hleft, hquiet.2.1]
    cases d.health <;> rfl
  cases h with
  | healthy health work =>
    have hfailures : ∀ connecting, failures connecting (n :: past) = failures connecting past := by
      intro connecting
      rw [failures_cons connecting hquiet.1 hrestores, hquiet.2.2 connecting]
      rfl
    exact .healthy health {
      work with
      requestFailures := work.requestFailures.trans (hfailures false).symm
      connectFailures := work.connectFailures.trans (hfailures true).symm
      openEjectedAt := (openEjectedAt_cons_of_not hrestores hset).trans work.openEjectedAt }
  | ejected health since s successes quiet =>
    exact .ejected health since (s.cons hrestores hset) successes
      (probation_cons_of_ne (by rw [hleft, health]; decide))
  | probing health since p =>
    have hstays := p.cons (hleft.trans health) hrestores hset hquiet.2.1
      (by simpa [hquiet.1] using p.bound)
    simp only [hquiet.1, Bool.false_eq_true, if_false, Nat.add_zero] at hstays
    exact .probing health since hstays

/-- The note about a report that is made right after a look. -/
def reported (d : Detector) (now : Instant) (r : HostResult) (d' : Detector) : Note :=
  { time := now, call := .put r, found := d.health, left := d'.health }

theorem Standing.succeed {r : HostResult} (h : Standing d now past) (hr : r.isSuccess = true) :
    Standing d.succeed now (d.reported now r d.succeed :: past) := by
  have hsuccess : (d.reported now r d.succeed).isSuccess = true := hr
  have hfailure : (d.reported now r d.succeed).isFailure = false := by
    show (!r.isSuccess) = false
    rw [hr]
    rfl
  cases h with
  | healthy health work =>
    have hd : d.succeed = { d with requestFailures := 0, connectFailures := 0 } := by
      simp [Detector.succeed, health]
    have hrestores : (d.reported now r d.succeed).restores = false := by
      simp [Note.restores, reported, health]
    have hset : (d.reported now r d.succeed).setsEjectedAt = false := by
      simp [Note.setsEjectedAt, Note.ejects, reported, health, hd]
    generalize d.reported now r d.succeed = n at hsuccess hrestores hset
    rw [hd]
    exact .healthy health (.of_zero work.ejectedAt work.successes rfl rfl
      (fun connecting => failures_cons_of_success connecting hsuccess)
      ((openEjectedAt_cons_of_not hrestores hset).trans work.openEjectedAt))
  | ejected health since s successes quiet =>
    -- A host that sits out is not helped by a request that was still on its way.
    have hd : d.succeed = d := by simp [Detector.succeed, health]
    have hrestores : (d.reported now r d.succeed).restores = false := by
      simp [Note.restores, reported, health]
    have hset : (d.reported now r d.succeed).setsEjectedAt = false := by
      rw [Note.setsEjectedAt, hfailure]
      simp [Note.ejects, reported, health]
    have hleft : (d.reported now r d.succeed).left ≠ .probing := by
      simp [reported, hd, health]
    generalize d.reported now r d.succeed = n at hrestores hset hleft
    rw [hd]
    exact .ejected health since (s.cons hrestores hset) successes (probation_cons_of_ne hleft)
  | probing health since p =>
    by_cases henough : d.successes + 1 ≥ d.settings.successThreshold
    · have hd : d.succeed = {
          d with
          health := .healthy
          requestFailures := 0
          connectFailures := 0
          successes := 0
          ejectedAt := none } := by
        simp [Detector.succeed, health, henough]
      have hrestores : (d.reported now r d.succeed).restores = true := by
        simp [Note.restores, reported, health, hd]
      generalize d.reported now r d.succeed = n at hsuccess hrestores
      rw [hd]
      exact .healthy rfl (.of_zero rfl rfl rfl rfl
        (fun connecting => failures_cons_of_success connecting hsuccess)
        (openEjectedAt_cons_of_restores hrestores))
    · have hd : d.succeed = { d with successes := d.successes + 1 } := by
        simp [Detector.succeed, health, henough]
      have hrestores : (d.reported now r d.succeed).restores = false := by
        simp [Note.restores, reported, health, hd]
      have hset : (d.reported now r d.succeed).setsEjectedAt = false := by
        simp [Note.setsEjectedAt, Note.ejects, reported, health, hd]
      have hleft : (d.reported now r d.succeed).left = .probing := by
        simp [reported, hd, health]
      generalize d.reported now r d.succeed = n at hsuccess hfailure hrestores hset hleft
      have hbound : d.successes + 1 < max 1 d.settings.successThreshold := by omega
      have hstays := p.cons hleft hrestores hset hfailure (by rwa [hsuccess, if_pos rfl])
      rw [hsuccess, if_pos rfl] at hstays
      rw [hd]
      exact .probing health since hstays

/-- A host that a failure leaves ejected sits out from now on. -/
theorem Standing.of_setsEjectedAt {d' : Detector} (hhealth : d'.health = .ejected)
    (hat : d'.ejectedAt = some now) (hsuccesses : d'.successes = 0) (hn : n.time = now)
    (hset : n.setsEjectedAt = true) (hleft : n.left = .ejected) : Standing d' now (n :: past) := by
  have hrestores : n.restores = false := by simp [Note.restores, hleft]
  exact .ejected hhealth now {
    ejectedAt := hat
    lastEjectedAt := hn ▸ lastEjectedAt_cons hset
    openEjectedAt := hn ▸ openEjectedAt_cons hrestores hset
    since_le := Nat.le_refl now } hsuccesses
    (probation_cons_of_ne (by rw [hleft]; decide))

/-- A failure ejects a healthy host, or it is counted and there are still too few of its origin. -/
theorem fail_healthy (h : d.health = .healthy) (connecting : Bool) (now : Instant) :
    ((d.fail connecting now).health = .ejected ∧ (d.fail connecting now).ejectedAt = some now ∧
      (d.fail connecting now).successes = d.successes) ∨
    (let requests := d.requestFailures + if connecting == false then 1 else 0
     let connects := d.connectFailures + if connecting == true then 1 else 0
     d.fail connecting now = { d with requestFailures := requests, connectFailures := connects } ∧
      (d.requestFailures < max 1 d.settings.consecutiveFailures →
        requests < max 1 d.settings.consecutiveFailures) ∧
      (d.connectFailures < max 1 d.settings.consecutiveLocalFailures →
        connects < max 1 d.settings.consecutiveLocalFailures)) := by
  cases connecting with
  | false =>
    by_cases henough : d.requestFailures + 1 ≥ d.settings.consecutiveFailures
    · left
      simp [Detector.fail, h, henough, eject]
    · right
      refine ⟨by simp [Detector.fail, h, henough], fun _ => ?_, id⟩
      exact Nat.lt_of_lt_of_le (Nat.lt_of_not_le henough) (Nat.le_max_right 1 _)
  | true =>
    by_cases henough : d.connectFailures + 1 ≥ d.settings.consecutiveLocalFailures
    · left
      simp [Detector.fail, h, henough, eject]
    · right
      refine ⟨by simp [Detector.fail, h, henough], id, fun _ => ?_⟩
      exact Nat.lt_of_lt_of_le (Nat.lt_of_not_le henough) (Nat.le_max_right 1 _)

theorem Standing.fail {r : HostResult} (h : Standing d now past) (hr : r.isSuccess = false) :
    Standing (d.fail r.isLocal now) now (d.reported now r (d.fail r.isLocal now) :: past) := by
  have hsuccess : (d.reported now r (d.fail r.isLocal now)).isSuccess = false := hr
  have hfailure : (d.reported now r (d.fail r.isLocal now)).isFailure = true := by
    show (!r.isSuccess) = true
    rw [hr]
    rfl
  have horigin : ∀ connecting, (d.reported now r (d.fail r.isLocal now)).isFailureOf connecting =
      (r.isLocal == connecting) := by
    intro connecting
    show (!r.isSuccess && _) = _
    rw [hr]
    rfl
  cases h with
  | healthy health work =>
    rcases fail_healthy health r.isLocal now with
      ⟨hhealth, hat, hsuccesses⟩ | ⟨hd, hrequests, hconnects⟩
    · refine .of_setsEjectedAt hhealth hat (hsuccesses.trans work.successes) rfl ?_ hhealth
      simp [Note.setsEjectedAt, Note.ejects, reported, health, hhealth]
    · have hrestores : (d.reported now r (d.fail r.isLocal now)).restores = false := by
        simp [Note.restores, reported, health]
      have hset : (d.reported now r (d.fail r.isLocal now)).setsEjectedAt = false := by
        simp [Note.setsEjectedAt, Note.ejects, reported, health, hd]
      have hfailures : ∀ connecting, failures connecting
          (d.reported now r (d.fail r.isLocal now) :: past) =
            failures connecting past + if r.isLocal == connecting then 1 else 0 := by
        intro connecting
        rw [failures_cons connecting hsuccess hrestores, horigin]
      generalize d.reported now r (d.fail r.isLocal now) = n at hrestores hset hfailures
      rw [hd]
      exact .healthy health {
        ejectedAt := work.ejectedAt
        successes := work.successes
        requestFailures := by rw [hfailures, ← work.requestFailures]
        connectFailures := by rw [hfailures, ← work.connectFailures]
        requestBound := hrequests work.requestBound
        connectBound := hconnects work.connectBound
        openEjectedAt := (openEjectedAt_cons_of_not hrestores hset).trans work.openEjectedAt }
  | ejected health since s successes quiet =>
    -- A failure while a host sits out starts its sentence anew, and no longer.
    have hd : d.fail r.isLocal now = { d with ejectedAt := some now } := by
      simp [Detector.fail, health]
    have hset : (d.reported now r (d.fail r.isLocal now)).setsEjectedAt = true := by
      rw [Note.setsEjectedAt, hfailure]
      simp [reported, health]
    refine .of_setsEjectedAt ?_ ?_ ?_ rfl hset ?_
    · rw [hd]
      exact health
    · rw [hd]
    · rw [hd]
      exact successes
    · show (d.fail r.isLocal now).health = .ejected
      rw [hd]
      exact health
  | probing health since p =>
    have hd : d.fail r.isLocal now = { d with successes := 0 }.eject now := by
      simp [Detector.fail, health]
    have hset : (d.reported now r (d.fail r.isLocal now)).setsEjectedAt = true := by
      simp [Note.setsEjectedAt, Note.ejects, reported, health, hd, eject]
    refine .of_setsEjectedAt ?_ ?_ ?_ rfl hset ?_
    · rw [hd]
      rfl
    · rw [hd]
      rfl
    · rw [hd]
      rfl
    · show (d.fail r.isLocal now).health = .ejected
      rw [hd]
      rfl

theorem call_put_of_success {r : HostResult} (hr : r.isSuccess = true) :
    d.call now (.put r) = (d.look now).succeed := if_pos hr

theorem call_put_of_failure {r : HostResult} (hr : r.isSuccess = false) :
    d.call now (.put r) = (d.look now).fail r.isLocal now := if_neg (by simp [hr])

/-- Whatever is done with a detector begins with a look, and a report may follow. -/
theorem Standing.call (h : Standing d now past) (c : Call) :
    Standing (d.call now c) now (d.note now c :: past) := by
  cases c with
  | put r =>
    cases hr : r.isSuccess with
    | true =>
      rw [note, call_put_of_success hr]
      exact h.look.succeed hr
    | false =>
      rw [note, call_put_of_failure hr]
      exact h.look.fail hr
  | health | ejected | stats => exact h.look.looked rfl

/-! ## Ejections and restorations

Each ejection is counted, and each restoration has the successes behind it that it takes. -/

theorem fail_settings (d : Detector) (connecting : Bool) (now : Instant) :
    (d.fail connecting now).settings = d.settings := by
  unfold fail
  cases d.health with
  | healthy =>
    dsimp only
    split <;> split <;> rfl
  | ejected | probing => rfl

theorem call_settings (d : Detector) (now : Instant) (c : Call) :
    (d.call now c).settings = d.settings := by
  cases c with
  | put r =>
    cases hr : r.isSuccess with
    | true => rw [call_put_of_success hr, succeed_settings, look_settings]
    | false => rw [call_put_of_failure hr, fail_settings, look_settings]
  | health | ejected | stats => exact d.look_settings now

/-- Only a failure ejects a host. -/
theorem succeed_ejections (d : Detector) :
    d.succeed.ejections = d.ejections ∧ (d.succeed.health = .ejected → d.health = .ejected) := by
  unfold succeed
  cases hd : d.health with
  | healthy | ejected => simp [hd]
  | probing =>
    dsimp only
    split <;> simp

theorem fail_ejections (d : Detector) (connecting : Bool) (now : Instant) :
    (d.fail connecting now).ejections = d.ejections +
      if d.health != .ejected && (d.fail connecting now).health == .ejected then 1 else 0 := by
  unfold fail
  cases hd : d.health with
  | healthy =>
    dsimp only
    split <;> split <;> simp [eject]
  | ejected => simp
  | probing => simp [eject]

theorem call_ejections (d : Detector) (now : Instant) (c : Call) :
    (d.call now c).ejections = d.ejections + if (d.note now c).ejects then 1 else 0 := by
  obtain ⟨hlook, -⟩ := d.look_counters now
  cases c with
  | put r =>
    cases hr : r.isSuccess with
    | true =>
      obtain ⟨hejections, hhealth⟩ := (d.look now).succeed_ejections
      have hquiet : (d.note now (.put r)).ejects = false := by
        simp only [Note.ejects, note, call_put_of_success hr]
        cases hfound : (d.look now).health == .ejected with
        | true => simp [bne, hfound]
        | false => simpa [bne, hfound] using fun h => by simp [hhealth h] at hfound
      rw [call_put_of_success hr, hejections, hlook, hquiet]
      rfl
    | false =>
      rw [note, call_put_of_failure hr, fail_ejections, hlook]
      rfl
  | health | ejected | stats =>
    simp [note, Note.ejects, call, hlook]

/-- Who is restored was on probation, and this success is the last that was required. -/
theorem Standing.restored {c : Call} (h : Standing d now past)
    (hrestores : (d.note now c).restores = true) :
    RestoredBySuccesses d.settings.successThreshold (d.note now c) past := by
  have hprobing : (d.look now).health = .probing ∧ (d.call now c).health = .healthy := by
    simpa [Note.restores, note] using hrestores
  obtain ⟨hfound, hleft⟩ := hprobing
  have hstanding := h.look
  rw [← d.look_settings now]
  cases hstanding with
  | healthy health | ejected health => rw [hfound] at health; cases health
  | probing _ since p =>
    cases c with
    | put r =>
      cases hr : r.isSuccess with
      | true =>
        have henough : (d.look now).successes + 1 ≥ (d.look now).settings.successThreshold := by
          refine Decidable.byContradiction fun hfew => ?_
          simp [call_put_of_success hr, Detector.succeed, hfound, hfew] at hleft
        refine ⟨hr, p.clean, ?_⟩
        have hbound := p.bound
        rw [← p.successes]
        omega
      | false =>
        rw [call_put_of_failure hr, Detector.fail, hfound] at hleft
        cases hleft
    | health | ejected | stats => cases hfound.symm.trans hleft

/-! ## Everything that happens

The invariant over all that happens, and what it says about the detector. -/

/-- What the notes tell about a detector at any time. -/
structure Kept (detection : Config.OutlierDetection) (w : Watch) : Prop where
  /-- The settings stay. -/
  settings : w.detector.settings = detection
  /-- The detector stands where the notes say. -/
  standing : Standing w.detector w.now w.past
  /-- It counts how often it has ejected its host. -/
  ejections : w.detector.ejections = w.past.countP Note.ejects
  /-- Each restoration was earned by successes in a row. -/
  restored : ∀ later n earlier, w.past = later ++ n :: earlier → n.restores = true →
    RestoredBySuccesses detection.successThreshold n earlier

variable {detection : Config.OutlierDetection} {w : Watch}

theorem Kept.start (detection : Config.OutlierDetection) (now : Instant) :
    Kept detection (.start detection now) where
  settings := rfl
  standing := .healthy rfl (.of_zero rfl rfl rfl rfl (fun _ => rfl) rfl)
  ejections := rfl
  restored := fun later _ _ h => absurd h (by cases later <;> exact nofun)

theorem Kept.step (h : Kept detection w) (happening : Happening) :
    Kept detection (w.step happening) := by
  cases happening with
  | pass nanos => exact { h with standing := h.standing.pass (Nat.le_add_right w.now nanos) }
  | call c =>
    refine {
      settings := (w.detector.call_settings w.now c).trans h.settings
      standing := h.standing.call c
      ejections := ?_
      restored := ?_ }
    · show (w.detector.call w.now c).ejections = (_ :: w.past).countP Note.ejects
      rw [call_ejections, h.ejections, List.countP_cons]
    · intro later n earlier hpast hrestores
      cases later with
      | nil =>
        obtain ⟨rfl, rfl⟩ := List.cons.inj hpast
        exact h.settings ▸ h.standing.restored hrestores
      | cons latest later => exact h.restored later n earlier (List.cons.inj hpast).2 hrestores

theorem Kept.after (h : Kept detection w) (hs : List Happening) : Kept detection (w.after hs) := by
  induction hs generalizing w with
  | nil => exact h
  | cons happening rest ih => exact ih (h.step happening)

/-- Whether a host is ejected can be told from the notes for any later time. -/
theorem Standing.sitsOut (h : Standing d now past) (ht : now ≤ t) :
    d.isEjected t = true ↔ ∃ since, openEjectedAt past = some since ∧ t < since + d.sentence := by
  cases h with
  | healthy health work => simp [isEjected, look_healthy health, health, work.openEjectedAt]
  | ejected health since s =>
    have hover := expired_iff s.ejectedAt (Nat.le_trans s.since_le ht)
    simp only [s.openEjectedAt, Option.some.injEq, exists_eq_left', isEjected, Detector.look, health]
    by_cases hexpired : d.expired t = true
    · simp [hexpired, Nat.not_lt.mpr (hover.mp hexpired)]
    · simpa [hexpired, health] using mt hover.mpr hexpired
  | probing health since p =>
    have hserved : ¬t < since + d.sentence := Nat.not_lt.mpr (Nat.le_trans p.served ht)
    simp [isEjected, Detector.look, health, p.openEjectedAt, hserved]

/-- Whatever happens to a new detector, its notes tell what it knows. -/
theorem Watch.records (detection : Config.OutlierDetection) (now : Instant) (hs : List Happening) :
    Records detection ((Watch.start detection now).after hs) := by
  have hkept := (Kept.start detection now).after hs
  generalize (Watch.start detection now).after hs = w at hkept
  obtain ⟨rfl, hstanding, hejections, hrestored⟩ := hkept
  refine {
    settings := rfl
    healthy := fun hhealth => ?_
    ejected := fun hhealth => ?_
    probing := fun hhealth => ?_
    ejections := hejections
    sitsOut := fun t ht => hstanding.sitsOut ht
    restored := hrestored }
  · cases hstanding with
    | healthy _ work =>
      exact ⟨work.ejectedAt, work.successes, work.requestFailures, work.connectFailures,
        work.requestBound, work.connectBound⟩
    | ejected health | probing health => cases hhealth.symm.trans health
  · cases hstanding with
    | ejected _ since s successes =>
      exact ⟨by rw [s.ejectedAt]; rfl, s.ejectedAt.trans s.lastEjectedAt.symm, successes⟩
    | healthy health | probing health => cases hhealth.symm.trans health
  · cases hstanding with
    | probing _ since p => exact ⟨⟨since, p.ejectedAt, p.served⟩, p.successes, p.bound⟩
    | healthy health | ejected health => cases hhealth.symm.trans health

end RpcProxy.Detector

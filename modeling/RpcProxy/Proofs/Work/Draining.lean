import RpcProxy.WorkQueue

/-!
# A loop of work drains

A run of a loop takes up tasks while there are any, drops objects when there are none, and ends when
there is neither. Tasks and objects add work of their own: they post tasks and hand over objects
that do the same, to any depth. `drains` says that the run ends nevertheless, that it does each
piece of work once, and in which order.

That it ends is seen from the work and not from the loop. Work is a tree, whose branches are what it
posts and hands over, and a run goes through all trees that wait (`forest`); with fuel for all that
there is in them it comes to its end. What is done once is likewise said of the nodes: the turns of
a run are a permutation of them.

The proof goes through `Course`, the run as a list of turns without fuel and without the batches in
which objects are taken: objects are dropped in the order in which they were handed over, whether
one by one or by the batch (`Course.of_batch`). What is said about the order of turns is then one
induction over a course each.

Work that starts a run or drops objects from within is left out. There a task has not returned while
others run.
-/

set_option autoImplicit false

namespace RpcProxy

/-! ## Work that only adds work

A forest of work, given beforehand. What a job does is to post tasks and to hand over objects, and
these are jobs in turn. -/

namespace Action

mutual

/-- Whether an action posts a task or hands over an object, and whatever follows from it does no
more than that either. -/
def addsOnly : Action → Bool
  | .post _ next | .delete _ next => allAddOnly next
  | .run | .clear | .wakeup _ => false

/-- Whether several actions only add work. -/
def allAddOnly : List Action → Bool
  | [] => true
  | a :: rest => addsOnly a && allAddOnly rest

end

def task? : Action → Option Job
  | .post name next => some ⟨name, next⟩
  | _ => none

/-- The object that an action hands over. -/
def object? : Action → Option Job
  | .delete name next => some ⟨name, next⟩
  | _ => none

end Action

namespace Job

/-- The tasks that a piece of work posts, in order. -/
def tasks (j : Job) : List Job := j.next.filterMap Action.task?

/-- The objects that a piece of work hands over, in order. -/
def objects (j : Job) : List Job := j.next.filterMap Action.object?

/-- Whether a piece of work only adds work. -/
def addsOnly (j : Job) : Bool := Action.allAddOnly j.next

theorem addsOnly_of_action {as : List Action} (h : Action.allAddOnly as = true) :
    (∀ j ∈ as.filterMap Action.task?, j.addsOnly = true) ∧
      ∀ j ∈ as.filterMap Action.object?, j.addsOnly = true := by
  induction as with
  | nil => exact ⟨fun _ hj => (nomatch hj), fun _ hj => (nomatch hj)⟩
  | cons a rest ih =>
    rw [Action.allAddOnly, Bool.and_eq_true] at h
    obtain ⟨htasks, hobjects⟩ := ih h.2
    cases a with
    | post name next =>
      refine ⟨fun j hj => ?_, hobjects⟩
      obtain rfl | hj := List.mem_cons.mp hj
      · exact h.1
      · exact htasks j hj
    | delete name next =>
      refine ⟨htasks, fun j hj => ?_⟩
      obtain rfl | hj := List.mem_cons.mp hj
      · exact h.1
      · exact hobjects j hj
    | run | clear | wakeup => cases h.1

end Job

namespace Loop

/-! ## Turns

A turn is a task that is run or an object that is dropped. The events in the log are those of
turns. -/

/-- A turn of a loop lasts until the work that is done in it has returned. -/
inductive Turn where
  | run (task : Job)
  | drop (object : Job)

namespace Turn

def job : Turn → Job
  | .run j | .drop j => j

def task? : Turn → Option Job
  | .run j => some j
  | .drop _ => none

def object? : Turn → Option Job
  | .run _ => none
  | .drop j => some j

/-- What the log tells of the beginning of a turn. -/
def event : Turn → WorkEvent
  | .run j => .ran j.name
  | .drop j => .dropped j.name

/-- The tasks that are posted in a turn, in order. -/
def tasks (t : Turn) : List Job := t.job.tasks

/-- The objects that are handed over in a turn, in order. -/
def objects (t : Turn) : List Job := t.job.objects

end Turn

/-- What the log tells of tasks that are posted: the hook is called for each. -/
def calls (hook : Option String) (tasks : List Job) : List WorkEvent :=
  tasks.flatMap fun _ => (hook.map WorkEvent.woken).toList

def Turn.tell (hook : Option String) (t : Turn) : List WorkEvent := t.event :: calls hook t.tasks

mutual

/-- The turns that an action leads to, sooner or later. -/
def turns : Action → List Turn
  | .post name next => .run ⟨name, next⟩ :: allTurns next
  | .delete name next => .drop ⟨name, next⟩ :: allTurns next
  | .run | .clear | .wakeup _ => []

/-- The turns that several actions lead to. -/
def allTurns : List Action → List Turn
  | [] => []
  | a :: rest => turns a ++ allTurns rest

end

/-- A turn with all turns that its work leads to. -/
def Turn.tree (t : Turn) : List Turn := t :: allTurns t.job.next

/-- All turns that the work which waits leads to: one for each task and each object of the
forest. -/
def forest (l : Loop) : List Turn :=
  l.queue.posted.flatMap (Turn.tree ∘ .run) ++ l.queue.deferred.flatMap (Turn.tree ∘ .drop)

/-- Whether all that waits only adds work. -/
structure AddsOnly (l : Loop) : Prop where
  tasks : ∀ j ∈ l.queue.posted, j.addsOnly = true
  objects : ∀ j ∈ l.queue.deferred, j.addsOnly = true

/-- The loop when nothing waits any more, after some turns. -/
def idleAfter (l : Loop) (ts : List Turn) : Loop :=
  { queue := {}, hook := l.hook, log := (ts.flatMap (Turn.tell l.hook)).reverse ++ l.log }

structure Orderly (l : Loop) (ts : List Turn) : Prop where
  /-- Each task runs once and each object is dropped once, and nothing else. -/
  once : ts.Perm l.forest
  /-- Tasks run in the order in which they were posted, before the run or in one of its turns. -/
  tasks : ts.filterMap Turn.task? = l.queue.posted ++ ts.flatMap Turn.tasks
  /-- Objects are dropped in the order in which they were handed over. -/
  objects : ts.filterMap Turn.object? = l.queue.deferred ++ ts.flatMap Turn.objects
  task_posted : ∀ before j after, ts = before ++ .run j :: after →
    before.filterMap Turn.task? ++ [j] <+: l.queue.posted ++ before.flatMap Turn.tasks
  /-- An object is dropped after it was handed over. -/
  object_handed : ∀ before d after, ts = before ++ .drop d :: after →
    before.filterMap Turn.object? ++ [d] <+: l.queue.deferred ++ before.flatMap Turn.objects
  /-- Nothing is dropped until all tasks that were posted before the run have returned. -/
  first_tasks : ∀ before d after, ts = before ++ .drop d :: after →
    l.queue.posted <+: before.filterMap Turn.task?
  /-- Once a task has returned, nothing is dropped, and so nothing that it handed over, until all
  tasks that were posted up to then have returned. -/
  tasks_between : ∀ before j between d after, ts = before ++ .run j :: between ++ .drop d :: after →
    l.queue.posted ++ (before ++ [Turn.run j]).flatMap Turn.tasks <+:
      (before ++ .run j :: between).filterMap Turn.task?

/-! ## One turn

What a turn does to the loop is to add what its job asks for, at the end. -/

def withTasks (l : Loop) (js : List Job) : Loop :=
  { l with queue := { l.queue with posted := js } }

def withObjects (l : Loop) (js : List Job) : Loop :=
  { l with queue := { l.queue with deferred := js } }

def add (l : Loop) (as : List Action) : Loop where
  queue := { posted := l.queue.posted ++ as.filterMap Action.task?
             deferred := l.queue.deferred ++ as.filterMap Action.object? }
  hook := l.hook
  log := (calls l.hook (as.filterMap Action.task?)).reverse ++ l.log

/-- The loop after the work of a turn, which does not wait any more. -/
def turn (l : Loop) (t : Turn) : Loop := (l.note t.event).add t.job.next

variable {l l' : Loop} {as : List Action} {fuel : Nat}

theorem act_eq_add {a : Action} (h : a.addsOnly = true) (hfuel : 0 < fuel) :
    act fuel a l = l.add [a] := by
  obtain ⟨fuel, rfl⟩ : ∃ n, fuel = n + 1 := ⟨fuel - 1, by omega⟩
  cases a with
  | post name next =>
    simp only [act, post, add, calls, WorkQueue.post, note]
    cases hhook : l.hook with
    | none => simp [Action.task?, Action.object?]
    | some hook => simp [Action.task?, Action.object?]
  | delete name next =>
    simp [act, add, calls, WorkQueue.defer, Action.task?, Action.object?]
  | run | clear | wakeup => cases h

theorem add_add (l : Loop) (as bs : List Action) : (l.add as).add bs = l.add (as ++ bs) := by
  simp [add, calls, List.filterMap_append, List.flatMap_append, List.append_assoc]

theorem add_nil (l : Loop) : l.add [] = l := by simp [add, calls]

/-- Actions that only add work take no more fuel than there are actions. -/
theorem actAll_eq_add (h : Action.allAddOnly as = true) (hfuel : as.length < fuel) :
    actAll fuel as l = l.add as := by
  induction as generalizing l fuel with
  | nil =>
    rw [add_nil]
    cases fuel <;> rfl
  | cons a rest ih =>
    rw [Action.allAddOnly, Bool.and_eq_true] at h
    obtain ⟨fuel, rfl⟩ : ∃ n, fuel = n + 1 := ⟨fuel - 1, by omega⟩
    rw [List.length_cons] at hfuel
    rw [actAll, act_eq_add h.1 (by omega), ih h.2 (by omega), add_add]
    rfl

/-! ## How much work there is

The weight of a job counts it with all that can come of it. Each turn takes one off, and so the loop
comes to an end. -/

theorem one_le_weight (a : Action) : 1 ≤ weight a := by
  cases a with
  | post | delete => exact Nat.le_add_right 1 _
  | run | clear | wakeup => exact Nat.le_refl 1

theorem length_le_weightAll (as : List Action) : as.length ≤ weightAll as := by
  induction as with
  | nil => exact Nat.le_refl 0
  | cons a rest ih =>
    have hone := one_le_weight a
    rw [weightAll, List.length_cons]
    omega

theorem jobsWeight_cons (j : Job) (js : List Job) :
    jobsWeight (j :: js) = 1 + weightAll j.next + jobsWeight js := rfl

theorem jobsWeight_append (js ks : List Job) :
    jobsWeight (js ++ ks) = jobsWeight js + jobsWeight ks := by
  induction js with
  | nil => exact (Nat.zero_add _).symm
  | cons j js ih =>
    rw [List.cons_append, jobsWeight_cons, jobsWeight_cons, ih]
    omega

theorem length_le_jobsWeight (js : List Job) : js.length ≤ jobsWeight js := by
  induction js with
  | nil => exact Nat.le_refl 0
  | cons j js ih =>
    rw [jobsWeight_cons, List.length_cons]
    omega

theorem weightAll_eq (h : Action.allAddOnly as = true) : weightAll as =
    jobsWeight (as.filterMap Action.task?) + jobsWeight (as.filterMap Action.object?) := by
  induction as with
  | nil => rfl
  | cons a rest ih =>
    rw [Action.allAddOnly, Bool.and_eq_true] at h
    rw [weightAll, ih h.2]
    cases a with
    | post name next =>
      simp only [weight, List.filterMap_cons, Action.task?, Action.object?, jobsWeight_cons]
      omega
    | delete name next =>
      simp only [weight, List.filterMap_cons, Action.task?, Action.object?, jobsWeight_cons]
      omega
    | run | clear | wakeup => cases h.1

theorem load_turn (l : Loop) {t : Turn} (h : t.job.addsOnly = true) :
    (l.turn t).load = l.load + weightAll t.job.next := by
  rw [weightAll_eq h]
  simp only [load, turn, add, note, jobsWeight_append]
  omega

theorem AddsOnly.turn (hl : l.AddsOnly) {t : Turn} (h : t.job.addsOnly = true) :
    (l.turn t).AddsOnly := by
  obtain ⟨htasks, hobjects⟩ := Job.addsOnly_of_action h
  constructor
  · intro j hj
    exact (List.mem_append.mp hj).elim (hl.tasks j) (htasks j)
  · intro j hj
    exact (List.mem_append.mp hj).elim (hl.objects j) (hobjects j)

theorem AddsOnly.of_task {j : Job} {rest : List Job} (hl : l.AddsOnly)
    (htasks : l.queue.posted = j :: rest) :
    (Turn.run j).job.addsOnly = true ∧ (l.withTasks rest).AddsOnly :=
  ⟨hl.tasks j (htasks ▸ List.mem_cons_self),
    fun k hk => hl.tasks k (htasks ▸ List.mem_cons_of_mem j hk), hl.objects⟩

theorem AddsOnly.of_object {d : Job} {rest : List Job} (hl : l.AddsOnly)
    (hobjects : l.queue.deferred = d :: rest) :
    (Turn.drop d).job.addsOnly = true ∧ (l.withObjects rest).AddsOnly :=
  ⟨hl.objects d (hobjects ▸ List.mem_cons_self),
    hl.tasks, fun k hk => hl.objects k (hobjects ▸ List.mem_cons_of_mem d hk)⟩

theorem actAll_note (l : Loop) {t : Turn} (h : t.job.addsOnly = true)
    (hfuel : weightAll t.job.next < fuel) :
    actAll fuel t.job.next (l.note t.event) = l.turn t :=
  actAll_eq_add h (Nat.lt_of_le_of_lt (length_le_weightAll _) hfuel)

/-! ## The course of a run

The run as a relation, which leaves the fuel behind. It is determined by where the loop stands, so
what holds of some course holds of the one the loop takes. -/

/-- The turns of a run from where a loop stands to its end. While it is `sweeping`, objects are
dropped even if tasks wait; the run takes to it when no task is left, and stays with it until no
object is. -/
inductive Course : Bool → Loop → List Turn → Loop → Prop
  /-- Nothing is left, and the run is over. -/
  | idle {l : Loop} (htasks : l.queue.posted = []) (hobjects : l.queue.deferred = []) :
      Course false l [] l
  /-- The first task is run. -/
  | task {l l' : Loop} {ts : List Turn} {j : Job} {rest : List Job}
      (htasks : l.queue.posted = j :: rest)
      (next : Course false ((l.withTasks rest).turn (.run j)) ts l') : Course false l (.run j :: ts) l'
  /-- No task is left, so the run turns to the objects. -/
  | sweep {l l' : Loop} {ts : List Turn} (htasks : l.queue.posted = [])
      (hobjects : l.queue.deferred ≠ []) (next : Course true l ts l') : Course false l ts l'
  /-- The first object is dropped. -/
  | object {l l' : Loop} {ts : List Turn} {d : Job} {rest : List Job}
      (hobjects : l.queue.deferred = d :: rest)
      (next : Course true ((l.withObjects rest).turn (.drop d)) ts l') :
      Course true l (.drop d :: ts) l'
  /-- No object is left, so the run turns back to the tasks that dropping has posted. -/
  | swept {l l' : Loop} {ts : List Turn} (hobjects : l.queue.deferred = [])
      (next : Course false l ts l') : Course true l ts l'

variable {sweeping : Bool} {ts : List Turn}

theorem Course.unique {ts' : List Turn} {l'' : Loop} (h : Course sweeping l ts l')
    (h' : Course sweeping l ts' l'') : ts = ts' ∧ l' = l'' := by
  -- The loop has one way to go on from each state, which the induction follows.
  induction h generalizing ts' l'' with
  | idle htasks hobjects =>
    cases h' with
    | idle => exact ⟨rfl, rfl⟩
    | task htasks' => simp [htasks] at htasks'
    | sweep _ hobjects' => exact absurd hobjects hobjects'
  | task htasks _ ih =>
    cases h' with
    | idle htasks' => simp [htasks] at htasks'
    | task htasks' next' =>
      obtain ⟨rfl, rfl⟩ := List.cons.inj (htasks.symm.trans htasks')
      obtain ⟨rfl, rfl⟩ := ih next'
      exact ⟨rfl, rfl⟩
    | sweep htasks' => simp [htasks] at htasks'
  | sweep htasks hobjects _ ih =>
    cases h' with
    | idle _ hobjects' => exact absurd hobjects' hobjects
    | task htasks' => simp [htasks] at htasks'
    | sweep _ _ next' => exact ih next'
  | object hobjects _ ih =>
    cases h' with
    | object hobjects' next' =>
      obtain ⟨rfl, rfl⟩ := List.cons.inj (hobjects.symm.trans hobjects')
      obtain ⟨rfl, rfl⟩ := ih next'
      exact ⟨rfl, rfl⟩
    | swept hobjects' => simp [hobjects] at hobjects'
  | swept hobjects _ ih =>
    cases h' with
    | object hobjects' => simp [hobjects] at hobjects'
    | swept _ next' => exact ih next'

theorem dropAll_cons {d : Job} {rest : List Job} (hd : d.addsOnly = true)
    (hfuel : weightAll d.next < fuel) :
    dropAll (fuel + 1) (d :: rest) l = dropAll fuel rest (l.turn (.drop d)) := by
  rw [dropAll]
  exact congrArg (dropAll fuel rest) (actAll_note l (t := .drop d) hd hfuel)

/-- What a batch of objects leaves: the work that they add, themselves being gone. -/
theorem dropAll_adds {batch : List Job} (hbatch : ∀ j ∈ batch, j.addsOnly = true) (hl : l.AddsOnly)
    (hfuel : jobsWeight batch < fuel) :
    (dropAll fuel batch l).AddsOnly ∧
      (dropAll fuel batch l).load + batch.length = l.load + jobsWeight batch := by
  induction batch generalizing l fuel with
  | nil =>
    obtain ⟨fuel, rfl⟩ : ∃ n, fuel = n + 1 := ⟨fuel - 1, by omega⟩
    exact ⟨hl, rfl⟩
  | cons d rest ih =>
    rw [jobsWeight_cons] at hfuel ⊢
    obtain ⟨fuel, rfl⟩ : ∃ n, fuel = n + 1 := ⟨fuel - 1, by omega⟩
    have hd : d.addsOnly = true := hbatch d List.mem_cons_self
    rw [dropAll_cons hd (by omega)]
    obtain ⟨hadds, hload⟩ := ih (fun j hj => hbatch j (List.mem_cons_of_mem d hj))
      (hl.turn (t := .drop d) hd) (by omega : jobsWeight rest < fuel)
    rw [load_turn l (t := .drop d) hd] at hload
    refine ⟨hadds, ?_⟩
    show _ + (rest.length + 1) = _ + (1 + weightAll (Turn.drop d).job.next + jobsWeight rest)
    omega

/-- Objects that are taken as a batch are dropped as they would be if they still waited in front of
what is handed over meanwhile. -/
theorem Course.of_batch {batch : List Job} (hbatch : ∀ j ∈ batch, j.addsOnly = true)
    (hfuel : jobsWeight batch < fuel) (h : Course true (dropAll fuel batch l) ts l') :
    ∃ ts', Course true (l.withObjects (batch ++ l.queue.deferred)) ts' l' := by
  induction batch generalizing l fuel with
  | nil =>
    obtain ⟨fuel, rfl⟩ : ∃ n, fuel = n + 1 := ⟨fuel - 1, by omega⟩
    exact ⟨ts, h⟩
  | cons d rest ih =>
    rw [jobsWeight_cons] at hfuel
    obtain ⟨fuel, rfl⟩ : ∃ n, fuel = n + 1 := ⟨fuel - 1, by omega⟩
    rw [dropAll_cons (hbatch d List.mem_cons_self) (by omega)] at h
    obtain ⟨ts', h'⟩ := ih (fun j hj => hbatch j (List.mem_cons_of_mem d hj)) (by omega) h
    refine ⟨.drop d :: ts', .object rfl ?_⟩
    have hsame : (l.turn (.drop d)).withObjects (rest ++ (l.turn (.drop d)).queue.deferred) =
        (l.withObjects (rest ++ l.queue.deferred)).turn (.drop d) := by
      simp [turn, add, note, withObjects, List.append_assoc]
    rw [hsame] at h'
    exact h'

/-- Dropping objects until none waits leaves less work, if any waited, and what follows is what
follows a sweep. -/
theorem clearDeferred_course (hl : l.AddsOnly) (hfuel : l.load + 2 ≤ fuel) :
    (clearDeferred fuel l).AddsOnly ∧
      (clearDeferred fuel l).load + l.queue.deferred.length ≤ l.load ∧
      ∀ ts l', Course false (clearDeferred fuel l) ts l' → ∃ ts', Course true l ts' l' := by
  induction fuel generalizing l with
  | zero => omega
  | succ fuel ih =>
    rw [clearDeferred]
    cases hobjects : l.queue.deferred with
    | nil =>
      dsimp only
      refine ⟨hl, Nat.le_refl _, fun ts l' h => ⟨ts, .swept hobjects h⟩⟩
    | cons d rest =>
      dsimp only
      rw [← hobjects]
      have hload : l.load = (l.withObjects []).load + jobsWeight l.queue.deferred := rfl
      have hlength := length_le_jobsWeight l.queue.deferred
      have hsome : 0 < l.queue.deferred.length := by rw [hobjects]; exact Nat.succ_pos _
      -- The batch is dropped; what that defers makes the next one, and the load went down.
      obtain ⟨hadds, hleft⟩ := dropAll_adds hl.objects
        (⟨hl.tasks, fun _ hj => nomatch hj⟩ : (l.withObjects []).AddsOnly)
        (by omega : jobsWeight l.queue.deferred < fuel)
      obtain ⟨hadds', hleft', hcourse⟩ := ih hadds (by omega)
      refine ⟨hadds', ?_, fun ts l' h => ?_⟩
      · show Loop.load (clearDeferred fuel (dropAll fuel l.queue.deferred (l.withObjects []))) +
          l.queue.deferred.length ≤ l.load
        omega
      · obtain ⟨ts₁, h₁⟩ := hcourse ts l' h
        obtain ⟨ts₂, h₂⟩ := Course.of_batch hl.objects (by omega) h₁
        have hsame : (l.withObjects []).withObjects
            (l.queue.deferred ++ (l.withObjects []).queue.deferred) = l := by
          simp [withObjects]
        rw [hsame] at h₂
        exact ⟨ts₂, h₂⟩

/-- With fuel for all the work that waits, a run comes to its end. -/
theorem runUntilIdle_course (hl : l.AddsOnly) (hfuel : l.load + 3 ≤ fuel) :
    ∃ ts, Course false l ts (runUntilIdle fuel l) := by
  induction fuel generalizing l with
  | zero => omega
  | succ fuel ih =>
    rw [runUntilIdle]
    cases htasks : l.queue.posted with
    | cons j rest =>
      dsimp only
      have hload : l.load = 1 + weightAll j.next + (l.withTasks rest).load := by
        simp only [load, htasks, jobsWeight_cons, withTasks]
        omega
      obtain ⟨hj, hrest⟩ := hl.of_task htasks
      have hturn : actAll fuel j.next ((l.withTasks rest).note (.ran j.name)) =
          (l.withTasks rest).turn (.run j) :=
        actAll_note _ hj (by show weightAll j.next < fuel; omega)
      -- A task takes its own weight from the load, so that the fuel lasts.
      have hless : ((l.withTasks rest).turn (.run j)).load + 3 ≤ fuel := by
        rw [load_turn _ hj]
        show (l.withTasks rest).load + weightAll j.next + 3 ≤ fuel
        omega
      obtain ⟨ts, h⟩ := ih (hrest.turn hj) hless
      refine ⟨.run j :: ts, .task htasks ?_⟩
      rw [← hturn] at h ⊢
      exact h
    | nil =>
      cases hobjects : l.queue.deferred with
      | nil => exact ⟨[], .idle htasks hobjects⟩
      | cons d rest =>
        dsimp only
        obtain ⟨hadds, hleft, hcourse⟩ := clearDeferred_course hl (by omega : l.load + 2 ≤ fuel)
        rw [hobjects, List.length_cons] at hleft
        obtain ⟨ts, h⟩ := ih hadds (by omega)
        obtain ⟨ts', h'⟩ := hcourse ts _ h
        exact ⟨ts', .sweep htasks (by simp [hobjects]) h'⟩

/-! ## The order of turns

What can be said of the order in which tasks are run and objects dropped, read off the course. -/

/-- A course leaves nothing waiting, and its turns are what the log tells. -/
theorem Course.eq_idleAfter (h : Course sweeping l ts l') : l' = l.idleAfter ts := by
  induction h with
  | @idle l htasks hobjects =>
    obtain ⟨⟨posted, deferred⟩, hook, log⟩ := l
    obtain rfl : posted = [] := htasks
    obtain rfl : deferred = [] := hobjects
    rfl
  | task _ _ ih =>
    rw [ih]
    simp [idleAfter, turn, add, note, withTasks, Turn.tell, Turn.tasks, Job.tasks]
  | sweep _ _ _ ih => exact ih
  | object _ _ ih =>
    rw [ih]
    simp [idleAfter, turn, add, note, withObjects, Turn.tell, Turn.tasks, Job.tasks]
  | swept _ _ ih => exact ih

theorem allTurns_perm (h : Action.allAddOnly as = true) : (allTurns as).Perm
    ((as.filterMap Action.task?).flatMap (Turn.tree ∘ .run) ++
      (as.filterMap Action.object?).flatMap (Turn.tree ∘ .drop)) := by
  induction as with
  | nil => exact .nil
  | cons a rest ih =>
    rw [Action.allAddOnly, Bool.and_eq_true] at h
    have hrest := ih h.2
    cases a with
    | post name next =>
      simp only [allTurns, turns, List.filterMap_cons, Action.task?, Action.object?,
        List.flatMap_cons, List.append_assoc]
      exact hrest.append_left (Turn.tree (.run ⟨name, next⟩))
    | delete name next =>
      simp only [allTurns, turns, List.filterMap_cons, Action.task?, Action.object?,
        List.flatMap_cons]
      exact (hrest.append_left (Turn.tree (.drop ⟨name, next⟩))).trans (List.perm_append_comm_assoc ..)
    | run | clear | wakeup => cases h.1

/-- What the work of a turn leads to joins what waits. -/
theorem forest_turn (l : Loop) {t : Turn} (h : t.job.addsOnly = true) :
    (l.turn t).forest.Perm (allTurns t.job.next ++ l.forest) := by
  have hadded := (allTurns_perm h).append_right l.forest
  refine List.Perm.trans ?_ hadded.symm
  simp only [forest, turn, add, note, List.flatMap_append, List.append_assoc]
  -- the tasks that wait stand in front of those that are added
  refine (List.perm_append_comm_assoc ..).trans (List.Perm.append_left _ ?_)
  refine List.Perm.trans (List.Perm.append_left _ List.perm_append_comm) ?_
  exact List.perm_append_comm_assoc ..

theorem Course.once (h : Course sweeping l ts l') (hl : l.AddsOnly) : ts.Perm l.forest := by
  induction h with
  | idle htasks hobjects => simp [forest, htasks, hobjects]
  | @task l _ ts j rest htasks _ ih =>
    obtain ⟨hj, hrest⟩ := hl.of_task htasks
    have hforest : l.forest = Turn.run j :: (allTurns j.next ++ (l.withTasks rest).forest) := by
      simp [forest, htasks, withTasks, Turn.tree, Turn.job]
    rw [hforest]
    exact ((ih (hrest.turn hj)).trans (forest_turn _ hj)).cons _
  | sweep _ _ _ ih => exact ih hl
  | @object l _ ts d rest hobjects _ ih =>
    obtain ⟨hd, hrest⟩ := hl.of_object hobjects
    have hforest : (Turn.drop d :: (allTurns d.next ++ (l.withObjects rest).forest)).Perm l.forest := by
      simp only [forest, hobjects, withObjects, List.flatMap_cons]
      exact List.perm_append_comm_assoc (Turn.tree (.drop d)) _ _
    exact (((ih (hrest.turn hd)).trans (forest_turn _ hd)).cons _).trans hforest
  | swept _ _ ih => exact ih hl

theorem Course.tasks_eq (h : Course sweeping l ts l') :
    ts.filterMap Turn.task? = l.queue.posted ++ ts.flatMap Turn.tasks := by
  induction h with
  | idle htasks _ => rw [htasks]; rfl
  | task htasks _ ih =>
    rw [List.filterMap_cons_some (rfl : Turn.task? (.run _) = some _), ih, htasks]
    simp [turn, add, note, withTasks, Turn.tasks, Job.tasks]
  | sweep _ _ _ ih => exact ih
  | object _ _ ih =>
    rw [List.filterMap_cons_none rfl, ih]
    simp [turn, add, note, withObjects, Turn.tasks, Job.tasks]
  | swept _ _ ih => exact ih

theorem Course.objects_eq (h : Course sweeping l ts l') :
    ts.filterMap Turn.object? = l.queue.deferred ++ ts.flatMap Turn.objects := by
  induction h with
  | idle _ hobjects => rw [hobjects]; rfl
  | task _ _ ih =>
    rw [List.filterMap_cons_none rfl, ih]
    simp [turn, add, note, withTasks, Turn.objects, Job.objects]
  | sweep _ _ _ ih => exact ih
  | object hobjects _ ih =>
    rw [List.filterMap_cons_some (rfl : Turn.object? (.drop _) = some _), ih, hobjects]
    simp [turn, add, note, withObjects, Turn.objects, Job.objects]
  | swept _ _ ih => exact ih

/-- A loop at a turn: what the turn takes waits in front, and what it adds stands behind all else
when the course goes on. -/
structure Passes (l : Loop) (t : Turn) (l₁ : Loop) : Prop where
  /-- The task that is run waits in front. -/
  task : t.task?.toList <+: l.queue.posted
  /-- The object that is dropped does. -/
  object : t.object?.toList <+: l.queue.deferred
  /-- New tasks stand behind all that wait. -/
  tasks : t.task?.toList ++ l₁.queue.posted = l.queue.posted ++ t.tasks
  /-- So do new objects. -/
  objects : t.object?.toList ++ l₁.queue.deferred = l.queue.deferred ++ t.objects

theorem Course.cons_inv {t : Turn} (h : Course sweeping l (t :: ts) l') :
    ∃ l₁ sweeping', Course sweeping' l₁ ts l' ∧ l.Passes t l₁ ∧
      (t.task?.isSome = true → sweeping' = false) := by
  generalize hts : t :: ts = ts' at h
  induction h with
  | idle => cases hts
  | task htasks next =>
    obtain ⟨rfl, rfl⟩ := List.cons.inj hts
    refine ⟨_, _, next, ⟨?_, List.nil_prefix, ?_, rfl⟩, fun _ => rfl⟩
    · exact htasks ▸ List.prefix_append [_] _
    · rw [htasks]
      rfl
  | sweep _ _ _ ih => exact ih hts
  | object hobjects next =>
    obtain ⟨rfl, rfl⟩ := List.cons.inj hts
    refine ⟨_, _, next, ⟨List.nil_prefix, ?_, rfl, ?_⟩, fun h => nomatch h⟩
    · exact hobjects ▸ List.prefix_append [_] _
    · rw [hobjects]
      rfl
  | swept _ _ ih => exact ih hts

/-- Before any turn, the tasks that have run were all posted, and so it is with objects. -/
theorem Course.before {before after : List Turn} (h : Course sweeping l (before ++ after) l') :
    ∃ l₁ sweeping', Course sweeping' l₁ after l' ∧
      before.filterMap Turn.task? ++ l₁.queue.posted =
        l.queue.posted ++ before.flatMap Turn.tasks ∧
      before.filterMap Turn.object? ++ l₁.queue.deferred =
        l.queue.deferred ++ before.flatMap Turn.objects := by
  induction before generalizing l sweeping with
  | nil => exact ⟨l, sweeping, h, by simp, by simp⟩
  | cons t before ih =>
    obtain ⟨l₁, sweeping₁, h₁, hpasses, -⟩ := h.cons_inv
    obtain ⟨l₂, sweeping₂, h₂, htasks, hobjects⟩ := ih h₁
    refine ⟨l₂, sweeping₂, h₂, ?_, ?_⟩
    · rw [List.flatMap_cons, ← List.append_assoc, ← hpasses.tasks, List.append_assoc, ← htasks]
      cases t <;> rfl
    · rw [List.flatMap_cons, ← List.append_assoc, ← hpasses.objects, List.append_assoc, ← hobjects]
      cases t <;> rfl

theorem Course.task_posted {before after : List Turn} {j : Job}
    (h : Course sweeping l (before ++ .run j :: after) l') :
    before.filterMap Turn.task? ++ [j] <+: l.queue.posted ++ before.flatMap Turn.tasks := by
  obtain ⟨l₁, sweeping', h₁, htasks, -⟩ := h.before
  obtain ⟨l₂, -, -, hpasses, -⟩ := h₁.cons_inv
  rw [← htasks]
  exact (List.prefix_append_right_inj _).mpr hpasses.task

theorem Course.object_handed {before after : List Turn} {d : Job}
    (h : Course sweeping l (before ++ .drop d :: after) l') :
    before.filterMap Turn.object? ++ [d] <+: l.queue.deferred ++ before.flatMap Turn.objects := by
  obtain ⟨l₁, sweeping', h₁, -, hobjects⟩ := h.before
  obtain ⟨l₂, -, -, hpasses, -⟩ := h₁.cons_inv
  rw [← hobjects]
  exact (List.prefix_append_right_inj _).mpr hpasses.object

/-- Unless it is sweeping already, a course drops nothing until all tasks have run that wait. -/
theorem Course.first_tasks {before after : List Turn} {d : Job}
    (h : Course false l (before ++ .drop d :: after) l') :
    l.queue.posted <+: before.filterMap Turn.task? := by
  induction before generalizing l with
  | nil =>
    cases h with
    | sweep htasks => exact htasks ▸ List.nil_prefix
  | cons t before ih =>
    cases h with
    | task htasks next =>
      rw [htasks, List.filterMap_cons_some (rfl : Turn.task? (.run _) = some _)]
      have hrest := ih next
      exact List.cons_prefix_cons.mpr ⟨rfl, (List.prefix_append _ _).trans hrest⟩
    | sweep htasks => exact htasks ▸ List.nil_prefix

theorem Course.tasks_between {before between after : List Turn} {j d : Job}
    (h : Course sweeping l (before ++ .run j :: between ++ .drop d :: after) l') :
    l.queue.posted ++ (before ++ [Turn.run j]).flatMap Turn.tasks <+:
      (before ++ .run j :: between).filterMap Turn.task? := by
  rw [List.append_assoc] at h
  obtain ⟨l₁, sweeping', h₁, htasks, -⟩ := h.before
  obtain ⟨l₂, sweeping'', h₂, hpasses, hmode⟩ := h₁.cons_inv
  obtain rfl := hmode rfl
  have hposted : l.queue.posted ++ (before ++ [Turn.run j]).flatMap Turn.tasks =
      before.filterMap Turn.task? ++ (j :: l₂.queue.posted) := by
    have hturn : j :: l₂.queue.posted = l₁.queue.posted ++ (Turn.run j).tasks := hpasses.tasks
    rw [List.flatMap_append, ← List.append_assoc, ← htasks, hturn]
    simp
  rw [hposted, List.filterMap_append, List.filterMap_cons_some (rfl : Turn.task? (.run j) = some j)]
  exact (List.prefix_append_right_inj _).mpr (List.cons_prefix_cons.mpr ⟨rfl, h₂.first_tasks⟩)

theorem Course.orderly (h : Course false l ts l') (hl : l.AddsOnly) : l.Orderly ts where
  once := h.once hl
  tasks := h.tasks_eq
  objects := h.objects_eq
  task_posted := by
    rintro before j after rfl
    exact h.task_posted
  object_handed := by
    rintro before d after rfl
    exact h.object_handed
  first_tasks := by
    rintro before d after rfl
    exact h.first_tasks
  tasks_between := by
    rintro before j between d after rfl
    exact h.tasks_between

/-- A run of a loop whose work only adds work comes to an end, and more fuel changes nothing.
Nothing waits then, and what has happened is a list of turns, one for each piece of work that waited
or was added, in order. -/
theorem drains (l : Loop) (hl : l.AddsOnly) :
    ∃ ts, l.perform .run = l.idleAfter ts ∧
      (∀ fuel, l.load + 3 ≤ fuel → runUntilIdle fuel l = l.idleAfter ts) ∧ l.Orderly ts := by
  obtain ⟨ts, h⟩ := runUntilIdle_course hl (Nat.le_refl _)
  have hends : ∀ fuel, l.load + 3 ≤ fuel → runUntilIdle fuel l = l.idleAfter ts := by
    intro fuel hfuel
    obtain ⟨ts', h'⟩ := runUntilIdle_course hl hfuel
    rw [(h'.unique h).2, h.eq_idleAfter]
  refine ⟨ts, ?_, hends, h.orderly hl⟩
  show runUntilIdle (8 * (l.load + 1) + 7) l = _
  exact hends _ (by omega)

/-- A task that posts another and hands over an object, whose dropping posts a task in turn, while
an object waits already that hands over another. -/
theorem drains_nested :
    let l : Loop := {
      queue := {
        posted := [⟨"a", [.delete "x" [.post "c" []], .post "b" [.delete "y" []]]⟩]
        deferred := [⟨"z", [.delete "w" []]⟩] }
      hook := some "h" }
    l.AddsOnly ∧ (∃ ts, l.perform .run = l.idleAfter ts ∧ l.Orderly ts) ∧
      (l.perform .run).log.reverse = [.ran "a", .woken "h", .ran "b", .dropped "z", .dropped "x",
        .woken "h", .dropped "y", .dropped "w", .ran "c"] := by
  intro l
  have hl : l.AddsOnly := ⟨by decide, by decide⟩
  obtain ⟨ts, hrun, -, horder⟩ := drains l hl
  exact ⟨hl, ⟨ts, hrun, horder⟩, by decide +kernel⟩

end Loop

end RpcProxy

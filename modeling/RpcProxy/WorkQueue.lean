/-!
# Work that waits

Work that must not run right now is queued. Tasks run one after another in the order in which they
were posted; objects that are to be dropped wait until no task is left. A `WorkQueue` is the pair
of the two queues.

The rest of the file is the queue on its own, driven by named work that posts and drops further
work: a `Loop` with its log. Work can start a run or empty the drop list from within, so the loop
is entered again from inside itself; what bounds it is the amount of work that is left anywhere.
-/

set_option autoImplicit false

namespace RpcProxy

/-- Tasks to run and objects to drop. -/
structure WorkQueue (τ δ : Type) where
  /-- Tasks in the order in which they were posted. -/
  posted : List τ := []
  /-- Objects in the order in which they were handed over. -/
  deferred : List δ := []
deriving DecidableEq, Repr, Inhabited

namespace WorkQueue

variable {τ δ : Type}

/-- The queue with a task behind all others. -/
def post (q : WorkQueue τ δ) (t : τ) : WorkQueue τ δ := { q with posted := q.posted ++ [t] }

/-- The queue with an object behind all others. -/
def defer (q : WorkQueue τ δ) (d : δ) : WorkQueue τ δ := { q with deferred := q.deferred ++ [d] }

/-- Whether nothing waits. -/
def isIdle (q : WorkQueue τ δ) : Bool := q.posted.isEmpty && q.deferred.isEmpty

end WorkQueue

/-! ## Named work -/

/-- Something that work does. -/
inductive Action where
  /-- Posts a task that logs its name and then acts. -/
  | post (name : String) (next : List Action)
  /-- Hands over an object that logs its name when it is dropped and then acts. -/
  | delete (name : String) (next : List Action)
  /-- Runs until nothing waits. -/
  | run
  /-- Drops what waits to be dropped. -/
  | clear
  /-- Names the hook that is called whenever a task is posted. -/
  | wakeup (name : String)
deriving Repr, Inhabited

/-- A task or an object: its name and what it does. -/
structure Job where
  name : String
  next : List Action
deriving Repr

/-- What the log tells. -/
inductive WorkEvent where
  | ran (name : String)
  | dropped (name : String)
  /-- The hook was called. -/
  | woken (name : String)
deriving DecidableEq, Repr

/-- A queue of named work with its hook and its log. -/
structure Loop where
  queue : WorkQueue Job Job := {}
  hook : Option String := none
  /-- What happened, the latest first. -/
  log : List WorkEvent := []
deriving Inhabited

namespace Loop

def note (l : Loop) (e : WorkEvent) : Loop := { l with log := e :: l.log }

/-- Posts a task and calls the hook. -/
def post (l : Loop) (j : Job) : Loop :=
  let l := { l with queue := l.queue.post j }
  match l.hook with
  | some name => l.note (.woken name)
  | none => l

mutual

def act : Nat → Action → Loop → Loop
  | 0, _, l => l
  | _ + 1, .post name next, l => l.post ⟨name, next⟩
  | _ + 1, .delete name next, l => { l with queue := l.queue.defer ⟨name, next⟩ }
  | fuel + 1, .run, l => runUntilIdle fuel l
  | fuel + 1, .clear, l => clearDeferred fuel l
  | _ + 1, .wakeup name, l => { l with hook := some name }

/-- Does several things in order. -/
def actAll : Nat → List Action → Loop → Loop
  | 0, _, l => l
  | _ + 1, [], l => l
  | fuel + 1, a :: rest, l => actAll fuel rest (act fuel a l)

/-- Drops objects in order. -/
def dropAll : Nat → List Job → Loop → Loop
  | 0, _, l => l
  | _ + 1, [], l => l
  | fuel + 1, j :: rest, l => dropAll fuel rest (actAll fuel j.next (l.note (.dropped j.name)))

/-- Drops all objects that wait, and those that are handed over meanwhile. -/
def clearDeferred : Nat → Loop → Loop
  | 0, l => l
  | fuel + 1, l =>
    match l.queue.deferred with
    | [] => l
    | batch =>
      clearDeferred fuel (dropAll fuel batch { l with queue := { l.queue with deferred := [] } })

/-- Runs tasks, and drops objects whenever no task is left, until nothing waits. -/
def runUntilIdle : Nat → Loop → Loop
  | 0, l => l
  | fuel + 1, l =>
    match l.queue.posted with
    | j :: rest =>
      let l := { l with queue := { l.queue with posted := rest } }
      runUntilIdle fuel (actAll fuel j.next (l.note (.ran j.name)))
    | [] =>
      match l.queue.deferred with
      | [] => l
      | _ => runUntilIdle fuel (clearDeferred fuel l)

end

/-! ## How much work there is -/

mutual

/-- The number of actions in an action, itself included. -/
def weight : Action → Nat
  | .post _ next => 1 + weightAll next
  | .delete _ next => 1 + weightAll next
  | _ => 1

def weightAll : List Action → Nat
  | [] => 0
  | a :: rest => weight a + weightAll rest

end

/-- The amount of work in jobs that wait. -/
def jobsWeight (js : List Job) : Nat := js.foldr (fun j n => 1 + weightAll j.next + n) 0

/-- The amount of work that waits. -/
def load (l : Loop) : Nat := jobsWeight l.queue.posted + jobsWeight l.queue.deferred

/-- Does one thing with as much fuel as all work there is can use. -/
def perform (l : Loop) (a : Action) : Loop := act (8 * (l.load + weight a) + 8) a l

end Loop

end RpcProxy

import RpcProxy.Session.Run

/-!
# Runs of a session and their histories

`Session.after` is where a session stands once a list of things has happened to it. What it did on
the way is its `history`: every task that was taken up, in order, with the session as it was at that
moment. The history is read off the run and changes nothing in it.

A run is bounded by a number of tasks that is large enough, so its history is defined by recursion
on the same number, and a statement about runs can be proved by induction on it without looking at
how large it is. An invariant that speaks of both the past and the present of a session is proved
with `runUntilIdle_history`, one case for a task that is taken up and one for streams that are
dropped.
-/

set_option autoImplicit false

namespace RpcProxy.Session

variable {σ : Type}

/-- The session after some things have happened to it. -/
def after (s : Session σ) (ops : List SessionOp) : Session σ := ops.foldl step s

/-- The session with the rest of its tasks, once one of them is taken up. -/
def leave (s : Session σ) (rest : List Task) : Session σ :=
  { s with queue := { s.queue with posted := rest } }

/-- The tasks that a run takes up, in order, each with the session at that moment. -/
def taken : Nat → Session σ → List (Session σ × Task)
  | 0, _ => []
  | fuel + 1, s =>
    if s.panic.isSome then []
    else
      match s.queue.posted with
      | t :: rest => (s.leave rest, t) :: taken fuel ((s.leave rest).runTask t)
      | [] => if s.queue.deferred.isEmpty then [] else taken fuel s.clearDeferred

/-- The tasks that are taken up while something happens. What is done with a stream at once counts
as a task, too, since a filter may do it while it is called. -/
def takenIn (s : Session σ) : SessionOp → List (Session σ × Task)
  | .stream id op => [(s, .stream id op)]
  | .run => taken s.effort s
  | _ => []

/-- The tasks that were taken up while some things happened, in order. -/
def history (s : Session σ) : List SessionOp → List (Session σ × Task)
  | [] => []
  | op :: ops => s.takenIn op ++ (s.step op).history ops

/-- What holds of the past and the present of a session holds after a run, if taking up a task and
dropping streams keep it. The run stops where a promise is broken, and the invariant holds there as
well. -/
theorem runUntilIdle_history {P : List (Session σ × Task) → Session σ → Prop}
    (htask : ∀ h s t rest, s.queue.posted = t :: rest → P h s →
      P (h ++ [(s.leave rest, t)]) ((s.leave rest).runTask t))
    (hclear : ∀ h s, P h s → P h s.clearDeferred) :
    ∀ (fuel : Nat) (h : List (Session σ × Task)) (s : Session σ), P h s →
      P (h ++ taken fuel s) (runUntilIdle fuel s) := by
  intro fuel
  induction fuel with
  | zero =>
    intro h s hp
    simpa [taken, runUntilIdle] using hp
  | succ fuel ih =>
    intro h s hp
    unfold taken runUntilIdle
    split
    · simpa using hp
    · cases hq : s.queue.posted with
      | nil =>
        dsimp only
        split
        · simpa using hp
        · exact ih h _ (hclear h s hp)
      | cons t rest =>
        dsimp only
        have h' := ih _ _ (htask h s t rest hq hp)
        rwa [List.append_assoc] at h'

end RpcProxy.Session

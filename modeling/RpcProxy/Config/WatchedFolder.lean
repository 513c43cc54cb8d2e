import RpcProxy.Config.Update
import RpcProxy.FileTree

/-!
# A watched folder

A watcher together with the files that it watches and a clock. Files are written and removed by
paths that start in the watched folder; the watcher hears of those that lie right in it. A path that
cannot be followed changes nothing, and nobody hears of it.
-/

set_option autoImplicit false

namespace RpcProxy.Config

structure WatchedFolder where
  /-- The files; paths start from the watched folder. -/
  files : FileTree
  watcher : Watcher
  now : Instant := 0

/-- What happens to a watched folder. -/
inductive WatchOp where
  /-- A file is written. -/
  | touch (path : String)
  | remove (path : String)
  | pass (millis : Nat)
  | poll
deriving DecidableEq, Repr

namespace WatchedFolder

/-- The watched file in a folder called `folder`, which holds nothing yet. -/
def start (folder file : String) : WatchedFolder :=
  { files := { root := .folder [(folder, .folder [])], working := [folder] }
    watcher := { path := pathOf [folder, file] } }

/-- The watcher hears of a change to a file right in its folder. -/
def hear (w : WatchedFolder) (kind : FileEventKind) :
    Except FileFault (Place × FileTree) → WatchedFolder
  | .error _ => w
  | .ok (place, files) =>
    let watcher := if place.dropLast = w.files.working then
      w.watcher.notice (.seen kind [pathOf place]) else w.watcher
    { w with files, watcher }

/-- Something happens. Answers what a watcher that was asked says. -/
def step (w : WatchedFolder) : WatchOp → Option Bool × WatchedFolder
  | .touch path => (none, w.hear .modify (w.files.write path []))
  | .remove path => (none, w.hear .remove (w.files.remove path))
  | .pass millis => (none, { w with now := w.now + millis * milli })
  | .poll =>
    let (fires, watcher) := w.watcher.poll w.now
    (some fires, { w with watcher })

/-- What the watcher says when it is asked, in order. -/
def answers (w : WatchedFolder) : List WatchOp → List Bool
  | [] => []
  | op :: rest =>
    let (said, w) := w.step op
    said.toList ++ w.answers rest

end WatchedFolder

end RpcProxy.Config

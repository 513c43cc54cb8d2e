import RpcProxy.Config.Encode
import RpcProxy.Config.Validate
import RpcProxy.FileTree
import RpcProxy.Time.Clock

/-!
# From one configuration to the next

An `Update` names the listeners that a new configuration changes, adds and removes. Settings are
compared as TOML values, so the order of entries does not matter, and a value that cannot be
written counts as changed.

A `Reloader` remembers the configuration that was accepted last; a file that is refused leaves it
as it was. A `Watcher` turns file events into one signal once the file has been quiet for a while.
-/

set_option autoImplicit false

namespace RpcProxy.Config

/-- Whether two values could be written and are the same. -/
def sameValue : Option Toml.Value → Option Toml.Value → Bool
  | some a, some b => a.same b
  | _, _ => false

/-- Whether two listeners have the same settings. -/
def sameListener (a b : Listener) : Bool := sameValue a.toValue? b.toValue?

/-- Whether two lists of clusters have the same settings. -/
def sameClusters (a b : List Cluster) : Bool := sameValue (clustersValue? a) (clustersValue? b)

/-- A configuration and how it differs from the one before. -/
structure Update where
  config : Config
  /-- Listeners that were and are, with other settings. -/
  changed : List String
  added : List String
  removed : List String
  clustersChanged : Bool
deriving Inhabited

/-- How a listener of the new configuration stands to the one of its name before. -/
inductive Change where
  | same
  | changed
  | added
deriving DecidableEq, Repr

def changeOf (before : List Listener) (l : Listener) : Change :=
  match before.find? (·.name == l.name) with
  | some old => if sameListener old l then .same else .changed
  | none => .added

/-- The difference between two configurations. -/
def Update.between (before after : Config) : Update where
  config := after
  changed := (after.listeners.filter (changeOf before.listeners · == .changed)).map (·.name)
  added := (after.listeners.filter (changeOf before.listeners · == .added)).map (·.name)
  removed := (before.listeners.filter fun old =>
    !after.listeners.any (·.name == old.name)).map (·.name)
  clustersChanged := !sameClusters before.clusters after.clusters

def Update.isChanged (u : Update) (listener : String) : Bool := u.changed.contains listener

/-! ## Reloading -/

/-- The configuration that was accepted last. -/
structure Reloader where
  /-- What is running. -/
  current : Config := {}
deriving Inhabited

/-- Reads the file anew, `none` being a file that is not there. Answers the update, unless the
file is refused. -/
def Reloader.reload (r : Reloader) (file : Option Bytes) : Option Update × Reloader :=
  match file.bind Bytes.toText? with
  | none => (none, r)
  | some text =>
    match parse text with
    | .error _ => (none, r)
    | .ok config =>
      let update := Update.between r.current config
      (some update, { current := config })

/-! ## Watching -/

/-- How long a file has to be quiet before its change is reported, in nanoseconds. -/
def quietTime : Nat := 500 * milli

/-- What can happen to files. -/
inductive FileEventKind where
  | any
  | access
  | create
  | modify
  | remove
  | other
deriving DecidableEq, Repr, Inhabited

/-- Whether files may hold something else afterwards. -/
def FileEventKind.changesFiles : FileEventKind → Bool
  | create | modify | remove => true
  | any | access | other => false

/-- What the file system reports. -/
inductive FileEvent where
  /-- Something has happened to the files with these paths. -/
  | seen (kind : FileEventKind) (paths : List String)
  /-- Watching failed for a moment. -/
  | failed
deriving DecidableEq, Repr, Inhabited

structure Watcher where
  path : String
  /-- What happened since the last poll, in order. -/
  events : List FileEvent := []
  /-- The time of the last poll that met a change not yet reported. -/
  pending : Option Instant := none
deriving DecidableEq, Repr, Inhabited

/-- Whether an event is a change of the watched file. Its name is enough, since the folder is the one
that is watched. -/
def Watcher.concerns (w : Watcher) : FileEvent → Bool
  | .seen kind paths => kind.changesFiles && paths.any fun p =>
      pathParts p == pathParts w.path || fileName? p == fileName? w.path
  | .failed => false

/-- An event arrives. -/
def Watcher.notice (w : Watcher) (e : FileEvent) : Watcher :=
  { w with events := w.events ++ [e] }

/-- Takes in what happened since the last poll. Answers whether the watched file changed and has
been quiet since. -/
def Watcher.poll (w : Watcher) (now : Instant) : Bool × Watcher :=
  let pending := if w.events.any w.concerns then some now else w.pending
  match pending with
  | some since =>
    if now - since ≥ quietTime then (true, { w with events := [], pending := none })
    else (false, { w with events := [], pending })
  | none => (false, { w with events := [], pending })

end RpcProxy.Config

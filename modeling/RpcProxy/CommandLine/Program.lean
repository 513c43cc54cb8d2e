import RpcProxy.CommandLine.Switch
import RpcProxy.LogLevel
import RpcProxy.Server.Bind
import RpcProxy.Text.Quote
import RpcProxy.Uri

/-!
# The program

The program serves a configuration or checks one. Up to the point where it serves, all that it does
follows from its words and from the files that they name: it prints some lines, perhaps an error
with what is behind it, and ends with an exit code.
-/

set_option autoImplicit false

namespace RpcProxy.CommandLine

def programName : String := "conduit"

def version : String := "0.1.0"

/-- The configuration file that is read if none is named. -/
def defaultPath : String := "conduit.toml"

/-! ## Words -/

def helpSwitch : Switch := { short := 'h', long := "help", role := .help, about := "Print help" }

/-- Names the configuration file. -/
def configSwitch (about : String) : Switch :=
  { short := 'c', long := "config", role := .value "CONFIG" false, about,
    fallback := some defaultPath }

/-- Asks for reloads. -/
def watchSwitch : Switch :=
  { short := 'w', long := "watch", role := .flag,
    about := "Watch config file and auto-reload on changes" }

/-- The words in front of a command. -/
def top : Form where
  name := programName
  about := "A protocol-agnostic proxy built from stream filter chains"
  switches := [configSwitch "Configuration file path",
    { short := 'l', long := "log-level", role := .value "LOG_LEVEL" true,
      about := "Log level, overrides `global.log_level`" },
    watchSwitch, helpSwitch,
    { short := 'V', long := "version", role := .version, about := "Print version" }]

def commands : List Form :=
  [{ name := "run", about := "Run the proxy", switches := [configSwitch "", watchSwitch, helpSwitch] },
    { name := "validate", about := "Validate configuration",
      switches := [configSwitch "", helpSwitch] }]

/-- What the program is asked to do. -/
structure Invocation where
  /-- The configuration file. -/
  path : String
  onlyCheck : Bool
  watch : Bool
  /-- The name of the level to log at. -/
  level : Option String
deriving DecidableEq, Repr

/-- What the words ask for. Behind a command, the switches in front of it count for nothing but the
log level. -/
def Invocation.ofWords (words : List String) : Except Stop Invocation := do
  let (outer, command) ← parse top commands words
  let inner := (command.map (·.2)).getD outer
  return { path := (inner.lookup "config").getD defaultPath
           onlyCheck := (command.map (·.1)) == some "validate"
           watch := (inner.lookup "watch").isSome
           level := outer.lookup "log-level" }

/-! ## Outcomes -/

/-- What a program that has ended leaves behind. -/
structure Outcome where
  /-- The exit code. -/
  code : Nat
  /-- Lines on standard output. -/
  output : List String := []
  /-- Lines on standard error. -/
  errors : List String := []
deriving DecidableEq, Repr

/-- Why the program cannot go on: an error, and behind each error the one that caused it. -/
abbrev Chain := List String

/-- The lines of a text, all but the first moved in. -/
def indented (first others : String) (text : String) : List String :=
  (text.splitOn "\n").zipIdx.map fun (line, i) => (if i = 0 then first else others) ++ line

/-- A number that takes up five columns. -/
def inFive (n : Nat) : String :=
  String.ofList (List.replicate (5 - (toString n).length) ' ') ++ toString n

/-- The lines of an error. One cause stands by itself, several are numbered. -/
def errorLines : Chain → List String
  | [] => []
  | [e] => ("Error: " ++ e).splitOn "\n"
  | e :: causes =>
    let shown := match causes with
      | [cause] => indented "    " "    " cause
      | _ => (causes.zipIdx.map fun (cause, n) =>
          indented (inFive n ++ ": ") "       " cause).flatten
    ("Error: " ++ e).splitOn "\n" ++ ["", "Caused by:"] ++ shown

/-- The outcome of an error, with what was printed before. -/
def failed (output : List String) (e : Chain) : Outcome :=
  { code := 1, output, errors := errorLines e }

/-- The outcome with lines on standard error in front of its own. -/
def Outcome.after (notes : List String) (o : Outcome) : Outcome :=
  { o with errors := notes ++ o.errors }

/-- What is said about words that are wrong. -/
def misuseLines : List String :=
  ["error: invalid arguments", "", "Usage: " ++ programName ++ " [OPTIONS] [COMMAND]", "",
    "For more information, try '--help'."]

/-! ## From start to end -/

/-- Files: the octets of each, or why it cannot be read. -/
abbrev FileReader := String → Except String Bytes

/-- What is said about octets that are no text. -/
def notText : String := "stream did not contain valid UTF-8"

def load (read : FileReader) (path : String) : Except Chain Config :=
  let failedWith (causes : Chain) : Except Chain Config :=
    .error (("Failed to load config from " ++ Text.quote path) :: causes)
  match read path with
  | .error reason => failedWith ["IO error: " ++ reason, reason]
  | .ok octets =>
    match octets.toText? with
    | none => failedWith ["IO error: " ++ notText, notText]
    | some text =>
      match Config.parse text with
      | .ok c => .ok c
      | .error (.invalid fault) => failedWith ["Validation error: " ++ fault.message]
      | .error _ => failedWith ["TOML parse error", "the file does not hold such settings"]

def listenerLine (l : Config.Listener) : String :=
  "listener " ++ l.name ++ " on " ++ l.address ++ ": codec " ++ l.codec ++ ", " ++
    toString l.filters.length ++ " filters, " ++ toString l.routes.length ++ " routes"

/-- A name that starts with a capital letter. -/
def capitalized (s : String) : String :=
  match s.toList with
  | [] => s
  | c :: cs => String.ofList (c.toUpper :: cs)

def clusterLine (c : Config.Cluster) : String :=
  "cluster " ++ c.name ++ ": " ++ toString c.hosts.length ++ " hosts, " ++
    capitalized c.transport.name ++ " transport, " ++ capitalized c.protocol.name ++ " protocol"

/-- Checks listeners in order; the lines of those that are fine, and the first error. -/
def checkListeners (faults : FileFaults) : List Config.Listener → List String × Option Chain
  | [] => ([], none)
  | l :: rest =>
    let l := l.withRouter
    match Plan.ofConfig (.routing 0) faults l with
    | .error e => ([], some (("Invalid listener '" ++ l.name ++ "'") :: e.chain))
    | .ok _ =>
      let (lines, e) := checkListeners faults rest
      (listenerLine l :: lines, e)

/-- Checks a configuration: the clusters, then the listeners. -/
def check (faults : FileFaults) (c : Config) : Outcome :=
  match Server.setUpClusters c.clusters with
  | .error e => failed [] e.chain
  | .ok clusters =>
    match checkListeners faults c.listeners with
    | (lines, some e) => failed lines e
    | (lines, none) =>
      { code := 0
        output := lines ++ c.clusters.map clusterLine ++
          ["Configuration is valid (" ++ toString c.listeners.length ++ " listeners, " ++
            toString clusters.list.length ++ " clusters)"] }

/-- What is said about the export of spans, if it cannot be set up. The program goes on without it. An
empty endpoint stands for the usual one. -/
def exportNotes (t : Config.Telemetry) : List String :=
  if !t.enabled || t.endpoint.isEmpty then []
  else
    match Uri.fault? t.endpoint with
    | none => []
    | some fault =>
      ["Failed to create OTLP tracer provider: Exporter otlp encountered the following error(s): " ++
        "invalid URI " ++ fault.message]

/-- How far the program gets by itself. -/
inductive Start where
  | ended (outcome : Outcome)
  | serving (invocation : Invocation) (config : Config) (level : LogLevel) (server : Server)

def start (read : FileReader) (faults : FileFaults) (now : Instant) (words : List String) : Start :=
  match Invocation.ofWords words with
  | .error .misuse => .ended { code := 2, errors := misuseLines }
  | .error .version => .ended { code := 0, output := [programName ++ " " ++ version] }
  | .error (.help command) => .ended { code := 0, output := helpLines top commands command }
  | .ok invocation =>
    match load read invocation.path with
    | .error e => .ended (failed [] e)
    | .ok c =>
      if invocation.onlyCheck then .ended (check faults c)
      else
        let stopped (e : Chain) : Start := .ended ((failed [] e).after (exportNotes c.telemetry))
        match Clusters.ofConfig c.clusters with
        | .error e => stopped [e.message]
        | .ok _ =>
          match Server.ofConfig faults now c with
          | .error e => stopped e.chain
          | .ok server =>
            .serving invocation c (.ofName (invocation.level.getD c.global.logLevel)) server

/-- The outcome of a program that serves until it is asked to stop: the error of a listener that
cannot be bound, or none. -/
def served (config : Config) (failure : Option BindFailure) : Outcome :=
  match failure with
  | some f => (failed [] f.chain).after (exportNotes config.telemetry)
  | none => { code := 0, errors := exportNotes config.telemetry }

def Start.outcome (system : Address → Option String) : Start → Outcome
  | .ended outcome => outcome
  | .serving _ config _ server => served config (server.bindFailure? system)

end RpcProxy.CommandLine

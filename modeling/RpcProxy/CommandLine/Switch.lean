/-!
# Words on a command line

A command has switches and perhaps further commands. Its words are taken one after another: a
switch that needs a value takes the rest of its own word or the next word, and a command takes all
words behind it. `Form.parse` tells which switches were given with which values, or why the words
were not taken up: they ask for help or for the version, or they are wrong.

The value of a switch that stands in a word of its own is looked at late, when the next switch comes
or the words are over. So it can happen that help for a command is given although a switch in front
of the command is wrong.
-/

set_option autoImplicit false

namespace RpcProxy.CommandLine

inductive Role where
  | flag
  /-- It has a value, called `name` in help texts; an empty value will do or not. -/
  | value (name : String) (mayBeEmpty : Bool)
  | help
  | version
deriving DecidableEq, Repr

structure Switch where
  /-- Its short name, behind one hyphen. -/
  short : Char
  /-- Its long name, behind two hyphens. -/
  long : String
  role : Role
  about : String := ""
  /-- The value that it has when it is not given. -/
  fallback : Option String := none
deriving DecidableEq, Repr

/-- The words that a command takes. -/
structure Form where
  name : String
  about : String
  switches : List Switch
deriving DecidableEq, Repr

/-- Why words were not taken up. -/
inductive Stop where
  /-- They ask for help on a command, or on the whole program. -/
  | help (command : Option String)
  | version
  /-- They are wrong. -/
  | misuse
deriving DecidableEq, Repr

/-- The switches that were given, by their long names. -/
abbrev Given := List (String × String)

/-- How far the words were taken. -/
structure Progress where
  /-- Switches that were looked at, in order. -/
  given : Given := []
  /-- A switch that was not, with its value if that has come. -/
  pending : Option (Switch × Option String) := none
deriving DecidableEq, Repr

namespace Progress

/-- A switch is taken up; none may be given twice. -/
def add (p : Progress) (s : Switch) (value : String) : Except Stop Progress :=
  if (p.given.lookup s.long).isSome then .error .misuse
  else
    match s.role with
    | .value _ false =>
      if value.isEmpty then .error .misuse else .ok { p with given := p.given ++ [(s.long, value)] }
    | _ => .ok { p with given := p.given ++ [(s.long, value)] }

/-- The switch that was not looked at is taken up; it must have its value. -/
def settle (p : Progress) : Except Stop Progress :=
  match p.pending with
  | none => .ok p
  | some (_, none) => .error .misuse
  | some (s, some value) => { p with pending := none }.add s value

/-- Whether the next word is the value of a switch. -/
def awaits (p : Progress) : Option Switch :=
  match p.pending with
  | some (s, none) => some s
  | _ => none

/-- A switch without a value has come, on the line of a command or in front of any. -/
def plain (p : Progress) (command : Option String) (s : Switch) : Except Stop Progress := do
  let p ← p.settle
  match s.role with
  | .help => .error (.help command)
  | .version => .error .version
  | _ => p.add s ""

end Progress

namespace Form

/-- The letters behind one hyphen: switches without a value, and perhaps one with a value at the
end. -/
def onLetters (f : Form) (command : Option String) (p : Progress) :
    List Char → Except Stop Progress
  | [] => .ok p
  | c :: rest =>
    match f.switches.find? (·.short == c) with
    | none => .error .misuse
    | some s =>
      match s.role with
      | .value _ _ => do
        let p ← p.settle
        match rest with
        | [] => .ok { p with pending := some (s, none) }
        | '=' :: value => p.add s (String.ofList value)
        | value => p.add s (String.ofList value)
      | _ => do f.onLetters command (← p.plain command s) rest

/-- The name behind two hyphens, with the value behind an equals sign if there is one. -/
def onName (f : Form) (command : Option String) (p : Progress) (name : String)
    (value : Option String) : Except Stop Progress :=
  match f.switches.find? (·.long == name) with
  | none => .error .misuse
  | some s =>
    match s.role, value with
    | .value _ _, some v => do (← p.settle).add s v
    | .value _ _, none => do return { ← p.settle with pending := some (s, none) }
    | _, some _ => .error .misuse
    | _, none => p.plain command s

/-- A word that starts with a hyphen, without that hyphen. -/
def onSwitch (f : Form) (command : Option String) (p : Progress) :
    List Char → Except Stop Progress
  | '-' :: name =>
    let (name, value) := (name.takeWhile (· != '='), name.dropWhile (· != '='))
    f.onName command p (String.ofList name)
      (match value with
        | [] => none
        | _ :: value => some (String.ofList value))
  | letters => f.onLetters command p letters

/-- Takes words until one of them is a name in `commands`; hands that name back with the words
behind it. -/
def take (f : Form) (command : Option String) (commands : List String) :
    Progress → List String → Except Stop (Progress × Option (String × List String))
  | p, [] => .ok (p, none)
  | p, word :: rest =>
    match word.toList, p.awaits with
    | ['-', '-'], none => if rest.isEmpty then .ok (p, none) else .error .misuse
    | '-' :: c :: cs, none => do f.take command commands (← f.onSwitch command p (c :: cs)) rest
    | '-' :: _ :: _, some _ => .error .misuse
    | _, some s => f.take command commands { p with pending := some (s, some word) } rest
    | _, none => if commands.contains word then .ok (p, some (word, rest)) else .error .misuse

/-- Takes all words of a command that has no further commands. -/
def takeAll (f : Form) (words : List String) : Except Stop Given := do
  let (p, _) ← f.take (some f.name) [] {} words
  return (← p.settle).given

end Form

/-- The words of a program that has commands: the switches in front, and the command with its own.
The command `help` takes the name of another. -/
def parse (top : Form) (commands : List Form) (words : List String) :
    Except Stop (Given × Option (String × Given)) := do
  let names := commands.map (·.name)
  let (p, found) ← top.take none ("help" :: names) {} words
  match found with
  | none => return ((← p.settle).given, none)
  | some ("help", []) => throw (.help none)
  | some ("help", [name]) =>
    if names.contains name || name == "help" then throw (.help (some name)) else throw .misuse
  | some ("help", _) => throw .misuse
  | some (name, rest) =>
    match commands.find? (·.name == name) with
    | none => throw .misuse
    | some f =>
      let inner ← f.takeAll rest
      return ((← p.settle).given, some (name, inner))

/-! ## Help texts -/

/-- A text filled up with blanks. -/
def padTo (n : Nat) (s : String) : String := s ++ String.ofList (List.replicate (n - s.length) ' ')

/-- Two columns. -/
def columns (rows : List (String × String)) : List String :=
  let width := (rows.map (·.1.length)).foldl max 0
  rows.map fun (left, right) => "  " ++ padTo width left ++ "  " ++ right

/-- A switch in a help text: how it is written and what it is for. -/
def Switch.row (s : Switch) : String × String :=
  let value := match s.role with
    | .value name _ => " <" ++ name ++ ">"
    | _ => ""
  let fallback := (s.fallback.map fun v => "[default: " ++ v ++ "]").toList
  ("-" ++ String.singleton s.short ++ ", --" ++ s.long ++ value,
    String.intercalate " " ((if s.about.isEmpty then [] else [s.about]) ++ fallback))

/-- What the command `help` is for. -/
def helpAbout : String := "Print this message or the help of the given subcommand(s)"

/-- The help text of a command without further commands. -/
def Form.helpLines (f : Form) (program : String) : List String :=
  [f.about, "", "Usage: " ++ program ++ " " ++ f.name ++ " [OPTIONS]", "", "Options:"] ++
    columns (f.switches.map Switch.row)

def programHelp (top : Form) (commands : List Form) : List String :=
  [top.about, "", "Usage: " ++ top.name ++ " [OPTIONS] [COMMAND]", "", "Commands:"] ++
    columns (commands.map (fun f => (f.name, f.about)) ++ [("help", helpAbout)]) ++
    ["", "Options:"] ++ columns (top.switches.map Switch.row)

/-- The help text of a command by its name, or of the program. -/
def helpLines (top : Form) (commands : List Form) : Option String → List String
  | none => programHelp top commands
  | some name =>
    match commands.find? (·.name == name) with
    | some f => f.helpLines top.name
    | none =>
      [helpAbout, "", "Usage: " ++ top.name ++ " help [COMMAND]...", "", "Arguments:"] ++
        columns [("[COMMAND]...", "Print help for the subcommand(s)")]

end RpcProxy.CommandLine

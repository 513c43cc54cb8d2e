import RpcProxy.Text.Blank

/-!
# Log levels

How much the process logs. A level is read from its name in any case, and a name that is none
means `info`.
-/

set_option autoImplicit false

namespace RpcProxy

/-- How much is logged, the most first. -/
inductive LogLevel where
  | trace
  | debug
  | info
  | warn
  | error
deriving DecidableEq, Repr, Inhabited

namespace LogLevel

def all : List LogLevel := [.trace, .debug, .info, .warn, .error]

def name : LogLevel → String
  | trace => "trace"
  | debug => "debug"
  | info => "info"
  | warn => "warn"
  | error => "error"

def ofName (s : String) : LogLevel :=
  (all.find? (·.name == Text.lowerName s)).getD .info

/-- Whether messages of a level are logged by a process that logs at another. -/
def shows (process message : LogLevel) : Bool :=
  decide (all.idxOf process ≤ all.idxOf message)

theorem ofName_name (l : LogLevel) : ofName l.name = l := by cases l <;> decide +kernel

end LogLevel

end RpcProxy

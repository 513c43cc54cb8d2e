import RpcProxy.Text.Blank

/-!
# Status codes

A reply carries one of eleven codes and a message for people. A code is written by its name in
lower case and read in any case.
-/

set_option autoImplicit false

namespace RpcProxy

/-- The outcome that a reply reports. -/
inductive StatusCode where
  | ok
  | cancelled
  | unknown
  | invalidArgument
  | deadlineExceeded
  | notFound
  | permissionDenied
  | resourceExhausted
  | unavailable
  | unimplemented
  | internal
deriving DecidableEq, Repr, Inhabited

namespace StatusCode

def all : List StatusCode :=
  [.ok, .cancelled, .unknown, .invalidArgument, .deadlineExceeded, .notFound, .permissionDenied,
    .resourceExhausted, .unavailable, .unimplemented, .internal]

/-- The name under which a code is written. -/
def name : StatusCode → String
  | ok => "ok"
  | cancelled => "cancelled"
  | unknown => "unknown"
  | invalidArgument => "invalid_argument"
  | deadlineExceeded => "deadline_exceeded"
  | notFound => "not_found"
  | permissionDenied => "permission_denied"
  | resourceExhausted => "resource_exhausted"
  | unavailable => "unavailable"
  | unimplemented => "unimplemented"
  | internal => "internal"

/-- The code with a name, in whatever case it is spelled. -/
def ofName? (s : String) : Option StatusCode :=
  all.find? (·.name == Text.lowerName s)

theorem mem_all (c : StatusCode) : c ∈ all := by cases c <;> decide

end StatusCode

/-- A code with a message for people. -/
structure Status where
  code : StatusCode := .ok
  message : String := ""
deriving DecidableEq, Repr, Inhabited

/-- Whether the code is `ok`. -/
def Status.isOk (s : Status) : Bool := s.code == .ok

end RpcProxy

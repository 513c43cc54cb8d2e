/-!
# Why a listener cannot be built

The settings of a listener name codecs, filters, status codes and files. Each of them may be
unknown, and the first unknown one is reported.
-/

set_option autoImplicit false

namespace RpcProxy

/-- Why the settings of a listener cannot be put to use. -/
inductive BuildError where
  | unknownCodec (name : String)
  | unknownFilter (name : String)
  /-- A direct response names a status code that there is not. -/
  | invalidStatus (name : String)
  /-- A file to write to cannot be opened, for a reason that the file system gives. -/
  | output (reason : String)
deriving DecidableEq, Repr

def BuildError.message : BuildError → String
  | unknownCodec name => "Unknown codec: " ++ name
  | unknownFilter name => "Unknown filter: " ++ name
  | invalidStatus name => "Invalid status code: " ++ name
  | output reason => "Filter output error: " ++ reason

/-- The wording of an error and of what is behind it. -/
def BuildError.chain : BuildError → List String
  | output reason => [(output reason).message, reason]
  | e => [e.message]

/-- Whether the file system is behind an error. -/
def BuildError.isOutput : BuildError → Bool
  | output _ => true
  | _ => false

end RpcProxy

import RpcProxy.Status
import RpcProxy.Time.Clock

/-!
# What is known about a stream

Notes that are taken while a stream runs: when it began and ended, why it is traced, which route it
took, what it was answered.
-/

set_option autoImplicit false

namespace RpcProxy

/-- Why a stream is traced, or that it is not. -/
inductive TraceReason where
  | notTraceable
  | healthCheck
  | sampling
  | serviceForced
  | clientForced
deriving DecidableEq, Repr, Inhabited

def TraceReason.name : TraceReason → String
  | notTraceable => "NotTraceable"
  | healthCheck => "HealthCheck"
  | sampling => "Sampling"
  | serviceForced => "ServiceForced"
  | clientForced => "ClientForced"

structure StreamInfo where
  started : Instant
  /-- How long it took, in nanoseconds, once it is complete. -/
  duration : Option Nat := none
  /-- Why it is traced. -/
  traceReason : Option TraceReason := none
  route : Option String := none
  status : Option StatusCode := none
  /-- Whether the proxy itself made the reply. -/
  localReply : Bool := false
deriving DecidableEq, Repr, Inhabited

/-- The stream is complete; only the first time counts. -/
def StreamInfo.complete (i : StreamInfo) (now : Instant) : StreamInfo :=
  match i.duration with
  | some _ => i
  | none => { i with duration := some (now - i.started) }

end RpcProxy

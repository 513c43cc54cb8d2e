import RpcProxy.Config.Basic
import RpcProxy.Time.Clock

/-!
# Host health

A detector follows the outcomes that are reported for one host. A healthy host is ejected after a
run of failures; failures to connect and failed requests are counted apart, and any success ends
both runs. An ejected host sits out for a while and is then on probation: enough successes make it
healthy, one failure ejects it again. Whether the time is up is noticed only when somebody looks,
so `Detector.look` answers the present health together with the detector after looking.
-/

set_option autoImplicit false

namespace RpcProxy

/-- The outcome of one attempt to connect or of one request. -/
inductive HostResult where
  | connectSuccess
  | connectFailed
  | timeout
  | requestSuccess
  | requestFailed
deriving DecidableEq, Repr, Inhabited

namespace HostResult

/-- The name of an outcome: who it tells of, and what. -/
def name : HostResult → String
  | connectSuccess => "LocalOriginConnectSuccess"
  | connectFailed => "LocalOriginConnectFailed"
  | timeout => "LocalOriginTimeout"
  | requestSuccess => "ExtOriginRequestSuccess"
  | requestFailed => "ExtOriginRequestFailed"

/-- Whether the outcome tells of connecting rather than of a request. -/
def isLocal : HostResult → Bool
  | connectSuccess | connectFailed | timeout => true
  | requestSuccess | requestFailed => false

def isSuccess : HostResult → Bool
  | connectSuccess | requestSuccess => true
  | connectFailed | timeout | requestFailed => false

end HostResult

/-- The health of a host. -/
inductive Health where
  /-- The host takes requests. -/
  | healthy
  /-- The host sits out. -/
  | ejected
  /-- The host takes requests until it fails or has proven itself. -/
  | probing
deriving DecidableEq, Repr, Inhabited

/-- The name of a health. -/
def Health.name : Health → String
  | healthy => "healthy"
  | ejected => "ejected"
  | probing => "probing"

/-- What is known about the health of a host. -/
structure Detector where
  /-- The thresholds. -/
  settings : Config.OutlierDetection := {}
  /-- The health when somebody last looked. -/
  health : Health := .healthy
  /-- Failed requests in a row. -/
  requestFailures : Nat := 0
  /-- Failed connects in a row. -/
  connectFailures : Nat := 0
  /-- Successes on probation. -/
  successes : Nat := 0
  /-- How often the host was ejected. -/
  ejections : Nat := 0
  /-- When the host was ejected, or last failed while it was. -/
  ejectedAt : Option Instant := none
deriving DecidableEq, Repr, Inhabited

namespace Detector

/-- How long an ejected host sits out, in nanoseconds. -/
def sentence (d : Detector) : Nat := d.settings.baseEjectionMillis * milli

/-- Whether an ejection is over. -/
def expired (d : Detector) (now : Instant) : Bool :=
  match d.ejectedAt with
  | some at_ => now - at_ ≥ d.sentence
  | none => false

/-- The detector after somebody looked: an ejection that is over becomes probation. -/
def look (d : Detector) (now : Instant) : Detector :=
  if d.health = .ejected && d.expired now then { d with health := .probing } else d

/-- Whether the host sits out, seen by somebody who looks now. -/
def isEjected (d : Detector) (now : Instant) : Bool := (d.look now).health == .ejected

/-- The host is ejected. -/
def eject (d : Detector) (now : Instant) : Detector :=
  { d with health := .ejected, ejections := d.ejections + 1, ejectedAt := some now }

/-- A success is reported to a detector that has just been looked at. -/
def succeed (d : Detector) : Detector :=
  match d.health with
  | .healthy => { d with requestFailures := 0, connectFailures := 0 }
  | .probing =>
    let n := d.successes + 1
    if n ≥ d.settings.successThreshold then
      { d with health := .healthy, requestFailures := 0, connectFailures := 0, successes := 0,
               ejectedAt := none }
    else { d with successes := n }
  | .ejected => d

/-- A failure is reported to a detector that has just been looked at. -/
def fail (d : Detector) (connecting : Bool) (now : Instant) : Detector :=
  match d.health with
  | .healthy =>
    if connecting then
      let n := d.connectFailures + 1
      let d := { d with connectFailures := n }
      if n ≥ d.settings.consecutiveLocalFailures then d.eject now else d
    else
      let n := d.requestFailures + 1
      let d := { d with requestFailures := n }
      if n ≥ d.settings.consecutiveFailures then d.eject now else d
  | .probing => { d with successes := 0 }.eject now
  | .ejected => { d with ejectedAt := some now }

/-- An outcome is reported. -/
def put (d : Detector) (r : HostResult) (now : Instant) : Detector :=
  let d := d.look now
  if r.isSuccess then d.succeed else d.fail r.isLocal now

end Detector

end RpcProxy

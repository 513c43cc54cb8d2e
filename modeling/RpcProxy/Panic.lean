import RpcProxy.Time.Duration

/-!
# Broken promises

Conditions that the program takes for granted. Where one does not hold it stops with a message.
-/

set_option autoImplicit false

namespace RpcProxy

/-- A condition that did not hold. -/
inductive Panic where
  /-- Octets came for a response that was complete. -/
  | dataAfterResponse
  /-- A connection event came for a response that was complete. -/
  | eventAfterResponse
  /-- A connect event reached an exchange, which only asks for connections. -/
  | connectEvent
  /-- A reply was asked for, and the codec cannot make any. -/
  | noMessageCreator
  /-- A timestamp was asked for so many nanoseconds before the start of 1970. -/
  | clockBeforeEpoch (nanos : Nat)
  /-- The numbers for streams, which have 64 bits, are used up. -/
  | numbersUsedUp
deriving DecidableEq, Repr

def Panic.message : Panic → String
  | dataAfterResponse => "upstream data received after the response completed"
  | eventAfterResponse => "connection event delivered after the response completed"
  | connectEvent => "connect events belong to the connection pool"
  | noMessageCreator => "local reply requested but the codec has no message creator"
  | clockBeforeEpoch nanos =>
    "system time before Unix epoch: SystemTimeError(" ++ durationText nanos ++ ")"
  | numbersUsedUp => "attempt to add with overflow"

end RpcProxy

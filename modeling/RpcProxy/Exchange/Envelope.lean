import RpcProxy.Bytes
import RpcProxy.Config.Encode

/-!
# Envelopes, framing and connection state

What is said about a message to or from a host besides its text, how messages are put on the wire,
and what is remembered about a pooled connection from one message to the next.
-/

set_option autoImplicit false

namespace RpcProxy

open Config (Transport)

inductive MessageType where
  | call
  | reply
  | exception
  | oneway
deriving DecidableEq, Repr, Inhabited

def MessageType.name : MessageType → String
  | call => "Call"
  | reply => "Reply"
  | exception => "Exception"
  | oneway => "Oneway"

/-- What is said about a message. -/
structure Envelope where
  method : Option String := none
  /-- The number of the message on its connection. -/
  sequence : Option Int32 := none
  kind : Option MessageType := none
  protocol : Option Config.Protocol := none
  /-- Whether the host asks to leave the connection. -/
  draining : Bool := false
deriving DecidableEq, Repr, Inhabited

/-! ## Framing -/

/-- A message on the wire: behind its length, or as it is. -/
def Config.Transport.frame (t : Transport) (message : Bytes) : Bytes :=
  match t with
  | .framed => Bytes.ofLength message.length ++ message
  | .unframed => message

/-! ## Connection state -/

/-- What is remembered about a pooled connection. -/
structure LinkState where
  /-- The number of the next message; the numbers wrap around. -/
  next : Int32 := 0
  /-- Whether a better protocol was asked for. -/
  upgradeAttempted : Bool := false
  /-- Whether the better protocol is in use. -/
  upgraded : Bool := false
deriving DecidableEq, Repr, Inhabited

/-- Takes the next number. -/
def LinkState.take (s : LinkState) : Int32 × LinkState := (s.next, { s with next := s.next + 1 })

/-! ## Protocols -/

/-- How a connection changes over to a better protocol. -/
structure Upgrade where
  /-- What is written to ask for it. -/
  request : Bytes
  /-- Whether the octets that came back are the whole answer. -/
  isAnswer : Bytes → Bool

structure Protocol where
  name : String
  kind : Config.Protocol
  /-- Whether connections can change over to a better one. -/
  supportsUpgrade : Bool := false
  upgrade : Option Upgrade := none

/-- The protocol of a cluster. Neither has a better one to change over to. -/
def Protocol.ofConfig (p : Config.Protocol) : Protocol := { name := p.name, kind := p }

/-- The upgrade that a connection still needs, with its state after asking for it. -/
def Protocol.attempt (p : Protocol) (s : LinkState) : Option (Upgrade × LinkState) :=
  match p.supportsUpgrade, p.upgrade with
  | true, some u => if s.upgradeAttempted then none else some (u, { s with upgradeAttempted := true })
  | _, _ => none

end RpcProxy

import RpcProxy.Bytes

/-!
# Connections

The states, events and ways of closing that all connections share, and the client's connection:
what is written to it waits in a buffer until it is taken. Once closed it takes nothing more, and
the first way of closing stays.
-/

set_option autoImplicit false

namespace RpcProxy

inductive ConnectionState where
  | opened
  | closing
  | closed
deriving DecidableEq, Repr, Inhabited

/-- How a connection is closed. -/
inductive CloseType where
  /-- What is buffered is still written. -/
  | flush
  /-- What is buffered is dropped. -/
  | noFlush
deriving DecidableEq, Repr, Inhabited

inductive ConnectionEvent where
  | remoteClose
  | localClose
  | connected
  | connectedZeroRtt
deriving DecidableEq, Repr, Inhabited

def ConnectionState.name : ConnectionState → String
  | opened => "open"
  | closing => "closing"
  | closed => "closed"

/-- The name of a way of closing. -/
def CloseType.name : CloseType → String
  | flush => "flush"
  | noFlush => "no_flush"

def ConnectionEvent.name : ConnectionEvent → String
  | remoteClose => "remote_close"
  | localClose => "local_close"
  | connected => "connected"
  | connectedZeroRtt => "connected_zero_rtt"

/-- The client's connection. -/
structure Downstream where
  /-- What is written and not yet taken. -/
  output : Bytes := []
  state : ConnectionState := .opened
  closeType : Option CloseType := none
  /-- The number of octets ever written. -/
  written : Nat := 0
deriving DecidableEq, Repr, Inhabited

namespace Downstream

def isOpen (c : Downstream) : Bool := c.state == .opened

/-- Closes the connection, unless it is closed. -/
def close (c : Downstream) (how : CloseType) : Downstream :=
  if c.state = .closed then c
  else
    { c with
      output := if how = .noFlush then [] else c.output
      closeType := some how
      state := .closed }

/-- Writes octets, and closes the connection behind them if asked. Nothing is written to a
connection that is not open. -/
def write (c : Downstream) (data : Bytes) (last : Bool) : Downstream :=
  if c.isOpen then
    let c := { c with output := c.output ++ data, written := c.written + data.length }
    if last then c.close .flush else c
  else c

/-- Takes what was written since the last time. -/
def take (c : Downstream) : Bytes × Downstream := (c.output, { c with output := [] })

end Downstream

end RpcProxy

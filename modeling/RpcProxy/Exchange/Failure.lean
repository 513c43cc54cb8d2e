import RpcProxy.Cluster

/-!
# What a failure on the host's side means for the client

An exchange can fail before, while and after a response arrives. `ResetDecision.decide` says for
each case what the client sees: an error reply, a closed connection, or nothing because it already
has its answer.
-/

set_option autoImplicit false

namespace RpcProxy

/-- Why there is no connection, or no more. -/
inductive FailureReason where
  /-- All connections to the host are in use. -/
  | overflow
  /-- The connection failed on this side. -/
  | localFailure
  /-- The connection failed on the host's side. -/
  | remoteFailure
  /-- Connecting took too long. -/
  | timeout
deriving DecidableEq, Repr, Inhabited

def FailureReason.name : FailureReason → String
  | overflow => "Overflow"
  | localFailure => "LocalConnectionFailure"
  | remoteFailure => "RemoteConnectionFailure"
  | timeout => "Timeout"

/-- The reason that a short name stands for; any other name means the host's side. -/
def FailureReason.ofName : String → FailureReason
  | "overflow" => overflow
  | "local" => localFailure
  | "timeout" => timeout
  | _ => remoteFailure

def FailureReason.text : FailureReason → String
  | overflow => "overflow"
  | localFailure => "local connection failure"
  | remoteFailure => "remote connection failure"
  | timeout => "timeout"

/-- The outcome that a failure means for the health of the host. -/
def FailureReason.hostResult : FailureReason → HostResult
  | overflow | localFailure | remoteFailure => .connectFailed
  | timeout => .timeout

/-! ## Error replies -/

/-- The kind of an error that a reply reports. -/
inductive ExceptionType where
  | unknown
  | unknownMethod
  | invalidMessageType
  | wrongMethodName
  | badSequenceId
  | missingResult
  | internalError
  | protocolError
  | invalidTransform
  | invalidProtocol
  | unsupportedClientType
deriving DecidableEq, Repr, Inhabited

def ExceptionType.all : List ExceptionType :=
  [.unknown, .unknownMethod, .invalidMessageType, .wrongMethodName, .badSequenceId, .missingResult,
    .internalError, .protocolError, .invalidTransform, .invalidProtocol, .unsupportedClientType]

def ExceptionType.name : ExceptionType → String
  | unknown => "unknown"
  | unknownMethod => "unknown_method"
  | invalidMessageType => "invalid_message_type"
  | wrongMethodName => "wrong_method_name"
  | badSequenceId => "bad_sequence_id"
  | missingResult => "missing_result"
  | internalError => "internal_error"
  | protocolError => "protocol_error"
  | invalidTransform => "invalid_transform"
  | invalidProtocol => "invalid_protocol"
  | unsupportedClientType => "unsupported_client_type"

/-- An error that the proxy reports instead of a host's response. -/
structure AppException where
  kind : ExceptionType
  message : String
deriving DecidableEq, Repr

/-- An error in words. -/
def AppException.text (e : AppException) : String := e.kind.name ++ ": " ++ e.message

/-! ## The decision -/

/-- How far the response got. -/
structure ResponseProgress where
  /-- Its first octets arrived. -/
  started : Bool := false
  complete : Bool := false
  /-- The host asked to leave the connection. -/
  draining : Bool := false
  /-- It ended too early. -/
  underflow : Bool := false
deriving DecidableEq, Repr, Inhabited

/-- What the client sees of a failure. -/
inductive ClientAction where
  /-- An error reply, with the connection closed behind it or not. -/
  | localReply (close : Bool)
  /-- The connection goes down, since part of a response is lost. -/
  | resetConnection
  | nothing
deriving DecidableEq, Repr

/-- What follows from a failure. -/
structure ResetDecision where
  action : ClientAction
  /-- What is reported about the host. -/
  hostResult : Option HostResult
  /-- Whether the client's connection goes down. -/
  closesClient : Bool
deriving DecidableEq, Repr

def ResetDecision.decide (reason : FailureReason) (p : ResponseProgress) (closeOnError : Bool) :
    ResetDecision :=
  if reason = .overflow then ⟨.localReply false, none, false⟩
  else
    let result := some reason.hostResult
    if p.underflow || (p.started && !p.draining && !p.complete) then
      ⟨.resetConnection, result, true⟩
    else if !p.draining && !p.complete then ⟨.localReply closeOnError, result, closeOnError⟩
    else ⟨.nothing, result, true⟩

def FailureReason.replyMessage (reason : FailureReason) (host : Option HostRef) : String :=
  match reason with
  | .overflow => "upstream request: too many connections"
  | _ =>
    "connection failure: " ++ reason.text ++ " '" ++
      (host.map (·.address)).getD "to upstream" ++ "'"

end RpcProxy

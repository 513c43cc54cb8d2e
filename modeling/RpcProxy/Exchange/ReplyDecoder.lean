import RpcProxy.Exchange.RequestLine
import RpcProxy.Wire

/-!
# Replies of hosts

A host answers with a response line, framed or on a line of its own. Three properties of the line
are meant for the proxy and do not reach the client: the kind of the message, whether the host
wants to leave the connection, and the number of the message.

`ReplyDecoder.feed` takes octets as they come and answers `complete` with the first whole reply,
`reset` when the octets cannot be one, and `moreData` otherwise.
-/

set_option autoImplicit false

namespace RpcProxy

open Config (Transport)

/-- The property that tells the kind of a message. -/
def kindKey : String := "type"

/-- The property that tells that a host wants to leave the connection. -/
def drainingKey : String := "draining"

/-- What feeding octets to a decoder came to. -/
inductive ReplyStatus where
  | moreData
  | complete
  | reset
deriving DecidableEq, Repr, Inhabited

def ReplyStatus.name : ReplyStatus → String
  | moreData => "more"
  | complete => "complete"
  | reset => "reset"

/-- Why a reply cannot be read. -/
inductive ReplyError where
  /-- The frame is longer than a line may be. -/
  | frameTooLong (octets : Nat)
  /-- The line is longer than a line may be. -/
  | lineTooLong
  | notText
  /-- The text is no response line. -/
  | malformed (line : String)
  /-- The kind of the message is none. -/
  | unknownKind (name : String)
deriving DecidableEq, Repr

def ReplyError.message : ReplyError → String
  | frameTooLong n => "frame of " ++ toString n ++ " bytes exceeds the maximum"
  | lineTooLong => "response line exceeds the maximum length"
  | notText => "response is not valid UTF-8"
  | malformed line => "malformed response line '" ++ line ++ "'"
  | unknownKind name => "unknown message type '" ++ name ++ "'"

/-- Reads the reply of a host. -/
structure ReplyDecoder where
  transport : Transport := .framed
  /-- Octets that make no whole reply yet. -/
  buffer : Bytes := []
  /-- What the reply says about itself. -/
  envelope : Envelope := {}
  success : Bool := false
  response : Option Response := none
  /-- Why it could not be read. -/
  error : Option ReplyError := none
deriving DecidableEq, Repr, Inhabited

namespace ReplyDecoder

/-- The decoder before the first octet of a reply. -/
def start (transport : Transport) (protocol : Config.Protocol) : ReplyDecoder :=
  { transport, envelope := { protocol := some protocol } }

/-- The first whole frame of a buffer, with what is behind it. -/
def nextFrame (transport : Transport) (buffer : Bytes) :
    Except ReplyError (Option (Bytes × Bytes)) :=
  match transport with
  | .framed =>
    match buffer with
    | a :: b :: c :: d :: rest =>
      let length := Bytes.toLength a b c d
      if length > Wire.maxLine then .error (.frameTooLong length)
      else if rest.length < length then .ok none
      else .ok (some (rest.take length, rest.drop length))
    | _ => .ok none
  | .unframed =>
    match buffer.splitLine? with
    | some (line, rest) => .ok (some (line ++ [Bytes.newline], rest))
    | none => if buffer.length > Wire.maxLine then .error .lineTooLong else .ok none

def kindOf? : String → Option MessageType
  | "reply" => some .reply
  | "exception" => some .exception
  | "call" => some .call
  | "oneway" => some .oneway
  | _ => none

/-- The number that a text spells, if it fits into 32 bits. -/
def sequence? (s : String) : Option Int32 :=
  let (minus, digits) := match s.toList with
    | '-' :: ds => (true, ds)
    | '+' :: ds => (false, ds)
    | ds => (false, ds)
  if digits.isEmpty || !digits.all Char.isDigit then none
  else
    let n : Nat := digits.foldl (fun n d => n * 10 + (d.toNat - 48)) 0
    let n : Int := if minus then -(n : Int) else n
    if -Int.pow 2 31 ≤ n && n < Int.pow 2 31 then some (Int32.ofInt n) else none

def readReply (frame : Bytes) : Except ReplyError (MessageType × Response) :=
  match frame.toText? with
  | none => .error .notText
  | some text =>
    let line := String.ofList (Text.trimEnd (fun c => c == '\r' || c == '\n') text.toList)
    match Response.parse? line with
    | none => .error (.malformed line)
    | some r =>
      match r.get? kindKey with
      | none => .ok (.reply, r)
      | some name =>
        match kindOf? name with
        | some kind => .ok (kind, r)
        | none => .error (.unknownKind name)

/-- The response that the client gets: without what is meant for the proxy. -/
def forClient (r : Response) : Response :=
  ((r.erase kindKey).erase drainingKey).erase sequenceKey

/-- The decoder after a whole reply. -/
def accept (d : ReplyDecoder) (kind : MessageType) (r : Response) : ReplyDecoder :=
  { d with
    envelope := { d.envelope with
      kind := some kind
      draining := r.get? drainingKey == some "true"
      sequence := ((r.get? sequenceKey).bind sequence?).or d.envelope.sequence }
    success := r.status.isOk
    response := some (forClient r) }

/-- The decoder after octets that cannot be a reply. -/
def refuse (d : ReplyDecoder) (e : ReplyError) : ReplyDecoder :=
  { d with buffer := [], error := some e }

/-- Takes octets. -/
def feed (d : ReplyDecoder) (data : Bytes) : ReplyStatus × ReplyDecoder :=
  let d := { d with buffer := d.buffer ++ data }
  match nextFrame d.transport d.buffer with
  | .error e => (.reset, d.refuse e)
  | .ok none => (.moreData, d)
  | .ok (some (frame, rest)) =>
    let d := { d with buffer := rest }
    match readReply frame with
    | .error e => (.reset, d.refuse e)
    | .ok (kind, r) => (.complete, d.accept kind r)

/-- Takes the reply out. -/
def take (d : ReplyDecoder) : Option Response × ReplyDecoder :=
  (d.response, { d with response := none })

end ReplyDecoder

end RpcProxy

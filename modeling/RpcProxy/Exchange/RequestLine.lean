import RpcProxy.Exchange.Envelope
import RpcProxy.Message

/-!
# Request lines for hosts

A request is sent to a host as `service method seq=number key=value …`. The number is that of the
message on its connection; a property of that name which the client sent is dropped.
-/

set_option autoImplicit false

namespace RpcProxy

/-- The property that numbers a message. -/
def sequenceKey : String := "seq"

/-- A request as it was taken from the client. -/
structure RequestLine where
  service : String := ""
  method : String := ""
  /-- The properties in the order in which they were added. -/
  properties : List (String × String) := []
deriving DecidableEq, Repr, Inhabited

namespace RequestLine

def ofRequest (r : Request) : RequestLine :=
  { service := r.service, method := r.method, properties := r.properties.toList }

/-- The first property with a key. -/
def get? (l : RequestLine) (key : String) : Option String := l.properties.lookup key

/-- One property behind a space. -/
def propertyText : String × String → String := fun (key, value) => " " ++ key ++ "=" ++ value

def text (l : RequestLine) (sequence : Option Int32) : String :=
  l.service ++ " " ++ l.method ++
    (sequence.map fun n => " " ++ sequenceKey ++ "=" ++ toString n.toInt).getD "" ++
    String.join ((l.properties.filter (·.1 != sequenceKey)).map propertyText) ++ "\n"

def encode (l : RequestLine) (sequence : Option Int32) : Bytes := Bytes.ofText (l.text sequence)

end RequestLine

end RpcProxy

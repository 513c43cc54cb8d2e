import RpcProxy.BuildError

/-!
# Codecs

A listener names the codec that its clients speak. Text lines are the only one there is; what can
differ between codecs is whether the proxy can make a reply of its own in them.
-/

set_option autoImplicit false

namespace RpcProxy

structure Codec where
  name : String
  /-- Whether the proxy can make replies of its own. -/
  createsReplies : Bool
deriving DecidableEq, Repr, Inhabited

namespace Codec

def text : Codec := ⟨"text", true⟩

def ofName (name : String) : Except BuildError Codec :=
  if name = text.name then .ok text else .error (.unknownCodec name)

end Codec

end RpcProxy

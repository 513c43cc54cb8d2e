import RpcProxy.Bytes
import RpcProxy.Exchange.Envelope
import RpcProxy.Json.Read

/-!
# Octets in JSON

Octets need not be text, so there are several ways to write them in JSON: a string stands for its
UTF-8, `hex` for digits, `rep` for a repetition, `frame` for a frame around other octets, and an
array for one part behind the other. What is none of these stands for no octets.
-/

set_option autoImplicit false

namespace RpcProxy.Json

/-- The octets of pairs of hexadecimal digits; what is no digit counts as zero. -/
def hexOctets : List Char → Bytes
  | high :: low :: rest =>
    UInt8.ofNat ((hexDigit? high).getD 0 * 16 + (hexDigit? low).getD 0) :: hexOctets rest
  | _ => []

mutual

/-- The octets that a value stands for. -/
def octets : Json → Bytes
  | string s => Bytes.ofText s
  | array items => (itemOctets items).flatten
  | object members =>
    let parts := memberOctets members
    match members.lookup "hex", parts.lookup "rep", parts.lookup "frame" with
    | some (string digits), _, _ => hexOctets digits.toList
    | _, some part, _ =>
      (List.replicate (((members.lookup "n").bind nat?).getD 0) part).flatten
    | _, _, some part => Config.Transport.framed.frame part
    | _, _, _ => []
  | _ => []

def itemOctets : List Json → List Bytes
  | [] => []
  | v :: rest => octets v :: itemOctets rest

def memberOctets : List (String × Json) → List (String × Bytes)
  | [] => []
  | (key, v) :: rest => (key, octets v) :: memberOctets rest

end

end RpcProxy.Json

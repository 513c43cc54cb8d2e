import RpcProxy.Server.Basic

/-!
# Addresses of listeners

An address is a host and a number of 16 bits, with a colon between them. A server binds its listeners one
after another and stops at the first that cannot be bound: its address is none, is taken by a listener before
it, or the system refuses it.
-/

set_option autoImplicit false

namespace RpcProxy

/-- Where a socket listens. -/
structure Address where
  /-- The name or the number of the host. -/
  host : String
  number : Nat
deriving DecidableEq, Repr

/-- What is wrong with the text of an address. -/
inductive AddressError where
  | noNumber
  /-- What stands for the number is none of 16 bits. -/
  | badNumber
deriving DecidableEq, Repr

def AddressError.message : AddressError → String
  | noNumber => "invalid socket address"
  | badNumber => "invalid port value"

namespace Address

/-- The number of a socket: digits, perhaps with a plus sign in front. -/
def number? (cs : List Char) : Option Nat :=
  let digits := match cs with
    | '+' :: rest => rest
    | _ => cs
  if digits.isEmpty || !digits.all Char.isDigit then none
  else
    let n := digits.foldl (fun n c => n * 10 + (c.toNat - 48)) 0
    if n < 65536 then some n else none

/-- The address that a text stands for. The last colon is in front of the number. -/
def parse (s : String) : Except AddressError Address :=
  let back := s.toList.reverse
  match back.dropWhile (· != ':') with
  | [] => .error .noNumber
  | _ :: host =>
    match number? (back.takeWhile (· != ':')).reverse with
    | none => .error .badNumber
    | some number => .ok { host := String.ofList host.reverse, number }

/-- Hosts that stand for all addresses of this machine. -/
def isAny (host : String) : Bool := host == "0.0.0.0" || host == "[::]" || host == "::"

/-- Whether two sockets cannot listen on both addresses. The number 0 stands for any that is free. -/
def conflicts (a b : Address) : Bool :=
  a.number == b.number && a.number != 0 && (a.host == b.host || isAny a.host || isAny b.host)

/-- The numbers between the dots of a host, if there are four that fit an octet each. -/
def octets? (host : String) : Option (List Nat) :=
  let parts := (host.splitOn ".").map fun p =>
    if !p.isEmpty && p.toList.all Char.isDigit then p.toNat?.filter (· < 256) else none
  if parts.length = 4 && parts.all (·.isSome) then some (parts.filterMap id) else none

/-- Why a machine that is connected to no other refuses an address: it has no addresses but those
that lead back to it, and knows no name but its own. -/
def refusalAlone? (a : Address) : Option String :=
  match octets? a.host with
  | some (n :: _) =>
    if n = 127 || isAny a.host then none else some "Cannot assign requested address (os error 99)"
  | _ =>
    if a.host == "localhost" || a.host.startsWith "[" then none
    else some "failed to lookup address information: Temporary failure in name resolution"

end Address

/-- A listener that cannot be bound. -/
structure BindFailure where
  listener : String
  address : String
  /-- Why it cannot. -/
  reason : String
deriving DecidableEq, Repr

/-- The wording of a failure and of what is behind it. -/
def BindFailure.chain (f : BindFailure) : List String :=
  ["Failed to bind " ++ f.address ++ " for listener '" ++ f.listener ++ "'", f.reason]

/-- Binds an address when others are taken; `system` has reasons of its own to refuse. -/
def bindOne (system : Address → Option String) (taken : List Address) (address : String) :
    Except String Address :=
  match Address.parse address with
  | .error e => .error e.message
  | .ok a =>
    match system a with
    | some reason => .error reason
    | none =>
      if taken.any (a.conflicts ·) then .error "Address already in use (os error 98)" else .ok a

/-- Binds listeners in order, given the addresses that are taken. -/
def bindFrom (system : Address → Option String) (taken : List Address) :
    List ListenerHandle → Option BindFailure
  | [] => none
  | h :: rest =>
    match bindOne system taken h.address with
    | .error reason => some { listener := h.name, address := h.address, reason }
    | .ok a => bindFrom system (a :: taken) rest

/-- The first listener of a server that cannot be bound. -/
def Server.bindFailure? (s : Server) (system : Address → Option String) : Option BindFailure :=
  bindFrom system [] s.listeners

end RpcProxy

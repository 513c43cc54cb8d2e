import RpcProxy.Text.Shape

/-!
# Quoted text for people

Text in double quotes as it appears in descriptions of values: quotes and backslashes are escaped,
line ends and tabs have their short escapes, and characters that have no shape of their own are
given by their number.
-/

set_option autoImplicit false

namespace RpcProxy.Text

/-- A character inside the quotes. -/
def quoteChar (c : Char) : List Char :=
  if c = '"' then ['\\', '"']
  else if c = '\\' then ['\\', '\\']
  else if c = '\n' then ['\\', 'n']
  else if c = '\r' then ['\\', 'r']
  else if c = '\t' then ['\\', 't']
  else if c.toNat = 0 then ['\\', '0']
  else if hasShape c then [c]
  else ['\\', 'u', '\x7b'] ++ Nat.toDigits 16 c.toNat ++ ['\x7d']

/-- A text in quotes. -/
def quote (s : String) : String := "\"" ++ String.ofList (s.toList.flatMap quoteChar) ++ "\""

end RpcProxy.Text

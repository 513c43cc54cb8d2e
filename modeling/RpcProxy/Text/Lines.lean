/-!
# Lines

A text that was printed line by line, as somebody reads it who goes by line ends alone: what was
printed as one line counts as several if it holds newlines.
-/

set_option autoImplicit false

namespace RpcProxy.Text

/-- A line without the carriage return that it ends in. -/
def withoutReturn (line : String) : String :=
  match line.toList.reverse with
  | '\r' :: rest => String.ofList rest.reverse
  | _ => line

/-- The lines of a text. A carriage return in front of a newline belongs to the line end; what
follows the last newline is a line only if it is not empty. -/
def lines (text : String) : List String :=
  let parts := text.splitOn "\n"
  parts.dropLast.map withoutReturn ++ (parts.getLast?.toList.filter (!·.isEmpty))

end RpcProxy.Text

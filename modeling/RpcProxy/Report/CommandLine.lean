import RpcProxy.CommandLine.Program
import RpcProxy.Report.Basic
import RpcProxy.Text.Lines

/-!
# Reports on the program

What a program that has ended left behind. Its log goes to standard output too; lines of the log
start with the year and are left out.
-/

set_option autoImplicit false

namespace RpcProxy.Report

open CommandLine (Outcome)

/-- The words behind which the text of an error depends on the reader of the file. -/
def parseError : String := "TOML parse error"

/-- Lines up to the first that holds some words, which ends with them. -/
def upTo (words : String) : List String → List String
  | [] => []
  | l :: rest =>
    match l.splitOn words with
    | before :: _ :: _ => [before ++ words]
    | _ => l :: upTo words rest

/-- The outcome of a program. Standard error counts only if it failed. -/
def outcome (o : Outcome) : Json :=
  let output := (Text.lines (Export.text o.output)).filter fun l => !l.startsWith "20"
  let errors := if o.code = 1 then upTo parseError (Text.lines (Export.text o.errors)) else []
  .object [("exit", .ofNat o.code), ("stdout", .ofStrings output), ("stderr", .ofStrings errors)]

end RpcProxy.Report

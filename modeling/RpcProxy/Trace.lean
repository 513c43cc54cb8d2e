import RpcProxy.Config.Basic
import RpcProxy.Message
import RpcProxy.StreamInfo
import RpcProxy.Text.Quote
import RpcProxy.Wire

/-!
# Feature flags and spans

A flag is a percentage. Whether a stream is traced is decided once, by the flag
`tracing.random_sampling` and the listener's own percentage. A traced stream has a span, which is
tagged and finished when the stream is complete.
-/

set_option autoImplicit false

namespace RpcProxy

/-! ## Flags -/

/-- Percentages by name. -/
structure Flags where
  overrides : StringMap Float := {}
deriving Inhabited

namespace Flags

/-- The percentage of a flag, or the given one if it is not set. -/
def percent (f : Flags) (key : String) (fallback : Float) : Float :=
  (f.overrides.find? key).getD fallback

/-- Whether a flag is on, `roll` being a number drawn between 0 and 1. -/
def enabled (f : Flags) (key : String) (fallback : Float) (roll : Float) : Bool :=
  let p := f.percent key fallback
  if p ≥ 100 then true
  else if p ≤ 0 then false
  else roll * 100 < p

end Flags

/-! ## The decision to trace -/

/-- Whether a stream is traced, and why. -/
structure TraceDecision where
  reason : TraceReason
  traced : Bool
deriving DecidableEq, Repr

/-- The flag that holds the percentage of traced streams. -/
def samplingFlag : String := "tracing.random_sampling"

/-- Decides whether a new stream is traced. -/
def TraceDecision.decide (t : Config.Tracing) (f : Flags) (roll : Float) : TraceDecision :=
  if f.enabled samplingFlag t.randomSampling roll then ⟨.sampling, true⟩
  else ⟨.notTraceable, false⟩

/-! ## Spans -/

/-- The last place at or before an octet of a text that is not inside a character. The search looks
at one octet after the other, going back; it has no answer if it would have to go below octet 0. -/
def borderBefore? (s : String) (i : Nat) : Option s.Pos :=
  if h : String.Pos.Raw.isValid s ⟨i⟩ then some ⟨⟨i⟩, String.Pos.Raw.isValid_eq_true_iff.1 h⟩
  else match i with
    | 0 => none
    | i + 1 => borderBefore? s i

/-- No character lies across the start of a text, so no search goes below octet 0. -/
theorem isSome_borderBefore? (s : String) (i : Nat) : (borderBefore? s i).isSome := by
  fun_induction borderBefore? s i with
  | case1 => rfl
  | case2 hinside =>
    exact absurd (String.Pos.Raw.isValid_eq_true_iff.2 String.Pos.Raw.isValid_zero) hinside
  | case3 i hinside ih => exact ih

/-- A path cut to at most `most` octets, between two characters. -/
def truncatePath (path : String) (most : Nat) : String :=
  if path.utf8ByteSize ≤ most then path
  else (path.sliceTo ((borderBefore? path most).get (isSome_borderBefore? path most))).copy

inductive SpanCall where
  | tag (name value : String)
  | log (event : String)
  | finish
deriving DecidableEq, Repr

def Request.tags (r : Request) (maxPath : Nat) : List SpanCall :=
  [.tag "protocol" Wire.protocol, .tag "service" r.service, .tag "method" r.method,
    .tag "path" (truncatePath r.path maxPath)]

def outcomeTags : Option StatusCode → List SpanCall
  | some .ok => [.tag "status" (StatusCode.name .ok)]
  | some code => [.tag "status" code.name, .tag "error" "true"]
  | none => [.tag "error" "true"]

/-- Everything that is done with a span when its stream is complete. -/
def finalizeSpan (t : Config.Tracing) (request : Option Request) (i : StreamInfo) :
    List SpanCall :=
  [.tag "component" "proxy"] ++
  (request.map (·.tags t.maxPathLength)).getD [] ++
  (i.route.map fun r => [SpanCall.tag "route" r]).getD [] ++
  outcomeTags i.status ++
  (if t.verbose then
    (i.duration.map fun d =>
      [SpanCall.log ("stream complete after " ++ toString (d / milli) ++ "ms")]).getD []
  else []) ++
  t.customTags.toList.map (fun (name, value) => .tag name value) ++
  [.finish]

/-! ## Spans in the log -/

/-- An operation as a span names it. -/
def Config.Operation.title : Config.Operation → String
  | ingress => "Ingress"
  | egress => "Egress"

/-- The line that tells of a new span; a stream that is not traced has none. -/
def spanStartLine (t : Config.Tracing) (r : Request) (d : TraceDecision) : Option String :=
  if d.traced then
    some ("span operation=" ++ t.operation.title ++ " service=" ++ r.service ++ " method=" ++
      r.method ++ " reason=" ++ d.reason.name)
  else none

def spanTags (calls : List SpanCall) : List (String × String) :=
  calls.filterMap fun
    | .tag name value => some (name, value)
    | _ => none

/-- The lines that tell of the end of a recorded span: its events, then all its tags. -/
def spanEndLines (calls : List SpanCall) : List String :=
  let tag : String × String → String := fun (name, value) =>
    "(" ++ Text.quote name ++ ", " ++ Text.quote value ++ ")"
  calls.filterMap fun
    | .tag _ _ => none
    | .log event => some ("Span event event=" ++ event)
    | .finish =>
      some ("Span finished tags=[" ++ String.intercalate ", " ((spanTags calls).map tag) ++ "]")

end RpcProxy

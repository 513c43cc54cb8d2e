import RpcProxy.Decimal.Shortest
import RpcProxy.StringMap

/-!
# Counters, gauges and histograms

The values that are measured, and the lines in which they are exported. A counter shows its total
modulo `2 ^ 64`. A gauge goes up and down and stays at zero rather than below. A histogram counts,
for each of its bounds, the observations that do not exceed it.
-/

set_option autoImplicit false

namespace RpcProxy

/-! ## Counters -/

structure Counter where
  /-- Everything ever added. -/
  total : Nat := 0
deriving DecidableEq, Repr, Inhabited

namespace Counter

def add (c : Counter) (n : Nat) : Counter := ⟨c.total + n⟩

def inc (c : Counter) : Counter := c.add 1

/-- What the counter shows: its total modulo `2 ^ 64`. -/
def value (c : Counter) : Nat := c.total % UInt64.size

end Counter

structure LabelledCounter where
  /-- The count of every label that was ever counted. -/
  counts : StringMap Nat := {}
deriving DecidableEq, Repr, Inhabited

namespace LabelledCounter

/-- One event more under a label. -/
def inc (c : LabelledCounter) (label : String) : LabelledCounter :=
  ⟨c.counts.alter label fun n => n.getD 0 + 1⟩

def get (c : LabelledCounter) (label : String) : Nat := (c.counts.find? label).getD 0

/-- Every label with its count, in the order of the labels. -/
def toList (c : LabelledCounter) : List (String × Nat) := c.counts.toList

end LabelledCounter

/-! ## Gauges -/

/-- A value that goes up and down. -/
structure Gauge where
  /-- The present value. -/
  value : UInt64 := 0
deriving DecidableEq, Repr, Inhabited

namespace Gauge

/-- One up, from the greatest value to zero. -/
def inc (g : Gauge) : Gauge := ⟨g.value + 1⟩

/-- One down, but not below zero. -/
def dec (g : Gauge) : Gauge := if g.value = 0 then g else ⟨g.value - 1⟩

def set (_ : Gauge) (v : UInt64) : Gauge := ⟨v⟩

end Gauge

/-! ## Histograms -/

/-- Observations counted against upper bounds. -/
structure Histogram where
  /-- Each bound with the number of observations that do not exceed it. -/
  buckets : List (Float × Nat)
  sum : Float := 0
  /-- The number of observations. -/
  count : Nat := 0
deriving Repr, Inhabited

namespace Histogram

/-- A histogram over the given bounds, without observations. -/
def ofBounds (bounds : List Float) : Histogram := { buckets := bounds.map (·, 0) }

def observe (h : Histogram) (x : Float) : Histogram :=
  { buckets := h.buckets.map fun (le, n) => (le, if x ≤ le then n + 1 else n)
    sum := h.sum + x
    count := h.count + 1 }

/-- The lines of a histogram: one for each bound, one without bound, the sum and the count. -/
def lines (h : Histogram) (name labels : String) : List String :=
  let sample (suffix inner value : String) : String :=
    name ++ suffix ++ "\x7b" ++ inner ++ "\x7d " ++ value
  h.buckets.map (fun (le, n) =>
    sample "_bucket" (labels ++ ",le=\"" ++ Double.text le ++ "\"") (toString n)) ++
  [sample "_bucket" (labels ++ ",le=\"+Inf\"") (toString h.count),
    sample "_sum" labels (Double.text h.sum),
    sample "_count" labels (toString h.count)]

end Histogram

/-- Histograms by label, all over the same bounds. -/
structure LabelledHistogram where
  /-- The upper bounds. -/
  bounds : List Float
  /-- The histogram of every label that was ever observed. -/
  histograms : StringMap Histogram := {}
deriving Inhabited

namespace LabelledHistogram

def observe (h : LabelledHistogram) (label : String) (x : Float) : LabelledHistogram :=
  { h with histograms := h.histograms.alter label fun old =>
      (old.getD (Histogram.ofBounds h.bounds)).observe x }

/-- The number of observations under a label. -/
def count (h : LabelledHistogram) (label : String) : Nat :=
  ((h.histograms.find? label).map (·.count)).getD 0

/-- The sum of the observations under a label. -/
def sum (h : LabelledHistogram) (label : String) : Float :=
  ((h.histograms.find? label).map (·.sum)).getD 0

def labels (h : LabelledHistogram) : List String := h.histograms.keys

/-- The lines of every histogram, in the order of the labels. -/
def lines (h : LabelledHistogram) (name labelName : String) : List String :=
  h.histograms.toList.flatMap fun (label, histogram) =>
    histogram.lines name (labelName ++ "=\"" ++ label ++ "\"")

end LabelledHistogram

/-! ## Exported lines -/

namespace Export

/-- The two comment lines that introduce a metric. -/
def header (name help kind : String) : List String :=
  ["# HELP " ++ name ++ " " ++ help, "# TYPE " ++ name ++ " " ++ kind]

def sample (name : String) (labels : List (String × String)) (value : Nat) : String :=
  let label : String × String → String := fun (key, v) => key ++ "=\"" ++ v ++ "\""
  name ++ "\x7b" ++ String.intercalate "," (labels.map label) ++ "\x7d " ++ toString value

def text (lines : List String) : String := String.join (lines.map (· ++ "\n"))

end Export

end RpcProxy

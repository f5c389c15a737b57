import WorkBridge.Binary64

/-!
Metrics: counters, gauges and histograms under names with labels.

A registry holds what has been touched, each metric once.  Of a histogram only the number of
its samples is kept.
-/

namespace WorkBridge.Metrics

/-- What tells a metric from every other: its name and its labels. -/
structure Key where
  name : String
  labels : List (String × String) := []
deriving DecidableEq, Inhabited

namespace Key

def labelText : String × String → String
  | (k, v) => k ++ "=" ++ v

/-- A name, and behind it the labels in the order of their names. -/
def text (k : Key) : String :=
  if k.labels.isEmpty then k.name
  else
    let labels := k.labels.mergeSort fun a b => a.1 ≤ b.1
    k.name ++ "\x7b" ++ ",".intercalate (labels.map labelText) ++ "\x7d"

end Key

inductive Reading
  | counter (n : Nat)
  | gauge (x : Binary64)
  | histogram (samples : Nat)
deriving DecidableEq, Inhabited

abbrev Registry := List (Key × Reading)

namespace Registry

/-- Changes the reading of a metric, which is `blank` before it is first touched. -/
def touch (k : Key) (blank : Reading) (f : Reading → Reading) : Registry → Registry
  | [] => [(k, f blank)]
  | (k', r) :: rest => if k' = k then (k', f r) :: rest else (k', r) :: touch k blank f rest

/-- Adds to a counter. -/
def count (k : Key) (n : Nat) (reg : Registry) : Registry :=
  reg.touch k (.counter 0) fun
    | .counter m => .counter (m + n)
    | r => r

/-- Sets a gauge. -/
def set (k : Key) (x : Binary64) (reg : Registry) : Registry :=
  reg.touch k (.gauge x) fun _ => .gauge x

/-- Adds a sample to a histogram. -/
def sample (k : Key) (reg : Registry) : Registry :=
  reg.touch k (.histogram 0) fun
    | .histogram n => .histogram (n + 1)
    | r => r

end Registry
end WorkBridge.Metrics

import WorkBridge.Metrics.Catalog

/-!
Metrics as they are served: for each name a line of help, where it is described, a line of its
type, and a line for each series.  Values are left out.

A histogram is served as the count and the sum of its samples.
-/

namespace WorkBridge.Metrics

namespace Exposition

def descriptions : List Description :=
  serviceDescriptions ++ networkDescriptions ++ clientDescriptions

def typeText : Reading → String
  | .counter _ => "counter"
  | .gauge _ => "gauge"
  | .histogram _ => "summary"

/-- A character of a label's value between quotes. -/
def escaped (c : Char) : List Char :=
  if c = '"' then ['\\', '"']
  else if c = '\\' then ['\\', '\\']
  else if c = '\n' then ['\\', 'n']
  else [c]

def labelText : String × String → String
  | (k, v) => k ++ "=\"" ++ String.ofList (v.toList.flatMap escaped) ++ "\""

/-- A series of a name with labels. -/
def seriesText (name : String) (labels : List (String × String)) : String :=
  if labels.isEmpty then name
  else name ++ "\x7b" ++ ",".intercalate (labels.map labelText) ++ "\x7d"

def series (k : Key) : Reading → List String
  | .histogram _ => ["_sum", "_count"].map fun part => seriesText (k.name ++ part) k.labels
  | _ => [seriesText k.name k.labels]

def header (k : Key) (r : Reading) : List String :=
  (((descriptions.find? (·.name = k.name)).map fun d =>
    "# HELP " ++ k.name ++ " " ++ d.text).toList) ++
    ["# TYPE " ++ k.name ++ " " ++ typeText r]

end Exposition

/-- All lines, each once. -/
def Registry.lines (reg : Registry) : List String :=
  (reg.flatMap fun (k, r) => Exposition.header k r ++ Exposition.series k r).eraseDups

end WorkBridge.Metrics

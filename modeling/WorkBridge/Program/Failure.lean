import WorkBridge.Manager.Error
import WorkBridge.Metrics.Endpoint

/-!
Why a run of the program fails, and how that is told.

The failure's own text comes first.  If there are errors behind it, they follow under a
heading, numbered where there is more than one.
-/

namespace WorkBridge.Program

inductive Failure
  /-- Metrics cannot be served where they should be. -/
  | metrics
  | config (e : Config.Error)
  | manager (e : Manager.Error)
deriving Inhabited

namespace Failure

def message : Failure → String
  | .metrics => Metrics.Endpoint.bindMessage
  | .config e => e.message
  | .manager e => e.message

def causes : Failure → List String
  | .metrics => []
  | .config _ => []
  | .manager e => e.causes

/-- A text with blanks in front of every line but the first. -/
def indented (blanks : Nat) (text : String) : String :=
  String.ofList (text.toList.flatMap fun c =>
    if c = '\n' then '\n' :: List.replicate blanks ' ' else [c])

/-- A cause with its number, which stands to the right of five columns. -/
def numbered (i : Nat) (cause : String) : String :=
  let digits := toString i
  String.ofList (List.replicate (5 - digits.length) ' ') ++ digits ++ ": " ++ indented 7 cause

def causeLines : List String → List String
  | [cause] => ["    " ++ indented 4 cause]
  | causes => causes.mapIdx numbered

/-- All that is told. -/
def text (f : Failure) : String :=
  "Error: " ++ f.message ++
    (if f.causes.isEmpty then ""
    else "\n\nCaused by:\n" ++ "\n".intercalate (causeLines f.causes))

end Failure
end WorkBridge.Program

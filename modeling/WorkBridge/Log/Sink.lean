import WorkBridge.Log.Config
import WorkBridge.Log.Filter

/-!
What is written where.

A sink gets the entries that the filter wants, in its format.  A log file is named for the
period that it covers, as far as the rotation tells periods apart.
-/

namespace WorkBridge.Log

/-- A moment, down to the minute. -/
structure Moment where
  year : Nat
  month : Nat
  day : Nat
  hour : Nat
  minute : Nat
deriving DecidableEq, Inhabited

namespace Moment

/-- A number with zeros in front of it. -/
def padded (width n : Nat) : String :=
  let digits := Nat.toDigits 10 n
  String.ofList (List.replicate (width - digits.length) '0' ++ digits)

def parts (m : Moment) : List String :=
  [padded 4 m.year, padded 2 m.month, padded 2 m.day, padded 2 m.hour, padded 2 m.minute]

end Moment

namespace Rotation

/-- How many parts of a moment a file's name has. -/
def precision : Rotation → Nat
  | .minutely => 5
  | .hourly => 4
  | .daily => 3
  | .never => 0

/-- The name of the log file for a moment. -/
def fileName (r : Rotation) (m : Moment) : String :=
  let parts := m.parts.take r.precision
  if parts.isEmpty then "bridge.log" else "bridge.log." ++ "-".intercalate parts

end Rotation

namespace Config

/-- The filter of the environment's directives, below the level of the options. -/
def filter (c : Config) (directives : Option String) : Filter :=
  (Filter.ofDirectives ((directives.map Directive.parseAll).getD [])).withLevel c.level

end Config
end WorkBridge.Log

import WorkBridge.Json.Writer
import WorkBridge.Log.Config

/-!
How an entry is written.

The level stands first, to the right of five columns, then the target, the message and the
fields.  The time of an entry is not part of what is written here.
-/

namespace WorkBridge.Log

namespace Line

/-- Where a level stands. -/
def columns : Nat := 5

/-- A level with blanks in front of it. -/
def level (l : Level) : String :=
  String.ofList (List.replicate (columns - l.text.length) ' ') ++ l.text

def heading (e : LogEntry) : String := level e.level ++ " " ++ e.target ++ ": " ++ e.message

/-- The fields, each after a blank. -/
def plain (e : LogEntry) : String :=
  heading e ++ String.join (e.fields.map fun (k, v) => " " ++ k ++ "=" ++ v)

/-- The fields as a continuation of the message. -/
def pretty (e : LogEntry) : String :=
  "  " ++ heading e ++ String.join (e.fields.map fun (k, v) => ", " ++ k ++ ": " ++ v)

def json (e : LogEntry) : String :=
  Json.text (.object [
    ("level", .string e.level.text),
    ("fields", .object (("message", .string e.message) ::
      e.fields.map fun (k, v) => (k, .string v))),
    ("target", .string e.target)])

end Line

/-- An entry in a format. -/
def Format.line : Format → LogEntry → String
  | .full => Line.plain
  | .compact => Line.plain
  | .pretty => Line.pretty
  | .json => Line.json

end WorkBridge.Log

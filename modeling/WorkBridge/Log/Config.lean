import WorkBridge.Json.Choice
import WorkBridge.Log

/-!
Where log entries are shown, and how.

Entries go to the standard output, to a file, to both or nowhere, each in a format of its
own.  The names of formats and rotations are the same in options and in JSON.
-/

namespace WorkBridge.Log

inductive Format
  | full
  | json
  | pretty
  | compact
deriving DecidableEq, Inhabited

namespace Format

def text : Format → String
  | .full => "full"
  | .json => "json"
  | .pretty => "pretty"
  | .compact => "compact"

def all : List Format := [.full, .json, .pretty, .compact]

def choice : Json.Choice Format := ⟨all.map fun f => (f.text, f)⟩

/-- Whether entries are shown in colours. -/
def isColored (f : Format) : Bool := f ≠ .json

end Format

/-- How often a new log file is begun. -/
inductive Rotation
  | minutely
  | hourly
  | daily
  | never
deriving DecidableEq, Inhabited

namespace Rotation

def text : Rotation → String
  | .minutely => "minutely"
  | .hourly => "hourly"
  | .daily => "daily"
  | .never => "never"

def all : List Rotation := [.minutely, .hourly, .daily, .never]

def choice : Json.Choice Rotation := ⟨all.map fun r => (r.text, r)⟩

end Rotation

structure FileConfig where
  directory : String
  format : Format
  rotation : Rotation
deriving DecidableEq, Inhabited

structure Config where
  /-- Entries up to this level are shown where no directive says otherwise. -/
  level : Level := .info
  stdout : Option Format := some .full
  file : Option FileConfig := none
deriving DecidableEq, Inhabited

end WorkBridge.Log

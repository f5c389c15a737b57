import Mathlib.Data.List.TakeWhile
import WorkBridge.Options.Reader

/-!
How options are written on the command line.

An `Item` is an option, or a few options in one, in one of its spellings, and `Item.gives` lists
what it gives.  However the items are spelled, their arguments are read as what they give, one after
the other (`Reading.arguments_items`).
-/

namespace WorkBridge.Options

/-- What can be asked for with one letter. -/
inductive Letter
  | more
  | quiet
deriving DecidableEq

def Letter.char : Letter → Char
  | .more => 'v'
  | .quiet => 'q'

/-- What one option gives. -/
inductive Gift
  | value (s : Setting) (text : String)
  | flag (f : Flag)
  /-- More log entries. -/
  | more
deriving DecidableEq

inductive Item
  /-- `--name=value`. -/
  | joined (s : Setting) (text : String)
  /-- `--name value`. -/
  | apart (s : Setting) (text : String) (h : text.toList.head? ≠ some '-')
  /-- `--name`. -/
  | flag (f : Flag)
  /-- `-abc`. -/
  | letters (l : Letter) (ls : List Letter)

namespace Item

def spelled : Item → List String
  | .joined s text => ["--" ++ s.long ++ "=" ++ text]
  | .apart s text _ => ["--" ++ s.long, text]
  | .flag f => ["--" ++ f.long]
  | .letters l ls => [String.ofList ('-' :: l.char :: ls.map Letter.char)]

end Item

/-! ### Arguments by their looks -/

namespace Argument

variable {cs value : List Char}

end Argument

namespace Reading

variable {r r' : Reading} {s : Setting} {text : String} {gs hs : List Gift} {rest : List String}

/-! ### What is given, one after the other -/

/-- What a gift does where no value is still to be looked at. -/
def take (r : Reading) : Gift → Except Usage Reading
  | .value s text => r.give s text
  | .flag f => if (r.flags f).isSome then .error (.repeated (.flag f)) else .ok (r.setFlag f true)
  | .more => .ok { r with verbosity := min maxVerbosity (r.verbosity + 1) }

/-- Looks at a value that is still to be looked at, and then takes what is given. -/
def receive (r : Reading) (gs : List Gift) : Except Usage Reading :=
  r.settle >>= fun r => gs.foldlM take r

end Reading
end WorkBridge.Options

import WorkBridge.Manager.Session
import WorkBridge.Options.Setting

/-!
Why a command line is not followed: it asks for help or for the version, or something is
wrong with it.
-/

namespace WorkBridge.Options

inductive Usage
  | help
  | version
  | unknown (argument : String)
  /-- An option that may be given once is given again. -/
  | repeated (name : Name)
  | missingValue (name : Name)
  /-- An option that takes no value is given one. -/
  | unneededValue (name : Name) (value : String)
  | badValue (name : Name) (value : String) (fault : ValueFault)
deriving DecidableEq, Inhabited

namespace Usage

/-- What is told of the fault of a value. -/
def valueMessage (name : Name) (value : String) : ValueFault → String
  | .absent => "a value is required for '" ++ name.text ++ "' but none was supplied"
  | .unlisted => "invalid value '" ++ value ++ "' for '" ++ name.text ++ "'"
  | .number f => "invalid value '" ++ value ++ "' for '" ++ name.text ++ "': " ++ f.message
  | .notAddress =>
    "invalid value '" ++ value ++ "' for '" ++ name.text ++ "': invalid IP address syntax"

/-- What is wrong, where something is. -/
def message? : Usage → Option String
  | .help => none
  | .version => none
  | .unknown a => some ("error: unexpected argument '" ++ a ++ "' found")
  | .repeated n => some ("error: the argument '" ++ n.text ++ "' cannot be used multiple times")
  | .missingValue n => some ("error: " ++ valueMessage n "" .absent)
  | .unneededValue n v =>
    some ("error: unexpected value '" ++ v ++ "' for '" ++ n.text ++
      "' found; no more were expected")
  | .badValue n v f => some ("error: " ++ valueMessage n v f)

/-- How the program is to be called. -/
def synopsis : String := "Usage: stratum-bridge [OPTIONS]"

def advice : String := "For more information, try '--help'."

/-- The texts that an option has to have one of. -/
def choices : Name → List String
  | .setting .stdoutFormat => Log.Format.all.map (·.text)
  | .setting .fileFormat => Log.Format.all.map (·.text)
  | .setting .fileRotation => Log.Rotation.all.map (·.text)
  | .flag .metrics => ["true", "false"]
  | _ => []

/-- A message about a value, followed by the texts that it might have been. -/
def withChoices (name : Name) (message : String) : String :=
  match choices name with
  | [] => message
  | texts => message ++ "\n  [possible values: " ++ ", ".intercalate texts ++ "]"

/-- What is shown in the end, in paragraphs. -/
def paragraphs (u : Usage) : List String :=
  match u with
  | .help => ["Bridge between a blockchain node and stratum mining clients", synopsis]
  | .version => ["stratum-bridge " ++ WorkBridge.version]
  | .unknown _ => [u.message?.getD "", synopsis, advice]
  | .repeated _ => [u.message?.getD "", synopsis, advice]
  | .unneededValue _ _ => [u.message?.getD "", synopsis, advice]
  | .missingValue n => [withChoices n (u.message?.getD ""), advice]
  | .badValue n _ .absent => [withChoices n (u.message?.getD ""), advice]
  | .badValue n _ .unlisted => [withChoices n (u.message?.getD ""), advice]
  | .badValue _ _ _ => [u.message?.getD "", advice]

def text (u : Usage) : String := "\n\n".intercalate u.paragraphs

def exitCode (u : Usage) : Nat := if u.message?.isSome then 2 else 0

end Usage
end WorkBridge.Options

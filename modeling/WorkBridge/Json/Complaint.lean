import WorkBridge.Json.Writer
import WorkBridge.Text.Quoted

/-!
What is said of a value that is not of the shape that was asked for.

A complaint tells what stands in the text or is missing there, and the column up to which the
text was read when that was met.  The text is the compact one, which has a single line.
-/

namespace WorkBridge.Json

/-- What a field asks for. -/
inductive Wanted
  | bool
  | string
  | unsigned
  | signed
  | real
  | strings
  | any
deriving DecidableEq, Inhabited

/-- A record as it is asked for: its name, and for each field what it asks for and whether it
has to be there. -/
structure Shape where
  name : String
  fields : List (String × Wanted × Bool)

structure Complaint where
  text : String
  column : Nat
deriving DecidableEq, Inhabited

namespace Complaint

def message (c : Complaint) : String := c.text ++ " at line 1 column " ++ toString c.column

/-- A complaint about a part of a text, by where the part begins. -/
def shift (start : Nat) (c : Complaint) : Complaint := { c with column := start + c.column }

end Complaint

/-- The number of bytes of a value's text. -/
def size (v : Json) : Nat := v.text.utf8ByteSize

/-- What a value is called. -/
def kindText : Json → String
  | .null => "null"
  | .bool b => "boolean `" ++ (if b then "true" else "false") ++ "`"
  | .int n => "integer `" ++ toString n ++ "`"
  | .float x => "floating point `" ++ x.text ++ "`"
  | .string s => "string " ++ Text.quoted s
  | .array _ => "sequence"
  | .object _ => "map"

/-- How much of a value is read before it is refused: a container is only looked at. -/
def sizeRead : Json → Nat
  | .array _ => 0
  | .object _ => 0
  | v => v.size

namespace Wanted

def text : Wanted → String
  | .bool => "a boolean"
  | .string => "a string"
  | .unsigned => "u64"
  | .signed => "i64"
  | .real => "f64"
  | .strings => "a sequence"
  | .any => "any value"

end Wanted

/-- A value of another type than wanted. -/
def wrongType (v : Json) (wanted : String) : Complaint :=
  ⟨"invalid type: " ++ v.kindText ++ ", expected " ++ wanted, v.sizeRead⟩

/-- An integer out of the range that is wanted. -/
def wrongValue (v : Json) (wanted : String) : Complaint :=
  ⟨"invalid value: " ++ v.kindText ++ ", expected " ++ wanted, v.sizeRead⟩

namespace Wanted

/-- The first element of an array that is no string; `start` is where the elements begin. -/
def ofItems? (start : Nat) : List Json → Option Complaint
  | [] => none
  | .string s :: rest => ofItems? (start + (Json.string s).size + 1) rest
  | v :: _ => some ((wrongType v (text .string)).shift start)

/-- What is wrong with the value of a field. -/
def complaint? : Wanted → Json → Option Complaint
  | .any, _ => none
  | .bool, .bool _ => none
  | .string, .string _ => none
  | .unsigned, .int n => if 0 ≤ n then none else some (wrongValue (.int n) (text .unsigned))
  | .signed, .int n =>
    if n ≤ Int64.maxValue.toInt then none else some (wrongValue (.int n) (text .signed))
  | .real, .int _ => none
  | .real, .float _ => none
  | .strings, .array items => ofItems? 1 items
  | w, v => some (wrongType v w.text)

end Wanted

namespace Shape

/-- What is wrong with the members of an object, of which the first begins at `start`. -/
def ofMembers? (s : Shape) (start : Nat) (seen : List String) :
    List (String × Json) → Option Complaint
  | [] =>
    (s.fields.find? fun (name, _, needed) => needed && !seen.contains name).map
      fun (name, _, _) => ⟨"missing field `" ++ name ++ "`", start + 1⟩
  | (name, v) :: rest =>
    let value := start + (Json.string name).size + 1
    match (s.fields.lookup name).bind fun (w, _) => w.complaint? v with
    | some c => some (c.shift value)
    | none =>
      s.ofMembers? (value + v.size + (if rest.isEmpty then 0 else 1)) (name :: seen) rest

def elements (n : Nat) : String := toString n ++ (if n = 1 then " element" else " elements")

/-- What is wrong with the elements of an array, of which the first begins at `start` and is
for the first of the given fields. -/
def ofItems? (s : Shape) (start : Nat) :
    List (String × Wanted × Bool) → List Json → Option Complaint
  | [], [] => none
  | [], _ :: _ => some ⟨"trailing characters", start + 1⟩
  | f :: fs, [] =>
    (((f :: fs).find? fun (_, _, needed) => needed).bind fun (name, _, _) =>
      s.fields.findIdx? (·.1 = name)).map fun i =>
        ⟨"invalid length " ++ toString i ++ ", expected struct " ++ s.name ++ " with " ++
          elements s.fields.length, start + 1⟩
  | (_, w, _) :: fs, v :: rest =>
    match w.complaint? v with
    | some c => some (c.shift start)
    | none => s.ofItems? (start + v.size + (if rest.isEmpty then 0 else 1)) fs rest

/-- What is wrong with a value that is to be of a shape. -/
def complaint? (s : Shape) : Json → Option Complaint
  | .object members => s.ofMembers? 1 [] members
  | .array items => s.ofItems? 1 s.fields items
  | v => some (wrongType v ("struct " ++ s.name))

end Shape
end WorkBridge.Json

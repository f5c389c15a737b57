import WorkBridge.Json.Value

/-!
Records: JSON objects, or arrays, with fields known beforehand.

A record is read from an object by the names of its members, in whatever order they stand, or
from an array by position.  Members that no field has the name of are passed over.  A field
given twice is refused, as is a record without a field that it needs; any other field that is
not given keeps the value that it has in `blank`.
-/

namespace WorkBridge.Json

/-- Reads a value from a draft with room for so many nested containers. -/
abbrev Decoder (α : Type) := Nat → Draft → Except Fault α

/-- The fault of a draft that is not of the wanted shape.  What stands there is read first
where it is not a container. -/
def mismatch : Draft → Fault
  | .missing snag => snag.decoded
  | .number n =>
    match n.value with
    | .ok _ => .mismatched
    | .error f => f
  | .string (.error f) => f
  | _ => .mismatched

namespace Decoder

def bool : Decoder Bool
  | _, .bool b => .ok b
  | _, d => .error (mismatch d)

def string : Decoder String
  | _, .string (.ok s) => .ok s
  | _, d => .error (mismatch d)

/-- An integer between `low` and `high`. -/
def integer (low high : Int) : Decoder Int
  | _, .number n => do
    match ← n.value with
    | .int i => if low ≤ i ∧ i ≤ high then pure i else .error .mismatched
    | .float _ => .error .mismatched
  | _, d => .error (mismatch d)

/-- An integer from zero up to `2 ^ 64 - 1`. -/
def unsigned : Decoder Nat := fun depth d => Int.toNat <$> integer 0 maxUnsigned depth d

/-- An integer from `-2 ^ 63` up to `2 ^ 63 - 1`. -/
def signed : Decoder Int := integer Int64.minValue.toInt Int64.maxValue.toInt

/-- The binary64 number nearest to an integer in range. -/
def nearest : Int → Binary64
  | .ofNat n => Binary64.ofNat n
  | .negSucc n => (Binary64.ofNat (n + 1)).negate

/-- Any number, as a binary64 number. -/
def real : Decoder Binary64
  | _, .number n => do
    match ← n.value with
    | .int i => pure (nearest i)
    | .float x => pure x
  | _, d => .error (mismatch d)

/-- Every element of a list of drafts, then the fault at its end. -/
def elements {α : Type} (item : Decoder α) (depth : Nat) (snag : Option Snag) :
    List Draft → Except Fault (List α)
  | [] =>
    match snag with
    | none => .ok []
    | some snag => .error snag.decoded
  | d :: rest => do
    let v ← item depth d
    let vs ← elements item depth snag rest
    pure (v :: vs)

def list {α : Type} (item : Decoder α) : Decoder (List α)
  | 0, .array _ _ => .error .malformed
  | depth + 1, .array items snag => elements item depth snag items
  | _, d => .error (mismatch d)

end Decoder

/-- A field of the record `σ`: reading its value gives a change of the record. -/
structure Field (σ : Type) where
  name : String
  decode : Decoder (σ → σ)
  required : Bool := false

/-- A field whose value is stored by `store`. -/
def field {σ α : Type} (name : String) (decode : Decoder α) (store : α → σ → σ) : Field σ :=
  { name, decode := fun depth d => store <$> decode depth d }

/-- A record `σ` by its fields, in the order in which an array gives them. -/
structure Record (σ : Type) where
  fields : List (Field σ)
  blank : σ

namespace Record

variable {σ : Type}

def field? (r : Record σ) (name : String) : Option (Field σ) :=
  r.fields.find? (·.name == name)

/-- Reads members one after the other.  `seen` holds the names of the fields already given. -/
def ofMembers (r : Record σ) (depth : Nat) (snag : Option Snag) (seen : List String) (s : σ) :
    List (Key × Draft) → Except Fault σ
  | [] =>
    match snag with
    | some snag => .error snag.decoded
    | none =>
      if r.fields.any (fun f => f.required && !seen.contains f.name) then .error .mismatched
      else .ok s
  | (k, d) :: rest => do
    let name ← k
    match r.field? name with
    | none => do
      skip d
      ofMembers r depth snag seen s rest
    | some f =>
      if seen.contains f.name then .error .mismatched
      else do
        let store ← f.decode depth d
        ofMembers r depth snag (f.name :: seen) (store s) rest

/-- Reads fields by position.  Fields that the array is too short for keep their value; an
array that is too long is malformed. -/
def ofItems (depth : Nat) (snag : Option Snag) (s : σ) :
    List (Field σ) → List Draft → Except Fault σ
  | [], [] =>
    match snag with
    | none => .ok s
    | some snag => .error snag.decoded
  | [], _ :: _ => .error .malformed
  | f :: fs, [] =>
    match snag with
    | some snag => .error snag.decoded
    | none => if (f :: fs).any (·.required) then .error .mismatched else .ok s
  | f :: fs, d :: ds => do
    let store ← f.decode depth d
    ofItems depth snag (store s) fs ds

def decode (r : Record σ) : Decoder σ
  | 0, .array _ _ => .error .malformed
  | 0, .object _ _ => .error .malformed
  | depth + 1, .array items snag => ofItems depth snag r.blank r.fields items
  | depth + 1, .object members snag => ofMembers r depth snag [] r.blank members
  | _, d => .error (mismatch d)

end Record
end WorkBridge.Json

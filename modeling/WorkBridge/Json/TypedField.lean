import WorkBridge.Json.Complaint
import WorkBridge.Json.Record

/-!
Fields by what they ask for.

What a field asks for settles how its value is read and what is said of a value that it does not
take.  So the record that is read and the shape that is complained about come from one list.
-/

namespace WorkBridge.Json

namespace Wanted

/-- What is kept of a value that is asked for. -/
abbrev Value : Wanted → Type
  | .bool => Bool
  | .string => String
  | .unsigned => Nat
  | .signed => Int
  | .real => Binary64
  | .strings => List String
  | .any => Json

def decoder : (w : Wanted) → Decoder w.Value
  | .bool => Decoder.bool
  | .string => Decoder.string
  | .unsigned => Decoder.unsigned
  | .signed => Decoder.signed
  | .real => Decoder.real
  | .strings => Decoder.list Decoder.string
  | .any => Json.ofDraft

end Wanted

/-- A field of the record `σ` by what it asks for, with how its value is stored. -/
structure TypedField (σ : Type) where
  name : String
  wanted : Wanted
  store : wanted.Value → σ → σ
  required : Bool := false

variable {σ : Type}

def TypedField.field (f : TypedField σ) : Field σ :=
  { Json.field f.name f.wanted.decoder f.store with required := f.required }

def Record.ofFields (fs : List (TypedField σ)) (blank : σ) : Record σ :=
  ⟨fs.map TypedField.field, blank⟩

def Shape.ofFields (name : String) (fs : List (TypedField σ)) : Shape :=
  ⟨name, fs.map fun f => (f.name, f.wanted, f.required)⟩

end WorkBridge.Json

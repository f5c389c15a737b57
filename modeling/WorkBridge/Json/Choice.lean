import WorkBridge.Json.Value

/-!
One of a few names, written as a string or as the only member, with the value `null`, of an
object.

A choice is read from the tokens of its text, because a name may be asked for where an object
would want one and find a number: that is JSON of another shape and not a malformed text.
-/

namespace WorkBridge.Json

namespace Token

/-- The fault of a token that starts no value of the wanted shape. -/
def mismatch : Token → Fault
  | .openString snag => snag.decoded
  | .broken f => f
  | .string (.error f) => f
  | .number n =>
    match n.value with
    | .ok _ => .mismatched
    | .error f => f
  | .null | .bool _ | .string (.ok _) | .openArray | .openObject => .mismatched
  | .closeArray | .closeObject | .comma | .colon | .stray => .malformed

end Token

/-- A choice between values that have names. -/
structure Choice (α : Type) where
  names : List (String × α)

namespace Choice

variable {α : Type}

/-- The value of the name that `t` gives. -/
def named (c : Choice α) : Token → Except Fault α
  | .string (.ok s) =>
    match c.names.lookup s with
    | some v => .ok v
    | none => .error .mismatched
  | t => .error t.mismatch

/-- The end of the object after the name of its only member. -/
def closing : List Token → Except Fault (List Token)
  | [] => .error .ended
  | .colon :: [] => .error .ended
  | .colon :: .null :: [] => .error .ended
  | .colon :: .null :: .closeObject :: rest => .ok rest
  | .colon :: .null :: _ :: _ => .error .malformed
  | .colon :: t :: _ => .error t.mismatch
  | _ :: _ => .error .malformed

def ofTokens (c : Choice α) : List Token → Except Fault (α × List Token)
  | [] => .error .ended
  | .openObject :: [] => .error .ended
  | .openObject :: t :: rest => do
    let v ← c.named t
    let rest ← closing rest
    pure (v, rest)
  | .string s :: rest => do
    let v ← c.named (.string s)
    pure (v, rest)
  | .openString snag :: _ => .error snag.decoded
  | _ :: _ => .error .malformed

/-- Reads a text that is one choice. -/
def parse (c : Choice α) (text : String) : Except Fault α := do
  match ← c.ofTokens (Token.scan text.toList) with
  | (v, []) => pure v
  | (_, _ :: _) => .error .malformed

end Choice
end WorkBridge.Json

import WorkBridge.Json.Token

/-!
The shape of a JSON text, read as far as it goes.

A `Draft` is a tree that may stop: an array or object that is not closed says why, and a
place where a value is missing says why.  So a text can be read to its first fault before
anybody knows which of its parts matter, and one who looks at the parts from left to right
meets the faults in the order of the text.

`Document.read` keeps what is open on a stack and takes one token at a time, so that a
statement about it can be made for any stack and any tokens that follow.
-/

namespace WorkBridge.Json

/-- The name of a member; half of a surrogate pair spoils it. -/
abbrev Key := Except Fault String

inductive Draft
  | null
  | bool (b : Bool)
  | number (n : Numeral)
  | string (content : Except Fault String)
  /-- No value can be read here. -/
  | missing (snag : Snag)
  /-- The elements up to the closing bracket, or up to the fault `snag`. -/
  | array (items : List Draft) (snag : Option Snag)
  /-- The members up to the closing brace, or up to the fault `snag`. -/
  | object (members : List (Key × Draft)) (snag : Option Snag)

/-- An array or object that is still open; what it holds is kept last first. -/
inductive Frame
  | array (items : List Draft)
  | object (members : List (Key × Draft))
  /-- An object whose last member has a name and no value yet. -/
  | member (members : List (Key × Draft)) (key : Key)

/-- What may stand next. -/
inductive Expected
  | value
  /-- A value or the end of the array just opened. -/
  | firstItem
  /-- A name or the end of the object just opened. -/
  | firstKey
  | key
  | colon
  /-- A comma or the end of the innermost frame. -/
  | separator

/-- A text read to its end or its first fault; `trailing` says that more follows the value. -/
structure Document where
  root : Draft
  trailing : Bool

namespace Document

/-- Closes every open frame at a fault, the innermost around `inner`. -/
def abandon (snag : Snag) : List Frame → Draft → Document
  | [], inner => ⟨inner, false⟩
  | .array items :: stack, inner =>
    abandon snag stack (.array (inner :: items).reverse (some snag))
  | .object members :: stack, _ =>
    abandon snag stack (.object members.reverse (some snag))
  | .member members key :: stack, inner =>
    abandon snag stack (.object ((key, inner) :: members).reverse (some snag))

/-- Stops at a place where a value is expected. -/
def stopAtValue (snag : Snag) (stack : List Frame) : Document :=
  abandon snag stack (.missing snag)

/-- Stops inside the innermost frame, where no value is expected. -/
def stopInside (snag : Snag) : List Frame → Document
  | .array items :: stack => abandon snag stack (.array items.reverse (some snag))
  | .object members :: stack => abandon snag stack (.object members.reverse (some snag))
  | .member members key :: stack =>
    abandon snag stack (.object ((key, .missing snag) :: members).reverse (some snag))
  | [] => ⟨.missing snag, false⟩

def stop (snag : Snag) (stack : List Frame) : Expected → Document
  | .value => stopAtValue snag stack
  | _ => stopInside snag stack

/-- Reads tokens with the frames `stack` open. -/
def run : List Frame → Expected → List Token → Document
  | stack, e, [] => stop (.of .ended) stack e
  | stack, .value, t :: ts => value stack t ts
  | .array items :: stack, .firstItem, .closeArray :: ts =>
    deliver stack (.array items.reverse none) ts
  | stack, .firstItem, t :: ts => value stack t ts
  | .object members :: stack, .firstKey, .closeObject :: ts =>
    deliver stack (.object members.reverse none) ts
  | stack, .firstKey, t :: ts => key stack t ts
  | stack, .key, t :: ts => key stack t ts
  | stack, .colon, .colon :: ts => run stack .value ts
  | .array items :: stack, .separator, .closeArray :: ts =>
    deliver stack (.array items.reverse none) ts
  | .object members :: stack, .separator, .closeObject :: ts =>
    deliver stack (.object members.reverse none) ts
  | .array items :: stack, .separator, .comma :: ts => run (.array items :: stack) .value ts
  | .object members :: stack, .separator, .comma :: ts => run (.object members :: stack) .key ts
  | stack, e, _ :: _ => stop (.of .malformed) stack e
where
  /-- Reads a value that starts with the token `t`. -/
  value (stack : List Frame) (t : Token) (ts : List Token) : Document :=
    match t with
    | .openArray => run (.array [] :: stack) .firstItem ts
    | .openObject => run (.object [] :: stack) .firstKey ts
    | .null => deliver stack .null ts
    | .bool b => deliver stack (.bool b) ts
    | .number n => deliver stack (.number n) ts
    | .string s => deliver stack (.string s) ts
    | .openString snag => stopAtValue snag stack
    | .broken f => stopAtValue (.of f) stack
    | _ => stopAtValue (.of .malformed) stack
  /-- Reads a member's name, given by the token `t`. -/
  key (stack : List Frame) (t : Token) (ts : List Token) : Document :=
    match stack, t with
    | .object members :: stack, .string s => run (.member members s :: stack) .colon ts
    | stack, .openString snag => stopInside snag stack
    | stack, _ => stopInside (.of .malformed) stack
  /-- Hands a complete value to the innermost frame. -/
  deliver (stack : List Frame) (d : Draft) (ts : List Token) : Document :=
    match stack with
    | [] => ⟨d, !ts.isEmpty⟩
    | .array items :: stack => run (.array (d :: items) :: stack) .separator ts
    | .member members k :: stack => run (.object ((k, d) :: members) :: stack) .separator ts
    | .object members :: stack => run (.object members :: stack) .separator ts

/-- Reads a text. -/
def read (text : String) : Document := run [] .value (Token.scan text.toList)

end Document
end WorkBridge.Json

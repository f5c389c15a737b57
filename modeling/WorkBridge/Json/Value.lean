import WorkBridge.Binary64
import WorkBridge.Json.Draft

/-!
JSON values.

Integers between `-2 ^ 63` and `2 ^ 64 - 1` stay exact; every other number becomes a
binary64 number.  A value read from a text keeps the members of an object in the order of
their names, the last of several members of one name.
-/

namespace WorkBridge

inductive Json
  | null
  | bool (b : Bool)
  | int (n : Int)
  | float (x : Binary64)
  | string (s : String)
  | array (items : List Json)
  | object (members : List (String × Json))
deriving Inhabited

namespace Json

/-- Containers nested deeper than this are not read. -/
def maxDepth : Nat := 127

def maxUnsigned : Nat := UInt64.size - 1

/-! ### Numbers -/

inductive Number
  | int (n : Int)
  | float (x : Binary64)
deriving DecidableEq

namespace Numeral

def digitValue (c : Char) : Nat := c.toNat - '0'.toNat

/-- Appends digits to `n` while the result stays in 64 bits: the result and the number of
digits used. -/
def extend (n : Nat) : List Char → Nat × Nat
  | [] => (n, 0)
  | c :: cs =>
    let m := n * 10 + digitValue c
    if m ≤ maxUnsigned then
      let (r, k) := extend m cs
      (r, k + 1)
    else (n, 0)

/-- The significand kept in 64 bits, and the power of ten that it is to be multiplied with.
Digits before the point that find no room count into the exponent; digits after it are
dropped from the first that finds no room. -/
def scaled (n : Numeral) : Nat × Int :=
  let (whole, used) := extend 0 n.whole
  let dropped : Int := n.whole.length - used
  match n.fraction with
  | none => (whole, dropped)
  | some ds =>
    let (significand, places) := extend whole ds
    (significand, dropped - places)

/-- The largest exponent that is told apart from a larger one. -/
def maxExponent : Nat := UInt32.size / 2 - 1

/-- The value of an exponent's digits, or nothing where they exceed `maxExponent`. -/
def exponentValue? (ds : List Char) : Option Nat :=
  let k := Nat.ofDigitChars 10 ds 0
  if k ≤ maxExponent then some k else none

/-- The value as a binary64 number, or nothing where it is too large for one. -/
def toBinary64? (n : Numeral) : Option Binary64 :=
  let (significand, e) := n.scaled
  match n.exponent with
  | none => Binary64.ofDecimal? n.negative significand e
  | some (down, ds) =>
    match exponentValue? ds with
    | some k => Binary64.ofDecimal? n.negative significand (if down then e - k else e + k)
    | none =>
      if significand ≠ 0 ∧ !down then none
      else some (if n.negative then Binary64.zero.negate else Binary64.zero)

/-- The value of a number: exact where it is written as an integer in range. -/
def value (n : Numeral) : Except Fault Number :=
  let m := Nat.ofDigitChars 10 n.whole 0
  if n.fraction.isNone ∧ n.exponent.isNone ∧ !n.negative ∧ m ≤ maxUnsigned then
    .ok (.int m)
  else if n.fraction.isNone ∧ n.exponent.isNone ∧ n.negative ∧ 0 < m ∧ m ≤ UInt64.size / 2 then
    .ok (.int (-m))
  else
    match n.toBinary64? with
    | some x => .ok (.float x)
    | none => .error .malformed

end Numeral

/-! ### Objects in the order of their names -/

/-- Puts a member in the place of its name, and in the place of a member of that name. -/
def insertMember (name : String) (v : Json) : List (String × Json) → List (String × Json)
  | [] => [(name, v)]
  | (k, w) :: rest =>
    if name = k then (name, v) :: rest
    else if name < k then (name, v) :: (k, w) :: rest
    else (k, w) :: insertMember name v rest

/-- The member of a name. -/
def get? : Json → String → Option Json
  | .object members, name => members.lookup name
  | _, _ => none

/-! ### Reading a value -/

mutual

/-- The value of a draft, with room for `depth` nested containers. -/
def ofDraft (depth : Nat) : Draft → Except Fault Json
  | .null => .ok .null
  | .bool b => .ok (.bool b)
  | .number n => do
    match ← n.value with
    | .int i => pure (.int i)
    | .float x => pure (.float x)
  | .string s => .string <$> s
  | .missing snag => .error snag.decoded
  | .array items snag =>
    match depth with
    | 0 => .error .malformed
    | depth + 1 => do
      let items ← ofItems depth items
      match snag with
      | none => pure (.array items)
      | some snag => .error snag.decoded
  | .object members snag =>
    match depth with
    | 0 => .error .malformed
    | depth + 1 => do
      let members ← ofMembers depth [] members
      match snag with
      | none => pure (.object members)
      | some snag => .error snag.decoded

def ofItems (depth : Nat) : List Draft → Except Fault (List Json)
  | [] => .ok []
  | d :: rest => do
    let v ← ofDraft depth d
    let vs ← ofItems depth rest
    pure (v :: vs)

def ofMembers (depth : Nat) (done : List (String × Json)) :
    List (Key × Draft) → Except Fault (List (String × Json))
  | [] => .ok done
  | (k, d) :: rest => do
    let name ← k
    let v ← ofDraft depth d
    ofMembers depth (insertMember name v done) rest

end

mutual

/-- Passes over a draft without reading it: the first fault of its text, if any. -/
def skip : Draft → Except Fault Unit
  | .missing snag => .error snag.skipped
  | .array items snag => do
    skipItems items
    match snag with
    | none => pure ()
    | some snag => .error snag.skipped
  | .object members snag => do
    skipMembers members
    match snag with
    | none => pure ()
    | some snag => .error snag.skipped
  | _ => .ok ()

def skipItems : List Draft → Except Fault Unit
  | [] => .ok ()
  | d :: rest => do
    skip d
    skipItems rest

def skipMembers : List (Key × Draft) → Except Fault Unit
  | [] => .ok ()
  | (_, d) :: rest => do
    skip d
    skipMembers rest

end

/-- Reads a text with `decode`, which gets the depth that is left; nothing may follow. -/
def decodeWith {α : Type} (decode : Nat → Draft → Except Fault α) (text : String) :
    Except Fault α := do
  let document := Document.read text
  let v ← decode maxDepth document.root
  if document.trailing then .error .malformed else pure v

/-- Reads a text that is one value. -/
def parse (text : String) : Except Fault Json := decodeWith ofDraft text

end Json
end WorkBridge

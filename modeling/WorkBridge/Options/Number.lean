/-!
Whole numbers as values of options: decimal digits after an optional sign.

The digits are looked at one by one, so the first thing that is wrong is the one that is
told: a character that is no digit, or a digit that the number has no room for.
-/

namespace WorkBridge.Options.Number

inductive Fault
  | empty
  | notDigit
  | tooLarge
  | tooSmall
  /-- A number that can be read and is not wanted. -/
  | outOfRange (n : Int) (max : Nat)
deriving DecidableEq, Inhabited

def Fault.message : Fault → String
  | .empty => "cannot parse integer from empty string"
  | .notDigit => "invalid digit found in string"
  | .tooLarge => "number too large to fit in target type"
  | .tooSmall => "number too small to fit in target type"
  | .outOfRange n max => toString n ++ " is not in 0..=" ++ toString max

def digitValue (c : Char) : Nat := c.toNat - '0'.toNat

/-- Appends digits to a number that may not exceed `limit`. -/
def digits (limit : Nat) (excess : Fault) : Nat → List Char → Except Fault Nat
  | n, [] => .ok n
  | n, c :: cs =>
    if !c.isDigit then .error .notDigit
    else if n * 10 + digitValue c ≤ limit then
      digits limit excess (n * 10 + digitValue c) cs
    else .error excess

/-- A number without a sign, of at least one digit. -/
def magnitude (limit : Nat) (excess : Fault) : List Char → Except Fault Nat
  | [] => .error .notDigit
  | cs => digits limit excess 0 cs

/-- A number from zero up to `max`. -/
def unsigned (max : Nat) : List Char → Except Fault Nat
  | [] => .error .empty
  | '+' :: cs => magnitude max .tooLarge cs
  | cs => magnitude max .tooLarge cs

/-- A number from `-2 ^ 63` up to `2 ^ 63 - 1`. -/
def signed : List Char → Except Fault Int
  | [] => .error .empty
  | '+' :: cs => Int.ofNat <$> magnitude (UInt64.size / 2 - 1) .tooLarge cs
  | '-' :: cs => (fun n => -Int.ofNat n) <$> magnitude (UInt64.size / 2) .tooSmall cs
  | cs => Int.ofNat <$> magnitude (UInt64.size / 2 - 1) .tooLarge cs

/-- A number from zero up to `max`, where any other of 64 bits is told from a text that is no
number. -/
def ranged (max : Nat) (cs : List Char) : Except Fault Nat := do
  let n ← signed cs
  if 0 ≤ n ∧ n ≤ max then pure n.toNat else .error (.outOfRange n max)

end WorkBridge.Options.Number

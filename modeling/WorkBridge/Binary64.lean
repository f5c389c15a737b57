/-!
Numbers of the format binary64, kept as their bits so that equality and order of
appearance never depend on how a number prints.

`ofNat` is the nearest number, ties to the even neighbour.  `ofDecimal?` reads a
decimal from a significand and a power of ten in at most two roundings; it is the
reading that node answers get, so its last bit is part of an answer.
-/

namespace WorkBridge

/-- A binary64 number by its bits. -/
structure Binary64 where
  bits : UInt64
deriving DecidableEq, Inhabited

namespace Binary64

def ofFloat (x : Float) : Binary64 := ⟨x.toBits⟩

def toFloat (x : Binary64) : Float := Float.ofBits x.bits

def zero : Binary64 := ⟨0⟩

def one : Binary64 := ⟨0x3ff0000000000000⟩

/-- The number with the other sign. -/
def negate (x : Binary64) : Binary64 := ⟨x.bits ^^^ 0x8000000000000000⟩

/-- The number nearest to `n`, for `n` below `2 ^ 64`. -/
def ofNat (n : Nat) : Binary64 := ofFloat n.toUInt64.toFloat

/-- The hexadecimal digits of `n`, as many as asked for, the last digit last. -/
def hexDigits : Nat → Nat → List Char
  | 0, _ => []
  | k + 1, n => hexDigits k (n / 16) ++ [Nat.digitChar (n % 16)]

/-- The sixteen hexadecimal digits of the bits. -/
def hex (x : Binary64) : String := String.ofList (hexDigits 16 x.bits.toNat)

/-- The number nearest to `10 ^ k`. -/
def powerOfTen (k : Nat) : Float := Float.ofScientific 1 false k

/-- Divides by `10 ^ k`, by `10 ^ 308` at a time while the exponent is larger than
the format has room for. -/
def shrink (x : Float) (k : Nat) : Float :=
  if k ≤ 308 then x / powerOfTen k
  else if x == 0 then x
  else shrink (x / powerOfTen 308) (k - 308)
termination_by k

/-- The number `significand * 10 ^ exponent`, or nothing where it is too large. -/
def ofDecimal? (negative : Bool) (significand : Nat) (exponent : Int) : Option Binary64 :=
  let x := significand.toUInt64.toFloat
  let magnitude : Option Float :=
    match exponent with
    | .ofNat k =>
      if k ≤ 308 then
        let y := x * powerOfTen k
        if y.isInf then none else some y
      else if x == 0 then some x else none
    | .negSucc k => some (shrink x (k + 1))
  magnitude.map fun y => if negative then (ofFloat y).negate else ofFloat y

end Binary64
end WorkBridge

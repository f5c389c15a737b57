import WorkBridge.Binary64

/-!
The shortest decimal that reads back as a given binary64 number.

The number is `m * 2 ^ q`; the reals that round to it form an interval around it, with its
ends where `m` is even.  On the grid of the multiples of `10 ^ k` only the two neighbours of
the number can be nearest to it, so the coarsest grid with one of them inside the interval
gives the fewest digits.
-/

namespace WorkBridge.Binary64

/-- A finite number other than zero as `m * 2 ^ q`. -/
structure Scaled where
  mantissa : Nat
  exponent : Int

/-- What a mantissa of full length has above its fraction, `2 ^ 52`. -/
def hiddenBit : Nat := 0x10000000000000

def exponentBits (x : Binary64) : Nat := x.bits.toNat >>> 52 % 2048

def fractionBits (x : Binary64) : Nat := x.bits.toNat % hiddenBit

def isNegative (x : Binary64) : Bool := UInt64.size / 2 ≤ x.bits.toNat

def isFinite (x : Binary64) : Bool := x.exponentBits ≠ 2047

def isZero (x : Binary64) : Bool := x.bits.toNat % (UInt64.size / 2) = 0

def scaled (x : Binary64) : Scaled :=
  if x.exponentBits = 0 then ⟨x.fractionBits, -1074⟩
  else ⟨x.fractionBits + hiddenBit, (x.exponentBits : Int) - 1075⟩

/-- The quotient of `n * 2 ^ a` by `10 ^ b` as numerator and denominator. -/
def ratio (n : Nat) (a b : Int) : Nat × Nat :=
  (n <<< a.toNat * Nat.pow 10 (-b).toNat, Nat.pow 10 b.toNat <<< (-a).toNat)

/-- Whether `c * 10 ^ k` rounds to the number `s`. -/
def readsBack (s : Scaled) (c : Nat) (k : Int) : Bool :=
  let (half, den) := ratio 1 (s.exponent - 2) k
  let closer := s.mantissa = hiddenBit ∧ -1074 < s.exponent
  let low := (4 * s.mantissa - if closer then 1 else 2) * half
  let high := (4 * s.mantissa + 2) * half
  if s.mantissa % 2 = 0 then low ≤ c * den ∧ c * den ≤ high
  else low < c * den ∧ c * den < high

/-- The multiple of `10 ^ k` nearest to `s` among those that read back as `s`. -/
def onGrid? (s : Scaled) (k : Int) : Option Nat :=
  let (num, den) := ratio s.mantissa s.exponent k
  let c := num / den
  let below := readsBack s c k ∧ 0 < c
  let above := readsBack s (c + 1) k
  let twice := 2 * (num % den)
  if below ∧ above then
    if twice < den then some c
    else if den < twice then some (c + 1)
    else some (if c % 2 = 0 then c else c + 1)
  else if below then some c
  else if above then some (c + 1)
  else none

/-- The first grid with a hit, from `10 ^ k` downwards, over `n` grids. -/
def coarsest (s : Scaled) : Nat → Int → Nat × Int
  | 0, k => (s.mantissa, k)
  | n + 1, k =>
    match onGrid? s k with
    | some c => (c, k)
    | none => coarsest s n (k - 1)

/-- The digits of the shortest decimal, and the power of ten of its last digit. -/
def shortest (s : Scaled) : Nat × Int :=
  coarsest s 24 (((s.mantissa.log2 : Int) + s.exponent) * 30103 / 100000 + 2)

/-- The text of a finite number: positional below `1e16`, as long as fewer than so many zeros
stand behind the point, and otherwise with an exponent. -/
def textWithin (zeroRoom : Nat) (x : Binary64) : String :=
  let sign := if x.isNegative then "-" else ""
  if x.isZero then sign ++ "0.0"
  else
    let (n, k) := shortest x.scaled
    let digits := Nat.toDigits 10 n
    let point : Int := digits.length + k
    let zeros (m : Nat) : List Char := List.replicate m '0'
    let body : List Char :=
      if 0 ≤ k ∧ point ≤ 16 then digits ++ zeros k.toNat ++ ['.', '0']
      else if 0 < point ∧ point ≤ 16 then
        digits.take point.toNat ++ ['.'] ++ digits.drop point.toNat
      else if -zeroRoom < point ∧ point ≤ 0 then ['0', '.'] ++ zeros (-point).toNat ++ digits
      else
        let e := (toString (point - 1)).toList
        if digits.length = 1 then digits ++ ['e'] ++ e
        else digits.take 1 ++ ['.'] ++ digits.drop 1 ++ ['e'] ++ e
    sign ++ String.ofList body

/-- The text of a number in JSON, positional from `1e-5`. -/
def text (x : Binary64) : String := x.textWithin 5

/-- The text of a number in log entries, positional from `1e-4`. -/
def shown (x : Binary64) : String := x.textWithin 4

end WorkBridge.Binary64

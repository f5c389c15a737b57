/-!
Lengths of time.

A span is whole seconds and nanoseconds.  Its text uses the largest unit whose whole part is
not zero, then a fraction without trailing zeros.
-/

namespace WorkBridge

structure Span where
  seconds : Nat
  nanos : Nat := 0
deriving DecidableEq, Inhabited

namespace Span

def ofMillis (ms : Nat) : Span := ⟨ms / 1000, ms % 1000 * 1000000⟩

def ofSeconds (s : Nat) : Span := ⟨s, 0⟩

/-- The milliseconds that a wait of this length takes.  A wait ends on a whole one, and never
early. -/
def toMillis (s : Span) : Nat :=
  s.seconds * 1000 + s.nanos / 1000000 + if s.nanos % 1000000 = 0 then 0 else 1

def isZero (s : Span) : Bool := s.seconds = 0 && s.nanos = 0

/-- Only a wait of no length takes no time. -/
theorem isZero_of_toMillis {s : Span} (h : s.toMillis = 0) : s.isZero = true := by
  unfold toMillis at h
  simp only [isZero, Bool.and_eq_true, decide_eq_true_eq]
  split at h <;> omega

/-- The digits of `n / 10 ^ places` after the point, without trailing zeros. -/
def fractionText (n places : Nat) : String :=
  let digits := (Nat.toDigits 10 (Nat.pow 10 places + n % Nat.pow 10 places)).drop 1
  let kept := (digits.reverse.dropWhile (· = '0')).reverse
  if kept.isEmpty then "" else "." ++ String.ofList kept

def text (s : Span) : String :=
  if s.seconds ≠ 0 then toString s.seconds ++ fractionText s.nanos 9 ++ "s"
  else if 1000000 ≤ s.nanos then
    toString (s.nanos / 1000000) ++ fractionText (s.nanos % 1000000) 6 ++ "ms"
  else if 1000 ≤ s.nanos then
    toString (s.nanos / 1000) ++ fractionText (s.nanos % 1000) 3 ++ "µs"
  else toString s.nanos ++ "ns"

end Span
end WorkBridge

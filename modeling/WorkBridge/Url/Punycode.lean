/-!
Punycode: a label of any characters in ASCII letters, digits and hyphens.

The ASCII characters come first.  The others follow in rising order as differences, each a
number of base 36 whose digits have thresholds that adapt to the differences before.
-/

namespace WorkBridge.Punycode

def digitChar (d : Nat) : Char :=
  if d < 26 then Char.ofNat (d + 'a'.toNat) else Char.ofNat (d - 26 + '0'.toNat)

def digitValue? (c : Char) : Option Nat :=
  if 'a' ≤ c ∧ c ≤ 'z' then some (c.toNat - 'a'.toNat)
  else if 'A' ≤ c ∧ c ≤ 'Z' then some (c.toNat - 'A'.toNat)
  else if '0' ≤ c ∧ c ≤ '9' then some (c.toNat - '0'.toNat + 26)
  else none

/-- The threshold of the digit number `k / 36`, between 1 and 26. -/
def threshold (k bias : Nat) : Nat :=
  if k ≤ bias then 1 else if bias + 26 ≤ k then 26 else k - bias

theorem threshold_pos (k bias : Nat) : 1 ≤ threshold k bias := by
  unfold threshold; split <;> (try split) <;> omega

/-- The bias after a difference, the first of which is damped. -/
def adapt (delta points : Nat) (first : Bool) : Nat :=
  let delta := if first then delta / 700 else delta / 2
  settle (delta + delta / points) 0
where
  settle (delta k : Nat) : Nat :=
    if 455 < delta then settle (delta / 35) (k + 36) else k + 36 * delta / (delta + 38)
  termination_by delta
  decreasing_by exact Nat.div_lt_self (by omega) (by omega)

/-- The digits of a difference, the least significant first. -/
def digits (bias k q : Nat) : List Char :=
  let t := threshold k bias
  if q < t then [digitChar q]
  else digitChar (t + (q - t) % (36 - t)) :: digits bias (k + 36) ((q - t) / (36 - t))
termination_by q
decreasing_by
  have := threshold_pos k bias
  have := Nat.div_le_self (q - threshold k bias) (36 - threshold k bias)
  omega

structure Progress where
  output : List Char
  delta : Nat
  bias : Nat
  written : Nat

/-- Passes over the label once for the character number `n`. -/
def writePoint (basic n : Nat) (s : Progress) (c : Char) : Progress :=
  if c.toNat < n then { s with delta := s.delta + 1 }
  else if c.toNat = n then
    { output := s.output ++ digits s.bias 36 s.delta
      delta := 0
      bias := adapt s.delta (s.written + 1) (s.written = basic)
      written := s.written + 1 }
  else s

/-- The characters of a label that are not ASCII, in rising order and each once. -/
def foreignPoints (label : List Char) : List Nat :=
  ((label.map Char.toNat).filter (128 ≤ ·)).mergeSort.eraseDups

def encode (label : List Char) : List Char :=
  let basic := label.filter (·.toNat < 128)
  let start : Progress :=
    { output := if basic.isEmpty then [] else basic ++ ['-'], delta := 0, bias := 72
      written := basic.length }
  let step (s : Progress × Nat) (n : Nat) : Progress × Nat :=
    let (s, last) := s
    let s := { s with delta := s.delta + (n - last) * (s.written + 1) }
    let s := label.foldl (writePoint basic.length n) s
    ({ s with delta := s.delta + 1 }, n + 1)
  ((foreignPoints label).foldl step (start, 128)).1.output

/-- Reads one difference, with `weight` the value of its next digit: the sum so far, and the
rest. -/
def readDelta? (bias : Nat) : Nat → Nat → Nat → List Char → Option (Nat × List Char)
  | _, _, _, [] => none
  | k, weight, sum, c :: cs => do
    let d ← digitValue? c
    let sum := sum + d * weight
    let t := threshold k bias
    if d < t then some (sum, cs) else readDelta? bias (k + 36) (weight * (36 - t)) sum cs

theorem readDelta?_length {bias k weight sum n : Nat} {cs rest : List Char}
    (h : readDelta? bias k weight sum cs = some (n, rest)) : rest.length < cs.length := by
  induction cs generalizing k weight sum with
  | nil => simp [readDelta?] at h
  | cons c cs ih =>
    cases hd : digitValue? c with
    | none => simp [readDelta?, hd] at h
    | some d =>
      simp only [readDelta?, hd, Option.bind_eq_bind, Option.bind_some] at h
      split at h
      · cases h; simp
      · have := ih h; simp; omega

/-- Puts the characters given by differences into the output.  `i` is the place after the
character inserted last. -/
def readPoints (output : List Char) (n i bias : Nat) (cs : List Char) : Option (List Char) :=
  match cs with
  | [] => some output
  | c :: rest =>
    match h : readDelta? bias 36 1 0 (c :: rest) with
    | none => none
    | some (delta, rest') =>
      let length := output.length + 1
      let n := n + (i + delta) / length
      let place := (i + delta) % length
      if n.isValidChar then
        readPoints (output.take place ++ Char.ofNat n :: output.drop place) n (place + 1)
          (adapt delta length (i = 0)) rest'
      else none
termination_by cs.length
decreasing_by exact readDelta?_length h

/-- Cuts a text at its last hyphen: what stands before it, and what follows. -/
def cutLastHyphen (cs : List Char) : List Char × List Char :=
  let after := cs.reverse.takeWhile (· ≠ '-')
  ((cs.reverse.drop (after.length + 1)).reverse, after.reverse)

def decode? (cs : List Char) : Option (List Char) :=
  let (basic, rest) := cutLastHyphen cs
  readPoints basic 128 0 72 rest

end WorkBridge.Punycode

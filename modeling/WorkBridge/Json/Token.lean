/-!
The words of a JSON text.

`Token.scan` cuts a text into tokens from left to right and stops at the first place
where no token can be read, leaving a token there that says what is wrong.  A string
keeps its content apart from its extent: half of a surrogate pair spoils the content
only, since a string that nobody reads may hold one.
-/

namespace WorkBridge.Json

/-- Why a text is not taken for a value. -/
inductive Fault
  /-- The text ends too early. -/
  | ended
  /-- The text is not JSON, or holds what no value can hold. -/
  | malformed
  /-- The text is JSON of another shape. -/
  | mismatched
deriving DecidableEq, Inhabited

/-- A fault may be met at different places by one who reads a value and by one who
skips it. -/
structure Snag where
  decoded : Fault
  skipped : Fault
deriving DecidableEq

namespace Snag

def of (f : Fault) : Snag := ⟨f, f⟩

end Snag

/-- A number as written: sign, digits before the point, digits after it, and the sign
and digits of the exponent. -/
structure Numeral where
  negative : Bool
  whole : List Char
  fraction : Option (List Char)
  exponent : Option (Bool × List Char)
deriving DecidableEq

/-- A longest run of digits, at least one. -/
def digitRun : List Char → Except Fault (List Char × List Char)
  | [] => .error .ended
  | c :: rest =>
    if c.isDigit then .ok (c :: rest.takeWhile Char.isDigit, rest.dropWhile Char.isDigit)
    else .error .malformed

namespace Numeral

/-- The digits before the point: no zero stands in front of another digit. -/
def scanWhole (cs : List Char) : Except Fault (List Char × List Char) :=
  match cs with
  | '0' :: d :: rest => if d.isDigit then .error .malformed else .ok (['0'], d :: rest)
  | _ => digitRun cs

def scanFraction : List Char → Except Fault (Option (List Char) × List Char)
  | '.' :: rest => do
    let (ds, rest) ← digitRun rest
    pure (some ds, rest)
  | cs => .ok (none, cs)

/-- The sign of an exponent: whether it is negative. -/
def scanSign : List Char → Bool × List Char
  | '+' :: rest => (false, rest)
  | '-' :: rest => (true, rest)
  | cs => (false, cs)

def scanExponent : List Char → Except Fault (Option (Bool × List Char) × List Char)
  | [] => .ok (none, [])
  | e :: rest =>
    if e = 'e' ∨ e = 'E' then do
      let (negative, rest) := scanSign rest
      let (ds, rest) ← digitRun rest
      pure (some (negative, ds), rest)
    else .ok (none, e :: rest)

/-- Reads a number whose sign has been read. -/
def scan (negative : Bool) (cs : List Char) : Except Fault (Numeral × List Char) := do
  let (whole, cs) ← scanWhole cs
  let (fraction, cs) ← scanFraction cs
  let (exponent, cs) ← scanExponent cs
  pure (⟨negative, whole, fraction, exponent⟩, cs)

end Numeral

/-- What a string is written with: characters, and code units given by number. -/
inductive Piece
  | char (c : Char)
  | unit (u : Nat)
deriving DecidableEq

/-- The value of a hexadecimal digit. -/
def hexValue? (c : Char) : Option Nat :=
  if '0' ≤ c ∧ c ≤ '9' then some (c.toNat - '0'.toNat)
  else if 'a' ≤ c ∧ c ≤ 'f' then some (c.toNat - 'a'.toNat + 10)
  else if 'A' ≤ c ∧ c ≤ 'F' then some (c.toNat - 'A'.toNat + 10)
  else none

/-- The value of four hexadecimal digits. -/
def unitValue? (a b c d : Char) : Option Nat := do
  let a ← hexValue? a
  let b ← hexValue? b
  let c ← hexValue? c
  let d ← hexValue? d
  pure (((a * 16 + b) * 16 + c) * 16 + d)

/-- The character that a backslash and `c` stand for. -/
def escaped? (c : Char) : Option Char :=
  if c = '"' then some '"'
  else if c = '\\' then some '\\'
  else if c = '/' then some '/'
  else if c = 'b' then some '\x08'
  else if c = 'f' then some '\x0c'
  else if c = 'n' then some '\n'
  else if c = 'r' then some '\r'
  else if c = 't' then some '\t'
  else none

/-- A code unit is cut off where fewer than four bytes are left, and wrong otherwise. -/
def unitFault (cs : List Char) : Fault :=
  if (String.ofList (cs.take 4)).utf8ByteSize < 4 then .ended else .malformed

/-- Reads a string after its opening quote: its pieces, then the text after the closing
quote or the reason why there is none. -/
def scanPieces : List Char → List Piece × Except Fault (List Char)
  | [] => ([], .error .ended)
  | '"' :: rest => ([], .ok rest)
  | '\\' :: [] => ([], .error .ended)
  | '\\' :: 'u' :: a :: b :: c :: d :: rest =>
    match unitValue? a b c d with
    | some u =>
      let (ps, r) := scanPieces rest
      (.unit u :: ps, r)
    | none => ([], .error (unitFault [a, b, c, d]))
  | '\\' :: 'u' :: rest => ([], .error (unitFault rest))
  | '\\' :: e :: rest =>
    match escaped? e with
    | some c =>
      let (ps, r) := scanPieces rest
      (.char c :: ps, r)
    | none => ([], .error .malformed)
  | c :: rest =>
    if c.toNat < 0x20 then ([], .error .malformed)
    else
      let (ps, r) := scanPieces rest
      (.char c :: ps, r)

def isLeading (u : Nat) : Bool := 0xD800 ≤ u ∧ u ≤ 0xDBFF

def isTrailing (u : Nat) : Bool := 0xDC00 ≤ u ∧ u ≤ 0xDFFF

/-- The characters that pieces stand for.  Two surrogates in their order are one
character; one alone stands for nothing.  `stop` is why the string has no end, met after
all of its pieces. -/
def assemble (stop : Option Fault) : List Piece → Except Fault (List Char)
  | [] =>
    match stop with
    | none => .ok []
    | some f => .error f
  | .char c :: rest => do
    let cs ← assemble stop rest
    pure (c :: cs)
  | [.unit u] =>
    if isTrailing u then .error .malformed
    else if isLeading u then .error (stop.getD .malformed)
    else
      match stop with
      | none => .ok [Char.ofNat u]
      | some f => .error f
  | .unit u :: .unit v :: rest =>
    if isTrailing u then .error .malformed
    else if isLeading u then
      if isTrailing v then do
        let cs ← assemble stop rest
        pure (Char.ofNat ((u - 0xD800) * 0x400 + (v - 0xDC00) + 0x10000) :: cs)
      else .error .malformed
    else do
      let cs ← assemble stop (.unit v :: rest)
      pure (Char.ofNat u :: cs)
  | .unit u :: .char c :: rest =>
    if isTrailing u ∨ isLeading u then .error .malformed
    else do
      let cs ← assemble stop (.char c :: rest)
      pure (Char.ofNat u :: cs)

/-- Reads one of the words `null`, `true` and `false` after its first letter. -/
def scanWord : List Char → List Char → Except Fault (List Char)
  | [], cs => .ok cs
  | _ :: _, [] => .error .ended
  | w :: ws, c :: cs => if c = w then scanWord ws cs else .error .malformed

inductive Token
  | openArray
  | closeArray
  | openObject
  | closeObject
  | comma
  | colon
  | null
  | bool (b : Bool)
  | number (n : Numeral)
  | string (content : Except Fault String)
  /-- A string without an end. -/
  | openString (snag : Snag)
  /-- A word or number that breaks off. -/
  | broken (fault : Fault)
  /-- A character that starts no token. -/
  | stray

/-- White space between tokens. -/
def isBlank (c : Char) : Bool := c = ' ' ∨ c = '\n' ∨ c = '\t' ∨ c = '\r'

namespace Token

/-- The word `w` after its first letter, standing for `t`. -/
def word (w : List Char) (t : Token) (cs : List Char) : Token × Option (List Char) :=
  match scanWord w cs with
  | .ok rest => (t, some rest)
  | .error f => (.broken f, none)

def numeral (negative : Bool) (cs : List Char) : Token × Option (List Char) :=
  match Numeral.scan negative cs with
  | .ok (n, rest) => (.number n, some rest)
  | .error f => (.broken f, none)

/-- A string after its opening quote. -/
def quoted (cs : List Char) : Token × Option (List Char) :=
  match scanPieces cs with
  | (ps, .ok rest) => (.string ((assemble none ps).map String.ofList), some rest)
  | (ps, .error f) =>
    match assemble (some f) ps with
    | .error g => (.openString ⟨g, f⟩, none)
    | .ok _ => (.openString (.of f), none)

/-- Reads a token that starts with `c`; without a rest no further token can be read. -/
def next (c : Char) (rest : List Char) : Token × Option (List Char) :=
  match c with
  | '[' => (.openArray, some rest)
  | ']' => (.closeArray, some rest)
  | '\x7b' => (.openObject, some rest)
  | '\x7d' => (.closeObject, some rest)
  | ',' => (.comma, some rest)
  | ':' => (.colon, some rest)
  | 'n' => word ['u', 'l', 'l'] .null rest
  | 't' => word ['r', 'u', 'e'] (.bool true) rest
  | 'f' => word ['a', 'l', 's', 'e'] (.bool false) rest
  | '-' => numeral true rest
  | '"' => quoted rest
  | c => if c.isDigit then numeral false (c :: rest) else (.stray, none)

end Token

/-! ### Every token takes at least one character -/

theorem digitRun_length {cs ds r : List Char} (h : digitRun cs = .ok (ds, r)) :
    r.length < cs.length := by
  match cs, h with
  | c :: rest, h =>
    simp only [digitRun] at h
    split at h
    · cases h
      have := (List.dropWhile_sublist (l := rest) Char.isDigit).length_le
      simp; omega
    · cases h

theorem scanWord_length {ws cs r : List Char} (h : scanWord ws cs = .ok r) :
    r.length ≤ cs.length := by
  induction ws generalizing cs with
  | nil => simp only [scanWord] at h; cases h; simp
  | cons w ws ih =>
    match cs, h with
    | c :: cs, h =>
      simp only [scanWord] at h
      split at h
      · have := ih h; simp; omega
      · cases h

theorem Numeral.scanWhole_length {cs ds r : List Char} (h : scanWhole cs = .ok (ds, r)) :
    r.length < cs.length := by
  unfold scanWhole at h
  split at h
  · split at h
    · cases h
    · cases h; simp
  · exact digitRun_length h

theorem Numeral.scanFraction_length {cs r : List Char} {o}
    (h : scanFraction cs = .ok (o, r)) : r.length ≤ cs.length := by
  unfold scanFraction at h
  split at h
  · rename_i rest
    cases hd : digitRun rest with
    | error f => rw [hd] at h; cases h
    | ok p =>
      rw [hd] at h
      obtain ⟨ds, r'⟩ := p
      cases h
      have := digitRun_length hd
      simp; omega
  · cases h; exact Nat.le_refl _

theorem Numeral.scanSign_length (cs : List Char) : (scanSign cs).2.length ≤ cs.length := by
  unfold scanSign
  split <;> simp

theorem Numeral.scanExponent_length {cs r : List Char} {o}
    (h : scanExponent cs = .ok (o, r)) : r.length ≤ cs.length := by
  unfold scanExponent at h
  split at h
  · cases h; simp
  · rename_i e rest
    split at h
    · cases hd : digitRun (scanSign rest).2 with
      | error f => simp [hd, bind, Except.bind] at h
      | ok p =>
        obtain ⟨ds, r'⟩ := p
        simp [hd, bind, Except.bind, pure, Except.pure] at h
        obtain ⟨_, rfl⟩ := h
        have := digitRun_length hd
        have := scanSign_length rest
        simp; omega
    · cases h; exact Nat.le_refl _

theorem Numeral.scan_length {negative : Bool} {cs r : List Char} {n : Numeral}
    (h : scan negative cs = .ok (n, r)) : r.length < cs.length := by
  unfold scan at h
  cases hw : scanWhole cs with
  | error f => simp [hw, bind, Except.bind] at h
  | ok p =>
    obtain ⟨whole, cs₁⟩ := p
    cases hf : scanFraction cs₁ with
    | error f => simp [hw, hf, bind, Except.bind] at h
    | ok p =>
      obtain ⟨fraction, cs₂⟩ := p
      cases he : scanExponent cs₂ with
      | error f => simp [hw, hf, he, bind, Except.bind] at h
      | ok p =>
        obtain ⟨exponent, cs₃⟩ := p
        simp [hw, hf, he, bind, Except.bind, pure, Except.pure] at h
        obtain ⟨_, rfl⟩ := h
        have := scanWhole_length hw
        have := scanFraction_length hf
        have := scanExponent_length he
        omega

theorem scanPieces_length {cs r : List Char} {ps : List Piece}
    (h : scanPieces cs = (ps, .ok r)) : r.length < cs.length := by
  fun_induction scanPieces cs generalizing ps with
  | case1 => cases h
  | case2 rest => cases h; simp
  | case3 => cases h
  | case4 a b c d rest u hu ps' r' heq ih =>
    cases h; have := ih heq; simp; omega
  | case5 => cases h
  | case6 => cases h
  | case7 e rest _ _ c hc ps' r' heq ih =>
    cases h; have := ih heq; simp; omega
  | case8 => cases h
  | case9 => cases h
  | case10 c rest _ _ _ _ _ _ ps' r' heq ih =>
    cases h; have := ih heq; simp; omega

theorem Token.word_length {w cs r : List Char} {t t' : Token}
    (h : word w t cs = (t', some r)) : r.length ≤ cs.length := by
  unfold word at h
  split at h
  · cases h; rename_i hw; exact scanWord_length hw
  · cases h

theorem Token.numeral_length {negative : Bool} {cs r : List Char} {t : Token}
    (h : numeral negative cs = (t, some r)) : r.length < cs.length := by
  unfold numeral at h
  split at h
  · cases h; rename_i hn; exact Numeral.scan_length hn
  · cases h

theorem Token.quoted_length {cs r : List Char} {t : Token}
    (h : quoted cs = (t, some r)) : r.length < cs.length := by
  unfold quoted at h
  split at h
  · cases h; rename_i hp; exact scanPieces_length hp
  · split at h <;> cases h

theorem Token.next_length {c : Char} {rest r : List Char} {t : Token}
    (h : next c rest = (t, some r)) : r.length ≤ rest.length := by
  unfold next at h
  split at h
  case h_7 | h_8 | h_9 => exact word_length h
  case h_10 => exact Nat.le_of_lt (numeral_length h)
  case h_11 => exact Nat.le_of_lt (quoted_length h)
  case h_12 =>
    split at h
    · have := numeral_length h; simp at this; omega
    · cases h
  all_goals cases h; exact Nat.le_refl _

namespace Token

/-- The tokens of a text, up to and with the first that breaks off. -/
def scan : List Char → List Token
  | [] => []
  | c :: rest =>
    if isBlank c then scan rest
    else
      match _h : next c rest with
      | (t, some r) => t :: scan r
      | (t, none) => [t]
termination_by cs => cs.length
decreasing_by
  · simp
  · have := next_length ‹_›; simp; omega

end Token
end WorkBridge.Json

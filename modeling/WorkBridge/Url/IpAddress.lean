/-!
IP addresses in text.

Two grammars are in use.  In a URL the numbers of an IPv4 address may be octal or
hexadecimal and the last one fills the bytes that are missing; an option of the command line
takes four decimal numbers without superfluous zeros and nothing else.  IPv6 addresses are
written with the longest run of zeros, the first of equal ones, left out.
-/

namespace WorkBridge

namespace Ipv4

/-- Cuts a text at a character. -/
def splitAt (sep : Char) : List Char → List (List Char)
  | [] => [[]]
  | c :: cs =>
    if c = sep then [] :: splitAt sep cs
    else
      match splitAt sep cs with
      | [] => [[c]]
      | p :: ps => (c :: p) :: ps

/-- The value of a digit in a base up to sixteen. -/
def digit? (base : Nat) (c : Char) : Option Nat :=
  let n :=
    if '0' ≤ c ∧ c ≤ '9' then c.toNat - '0'.toNat
    else if 'a' ≤ c ∧ c ≤ 'f' then c.toNat - 'a'.toNat + 10
    else if 'A' ≤ c ∧ c ≤ 'F' then c.toNat - 'A'.toNat + 10
    else base
  if n < base then some n else none

def number? (base : Nat) (cs : List Char) : Option Nat :=
  cs.foldlM (fun n c => (digit? base c).map (n * base + ·)) 0

/-- A number of a URL's IPv4 address: octal after `0`, hexadecimal after `0x`. -/
def part? (cs : List Char) : Option Nat :=
  match cs with
  | [] => none
  | '0' :: 'x' :: rest => number? 16 rest
  | '0' :: 'X' :: rest => number? 16 rest
  | '0' :: d :: rest => number? 8 (d :: rest)
  | cs => number? 10 cs

/-- Numbers that each fit a byte, and one for all the bytes after them. -/
def combine? : Nat → List Nat → Option Nat
  | _, [] => none
  | bytes, [n] => if n < 256 ^ bytes then some n else none
  | bytes, n :: ns =>
    if n < 256 then (combine? (bytes - 1) ns).map (n * 256 ^ (bytes - 1) + ·) else none

/-- Reads the host of a URL that is known to end in a number. -/
def parse? (cs : List Char) : Option Nat := do
  let parts := splitAt '.' cs
  let parts := if parts.getLast? = some [] then parts.dropLast else parts
  if 4 < parts.length then none
  else combine? 4 (← parts.mapM part?)

/-- Whether a host is meant as an IPv4 address: its last part that is not empty is a number. -/
def endsInNumber (cs : List Char) : Bool :=
  let isNumber (p : List Char) : Bool := (!p.isEmpty && p.all Char.isDigit) || (part? p).isSome
  match (splitAt '.' cs).reverse with
  | [] => false
  | [] :: [] => false
  | [] :: p :: _ => isNumber p
  | p :: _ => isNumber p

def text (n : Nat) : String :=
  let byte (k : Nat) : String := toString (n >>> (8 * k) % 256)
  byte 3 ++ "." ++ byte 2 ++ "." ++ byte 1 ++ "." ++ byte 0

/-- A decimal byte without a superfluous zero. -/
def plainByte? (cs : List Char) : Option Nat :=
  if cs.isEmpty ∨ 3 < cs.length ∨ (cs.head? = some '0' ∧ 1 < cs.length) then none
  else (number? 10 cs).filter (· < 256)

/-- Four decimal bytes with points between them. -/
def plain? (cs : List Char) : Option Nat :=
  match (splitAt '.' cs).mapM plainByte? with
  | some [a, b, c, d] => some (((a * 256 + b) * 256 + c) * 256 + d)
  | _ => none

end Ipv4

namespace Ipv6

/-- Sixteen bits, of one to four hexadecimal digits. -/
def group? (cs : List Char) : Option Nat :=
  if cs.isEmpty ∨ 4 < cs.length then none else Ipv4.number? 16 cs

/-- Groups with colons between them; the last may be an IPv4 address in place of two. -/
def groups? : List (List Char) → Option (List Nat)
  | [] => some []
  | [p] =>
    match group? p with
    | some g => some [g]
    | none => (Ipv4.plain? p).map fun n => [n / 65536, n % 65536]
  | p :: ps => do
    let g ← group? p
    let gs ← groups? ps
    pure (g :: gs)

/-- The groups on one side of a gap, where there may be none. -/
def side? (cs : List Char) : Option (List Nat) :=
  if cs.isEmpty then some [] else groups? (Ipv4.splitAt ':' cs)

/-- Cuts a text at its first `::`. -/
def cutGap? : List Char → Option (List Char × List Char)
  | [] => none
  | ':' :: ':' :: rest => some ([], rest)
  | c :: rest => (cutGap? rest).map fun (a, b) => (c :: a, b)

/-- Whether an IPv4 address stands in front of the gap, where none may stand. -/
def endsInIpv4 (cs : List Char) : Bool := '.' ∈ cs

/-- The eight groups of an address.  A gap stands for one zero group or more. -/
def parse? (cs : List Char) : Option (List Nat) :=
  match cutGap? cs with
  | none => do
    let gs ← side? cs
    if gs.length = 8 then some gs else none
  | some (a, b) => do
    if endsInIpv4 a then none
    else
      let left ← side? a
      let right ← side? b
      if left.length + right.length < 8 then
        some (left ++ List.replicate (8 - left.length - right.length) 0 ++ right)
      else none

/-- The length of the run of zeros that a list begins with. -/
def zeros : List Nat → Nat
  | 0 :: rest => zeros rest + 1
  | _ => 0

/-- Start and length of the longest run of zeros, the first of equal ones. -/
def longestRun : Nat → List Nat → Nat × Nat
  | _, [] => (0, 0)
  | i, gs@(_ :: rest) =>
    let later := longestRun (i + 1) rest
    if later.2 ≤ zeros gs then (i, zeros gs) else later

def groupText (g : Nat) : String := String.ofList (Nat.toDigits 16 g)

def joined (gs : List Nat) : String := ":".intercalate (gs.map groupText)

def text (gs : List Nat) : String :=
  let (start, length) := longestRun 0 gs
  if 2 ≤ length then joined (gs.take start) ++ "::" ++ joined (gs.drop (start + length))
  else joined gs

end Ipv6

/-- An address that a socket can be bound to. -/
inductive IpAddress
  | v4 (n : Nat)
  | v6 (groups : List Nat)
deriving DecidableEq, Inhabited

namespace IpAddress

/-- Whether the address can stand for itself in `::ffff:1.2.3.4` form. -/
def mapped? : List Nat → Option Nat
  | [0, 0, 0, 0, 0, 0xffff, a, b] => some (a * 65536 + b)
  | _ => none

def parse? (s : String) : Option IpAddress :=
  (Ipv4.plain? s.toList).map .v4 <|> (Ipv6.parse? s.toList).map .v6

def text : IpAddress → String
  | .v4 n => Ipv4.text n
  | .v6 gs =>
    match mapped? gs with
    | some n => "::ffff:" ++ Ipv4.text n
    | none => Ipv6.text gs

end IpAddress
end WorkBridge

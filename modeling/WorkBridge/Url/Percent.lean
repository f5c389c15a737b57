import WorkBridge.Binary64

/-!
Percent encoding.

A byte is written as `%` and two hexadecimal digits where it is not an ASCII character or
belongs to the set that the place in the URL asks for.  The sets grow from one another, and
all of them hold the control characters.
-/

namespace WorkBridge.Url

/-- Characters to be encoded, of the printable ASCII ones. -/
abbrev EncodeSet := List Char

namespace EncodeSet

def control : EncodeSet := []

def fragment : EncodeSet := [' ', '"', '<', '>', '\x60']

def query : EncodeSet := [' ', '"', '#', '<', '>']

def specialQuery : EncodeSet := '\'' :: query

def path : EncodeSet := fragment ++ ['#', '?', '\x7b', '\x7d']

def userInfo : EncodeSet := path ++ ['/', ':', ';', '=', '@', '[', '\\', ']', '^', '|']

end EncodeSet

/-- A byte as `%` and two upper-case hexadecimal digits. -/
def percentByte (b : Nat) : List Char :=
  '%' :: (Binary64.hexDigits 2 b).map Char.toUpper

def percentEncodeChar (set : EncodeSet) (c : Char) : List Char :=
  if c.toNat < 0x20 ∨ 0x7F ≤ c.toNat ∨ c ∈ set then
    (String.singleton c).toUTF8.toList.flatMap fun b => percentByte b.toNat
  else [c]

def percentEncode (set : EncodeSet) (cs : List Char) : String :=
  String.ofList (cs.flatMap (percentEncodeChar set))

def hexDigit? (b : UInt8) : Option Nat :=
  if 0x30 ≤ b ∧ b ≤ 0x39 then some (b.toNat - 0x30)
  else if 0x41 ≤ b ∧ b ≤ 0x46 then some (b.toNat - 0x37)
  else if 0x61 ≤ b ∧ b ≤ 0x66 then some (b.toNat - 0x57)
  else none

/-- Bytes with every `%` that two hexadecimal digits follow replaced by the byte they give. -/
def percentDecodeBytes : List UInt8 → List UInt8
  | 0x25 :: h :: l :: rest =>
    match hexDigit? h, hexDigit? l with
    | some h, some l => (h * 16 + l).toUInt8 :: percentDecodeBytes rest
    | _, _ => 0x25 :: percentDecodeBytes (h :: l :: rest)
  | b :: rest => b :: percentDecodeBytes rest
  | [] => []

/-- The decoded text, where its bytes are text. -/
def percentDecode? (cs : List Char) : Option String :=
  String.fromUTF8? ⟨(percentDecodeBytes (String.ofList cs).toUTF8.toList).toArray⟩

end WorkBridge.Url

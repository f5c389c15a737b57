/-!
Tables of characters, written as text: rows of hexadecimal numbers, with blanks between the
numbers and commas between the rows.
-/

namespace WorkBridge.Url.Table

/-- The value of a lower-case hexadecimal digit. -/
def digit (c : Char) : Nat := if c.isDigit then c.toNat - '0'.toNat else c.toNat - 'a'.toNat + 10

/-- The number that digits give. -/
def number (cs : List Char) : Nat := cs.foldl (fun n c => n * 16 + digit c) 0

/-- Cuts a text at every `separator`; empty pieces do not count. -/
def pieces (separator : Char) (cs : List Char) : List (List Char) :=
  (cs.splitOnP (· = separator)).filter (!·.isEmpty)

def row (cs : List Char) : List Nat := (pieces ' ' cs).map number

/-- The rows of a table. -/
def rows (lines : List String) : List (List Nat) :=
  lines.flatMap fun line => (pieces ',' line.toList).map row

/-- The rows of a table of ranges. -/
def ranges (lines : List String) : List (Nat × Nat) := (rows lines).filterMap fun
  | [low, high] => some (low, high)
  | _ => none

def contains (ranges : List (Nat × Nat)) (c : Char) : Bool :=
  ranges.any fun (low, high) => low ≤ c.toNat && c.toNat ≤ high

end WorkBridge.Url.Table

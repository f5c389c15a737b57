import WorkBridge.Url.Reader

/-!
Where a node listens.

An address is kept as the operator wrote it.  It is dialed as a URL; without `://` in it, it
names a plain web socket.
-/

namespace WorkBridge.Node

/-- White space of any script. -/
def isWhite (c : Char) : Bool :=
  let n := c.toNat
  (9 ≤ n && n ≤ 13) || n = 0x20 || n = 0x85 || n = 0xA0 || n = 0x1680 ||
    (0x2000 ≤ n && n ≤ 0x200A) || n = 0x2028 || n = 0x2029 || n = 0x202F || n = 0x205F ||
    n = 0x3000

/-- A text without the white space at its ends. -/
def trimWhite (cs : List Char) : List Char :=
  ((cs.dropWhile isWhite).reverse.dropWhile isWhite).reverse

/-- Whether `mark` occurs in a text. -/
def occurs (mark : List Char) : List Char → Bool
  | [] => mark.isEmpty
  | c :: cs => mark.isPrefixOf (c :: cs) || occurs mark cs

structure Address where
  text : String
deriving DecidableEq, Inhabited

namespace Address

/-- The address of a node on this computer. -/
def standard : Address := ⟨"localhost:13110"⟩

/-- The URL that the address is dialed as. -/
def url (a : Address) : Except Url.ParseError Url :=
  let cs := trimWhite a.text.toList
  if occurs [':', '/', '/'] cs then Url.parse (String.ofList cs)
  else Url.parse ("ws://" ++ String.ofList cs)

end Address
end WorkBridge.Node

import WorkBridge.Url.Basic
import WorkBridge.Url.Domain.Folding
import WorkBridge.Url.Domain.Joining
import WorkBridge.Url.IpAddress
import WorkBridge.Url.Percent
import WorkBridge.Url.Punycode

/-!
Hosts of URLs.

The host of a special URL is a domain name or an address.  A domain name is percent-decoded
and brought into the form in which names are compared; a label with other characters than ASCII
ones is written in Punycode.  The host of any other URL is kept as it is written.
-/

namespace WorkBridge.Url

/-- Characters that no domain name holds. -/
def isForbiddenInDomain (c : Char) : Bool :=
  c.toNat ≤ 0x20 || c.toNat = 0x7F ||
    c ∈ ['%', '#', '/', ':', '<', '>', '?', '@', '[', '\\', ']', '^', '|']

/-- Characters that no host of any kind holds. -/
def isForbiddenInHost (c : Char) : Bool :=
  c ∈ ['\x00', '\t', '\n', '\r', ' ', '#', '/', ':', '<', '>', '?', '@', '[', '\\', ']', '^', '|']

def isPlain (cs : List Char) : Bool := cs.all (·.toNat < 128)

/-- Whether a label with other characters than ASCII ones is in the form of domain names. -/
def isWellFormedLabel (label : List Char) : Bool :=
  !isPlain label && !(label.head?.any Composition.isMark) && compose label = label &&
    hasPlacedJoiners [] label &&
    label.all fun c => if c.toNat < 128 then !c.isUpper else Folding.isAllowed c

/-- A label as it is read.  A label that is already in Punycode has to be well-formed. -/
def readLabel? (label : List Char) : Option (List Char) :=
  match label with
  | 'x' :: 'n' :: '-' :: '-' :: code =>
    match Punycode.decode? code with
    | some given =>
      if isWellFormedLabel given ∧ Punycode.encode given = code then some given else none
    | none => none
  | _ => if isPlain label || isWellFormedLabel label then some label else none

/-- A label in ASCII. -/
def asciiLabel (label : List Char) : List Char :=
  if isPlain label then label else 'x' :: 'n' :: '-' :: '-' :: Punycode.encode label

/-- A domain name in the form in which names are compared. -/
def foldDomain? (name : List Char) : Option (List Char) :=
  if isPlain name then some (name.map Char.toLower) else (fold? name).map compose

/-- The ASCII form of a domain name. -/
def asciiDomain? (name : List Char) : Option (List Char) := do
  let name ← foldDomain? name
  if name.any isForbiddenInDomain then none
  else
    let labels ← (Ipv4.splitAt '.' name).mapM readLabel?
    if keepsDirections labels then pure (['.'].intercalate (labels.map asciiLabel)) else none

/-- The address between square brackets. -/
def bracketed (cs : List Char) : Except ParseError String :=
  match cs.reverse with
  | ']' :: inner =>
    match Ipv6.parse? inner.reverse with
    | some gs => .ok ("[" ++ Ipv6.text gs ++ "]")
    | none => .error .ipv6Address
  | _ => .error .ipv6Address

/-- The host of a special URL. -/
def specialHost (cs : List Char) : Except ParseError String :=
  match cs with
  | '[' :: rest => bracketed rest
  | _ =>
    match (percentDecode? cs).bind fun s => asciiDomain? s.toList with
    | none => .error .domainName
    | some [] => .error .emptyHost
    | some domain =>
      if Ipv4.endsInNumber domain then
        match Ipv4.parse? domain with
        | some n => .ok (Ipv4.text n)
        | none => .error .ipv4Address
      else .ok (String.ofList domain)

/-- The host of a URL that is not special. -/
def opaqueHost (cs : List Char) : Except ParseError String :=
  match cs with
  | '[' :: rest => bracketed rest
  | _ =>
    if cs.any isForbiddenInHost then .error .domainCharacter
    else .ok (percentEncode EncodeSet.control cs)

end WorkBridge.Url

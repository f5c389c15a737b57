import WorkBridge.Url.Domain
import WorkBridge.Url.Path

/-!
Reading a URL.

Control characters and blanks at the ends of the text and tabs and line breaks anywhere in it
are dropped first.  Then scheme, user information, host, port, path, query and fragment are
read in this order, and the first of them that is not well-formed gives the error.
-/

namespace WorkBridge.Url

def isEdge (c : Char) : Bool := c.toNat ≤ 0x20

def isDropped (c : Char) : Bool := c = '\t' ∨ c = '\n' ∨ c = '\r'

/-- The characters of a text that count. -/
def clean (cs : List Char) : List Char :=
  ((cs.dropWhile isEdge).reverse.dropWhile isEdge).reverse.filter fun c => !isDropped c

def isSchemeChar (c : Char) : Bool :=
  c.isAlphanum || c = '+' || c = '-' || c = '.'

/-- The scheme in lower case, and what follows the colon after it. -/
def scheme? (cs : List Char) : Option (String × List Char) :=
  match cs with
  | c :: _ =>
    if c.isAlpha then
      match cs.dropWhile isSchemeChar with
      | ':' :: rest => some (String.ofList ((cs.takeWhile isSchemeChar).map Char.toLower), rest)
      | _ => none
    else none
  | [] => none

/-- Whether the part of a URL that names a place ends before `c`. -/
def endsAuthority (kind : SchemeKind) (c : Char) : Bool :=
  c = '/' || c = '?' || c = '#' || (kind.isSpecial && c = '\\')

/-- Cuts a text before the first character with property `p`. -/
def cutBefore (p : Char → Bool) (cs : List Char) : List Char × List Char :=
  (cs.takeWhile fun c => !p c, cs.dropWhile fun c => !p c)

structure Credentials where
  username : String := ""
  password : Option String := none

/-- User information: the password follows the first colon and is dropped where it is
empty. -/
def credentials (cs : List Char) : Credentials :=
  let (name, rest) := cutBefore (· = ':') cs
  { username := percentEncode EncodeSet.userInfo name
    password := match rest with
      | _ :: p :: ps => some (percentEncode EncodeSet.userInfo (p :: ps))
      | _ => none }

/-- Cuts a text at its last `@`. -/
def cutUser (cs : List Char) : Option (List Char × List Char) :=
  if '@' ∈ cs then
    let host := (cs.reverse.takeWhile (· ≠ '@')).reverse
    some (cs.take (cs.length - host.length - 1), host)
  else none

/-- Cuts host and port: at a colon that is not between square brackets. -/
def cutHost (inside : Bool) : List Char → List Char × List Char
  | [] => ([], [])
  | c :: cs =>
    if c = ':' ∧ !inside then ([], c :: cs)
    else
      let inside := if c = '[' then true else if c = ']' then false else inside
      let (h, rest) := cutHost inside cs
      (c :: h, rest)

/-- A port number after its colon, which may be missing, and what follows it. -/
def readPort (cs : List Char) : Except ParseError (Option Nat × List Char) :=
  let digits := cs.takeWhile Char.isDigit
  let rest := cs.dropWhile Char.isDigit
  let n := Nat.ofDigitChars 10 digits 0
  let ends : Bool := match rest with
    | [] => true
    | c :: _ => c = '\\'
  if n ≤ 65535 && ends then .ok (if digits.isEmpty then none else some n, rest)
  else .error .port

/-- Query and fragment. -/
def tail (kind : SchemeKind) (cs : List Char) : Option String × Option String :=
  let (before, fragment) := cutBefore (· = '#') cs
  let set := if kind.isSpecial then EncodeSet.specialQuery else EncodeSet.query
  let query := match before with
    | '?' :: q => some (percentEncode set q)
    | _ => none
  let fragment := match fragment with
    | _ :: f => some (percentEncode EncodeSet.fragment f)
    | [] => none
  (query, fragment)

def isTail (c : Char) : Bool := c = '?' || c = '#'

/-- What follows the place: path, query and fragment. -/
def withPath (kind : SchemeKind) (u : Url) (cs : List Char) : Url :=
  let (path, rest) := cutBefore isTail cs
  let (query, fragment) := tail kind rest
  let path := match path with
    | [] => if kind.isSpecial then "/" else ""
    | c :: rest => if c = '/' ∨ (kind.isSpecial ∧ c = '\\') then pathOf kind rest
      else pathOf kind path
  { u with path, query, fragment }

/-- A URL after the slashes in front of its host. -/
def withAuthority (kind : SchemeKind) (scheme : String) (cs : List Char) :
    Except ParseError Url := do
  let (place, rest) := cutBefore (endsAuthority kind) cs
  let (user, hostAndPort) ← match cutUser place with
    | none => pure ({}, place)
    | some ([], []) => if rest.isEmpty then pure ({}, []) else .error .emptyHost
    | some (user, host) => pure (credentials user, host)
  let hasUser := user.username ≠ "" ∨ user.password.isSome
  let (host, afterHost) := cutHost false hostAndPort
  if kind = .special ∧ host.isEmpty then .error .emptyHost
  else
    let host ← if kind.isSpecial then specialHost host else opaqueHost host
    if host = "" ∧ !afterHost.isEmpty then .error .emptyHost
    else
      let (given, afterPort) ← match afterHost with
        | _ :: digits => readPort digits
        | [] => pure (none, [])
      if host = "" ∧ hasUser then .error .emptyHost
      else
        pure (withPath kind
          { scheme
            username := user.username
            password := user.password
            host := if host = "" then none else some host
            port := if given = usualPort? scheme then none else given }
          (afterPort ++ rest))

/-- A URL with the scheme `file`: its host may be missing and is dropped where it is this
computer or where the path names a drive. -/
def fileUrl (cs : List Char) : Except ParseError Url := do
  let isSlash (c : Char) : Bool := c = '/' || c = '\\'
  let withoutHost (cs : List Char) : Url := withPath .file { scheme := "file" } cs
  match cs with
  | a :: b :: rest =>
    if isSlash a && isSlash b then
      let (place, after) := cutBefore (fun c => isSlash c || isTail c) rest
      if isDriveLetter place then pure (withoutHost rest)
      else if place.isEmpty then pure (withoutHost after)
      else
        let host ← specialHost place
        let u := withoutHost after
        let drive := isNormalDriveLetter ((u.path.toList.drop 1).takeWhile (· ≠ '/'))
        pure (if host = "localhost" ∨ drive then u else { u with host := some host })
    else pure (withoutHost cs)
  | _ => pure (withoutHost cs)

/-- A URL without a place: a path, or text that is kept as it is. -/
def withoutAuthority (scheme : String) (cs : List Char) : Url :=
  match cs with
  | '/' :: _ => withPath .other { scheme, authority := false } cs
  | _ =>
    let (body, rest) := cutBefore isTail cs
    let (query, fragment) := tail .other rest
    { scheme, authority := false, path := percentEncode EncodeSet.control body, query, fragment }

/-- Reads a URL. -/
def parse (text : String) : Except ParseError Url :=
  match scheme? (clean text.toList) with
  | none => .error .relativeWithoutBase
  | some (scheme, rest) =>
    match schemeKind scheme with
    | .file => fileUrl rest
    | .special =>
      withAuthority .special scheme (rest.dropWhile fun c => c = '/' || c = '\\')
    | .other =>
      match rest with
      | '/' :: '/' :: after => withAuthority .other scheme after
      | _ => .ok (withoutAuthority scheme rest)

end WorkBridge.Url

/-!
Absolute URLs in their parts, and the reasons why a text is none.

`Url.text` puts the parts together again.  A URL without a host whose path would read as a
host gets `/.` in front of the path.
-/

namespace WorkBridge

structure Url where
  scheme : String
  username : String := ""
  password : Option String := none
  host : Option String := none
  /-- Whether `//` stands in front of the place of the host. -/
  authority : Bool := true
  /-- The port, where it is given and not the usual one of the scheme. -/
  port : Option Nat := none
  path : String := ""
  query : Option String := none
  fragment : Option String := none
deriving DecidableEq, Inhabited

namespace Url

inductive ParseError
  | emptyHost
  | domainName
  | port
  | ipv4Address
  | ipv6Address
  | domainCharacter
  | relativeWithoutBase
deriving DecidableEq, Inhabited

def ParseError.message : ParseError → String
  | .emptyHost => "empty host"
  | .domainName => "invalid international domain name"
  | .port => "invalid port number"
  | .ipv4Address => "invalid IPv4 address"
  | .ipv6Address => "invalid IPv6 address"
  | .domainCharacter => "invalid domain character"
  | .relativeWithoutBase => "relative URL without a base"

/-- How a scheme shapes the rest of a URL. -/
inductive SchemeKind
  /-- Always with a host; a backslash is a slash. -/
  | special
  | file
  | other
deriving DecidableEq

def schemeKind (scheme : String) : SchemeKind :=
  if scheme ∈ ["http", "https", "ws", "wss", "ftp"] then .special
  else if scheme = "file" then .file
  else .other

def SchemeKind.isSpecial : SchemeKind → Bool
  | .other => false
  | _ => true

/-- The port that a scheme uses where none is given. -/
def usualPort? (scheme : String) : Option Nat :=
  if scheme ∈ ["http", "ws"] then some 80
  else if scheme ∈ ["https", "wss"] then some 443
  else if scheme = "ftp" then some 21
  else none

def portOrUsual (u : Url) : Option Nat := u.port <|> usualPort? u.scheme

/-- User name and password with the `@` after them. -/
def userInfo (u : Url) : String :=
  match u.password with
  | some p => u.username ++ ":" ++ p ++ "@"
  | none => if u.username = "" then "" else u.username ++ "@"

def text (u : Url) : String :=
  let port := match u.port with
    | some p => ":" ++ toString p
    | none => ""
  let place :=
    if u.authority then "//" ++ u.userInfo ++ u.host.getD "" ++ port
    else if u.path.toList.take 2 = ['/', '/'] then "/."
    else ""
  let query := match u.query with
    | some q => "?" ++ q
    | none => ""
  let fragment := match u.fragment with
    | some f => "#" ++ f
    | none => ""
  u.scheme ++ ":" ++ place ++ u.path ++ query ++ fragment

end Url
end WorkBridge

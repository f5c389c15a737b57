import WorkBridge.Url.Basic
import WorkBridge.Url.Percent

/-!
Paths of URLs.

A path is cut at slashes; a segment `.` is dropped and a segment `..` drops the one before
it, also where their points are percent-encoded.  Either leaves an empty last segment when
nothing follows it.
-/

namespace WorkBridge.Url

/-- A segment with `%2e` replaced by a point. -/
def plainDots : List Char → List Char
  | '%' :: '2' :: 'e' :: rest => '.' :: plainDots rest
  | '%' :: '2' :: 'E' :: rest => '.' :: plainDots rest
  | c :: rest => c :: plainDots rest
  | [] => []

def isSingleDot (segment : List Char) : Bool := plainDots segment = ['.']

def isDoubleDot (segment : List Char) : Bool := plainDots segment = ['.', '.']

/-- A letter and a colon or bar, as drives are named. -/
def isDriveLetter : List Char → Bool
  | [c, d] => c.isAlpha && (d = ':' || d = '|')
  | _ => false

def isNormalDriveLetter : List Char → Bool
  | [c, d] => c.isAlpha && d = ':'
  | _ => false

/-- Drops the last segment, but never the drive that a file's path begins with. -/
def shorten (kind : SchemeKind) (done : List (List Char)) : List (List Char) :=
  match done with
  | [only] => if kind = .file && isNormalDriveLetter only then [only] else []
  | _ => done.dropLast

/-- A segment that names a drive at the start of a file's path gets a colon. -/
def normalizeDrive (kind : SchemeKind) (done : List (List Char)) (segment : List Char) :
    List Char :=
  match segment with
  | [c, _] =>
    if kind = .file && done.isEmpty && isDriveLetter segment then [c, ':'] else segment
  | _ => segment

/-- Puts segments after those already `done`. -/
def resolve (kind : SchemeKind) (done : List (List Char)) :
    List (List Char) → List (List Char)
  | [] => done
  | [last] =>
    if isDoubleDot last then shorten kind done ++ [[]]
    else if isSingleDot last then done ++ [[]]
    else done ++ [normalizeDrive kind done last]
  | segment :: rest =>
    if isDoubleDot segment then resolve kind (shorten kind done) rest
    else if isSingleDot segment then resolve kind done rest
    else resolve kind (done ++ [normalizeDrive kind done segment]) rest

/-- Cuts a text at slashes, and at backslashes where the scheme takes them for slashes. -/
def cutSegments (backslash : Bool) : List Char → List (List Char)
  | [] => [[]]
  | c :: cs =>
    if c = '/' ∨ (backslash ∧ c = '\\') then [] :: cutSegments backslash cs
    else
      match cutSegments backslash cs with
      | [] => [[c]]
      | p :: ps => (c :: p) :: ps

/-- The path of the text after its first slash. -/
def pathOf (kind : SchemeKind) (cs : List Char) : String :=
  let segments := (cutSegments kind.isSpecial cs).map fun s =>
    s.flatMap (percentEncodeChar EncodeSet.path)
  let resolved := resolve kind [] segments
  let body := match resolved with
    | [] => []
    | _ => ['/'].intercalate resolved
  match kind with
  | .file => String.ofList ('/' :: body.dropWhile (· = '/'))
  | _ => String.ofList ('/' :: body)

end WorkBridge.Url

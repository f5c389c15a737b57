import WorkBridge.Binary64.Shortest
import WorkBridge.Json.Value

/-!
The compact text of a JSON value: no blanks, members in the order they are kept in.

Inside a string a quote, a backslash and the control characters are escaped, and nothing
else; a number that is not finite is written as `null`.
-/

namespace WorkBridge.Json

/-- The two-letter escape of a character that has one. -/
def shortEscape? (c : Char) : Option Char :=
  if c = '"' then some '"'
  else if c = '\\' then some '\\'
  else if c = '\x08' then some 'b'
  else if c = '\x0c' then some 'f'
  else if c = '\n' then some 'n'
  else if c = '\r' then some 'r'
  else if c = '\t' then some 't'
  else none

def escapeChar (c : Char) : List Char :=
  match shortEscape? c with
  | some e => ['\\', e]
  | none =>
    if c.toNat < 0x20 then '\\' :: 'u' :: Binary64.hexDigits 4 c.toNat
    else [c]

/-- A string between quotes. -/
def quote (s : String) : List Char := '"' :: (s.toList.flatMap escapeChar ++ ['"'])

def intDigits : Int → List Char
  | .ofNat n => Nat.toDigits 10 n
  | .negSucc n => '-' :: Nat.toDigits 10 (n + 1)

def floatText (x : Binary64) : List Char :=
  if x.isFinite then x.text.toList else ['n', 'u', 'l', 'l']

mutual

def render : Json → List Char
  | .null => ['n', 'u', 'l', 'l']
  | .bool true => ['t', 'r', 'u', 'e']
  | .bool false => ['f', 'a', 'l', 's', 'e']
  | .int n => intDigits n
  | .float x => floatText x
  | .string s => quote s
  | .array items => '[' :: renderItems items
  | .object members => '\x7b' :: renderMembers members

/-- Elements and the closing bracket. -/
def renderItems : List Json → List Char
  | [] => [']']
  | [v] => render v ++ [']']
  | v :: w :: rest => render v ++ ',' :: renderItems (w :: rest)

/-- Members and the closing brace. -/
def renderMembers : List (String × Json) → List Char
  | [] => ['\x7d']
  | [(k, v)] => quote k ++ ':' :: (render v ++ ['\x7d'])
  | (k, v) :: m :: rest => quote k ++ ':' :: (render v ++ ',' :: renderMembers (m :: rest))

end

def text (v : Json) : String := String.ofList v.render

end WorkBridge.Json

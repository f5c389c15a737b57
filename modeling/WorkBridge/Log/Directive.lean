import WorkBridge.Log
import WorkBridge.Node.Address
import WorkBridge.Options.Number

/-!
Directives: which log entries are wanted.

A directive is written `target[span{field=value}]=level`, of which every part may be missing.
Without a level it wants everything; a level alone is a directive for all targets.  The text is
read character by character, so that what is wrong with it shows at the first character that
fits nowhere.
-/

namespace WorkBridge.Log

/-- The entries up to some level, or none. -/
inductive Threshold
  | off
  | upTo (l : Level)
deriving DecidableEq, Inhabited

namespace Threshold

def rank : Threshold → Nat
  | .off => 0
  | .upTo l => l.rank

def allows (t : Threshold) (l : Level) : Bool := l.rank ≤ t.rank

def ofRank? : Nat → Option Threshold
  | 0 => some .off
  | n => (Level.all.find? (·.rank = n)).map .upTo

/-- A letter in its small form, where it is one of the first 128 characters. -/
def lower (cs : List Char) : List Char := cs.map Char.toLower

/-- Reads a threshold: a name in any case, or a number from zero to five.  No text at all is
the name of the gravest level. -/
def parse? (cs : List Char) : Option Threshold :=
  match Options.Number.unsigned (UInt64.size - 1) cs with
  | .ok n => ofRank? n
  | .error _ =>
    if cs.isEmpty then some (.upTo .error)
    else if lower cs = "off".toList then some .off
    else (Level.all.find? fun l => lower l.text.toList = lower cs).map .upTo

end Threshold

/-- A field that a span must have, and perhaps the text of its value. -/
structure FieldMatch where
  name : String
  value : Option String
deriving DecidableEq, Inhabited

structure Directive where
  target : Option String := none
  span : Option String := none
  fields : List FieldMatch := []
  threshold : Threshold := .upTo .trace
deriving DecidableEq, Inhabited

namespace Directive

/-- Where the reading of a directive is; the characters of an open part are kept last first. -/
inductive Place
  | start
  | levelOrTarget (cs : List Char)
  | span (cs : List Char)
  | field (cs : List Char)
  | afterFields
  | afterSpan
  | level (cs : List Char)
deriving DecidableEq

def textOf (cs : List Char) : String := String.ofList cs.reverse

/-- Reads a field; what follows a second equals sign does not count. -/
def fieldOf? (cs : List Char) : Option FieldMatch :=
  if cs.isEmpty then none
  else
    let cs := cs.reverse
    let name := String.ofList (cs.takeWhile (· ≠ '='))
    match cs.dropWhile (· ≠ '=') with
    | [] => some ⟨name, none⟩
    | _ :: value => some ⟨name, some (String.ofList (value.takeWhile (· ≠ '=')))⟩

/-- Whether a directive may start with a character: a letter or digit of any script, which
every character past the first 128 is taken for, or a mark that names may have. -/
def mayStart (c : Char) : Bool := c.isAlphanum || c ∈ ['-', ':', '_'] || 128 ≤ c.toNat

/-- Reads one character. -/
def next (d : Directive) (p : Place) (c : Char) : Option (Directive × Place) :=
  match p with
  | .start =>
    if c = '[' then some (d, .span [])
    else if mayStart c then some (d, .levelOrTarget [c])
    else none
  | .levelOrTarget cs =>
    if c = '=' then some ({ d with target := some (textOf cs) }, .level [])
    else if c = '[' then some ({ d with target := some (textOf cs) }, .span [])
    else some (d, .levelOrTarget (c :: cs))
  | .span cs =>
    if c = ']' then some ({ d with span := some (textOf cs) }, .afterSpan)
    else if c = '\x7b' then
      some ({ d with span := if cs.isEmpty then none else some (textOf cs) }, .field [])
    else some (d, .span (c :: cs))
  | .field cs =>
    if c = '\x7d' then
      (fieldOf? cs).map fun f => ({ d with fields := d.fields ++ [f] }, .afterFields)
    else some (d, .field (c :: cs))
  | .afterFields => if c = ']' then some (d, .afterSpan) else none
  | .afterSpan => if c = '=' then some (d, .level []) else none
  | .level cs => some (d, .level (c :: cs))

/-- Ends the reading; `tail` is the white space after the text. -/
def finish? (d : Directive) (tail : List Char) : Place → Option Directive
  | .levelOrTarget cs =>
    let cs := cs.reverse ++ tail
    match Threshold.parse? cs with
    | some threshold => some { d with threshold }
    | none => some { d with target := some (String.ofList cs) }
  | .level cs =>
    let cs := cs.reverse ++ tail
    if cs.isEmpty then some d
    else (Threshold.parse? cs).map fun threshold => { d with threshold }
  | .afterSpan => some d
  | _ => none

def run (d : Directive) (p : Place) : List Char → Option (Directive × Place)
  | [] => some (d, p)
  | c :: cs => (d.next p c).bind fun (d, p) => run d p cs

/-- Reads a directive.  White space in front of it spoils it. -/
def parse? (text : List Char) : Option Directive := do
  let cs := Node.trimWhite text
  if text.head?.any Node.isWhite then none
  else
    let (d, p) ← run {} .start cs
    d.finish? (text.drop cs.length) p

/-- Cuts a text at commas. -/
def pieces : List Char → List (List Char)
  | [] => [[]]
  | c :: cs =>
    if c = ',' then [] :: pieces cs
    else
      match pieces cs with
      | [] => [[c]]
      | p :: ps => (c :: p) :: ps

/-- Reads directives that are separated by commas, and passes over what is none. -/
def parseAll (text : String) : List Directive :=
  ((pieces text.toList).filter (!·.isEmpty)).filterMap parse?

end Directive
end WorkBridge.Log

import WorkBridge.Log.Directive

/-!
Choosing log entries by directives.

A directive that names neither a span nor the value of a field is a rule for targets: of the
rules whose target a target begins with, the longest counts.  Any other directive, and one that
names fields, is about spans: inside a span that it matches, every entry up to its threshold is
wanted, whatever its target.
-/

namespace WorkBridge.Log

/-- A rule for targets that begin with `target`.  Where it has fields, only entries with these
fields follow it. -/
structure Rule where
  target : Option String
  fields : List String := []
  threshold : Threshold
deriving DecidableEq, Inhabited

/-- A span: where it comes from, its name and its fields, whole numbers all. -/
structure Span where
  level : Level
  target : String
  name : String
  fields : List (String × Int)
deriving DecidableEq, Inhabited

structure Filter where
  rules : List Rule := []
  /-- The directives about spans. -/
  spans : List Directive := []
deriving Inhabited

namespace Rule

def isSame (a b : Rule) : Bool := a.target = b.target && a.fields = b.fields

/-- Puts a rule in the place of one for the same targets and fields. -/
def insert (r : Rule) (rules : List Rule) : List Rule := r :: rules.filter (!r.isSame ·)

def hasTarget (r : Rule) (target : String) : Bool :=
  match r.target with
  | some t => t.toList.isPrefixOf target.toList
  | none => true

/-- How closely a rule describes what it is for. -/
def weight (r : Rule) : Nat × Nat :=
  (match r.target with
    | some t => t.utf8ByteSize + 1
    | none => 0, r.fields.length)

/-- The closer one of two rules. -/
def closer (a b : Rule) : Rule :=
  if a.weight.1 < b.weight.1 ∨ (a.weight.1 = b.weight.1 ∧ a.weight.2 < b.weight.2) then b else a

/-- The closest of some rules. -/
def closest? : List Rule → Option Rule
  | [] => none
  | r :: rest => some (rest.foldl closer r)

end Rule

namespace Directive

def isAboutSpans (d : Directive) : Bool := d.span.isSome || !d.fields.isEmpty

/-- The rule for targets that a directive gives. -/
def rule? (d : Directive) : Option Rule :=
  if d.span.isNone && d.fields.all (·.value.isNone) then
    some { target := d.target, fields := d.fields.map (·.name), threshold := d.threshold }
  else none

/-- Whether a directive is about spans like this one, whatever the values of its fields. -/
def isAbout (d : Directive) (s : Span) : Bool :=
  d.target.all (fun t => t.toList.isPrefixOf s.target.toList) && d.span.all (· = s.name) &&
    d.fields.all fun f => (s.fields.lookup f.name).isSome

/-- A whole number, as it is written in a directive. -/
def numberOf? (text : String) : Option Int :=
  match Options.Number.unsigned (UInt64.size - 1) text.toList,
      Options.Number.signed text.toList with
  | .ok n, _ => some n
  | .error _, .ok n => some n
  | .error _, .error _ => none

/-- Whether the fields of a span have the values that a directive names. -/
def hasValues (d : Directive) (s : Span) : Bool :=
  d.fields.all fun f => match f.value with
    | none => true
    | some v => (s.fields.lookup f.name).any fun n => numberOf? v = some n

end Directive

namespace Filter

/-- The filter of some directives; of none, only the gravest entries are wanted. -/
def ofDirectives (ds : List Directive) : Filter :=
  let spans := ds.filter (·.isAboutSpans)
  let plain := ds.filter (!·.isAboutSpans)
  let rules := (plain ++ spans).filterMap (·.rule?)
  { rules :=
      if rules.isEmpty && spans.isEmpty then [{ target := none, threshold := .upTo .error }]
      else rules.foldl (fun rs r => r.insert rs) []
    spans }

/-- Adds a level for all targets, in the place of one that was there. -/
def withLevel (f : Filter) (l : Level) : Filter :=
  { f with rules := Rule.insert { target := none, threshold := .upTo l } f.rules }

/-- Whether the rules want an entry of a target, which has no fields. -/
def allows (f : Filter) (target : String) (l : Level) : Bool :=
  match Rule.closest? (f.rules.filter fun r => r.hasTarget target && r.fields.isEmpty) with
  | some r => r.threshold.allows l
  | none => false

/-- Whether a span is told of in the entries inside it. -/
def allowsSpan (f : Filter) (s : Span) : Bool :=
  f.spans.any (·.isAbout s) ||
    match Rule.closest? (f.rules.filter (·.hasTarget s.target)) with
    | some r => r.threshold.allows s.level
    | none => false

/-- Whether an entry inside a span is wanted. -/
def allowsInside (f : Filter) (s : Span) (target : String) (l : Level) : Bool :=
  (f.spans.any fun d => d.isAbout s && d.hasValues s && d.threshold.allows l) ||
    f.allows target l

end Filter
end WorkBridge.Log

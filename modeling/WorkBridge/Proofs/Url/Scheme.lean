import WorkBridge.Url.Reader

/-!
The scheme of a URL.

A URL that can be read has the scheme that stands in front of the first colon, whatever follows it
(`scheme_of_parse`).  So what is written behind `ws://` is read as a web socket or not at all:
`scheme_behind_marker`.
-/

namespace WorkBridge.Url

variable {kind : SchemeKind} {scheme : String} {cs rest : List Char} {u : Url}

/-! ### Names of schemes -/

/-- A letter, then letters, digits, `+`, `-` and `.`. -/
def IsSchemeName : List Char → Prop
  | [] => False
  | c :: cs => c.isAlpha = true ∧ ∀ x ∈ cs, isSchemeChar x = true

theorem isSchemeChar_of_isAlpha {c : Char} (h : c.isAlpha = true) : isSchemeChar c = true := by
  simp [isSchemeChar, Char.isAlphanum, h]

theorem IsSchemeName.forall_mem (h : IsSchemeName cs) : ∀ x ∈ cs, isSchemeChar x = true := by
  cases cs with
  | nil => exact h.elim
  | cons c cs => exact List.forall_mem_cons.mpr ⟨isSchemeChar_of_isAlpha h.1, h.2⟩

/-- The longest run of characters of a scheme is one, if it begins with a letter. -/
theorem isSchemeName_takeWhile {c : Char} (h : c.isAlpha = true) (cs : List Char) :
    IsSchemeName ((c :: cs).takeWhile isSchemeChar) := by
  rw [List.takeWhile_cons_of_pos (isSchemeChar_of_isAlpha h)]
  exact ⟨h, List.all_eq_true.mp List.all_takeWhile⟩

theorem name_of_scheme? (h : scheme? cs = some (scheme, rest)) :
    ∃ name, cs = name ++ ':' :: rest ∧ IsSchemeName name ∧
      scheme = String.ofList (name.map Char.toLower) := by
  unfold scheme? at h
  split at h
  · rename_i c cs
    split at h
    · rename_i hc
      have hsplit := List.takeWhile_append_dropWhile (p := isSchemeChar) (l := c :: cs)
      split at h
      · rename_i after hd
        cases h
        rw [hd] at hsplit
        exact ⟨_, hsplit.symm, isSchemeName_takeWhile hc cs, rfl⟩
      · cases h
    · cases h
  · cases h

/-! ### Reading keeps the scheme -/

/-- A URL, if there is one, has the scheme. -/
def Reads (scheme : String) (r : Except ParseError Url) : Prop :=
  ∀ u, r = .ok u → u.scheme = scheme

namespace Reads

theorem ok (h : u.scheme = scheme) : Reads scheme (.ok u) := by
  rintro _ ⟨⟩
  exact h

theorem error (e : ParseError) : Reads scheme (.error e) := nofun

theorem bind {α : Type} {x : Except ParseError α} {f : α → Except ParseError Url}
    (h : ∀ a, Reads scheme (f a)) : Reads scheme (x >>= f) := by
  cases x with
  | error e => exact error e
  | ok a => exact h a

theorem ite {p : Prop} [Decidable p] {r r' : Except ParseError Url} (h : Reads scheme r)
    (h' : Reads scheme r') : Reads scheme (if p then r else r') := by
  split <;> assumption

/-- Each part of the place either stops the reading or leaves the rest to be read. -/
theorem withAuthority (kind : SchemeKind) (scheme : String) (cs : List Char) :
    Reads scheme (withAuthority kind scheme cs) := by
  unfold Url.withAuthority
  dsimp -zeta only
  extract_lets afterUser
  have hafterUser (x) : Reads scheme (afterUser x) := by
    dsimp -zeta only [afterUser]
    extract_lets hasUser afterHost
    refine ite (error _) ?_
    have hafterHost (x) : Reads scheme (afterHost x) := by
      dsimp -zeta only [afterHost]
      extract_lets afterPort
      refine ite (error _) ?_
      have hafterPort (x) : Reads scheme (afterPort x) := ite (error _) (ok rfl)
      split <;> exact bind hafterPort
    exact ite (bind hafterHost) (bind hafterHost)
  split
  · exact bind hafterUser
  · exact ite (bind hafterUser) (bind hafterUser)
  · exact bind hafterUser

theorem fileUrl (cs : List Char) : Reads "file" (fileUrl cs) := by
  unfold Url.fileUrl
  dsimp -zeta only
  extract_lets isSlash withoutHost
  split
  · refine ite (ite (ok rfl) (ite (ok rfl) (bind fun host => ok ?_))) (ok rfl)
    split <;> rfl
  · exact ok rfl

theorem withoutAuthority (scheme : String) (cs : List Char) :
    Reads scheme (.ok (withoutAuthority scheme cs)) := by
  refine ok ?_
  unfold Url.withoutAuthority
  split <;> rfl

end Reads

theorem eq_file_of_schemeKind (h : schemeKind scheme = .file) : scheme = "file" := by
  unfold schemeKind at h
  split at h
  · cases h
  · split at h
    · assumption
    · cases h

theorem scheme_of_parse {text : String} (h : parse text = .ok u) :
    ∃ rest, scheme? (clean text.toList) = some (u.scheme, rest) := by
  unfold parse at h
  split at h
  · cases h
  · rename_i scheme rest hs
    have hreads : u.scheme = scheme := by
      split at h
      · rename_i hk
        rw [eq_file_of_schemeKind hk]
        exact Reads.fileUrl rest u h
      · exact Reads.withAuthority _ _ _ u h
      · split at h
        · exact Reads.withAuthority _ _ _ u h
        · exact Reads.withoutAuthority _ _ u h
    exact ⟨rest, by rw [hreads, hs]⟩

/-! ### Behind a scheme -/

/-- Cleaning a text leaves what it begins with, if that is printable. -/
theorem dropWhile_isEdge (h : ∀ c ∈ cs, isEdge c = false) : cs.dropWhile isEdge = cs := by
  cases cs with
  | nil => rfl
  | cons c cs => exact List.dropWhile_cons_of_neg (by simp [h])

theorem clean_append {pre : List Char} (hne : pre ≠ [])
    (h : ∀ c ∈ pre, isEdge c = false ∧ isDropped c = false) (cs : List Char) :
    ∃ cs', clean (pre ++ cs) = pre ++ cs' := by
  have hedge : ∀ c ∈ pre, isEdge c = false := fun c hc => (h c hc).1
  have hkept : pre.filter (fun c => !isDropped c) = pre :=
    List.filter_eq_self.mpr fun c hc => by rw [(h c hc).2]; rfl
  have hstart : (pre ++ cs).dropWhile isEdge = pre ++ cs := by
    obtain ⟨c, pre, rfl⟩ := List.exists_cons_of_ne_nil hne
    exact List.dropWhile_cons_of_neg (by simp [hedge])
  have hend : ∃ cs', ((pre ++ cs).reverse.dropWhile isEdge).reverse = pre ++ cs' := by
    rw [List.reverse_append, List.dropWhile_append,
      dropWhile_isEdge fun c hc => hedge c (List.mem_reverse.mp hc)]
    split
    · exact ⟨[], by rw [List.reverse_reverse, List.append_nil]⟩
    · exact ⟨_, by rw [List.reverse_append, List.reverse_reverse]⟩
  obtain ⟨cs', hcs'⟩ := hend
  refine ⟨cs'.filter fun c => !isDropped c, ?_⟩
  rw [clean, hstart, hcs', List.filter_append, hkept]

theorem scheme_behind_marker (text : String) {u : Url} (h : parse ("ws://" ++ text) = .ok u) :
    u.scheme = "ws" := by
  obtain ⟨rest, hs⟩ := scheme_of_parse h
  have hkept : ∀ c ∈ ['w', 's', ':', '/', '/'], isEdge c = false ∧ isDropped c = false := by
    simp [isEdge, isDropped]
  obtain ⟨cs', hclean⟩ : ∃ cs', clean ("ws://".toList ++ text.toList) = "ws://".toList ++ cs' :=
    clean_append (by decide) hkept text.toList
  rw [String.toList_append, hclean] at hs
  have hws : scheme? ("ws://".toList ++ cs') = some ("ws", '/' :: '/' :: cs') := rfl
  exact congrArg Prod.fst (Option.some.inj (hs.symm.trans hws))

end WorkBridge.Url

import ServiceProbe.Proofs.Text.Trimming
import ServiceProbe.Task.Endpoint

/-!
# The texts that name an endpoint

A text names an endpoint if it is the short name behind copies of `/v1/` and then slashes, with blanks around all of it
(`Endpoint.Spells`). A reader removes as many copies of `/v1/` as there are, then as many slashes as there are, and
compares what is left (`Endpoint.Leaves`). It could remove too much, since both have a slash in common, but it does
not: slashes before a short name never begin a copy of `/v1/` (`Endpoint.not_prefix_of_headed`).

* `Endpoint.bareName_eq_iff`, `Endpoint.spells_iff` — what is left of a text, and the texts of which a name is left;
* `Endpoint.parse_eq_ok_iff`, `Endpoint.parse_eq_error_iff` — what is made of a text.
-/

namespace ServiceProbe

open Text (Padded Trimmed Headed isBlank)

namespace Endpoint

/-- The part of a path that stands before a short name. -/
def versionMark : List Char :=
  ['/', 'v', '1', '/']

/-- The text is a short name behind copies of `/v1/` and slashes, if behind any, with blanks around it, if with any. -/
def Spells (endpoint : Endpoint) (text : List Char) : Prop :=
  ∃ core behind, Padded core text ∧ Headed versionMark behind core ∧ Headed ['/'] endpoint.name.toList behind

/-- The rest is left of the text when it is trimmed, when copies of `/v1/` are taken away until none follows, and then
slashes until none follows. -/
def Leaves (rest text : List Char) : Prop :=
  ∃ core behind, (Padded core text ∧ Trimmed core) ∧
    (Headed versionMark behind core ∧ ¬ versionMark <+: behind) ∧ (Headed ['/'] rest behind ∧ ¬ ['/'] <+: rest)

/-! ### What is left of a text -/

theorem bareName_eq_iff {text rest : List Char} : bareName text = rest ↔ Leaves rest text := by
  constructor
  · intro left
    exact ⟨_, _, Text.trim_eq_iff.1 rfl, (Text.dropLeading_eq_iff (by decide)).1 rfl,
      (Text.dropLeading_eq_iff (by decide)).1 left⟩
  · rintro ⟨core, behind, trimmed, versions, slashes⟩
    rw [bareName, Text.trim_eq_iff.2 trimmed]
    change Text.dropLeading ['/'] (Text.dropLeading versionMark core) = rest
    rw [(Text.dropLeading_eq_iff (by decide)).2 versions, (Text.dropLeading_eq_iff (by decide)).2 slashes]

-- copies may follow one another, but none is looked for behind a slash that begins none
example : bareName "/v1//v1/crawl".toList = "crawl".toList ∧ bareName "//v1/crawl".toList = "v1/crawl".toList := by
  decide +kernel

/-- Slashes before a short name begin no copy of `/v1/`: behind the first of them comes another one, or the name, and
no name begins with `v`. -/
theorem not_prefix_of_headed {endpoint : Endpoint} {behind : List Char}
    (slashes : Headed ['/'] endpoint.name.toList behind) : ¬ versionMark <+: behind := by
  obtain ⟨copies, rfl⟩ := slashes
  match copies with
  | 0 => cases endpoint <;> decide
  | 1 => cases endpoint <;> decide
  | copies + 2 =>
    intro first
    have second : ['v', '1', '/'] <+: '/' :: ((List.replicate copies ['/']).flatten ++ endpoint.name.toList) :=
      (List.cons_prefix_cons.1 first).2
    exact absurd (List.cons_prefix_cons.1 second).1 (by decide)

theorem not_slash_prefix_name (endpoint : Endpoint) : ¬ ['/'] <+: endpoint.name.toList := by
  cases endpoint <;> decide

/-- Neither a blank nor a dash. -/
def isSolid (c : Char) : Bool :=
  !isBlank c && c != '-'

/-- A spelled name has no blanks but those around it, and no dash. -/
theorem solid_of_headed {endpoint : Endpoint} {core behind : List Char} (versions : Headed versionMark behind core)
    (slashes : Headed ['/'] endpoint.name.toList behind) : ∀ c ∈ core, isBlank c = false ∧ c ≠ '-' := by
  intro c member
  have inMark : versionMark.all isSolid = true := by decide
  have inSlash : ['/'].all isSolid = true := by decide
  have inName : endpoint.name.toList.all isSolid = true := by cases endpoint <;> decide
  have solid : isSolid c = true :=
    (versions.mem member).elim (List.all_eq_true.1 inMark c) fun member =>
      (slashes.mem member).elim (List.all_eq_true.1 inSlash c) (List.all_eq_true.1 inName c)
  obtain ⟨noBlank, noDash⟩ := Bool.and_eq_true_iff.1 solid
  exact ⟨(Bool.not_eq_eq_eq_not ..).1 noBlank, bne_iff_ne.1 noDash⟩

/-- **Spelled names.** They are the texts of which the short name is left. -/
theorem spells_iff {endpoint : Endpoint} {text : List Char} :
    endpoint.Spells text ↔ bareName text = endpoint.name.toList := by
  rw [bareName_eq_iff]
  constructor
  · rintro ⟨core, behind, padded, versions, slashes⟩
    have trimmed : Trimmed core := Text.trimmed_of_solid fun c member => (solid_of_headed versions slashes c member).1
    exact ⟨core, behind, ⟨padded, trimmed⟩, ⟨versions, not_prefix_of_headed slashes⟩, slashes,
      endpoint.not_slash_prefix_name⟩
  · rintro ⟨core, behind, ⟨padded, -⟩, ⟨versions, -⟩, slashes, -⟩
    exact ⟨core, behind, padded, versions, slashes⟩

theorem toList_name_injective {endpoint endpoint' : Endpoint} (same : endpoint.name.toList = endpoint'.name.toList) :
    endpoint = endpoint' := by
  revert same
  cases endpoint <;> cases endpoint' <;> decide

theorem eq_of_spells {endpoint endpoint' : Endpoint} {text : List Char} (spelled : endpoint.Spells text)
    (spelled' : endpoint'.Spells text) : endpoint = endpoint' :=
  toList_name_injective ((spells_iff.1 spelled).symm.trans (spells_iff.1 spelled'))

theorem spells_name (endpoint : Endpoint) : endpoint.Spells endpoint.name.toList := by
  cases endpoint <;> exact spells_iff.2 (by decide +kernel)

theorem spells_path (endpoint : Endpoint) : endpoint.Spells endpoint.path.toList := by
  cases endpoint <;> exact spells_iff.2 (by decide +kernel)

/-- There is no dash in a text that spells an endpoint. -/
theorem dash_not_mem_of_spells {endpoint : Endpoint} {text : List Char} (spelled : endpoint.Spells text) :
    '-' ∉ text := by
  obtain ⟨core, behind, ⟨before, after, rfl, blankBefore, blankAfter⟩, versions, slashes⟩ := spelled
  have noBlank : ¬ isBlank '-' = true := by decide
  intro member
  -- it would be among the blanks, or in what is between them
  rcases List.mem_append.1 member with member | member
  · exact noBlank (blankBefore _ member)
  rcases List.mem_append.1 member with member | member
  · exact (solid_of_headed versions slashes _ member).2 rfl
  · exact noBlank (blankAfter _ member)

/-- All characters of the name are in the text. -/
theorem mem_of_spells {endpoint : Endpoint} {text : List Char} {c : Char} (spelled : endpoint.Spells text)
    (member : c ∈ endpoint.name.toList) : c ∈ text := by
  obtain ⟨core, behind, ⟨before, after, rfl, -, -⟩, ⟨versions, rfl⟩, ⟨slashes, rfl⟩⟩ := spelled
  simp [member]

/-! ### What is made of a text -/

/-- The name that is left decides. -/
theorem find?_eq_some_iff {bare : List Char} {endpoint : Endpoint} :
    (all.find? fun endpoint => endpoint.name.toList = bare) = some endpoint ↔ bare = endpoint.name.toList := by
  constructor
  · intro found
    have same := List.find?_some found
    exact (of_decide_eq_true same).symm
  · rintro rfl
    cases endpoint <;> decide

theorem parse_eq_ok_iff {text : String} {endpoint : Endpoint} :
    parse text = .ok endpoint ↔ endpoint.Spells text.toList := by
  rw [spells_iff, ← find?_eq_some_iff, parse]
  split
  · next found => rw [found, Except.ok.injEq, Option.some.injEq]
  · next none => exact iff_of_false nofun fun found => nomatch none.symm.trans found

theorem parse_cases (text : String) :
    (∃ endpoint, parse text = .ok endpoint) ∨
      parse text = .error (.config (.unknownEndpoint (String.ofList (bareName text.toList)))) := by
  rw [parse]
  split
  · next endpoint _ => exact .inl ⟨endpoint, rfl⟩
  · exact .inr rfl

/-- What names no endpoint is refused, and what is left of it is told. -/
theorem parse_eq_error_iff {text : String} {fault : Error} :
    parse text = .error fault ↔
      (∀ endpoint : Endpoint, ¬ endpoint.Spells text.toList) ∧
      ∃ rest, Leaves rest text.toList ∧ fault = .config (.unknownEndpoint (String.ofList rest)) := by
  simp only [← parse_eq_ok_iff]
  rcases parse_cases text with ⟨endpoint, parsed⟩ | refused
  · rw [parsed]
    exact iff_of_false nofun fun unknown => unknown.1 endpoint rfl
  · rw [refused]
    constructor
    · rintro ⟨⟩
      exact ⟨nofun, _, bareName_eq_iff.1 rfl, rfl⟩
    · rintro ⟨-, rest, left, rfl⟩
      rw [bareName_eq_iff.2 left]

end Endpoint

end ServiceProbe

import ServiceProbe.Config.Loading

/-!
# Settings under layers

A setting of a configuration has a place in the tree of settings: an entry of the table that is its section.
Layers are put over a tree entry by entry, and most entries lead elsewhere.

* `Setting.find?_place` — an entry that does not bear on a setting (`bears`) leaves it as it is;
* `Setting.Sets.find?_place` — one that sets it (`Sets`) leaves the value it gives, whatever was there;
* `find?_overlay` — so the last entry that bears on a setting decides, if it sets it.

An entry bears on a setting not only by naming it: one that names its section and is no table takes the whole
section away, and one that leads on below the setting makes a table of it.
-/

namespace ServiceProbe.Config

namespace Setting

variable {part name : String} {held setting value : Setting}

/-! ### Single entries -/

theorem find?_withEntry (held : Setting) (other : String) (value : Setting) (name : String) :
    Entries.find? name (held.withEntry other value).entries =
      if foldName other = name then some value else Entries.find? name held.entries := by
  -- what is no table yet becomes one with this entry alone
  by_cases same : foldName other = name
  · subst same
    rw [if_pos rfl]
    cases held with
    | table entries origin => exact Entries.find?_insert_self _ _ _
    | leaf value origin => exact if_pos rfl
    | list items origin => exact if_pos rfl
  · rw [if_neg same]
    cases held with
    | table entries origin => exact Entries.find?_insert_of_ne (Ne.symm same) _ _
    | leaf value origin => exact if_neg same
    | list items origin => exact if_neg same

/-- A setting is put under its name, perhaps merged with what is there. -/
theorem exists_put_eq (name : String) (value held : Setting) :
    ∃ merged, put name value held = held.withEntry name merged := by
  cases value with
  | table entries origin => exact ⟨_, by rw [put]⟩
  | leaf value origin => exact ⟨_, by rw [put]; nofun⟩
  | list items origin => exact ⟨_, by rw [put]; nofun⟩

theorem find?_put_of_ne {other : String} (different : foldName other ≠ name) (value held : Setting) :
    Entries.find? name (put other value held).entries = Entries.find? name held.entries := by
  obtain ⟨merged, same⟩ := exists_put_eq other value held
  rw [same, find?_withEntry, if_neg different]

theorem putAll_append (first second : List (String × Setting)) (held : Setting) :
    putAll (first ++ second) held = putAll second (putAll first held) := by
  induction first generalizing held with
  | nil => rw [List.nil_append, putAll]
  | cons entry rest ih =>
    obtain ⟨name, value⟩ := entry
    rw [List.cons_append, putAll, putAll, ih]

/-- Entries under other names change nothing. -/
theorem find?_putAll_of_ne {entries : List (String × Setting)}
    (different : ∀ entry ∈ entries, foldName entry.1 ≠ name) (held : Setting) :
    Entries.find? name (putAll entries held).entries = Entries.find? name held.entries := by
  induction entries generalizing held with
  | nil => rw [putAll]
  | cons entry rest ih =>
    obtain ⟨other, value⟩ := entry
    obtain ⟨first, more⟩ := List.forall_mem_cons.1 different
    rw [putAll, ih more, find?_put_of_ne first]

/-! ### Entries and the setting at a place -/

/-- The setting at a place is an entry of its section. -/
theorem find?_eq_some_iff :
    held.find? [part, name] = some setting ↔
      ∃ inner, Entries.find? part held.entries = some inner ∧
        Entries.find? name inner.entries = some setting := by
  rw [find?, Option.bind_eq_bind, Option.bind_eq_some_iff]
  simp only [find?, Option.bind_eq_bind, Option.bind_fun_some]

/-- An entry of a layer bears on the setting at a place: it replaces the setting or its section, or makes
something else of one of them. -/
def bears (part name : String) : List KeyStep → Setting → Bool
  | [], _ => false
  | .item _ :: _, _ => true
  | [.name first], .table entries _ =>
    foldName first = part && entries.any fun entry => foldName entry.1 = name
  | .name first :: .name second :: _, _ => foldName first = part && foldName second = name
  | .name first :: _, _ => foldName first = part

/-- What is found at a name where something is put over what was there. -/
theorem find?_withEntry_part {other : String} {merged : Setting}
    (kept : foldName other = part → Entries.find? name merged.entries =
      Entries.find? name (held.entryOrEmpty other).entries)
    (there : held.find? [part, name] = some setting) :
    (held.withEntry other merged).find? [part, name] = some setting := by
  obtain ⟨inner, inPart, inInner⟩ := find?_eq_some_iff.1 there
  by_cases same : foldName other = part
  · refine find?_eq_some_iff.2 ⟨merged, ?_, ?_⟩
    · rw [find?_withEntry, if_pos same]
    · rw [kept same, entryOrEmpty, same, inPart]
      exact inInner
  · refine find?_eq_some_iff.2 ⟨inner, ?_, inInner⟩
    rw [find?_withEntry, if_neg same, inPart]

/-- A path to another name leaves a name as it is, however it goes on. -/
theorem find?_place_name_of_ne {other : String} (different : foldName other ≠ name) (rest : List KeyStep)
    (value held : Setting) :
    Entries.find? name (held.place (.name other :: rest) value).entries = Entries.find? name held.entries := by
  cases rest with
  | nil => rw [place, find?_put_of_ne different]
  | cons step rest =>
    rw [place, find?_withEntry, if_neg different]
    nofun

/-- **Entries that lead elsewhere.** An entry that does not bear on a setting leaves it as it is. -/
theorem find?_place {steps : List KeyStep} (elsewhere : bears part name steps value = false)
    (there : held.find? [part, name] = some setting) :
    (held.place steps value).find? [part, name] = some setting := by
  match steps with
  | [] => exact there
  | .item _ :: _ => cases elsewhere
  | [.name first] =>
    rw [place]
    cases value with
    | table entries origin =>
      rw [put]
      -- a table is merged into the section, entry by entry, and none of them has the name
      refine find?_withEntry_part (fun same => find?_putAll_of_ne ?_ _) there
      intro entry member isName
      have none : entries.any (fun entry => foldName entry.1 = name) = false := by
        rwa [bears, same, decide_eq_true rfl, Bool.true_and] at elsewhere
      exact List.any_eq_false.1 none entry member (decide_eq_true isName)
    | leaf value origin | list items origin =>
      have other : foldName first ≠ part := of_decide_eq_false elsewhere
      obtain ⟨merged, same⟩ := exists_put_eq first _ held
      rw [same]
      exact find?_withEntry_part (absurd · other) there
  | .name first :: .item position :: rest =>
    have other : foldName first ≠ part := of_decide_eq_false elsewhere
    rw [place]
    · exact find?_withEntry_part (absurd · other) there
    · nofun
  | .name first :: .name second :: rest =>
    rw [place]
    · refine find?_withEntry_part (fun same => ?_) there
      have other : foldName second ≠ name := by
        rw [bears, same, decide_eq_true rfl, Bool.true_and] at elsewhere
        exact of_decide_eq_false elsewhere
      exact find?_place_name_of_ne other rest value _
    · nofun

/-- An entry that sets the setting at a place: it leads there itself, or it is a table for the section whose
last entry of that name is the setting. -/
inductive Sets (part name : String) (setting : Setting) : List KeyStep → Setting → Prop where
  | direct {first second : String} (isPart : foldName first = part) (isName : foldName second = name) :
    Sets part name setting [.name first, .name second] setting
  | inTable {first key : String} {before after : List (String × Setting)} {origin : Origin}
    (isPart : foldName first = part) (isName : foldName key = name)
    (last : ∀ entry ∈ after, foldName entry.1 ≠ name) :
    Sets part name setting [.name first] (table (before ++ (key, setting) :: after) origin)

/-- A leaf that is put under a name is found there. -/
theorem find?_put_leaf (other : String) (scalar : Scalar) (origin : Origin) (held : Setting) :
    Entries.find? (foldName other) (put other (leaf scalar origin) held).entries =
      some (leaf scalar origin) := by
  rw [put, find?_withEntry, if_pos rfl]
  nofun

/-- **Entries that set a setting.** What such an entry gives is found at the place, whatever was there. -/
theorem Sets.find?_place {steps : List KeyStep} {scalar : Scalar} {origin : Origin}
    (sets : Sets part name (leaf scalar origin) steps value) (held : Setting) :
    (held.place steps value).find? [part, name] = some (leaf scalar origin) := by
  cases sets with
  | @direct first second isPart isName =>
    subst isPart isName
    refine find?_eq_some_iff.2 ⟨put second (leaf scalar origin) (held.entryOrEmpty first), ?_,
      find?_put_leaf _ _ _ _⟩
    rw [place, place, find?_withEntry, if_pos rfl]
    nofun
  | @inTable first key before after tableOrigin isPart isName last =>
    subst isPart isName
    refine find?_eq_some_iff.2
      ⟨putAll (before ++ (key, leaf scalar origin) :: after) (held.entryOrEmpty first), ?_, ?_⟩
    · rw [place, put, find?_withEntry, if_pos rfl]
    · -- the entries behind the last one of that name leave it
      rw [putAll_append, putAll, find?_putAll_of_ne last, find?_put_leaf]

end Setting

/-! ### Layers -/

variable {part name : String} {held : Setting}

theorem overlay_append (first second : List (String × Setting)) (held : Setting) :
    overlay (first ++ second) held = overlay second (overlay first held) :=
  List.foldl_append

/-- A layer without an entry that bears on a setting leaves it as it is. -/
theorem find?_overlay_of_elsewhere {settings : List (String × Setting)} {setting : Setting}
    (elsewhere : ∀ entry ∈ settings, Setting.bears part name (KeyStep.ofKey entry.1) entry.2 = false)
    (there : held.find? [part, name] = some setting) :
    (overlay settings held).find? [part, name] = some setting := by
  induction settings generalizing held with
  | nil => exact there
  | cons entry rest ih =>
    obtain ⟨first, more⟩ := List.forall_mem_cons.1 elsewhere
    exact ih more (Setting.find?_place first there)

/-- **The last entry that bears on a setting.** If it sets the setting, what it gives is found. -/
theorem find?_overlay {before after : List (String × Setting)} {entry : String × Setting} {scalar : Scalar}
    {origin : Origin}
    (sets : Setting.Sets part name (.leaf scalar origin) (KeyStep.ofKey entry.1) entry.2)
    (elsewhere : ∀ entry ∈ after, Setting.bears part name (KeyStep.ofKey entry.1) entry.2 = false)
    (held : Setting) :
    (overlay (before ++ entry :: after) held).find? [part, name] = some (.leaf scalar origin) := by
  rw [overlay_append]
  change (overlay after (Setting.place (overlay before held) _ _)).find? [part, name] = _
  exact find?_overlay_of_elsewhere elsewhere (sets.find?_place _)

end ServiceProbe.Config

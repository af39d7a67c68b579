import ServiceProbe.Proofs.Config.Layers

/-!
# Values for a setting, one over the other

Several entries of several layers may give a value for one setting, and the tree of settings then has the last of
them there, unless that is a table: tables are merged into what is below them.

* `Setting.given` — the values that an entry gives for a setting;
* `Setting.isOrderly` — the entries that do nothing else to a setting or its section;
* `flat_find?_overlay` — under a layer of such entries a setting is the last of its values, as far as a single value
  can be read from it (`Setting.flat`);
* `hasSection_overlay` — and its section stays a table.
-/

namespace ServiceProbe.Config

namespace Setting

variable {part name : String} {held value : Setting} {steps : List KeyStep}

/-! ### Values -/

/-- A setting as far as a single value can be read from it: all tables are alike. -/
def flat : Setting → Setting
  | table _ _ => emptyTable
  | other => other

/-- A value put over what is below it. A table without entries has nothing to put there. -/
def atop (value : Setting) (below : Option Setting) : Setting :=
  match value with
  | table [] origin => below.getD (table [] origin)
  | other => other

/-- Values put one over the other, the last one on top. -/
def cover (values : List Setting) (below : Option Setting) : Option Setting :=
  values.foldl (fun below value => some (value.atop below)) below

theorem cover_append (first second : List Setting) (below : Option Setting) :
    cover (first ++ second) below = cover second (cover first below) :=
  List.foldl_append

theorem flat_atop_congr {below below' : Option Setting} (same : below.map flat = below'.map flat)
    (value : Setting) : (value.atop below).flat = (value.atop below').flat := by
  match value with
  | table [] origin =>
    cases below with
    | none =>
      obtain rfl : below' = none := Option.map_eq_none_iff.1 same.symm
      rfl
    | some held =>
      obtain ⟨held', rfl, alike⟩ := Option.map_eq_some_iff.1 same.symm
      exact alike.symm
  | table (_ :: _) _ | leaf _ _ | list _ _ => rfl

theorem flat_cover_congr {below below' : Option Setting} (same : below.map flat = below'.map flat)
    (values : List Setting) : (cover values below).map flat = (cover values below').map flat := by
  induction values generalizing below below' with
  | nil => exact same
  | cons value rest ih => exact ih (congrArg some (flat_atop_congr same value))

/-! ### Entries -/

/-- The values under a name, however that is spelled. -/
def valuesOf (name : String) (entries : List (String × Setting)) : List Setting :=
  entries.filterMap fun entry => if foldName entry.1 = name then some entry.2 else none

theorem valuesOf_cons (name other : String) (value : Setting) (rest : List (String × Setting)) :
    valuesOf name ((other, value) :: rest) =
      if foldName other = name then value :: valuesOf name rest else valuesOf name rest := by
  rw [valuesOf, List.filterMap_cons]
  by_cases same : foldName other = name
  · simp only [if_pos same, valuesOf]
  · simp only [if_neg same, valuesOf]

/-- The values that an entry gives for the setting at a place: the entry is a table for its section, or it leads to
the setting itself. -/
def given (part name : String) : List KeyStep → Setting → List Setting
  | [.name first], .table entries _ => if foldName first = part then valuesOf name entries else []
  | [.name first, .name second], value => if foldName first = part ∧ foldName second = name then [value] else []
  | _, _ => []

/-- An entry that does no more to a setting and its section than to give values: it is a table for a section or
leads to a setting, or it does not bear on this one. -/
def isOrderly (part name : String) (steps : List KeyStep) (value : Setting) : Bool :=
  match steps, value with
  | [.name _], .table _ _ => true
  | [.name _, .name _], _ => true
  | steps, value => !bears part name steps value

theorem find?_pair {first : String} (isPart : foldName first = part) (held : Setting) :
    held.find? [part, name] = Entries.find? name (held.entryOrEmpty first).entries := by
  subst isPart
  rw [find?, entryOrEmpty]
  cases Entries.find? (foldName first) held.entries with
  | none => rfl
  | some inner =>
    simp only [find?, Option.bind_eq_bind, Option.bind_some, Option.bind_fun_some, Option.getD_some]

theorem find?_withEntry_pair (held : Setting) (first : String) (merged : Setting) :
    (held.withEntry first merged).find? [part, name] =
      if foldName first = part then Entries.find? name merged.entries else held.find? [part, name] := by
  rw [find?, find?_withEntry]
  split
  · simp only [find?, Option.bind_eq_bind, Option.bind_some, Option.bind_fun_some]
  · rfl

/-- The setting is a table. -/
def IsTable (held : Setting) : Prop :=
  ∃ entries origin, held = table entries origin

theorem isTable_withEntry (held : Setting) (name : String) (value : Setting) :
    (held.withEntry name value).IsTable := by
  cases held with
  | table entries origin => exact ⟨_, _, rfl⟩
  | leaf value origin => exact ⟨_, _, rfl⟩
  | list items origin => exact ⟨_, _, rfl⟩

theorem isTable_put (name : String) (value held : Setting) : (put name value held).IsTable := by
  obtain ⟨merged, same⟩ := exists_put_eq name value held
  exact same ▸ isTable_withEntry held name merged

theorem isTable_putAll {entries : List (String × Setting)} (start : held.IsTable ∨ entries ≠ []) :
    (putAll entries held).IsTable := by
  induction entries generalizing held with
  | nil =>
    rw [putAll]
    exact start.resolve_right (absurd rfl)
  | cons entry rest ih =>
    rw [putAll]
    exact ih (.inl (isTable_put _ _ _))

theorem IsTable.flat_eq (h : held.IsTable) : held.flat = emptyTable := by
  obtain ⟨entries, origin, rfl⟩ := h
  rfl

/-! ### Values under names -/

/-- What is put under a name is found there over what was there. -/
theorem flat_find?_put (name : String) (value held : Setting) :
    (Entries.find? (foldName name) (put name value held).entries).map flat =
      some (value.atop (Entries.find? (foldName name) held.entries)).flat := by
  match value with
  | table [] origin =>
    -- nothing is merged, and a name without an entry gets an empty table
    rw [put, find?_withEntry, if_pos rfl, putAll, entryOrEmpty]
    cases Entries.find? (foldName name) held.entries <;> rfl
  | table (entry :: rest) origin =>
    -- whatever was there before the entries are merged, it is a table after that
    rw [put, find?_withEntry, if_pos rfl]
    exact congrArg some (isTable_putAll (.inr (List.cons_ne_nil _ _))).flat_eq
  | leaf scalar origin =>
    rw [find?_put_leaf]
    rfl
  | list items origin =>
    rw [put, find?_withEntry, if_pos rfl]
    · rfl
    · intro entries origin same
      cases same

/-- Of many entries those of a name are put one over the other. -/
theorem flat_find?_putAll (entries : List (String × Setting)) (held : Setting) :
    (Entries.find? name (putAll entries held).entries).map flat =
      (cover (valuesOf name entries) (Entries.find? name held.entries)).map flat := by
  induction entries generalizing held with
  | nil =>
    rw [putAll]
    rfl
  | cons entry rest ih =>
    obtain ⟨other, value⟩ := entry
    rw [putAll, ih, valuesOf_cons]
    by_cases same : foldName other = name
    · subst same
      -- the further values are put over something that is only known as far as `flat` goes
      rw [if_pos rfl]
      exact flat_cover_congr (flat_find?_put other value held) _
    · rw [if_neg same, find?_put_of_ne same]

/-- An entry that does not bear on a setting leaves it as it is, or absent. -/
theorem find?_place_of_not_bears (elsewhere : bears part name steps value = false) (held : Setting) :
    (held.place steps value).find? [part, name] = held.find? [part, name] := by
  match steps with
  | [] => rfl
  | .item _ :: _ => cases elsewhere
  | [.name first] =>
    rw [place]
    cases value with
    | table entries origin =>
      rw [put, find?_withEntry_pair]
      split
      · next isPart =>
        -- none of the entries that are merged into the section has the name
        rw [bears, decide_eq_true isPart, Bool.true_and] at elsewhere
        rw [find?_pair isPart, find?_putAll_of_ne]
        exact fun entry member same => List.any_eq_false.1 elsewhere entry member (decide_eq_true same)
      · rfl
    | leaf scalar origin | list items origin =>
      have other : foldName first ≠ part := of_decide_eq_false elsewhere
      obtain ⟨merged, same⟩ := exists_put_eq first _ held
      rw [same, find?_withEntry_pair, if_neg other]
  | .name first :: .item position :: rest =>
    have other : foldName first ≠ part := of_decide_eq_false elsewhere
    rw [place, find?_withEntry_pair, if_neg other]
    exact List.cons_ne_nil _ _
  | .name first :: .name second :: rest =>
    rw [place, find?_withEntry_pair]
    · split
      · next isPart =>
        rw [bears, decide_eq_true isPart, Bool.true_and] at elsewhere
        rw [find?_pair isPart, find?_place_name_of_ne (of_decide_eq_false elsewhere)]
      · rfl
    · exact List.cons_ne_nil _ _

/-- An entry that does not bear on a setting gives no values for it. -/
theorem given_of_not_bears (elsewhere : bears part name steps value = false) : given part name steps value = [] := by
  unfold given
  -- a table bears the name in its entries, and a longer path in its second step
  split
  · next first entries origin =>
    split
    · next isPart =>
      rw [bears, decide_eq_true isPart, Bool.true_and] at elsewhere
      refine List.filterMap_eq_nil_iff.2 fun entry member => if_neg fun same => ?_
      exact List.any_eq_false.1 elsewhere entry member (decide_eq_true same)
    · rfl
  · next first second =>
    refine if_neg fun both => ?_
    rw [bears, decide_eq_true both.1, decide_eq_true both.2] at elsewhere
    cases elsewhere
  · rfl

/-- **Entries and their values.** An orderly entry puts its values over a setting and does no more to it. -/
theorem flat_find?_place (orderly : isOrderly part name steps value) (held : Setting) :
    ((held.place steps value).find? [part, name]).map flat =
      (cover (given part name steps value) (held.find? [part, name])).map flat := by
  unfold isOrderly at orderly
  -- a table laid over a section, a value two names deep, or something that does not bear on the setting
  split at orderly
  · next first entries origin =>
    rw [place, put, find?_withEntry_pair, given]
    split
    · next isPart => rw [find?_pair isPart, flat_find?_putAll]
    · rfl
  · next first second =>
    rw [place, place, find?_withEntry_pair, given]
    · split
      · next isPart =>
        rw [find?_pair isPart]
        by_cases isName : foldName second = name
        · subst isName
          rw [if_pos ⟨isPart, rfl⟩]
          exact flat_find?_put second value _
        · rw [if_neg fun both => isName both.2, find?_put_of_ne isName]
          rfl
      · next other =>
        rw [if_neg fun both => other both.1]
        rfl
    · exact List.cons_ne_nil _ _
  · rw [Bool.not_eq_true'] at orderly
    rw [find?_place_of_not_bears orderly, given_of_not_bears orderly]
    rfl

/-! ### Sections -/

/-- The tree has a section, and that is a table. -/
def HasSection (part : String) (tree : Setting) : Prop :=
  ∃ inner, Entries.find? part tree.entries = some inner ∧ inner.IsTable

theorem HasSection.withEntry {first : String} {merged : Setting} (has : HasSection part held)
    (kept : foldName first = part → merged.IsTable) : HasSection part (held.withEntry first merged) := by
  rw [HasSection, find?_withEntry]
  split
  · next isPart => exact ⟨merged, rfl, kept isPart⟩
  · exact has

theorem isTable_place_name (first : String) (rest : List KeyStep) (value held : Setting) :
    (held.place (.name first :: rest) value).IsTable := by
  cases rest with
  | nil =>
    rw [place]
    exact isTable_put _ _ _
  | cons step rest =>
    rw [place]
    · exact isTable_withEntry _ _ _
    · exact List.cons_ne_nil _ _

/-- Under an orderly entry a section stays a table. -/
theorem HasSection.place (has : HasSection part held) (orderly : isOrderly part name steps value) :
    HasSection part (held.place steps value) := by
  -- only a value in place of a section could take the section away, and that is not orderly
  match steps with
  | [] => exact has
  | .item _ :: _ => cases orderly
  | [.name first] =>
    rw [Setting.place]
    cases value with
    | table entries origin =>
      rw [put]
      refine has.withEntry fun isPart => isTable_putAll (.inl ?_)
      obtain ⟨inner, found, isTable⟩ := has
      rwa [entryOrEmpty, isPart, found]
    | leaf scalar origin | list items origin =>
      have other : foldName first ≠ part := by simpa [isOrderly, bears] using orderly
      obtain ⟨merged, same⟩ := exists_put_eq first _ held
      rw [same]
      exact has.withEntry (absurd · other)
  | .name first :: .item position :: rest =>
    have other : foldName first ≠ part := by simpa [isOrderly, bears] using orderly
    rw [Setting.place]
    · exact has.withEntry (absurd · other)
    · exact List.cons_ne_nil _ _
  | .name first :: .name second :: rest =>
    rw [Setting.place]
    · exact has.withEntry fun _ => isTable_place_name second rest value _
    · exact List.cons_ne_nil _ _

end Setting

/-! ### Layers -/

variable {part name : String} {layer : List (String × Setting)}

/-- The values that a layer gives for the setting at a place, in their order. -/
def valuesAt (part name : String) (layer : List (String × Setting)) : List Setting :=
  layer.flatMap fun entry => Setting.given part name (KeyStep.ofKey entry.1) entry.2

/-- No entry of the layer does more to the setting at a place than to give values for it. -/
def OrderlyAt (part name : String) (layer : List (String × Setting)) : Prop :=
  ∀ entry ∈ layer, Setting.isOrderly part name (KeyStep.ofKey entry.1) entry.2 = true

/-- **Layers and their values.** Under an orderly layer a setting is what its values make of it. -/
theorem flat_find?_overlay (orderly : OrderlyAt part name layer) (held : Setting) :
    ((overlay layer held).find? [part, name]).map Setting.flat =
      (Setting.cover (valuesAt part name layer) (held.find? [part, name])).map Setting.flat := by
  induction layer generalizing held with
  | nil => rfl
  | cons entry rest ih =>
    obtain ⟨first, more⟩ := List.forall_mem_cons.1 orderly
    refine (ih more _).trans ?_
    rw [show valuesAt part name (entry :: rest) = _ ++ valuesAt part name rest from List.flatMap_cons,
      Setting.cover_append]
    exact Setting.flat_cover_congr (Setting.flat_find?_place first held) _

theorem hasSection_overlay {held : Setting} (has : Setting.HasSection part held)
    (orderly : OrderlyAt part name layer) : Setting.HasSection part (overlay layer held) := by
  induction layer generalizing held with
  | nil => exact has
  | cons entry rest ih =>
    obtain ⟨first, more⟩ := List.forall_mem_cons.1 orderly
    exact ih (has.place first) more

end ServiceProbe.Config

/-!
# Values under names

A list of pairs serves as a dictionary when its names strictly increase. `insert` sets the value of a
name and keeps that order (`insert_ordered`), `find?` looks a name up, and `Named` is the type of the
lists in order. The order of names is the order of their characters. Entries that are in order already
stay as they are when they are collected (`collect_eq_self`).
-/

namespace ServiceProbe

namespace Entries

variable {α : Type}

/-- The names strictly increase, so each occurs once. -/
def Ordered (entries : List (String × α)) : Prop :=
  entries.Pairwise fun a b => a.1 < b.1

/-- The entries with `name` set to `value`. -/
def insert (name : String) (value : α) : List (String × α) → List (String × α)
  | [] => [(name, value)]
  | (other, held) :: rest =>
    if name < other then (name, value) :: (other, held) :: rest
    else if name = other then (name, value) :: rest
    else (other, held) :: insert name value rest

/-- The value of a name. -/
def find? (name : String) : List (String × α) → Option α
  | [] => none
  | (other, value) :: rest => if other = name then some value else find? name rest

/-- The entries one after the other, a later one replacing an earlier one of its name. -/
def collect (entries : List (String × α)) : List (String × α) :=
  entries.foldl (fun held entry => insert entry.1 entry.2 held) []

/-- A name has the value it was set to. -/
theorem find?_insert_self (name : String) (value : α) (entries : List (String × α)) :
    find? name (insert name value entries) = some value := by
  induction entries with
  | nil => simp [insert, find?]
  | cons head rest ih =>
    obtain ⟨other, held⟩ := head
    unfold insert
    split
    · simp [find?]
    · split
      · simp [find?]
      · next different => rw [find?, if_neg (Ne.symm different), ih]

/-- A name that does not occur has no value. -/
theorem find?_eq_none {name : String} {entries : List (String × α)}
    (absent : name ∉ entries.map (·.1)) : find? name entries = none := by
  induction entries with
  | nil => rfl
  | cons head rest ih =>
    obtain ⟨other, value⟩ := head
    rw [List.map_cons, List.mem_cons, not_or] at absent
    rw [find?, if_neg (Ne.symm absent.1), ih absent.2]

/-- The other names keep their values. -/
theorem find?_insert_of_ne {name other : String} (different : name ≠ other) (value : α)
    (entries : List (String × α)) :
    find? name (insert other value entries) = find? name entries := by
  induction entries with
  | nil => simp only [insert, find?, if_neg (Ne.symm different)]
  | cons head rest ih =>
    obtain ⟨first, held⟩ := head
    unfold insert
    -- the entry goes in here, takes the place of the one here, or goes in further on
    split
    · rw [find?, if_neg (Ne.symm different)]
    · split
      · next same =>
        subst same
        rw [find?, find?, if_neg (Ne.symm different), if_neg (Ne.symm different)]
      · rw [find?, find?, ih]

theorem mem_insert {name : String} {value : α} {entries : List (String × α)}
    {entry : String × α} (h : entry ∈ insert name value entries) :
    entry = (name, value) ∨ entry ∈ entries := by
  induction entries with
  | nil => simpa [insert] using h
  | cons head rest ih =>
    obtain ⟨other, held⟩ := head
    unfold insert at h
    -- the entry goes before a later name, in place of its own, or further on
    split at h
    · simpa using h
    · split at h
      · rcases List.mem_cons.1 h with h | h
        · exact .inl h
        · exact .inr (List.mem_cons_of_mem _ h)
      · rcases List.mem_cons.1 h with h | h
        · exact .inr (h ▸ List.mem_cons_self)
        · rcases ih h with h | h
          · exact .inl h
          · exact .inr (List.mem_cons_of_mem _ h)

/-- Setting a name keeps the order. -/
theorem insert_ordered (name : String) (value : α) {entries : List (String × α)}
    (h : Ordered entries) : Ordered (insert name value entries) := by
  induction entries with
  | nil => simp [insert, Ordered]
  | cons head rest ih =>
    obtain ⟨other, held⟩ := head
    obtain ⟨first, tail⟩ := List.pairwise_cons.1 h
    unfold insert
    split
    · next before =>
      refine List.pairwise_cons.2 ⟨fun entry member => ?_, h⟩
      rcases List.mem_cons.1 member with rfl | member
      · exact before
      · exact String.lt_trans before (first entry member)
    · next notBefore =>
      split
      · next same =>
        subst same
        exact List.pairwise_cons.2 ⟨first, tail⟩
      · next different =>
        -- the name belongs further on, so the first entry stays first
        have later : other < name := by
          rcases Std.lt_trichotomy name other with h | h | h
          · exact absurd h notBefore
          · exact absurd h different
          · exact h
        refine List.pairwise_cons.2 ⟨fun entry member => ?_, ih tail⟩
        rcases mem_insert member with rfl | member
        · exact later
        · exact first entry member

/-- In order, a name that is found stands once: not again behind the entry that is found. -/
theorem exists_append_of_find? {name : String} {value : α} {entries : List (String × α)}
    (ordered : Ordered entries) (found : find? name entries = some value) :
    ∃ before after, entries = before ++ (name, value) :: after ∧ ∀ entry ∈ after, entry.1 ≠ name := by
  induction entries with
  | nil => cases found
  | cons head rest ih =>
    obtain ⟨other, held⟩ := head
    obtain ⟨first, tail⟩ := List.pairwise_cons.1 ordered
    rw [find?] at found
    split at found
    · next same =>
      subst same
      refine ⟨[], rest, by rw [Option.some.inj found]; rfl, fun entry member again => ?_⟩
      -- the entries behind have greater names, so none has this one again
      exact String.lt_irrefl other (again ▸ first entry member)
    · obtain ⟨before, after, rfl, absent⟩ := ih tail found
      exact ⟨(other, held) :: before, after, rfl, absent⟩

theorem collect_ordered (entries : List (String × α)) : Ordered (collect entries) := by
  suffices step : ∀ held : List (String × α), Ordered held →
      Ordered (entries.foldl (fun held entry => insert entry.1 entry.2 held) held) from
    step [] List.Pairwise.nil
  induction entries with
  | nil => exact fun _ h => h
  | cons entry rest ih => exact fun held h => ih _ (insert_ordered _ _ h)

/-- A name behind all others is put at the end. -/
theorem insert_of_forall_lt {name : String} {value : α} {entries : List (String × α)}
    (last : ∀ entry ∈ entries, entry.1 < name) :
    insert name value entries = entries ++ [(name, value)] := by
  induction entries with
  | nil => rfl
  | cons head rest ih =>
    obtain ⟨other, held⟩ := head
    obtain ⟨before, tail⟩ := List.forall_mem_cons.1 last
    have notBefore : ¬ name < other := String.lt_asymm before
    have different : name ≠ other := by
      rintro rfl
      exact String.lt_irrefl name before
    rw [insert, if_neg notBefore, if_neg different, ih tail]
    rfl

/-- Entries in order stay as they are. -/
theorem collect_eq_self {entries : List (String × α)} (h : Ordered entries) :
    collect entries = entries := by
  suffices step : ∀ held : List (String × α), Ordered (held ++ entries) →
      entries.foldl (fun held entry => insert entry.1 entry.2 held) held = held ++ entries from
    step [] h
  clear h
  induction entries with
  | nil => exact fun held _ => (List.append_nil held).symm
  | cons entry rest ih =>
    intro held ordered
    have last : ∀ other ∈ held, other.1 < entry.1 := fun other member =>
      (List.pairwise_append.1 ordered).2.2 other member entry List.mem_cons_self
    -- each entry is put behind all that are held
    have next : held ++ entry :: rest = held ++ [entry] ++ rest := List.append_cons held entry rest
    rw [List.foldl_cons, insert_of_forall_lt last, next]
    exact ih _ (next ▸ ordered)

/-- Where every name occurs once, collecting the entries changes no value. -/
theorem find?_collect {entries : List (String × α)} (distinct : (entries.map (·.1)).Nodup)
    (name : String) : find? name (collect entries) = find? name entries := by
  suffices step : ∀ held : List (String × α),
      find? name (entries.foldl (fun held entry => insert entry.1 entry.2 held) held) =
        (find? name entries).or (find? name held) by
    rw [collect, step, find?, Option.or_none]
  induction entries with
  | nil => exact fun held => rfl
  | cons entry rest ih =>
    intro held
    obtain ⟨other, value⟩ := entry
    obtain ⟨absent, distinct⟩ := List.nodup_cons.1 distinct
    rw [List.foldl_cons, ih distinct, find?]
    by_cases same : other = name
    · -- the name does not occur again, so it keeps the value it is given here
      subst same
      rw [if_pos rfl, find?_insert_self, find?_eq_none absent]
      rfl
    · rw [if_neg same, find?_insert_of_ne (Ne.symm same)]

end Entries

/-- Values under distinct names, in the order of the names. -/
structure Named (α : Type) where
  entries : List (String × α)
  ordered : Entries.Ordered entries
deriving DecidableEq

namespace Named

variable {α : Type}

def empty : Named α := ⟨[], List.Pairwise.nil⟩

instance : Inhabited (Named α) := ⟨empty⟩

/-- The dictionary with `name` set to `value`. -/
def insert (name : String) (value : α) (held : Named α) : Named α :=
  ⟨Entries.insert name value held.entries, Entries.insert_ordered name value held.ordered⟩

/-- The dictionary of a list of entries; of two with one name the last stays. -/
def ofList (entries : List (String × α)) : Named α :=
  ⟨Entries.collect entries, Entries.collect_ordered entries⟩

def isEmpty (held : Named α) : Bool :=
  held.entries.isEmpty

/-- A dictionary is made again from its entries. -/
theorem ofList_entries (held : Named α) : ofList held.entries = held := by
  obtain ⟨entries, ordered⟩ := held
  rw [ofList, mk.injEq]
  exact Entries.collect_eq_self ordered

/-- There is one dictionary without entries. -/
theorem eq_empty_of_isEmpty {held : Named α} (h : held.isEmpty) : held = empty := by
  obtain ⟨entries, ordered⟩ := held
  obtain rfl : entries = [] := List.isEmpty_iff.1 h
  rfl

end Named

end ServiceProbe

import Mathlib.Data.List.DropRight
import ServiceProbe.Config.Toml

/-!
# Entries of a document

A document is read line by line, and each line adds to the draft made of the lines before it. So what an entry
gives is still there at the end.

* `Node.Holds` — a value is at a path of names in a draft; `Node.keeps_within` and the lemmas after it say that
  no line removes it, and `Node.holds_of_put` that an entry puts it there;
* `Gives` — the reader comes to an entry with a path of names, on a line of its own or in a table on one line,
  and its value is written there;
* `holds_of_gives` — a document that is read holds at the path of each entry what its value is read as;
* `inOrder_of_readLines` — the names in a table of a document are in order, so each is there once;
* `exists_append_of_gives_key`, `exists_append_of_gives` — both together, for an entry outside of sections and for
  one of a section.
-/

namespace ServiceProbe.Config.Toml

namespace Node

variable {dotted : Bool} {change : Table → Option Table} {setting : Setting} {name : String}
  {path keys : List String} {held changed : Table}

/-! ### Changes below a table -/

/-- What stands under a name once a change was made below it. -/
inductive Becomes (dotted : Bool) (change : Table → Option Table) (path : List String) : Option Node → Node → Prop
    where
  | made {kind : Making} {inner : Table} (isInner : within dotted change path (kind, []) = some inner) :
    Becomes dotted change path none (table kind inner.2)
  | inTable {making : Making} {entries : List (String × Node)} {inner : Table}
    (isInner : within dotted change path (making, entries) = some inner) :
    Becomes dotted change path (some (table making entries)) (table inner.1 inner.2)
  | inLast {last : List (String × Node)} {earlier : List (List (String × Node))} {inner : Table}
    (isInner : within dotted change path (.header, last) = some inner) :
    Becomes dotted change path (some (tables (last :: earlier))) (tables (inner.2 :: earlier))

/-- A change below a name changes what stands under that name only. -/
theorem exists_becomes (h : within dotted change (name :: path) held = some changed) :
    ∃ next, Becomes dotted change path (Entries.find? name held.2) next ∧
      changed = (held.1, Entries.insert name next held.2) := by
  obtain ⟨making, entries⟩ := held
  rw [within] at h
  dsimp only
  -- a new table, a table, or the last table of a list; through a value no path leads
  cases found : Entries.find? name entries with
  | none =>
    rw [found] at h
    obtain ⟨inner, isInner, h⟩ := Option.bind_eq_some_iff.1 h
    exact ⟨_, .made isInner, (Option.some.inj h).symm⟩
  | some node =>
    rw [found] at h
    cases node with
    | value held => cases h
    | table kind inner =>
      dsimp only at h
      split at h
      · cases h
      · obtain ⟨inner, isInner, h⟩ := Option.bind_eq_some_iff.1 h
        exact ⟨_, .inTable isInner, (Option.some.inj h).symm⟩
    | tables items =>
      cases items with
      | nil => cases h
      | cons last earlier =>
        obtain ⟨inner, isInner, h⟩ := Option.bind_eq_some_iff.1 h
        exact ⟨_, .inLast isInner, (Option.some.inj h).symm⟩

/-! ### What a draft holds -/

/-- A setting is at a path of names. Where the path leads into a list of tables nothing is said. -/
def Holds (setting : Setting) : List String → List (String × Node) → Prop
  | [], _ => False
  | name :: path, entries =>
    match Entries.find? name entries with
    | none => False
    | some (value held) => held.find? path = some setting
    | some (table _ inner) => Holds setting path inner
    | some (tables _) => path ≠ []

theorem holds_congr {entries others : List (String × Node)}
    (same : Entries.find? name entries = Entries.find? name others) :
    Holds setting (name :: path) entries ↔ Holds setting (name :: path) others := by
  rw [Holds, Holds, same]

/-- A change that removes nothing. -/
def Keeps (change : Table → Option Table) : Prop :=
  ∀ setting path held changed, change held = some changed → Holds setting path held.2 →
    Holds setting path changed.2

/-- What a change keeps is kept wherever the change is made. -/
theorem keeps_within (keeps : Keeps change) (path : List String) : Keeps (within dotted change path) := by
  induction path with
  | nil => exact keeps
  | cons name path ih =>
    intro setting keys held changed h holds
    obtain ⟨next, becomes, rfl⟩ := exists_becomes h
    cases keys with
    | nil => exact holds
    | cons first keys =>
      by_cases same : first = name
      · subst same
        rw [Holds] at holds ⊢
        rw [Entries.find?_insert_self]
        generalize Entries.find? first held.2 = found at becomes holds
        -- under the changed name the same change is made one level below
        cases becomes with
        | made isInner => exact holds.elim
        | inTable isInner => exact ih _ _ _ _ isInner holds
        | inLast isInner => exact holds
      · exact (holds_congr (Entries.find?_insert_of_ne same _ _)).2 holds

/-- What a change puts below a table is there, wherever the change is made. -/
theorem holds_of_within (gives : ∀ held changed, change held = some changed → Holds setting keys changed.2)
    (notEmpty : keys ≠ []) (h : within dotted change path held = some changed) :
    Holds setting (path ++ keys) changed.2 := by
  induction path generalizing held changed with
  | nil => exact gives held changed h
  | cons name path ih =>
    obtain ⟨next, becomes, rfl⟩ := exists_becomes h
    rw [List.cons_append, Holds, Entries.find?_insert_self]
    generalize Entries.find? name held.2 = found at becomes
    cases becomes with
    | made isInner => exact ih isInner
    | inTable isInner => exact ih isInner
    | inLast isInner => exact fun none => notEmpty (List.append_eq_nil_iff.1 none).2

/-- A new name changes nothing that was there. -/
theorem holds_insert_of_absent {entries : List (String × Node)} {node : Node}
    (absent : Entries.find? name entries = none) (holds : Holds setting path entries) :
    Holds setting path (Entries.insert name node entries) := by
  cases path with
  | nil => exact holds
  | cons first path =>
    have other : first ≠ name := by
      rintro rfl
      rw [Holds, absent] at holds
      exact holds
    exact (holds_congr (Entries.find?_insert_of_ne other _ _)).2 holds

/-! ### Lines -/

theorem addEntry_cases {isPath : Bool} (h : addEntry isPath name setting held = some changed) :
    Entries.find? name held.2 = none ∧ changed = (held.1, Entries.insert name (value setting) held.2) := by
  obtain ⟨making, entries⟩ := held
  rw [addEntry] at h
  by_cases other : (making = .dotted) ≠ (isPath = true)
  · rw [if_pos other] at h
    cases h
  rw [if_neg other] at h
  dsimp only
  -- a name that stands already cannot stand again
  cases found : Entries.find? name entries with
  | none =>
    rw [found] at h
    exact ⟨rfl, (Option.some.inj h).symm⟩
  | some node =>
    rw [found] at h
    cases h

theorem keeps_addEntry (isPath : Bool) (name : String) (setting : Setting) :
    Keeps (addEntry isPath name setting) := by
  intro other path held changed h holds
  obtain ⟨absent, rfl⟩ := addEntry_cases h
  exact holds_insert_of_absent absent holds

theorem keeps_put (keys : List String) (setting : Setting) : Keeps (put keys setting) := by
  intro other path held changed h holds
  unfold put at h
  split at h
  · cases h
  · next name _ => exact keeps_within (keeps_addEntry _ name setting) _ _ _ _ _ h holds

/-- An entry is there once it was put, and so is what is within its value. -/
theorem holds_of_put {value : Setting} (h : put keys value held = some changed)
    (isPart : value.find? path = some setting) : Holds setting (keys ++ path) changed.2 := by
  unfold put at h
  split at h
  · cases h
  · next name isLast =>
    have split : keys ++ path = keys.dropLast ++ (name :: path) := by
      rw [List.append_cons, List.dropLast_append_getLast? name isLast]
    rw [split]
    -- what is put in its own table is found from outside along the path to it
    refine holds_of_within ?_ (List.cons_ne_nil _ _) h
    intro held changed h
    obtain ⟨-, rfl⟩ := addEntry_cases h
    rw [Holds, Entries.find?_insert_self]
    exact isPart

/-- A name that stands for something else now keeps what was under it. -/
theorem holds_insert_of_found {entries : List (String × Node)} {before after : Node}
    (found : Entries.find? name entries = some before)
    (kept : ∀ path, Holds setting (name :: path) [(name, before)] → Holds setting (name :: path) [(name, after)])
    (holds : Holds setting path entries) : Holds setting path (Entries.insert name after entries) := by
  cases path with
  | nil => exact holds
  | cons first path =>
    by_cases same : first = name
    · subst same
      have there {node : Node} : Entries.find? first [(first, node)] = some node := if_pos rfl
      refine (holds_congr (there.trans (Entries.find?_insert_self _ _ _).symm)).1 (kept path ?_)
      exact (holds_congr (there.trans found.symm)).2 holds
    · exact (holds_congr (Entries.find?_insert_of_ne same _ _)).2 holds

/-- A header opens a table that was not opened before. -/
theorem keeps_openTable (keys : List String) : Keeps (openTable keys) := by
  intro setting path held changed h holds
  unfold openTable at h
  split at h
  · cases h
  · next name _ =>
    -- the header changes what stands under its last name alone
    refine keeps_within ?_ _ _ _ _ _ h holds
    intro setting path held changed h holds
    dsimp only at h
    split at h
    · next absent =>
      rw [← Option.some.inj h]
      exact holds_insert_of_absent absent holds
    · next inner found =>
      rw [← Option.some.inj h]
      exact holds_insert_of_found found (fun path holds => by
        rw [Holds, Entries.find?, if_pos rfl] at *
        exact holds) holds
    · cases h

theorem keeps_openItem (keys : List String) : Keeps (openItem keys) := by
  intro setting path held changed h holds
  unfold openItem at h
  split at h
  · cases h
  · next name _ =>
    -- the header changes what stands under its last name alone
    refine keeps_within ?_ _ _ _ _ _ h holds
    intro setting path held changed h holds
    dsimp only at h
    split at h
    · next absent =>
      rw [← Option.some.inj h]
      exact holds_insert_of_absent absent holds
    · next items found =>
      rw [← Option.some.inj h]
      exact holds_insert_of_found found (fun path holds => by
        rw [Holds, Entries.find?, if_pos rfl] at *
        exact holds) holds
    · cases h

/-! ### Names in order -/

/-- The names of each table are in order. -/
inductive InOrder : Node → Prop where
  | value {setting : Setting}
    (ordered : ∀ entries origin, setting = .table entries origin → Entries.Ordered entries) :
    InOrder (.value setting)
  | table {making : Making} {entries : List (String × Node)} (ordered : Entries.Ordered entries)
    (inner : ∀ entry ∈ entries, InOrder entry.2) : InOrder (.table making entries)
  | tables {items : List (List (String × Node))} (each : ∀ entries ∈ items, InOrder (.table .header entries)) :
    InOrder (.tables items)

theorem InOrder.entries {making : Making} {entries : List (String × Node)} (h : InOrder (.table making entries)) :
    Entries.Ordered entries ∧ ∀ entry ∈ entries, InOrder entry.2 := by
  cases h with
  | table ordered inner => exact ⟨ordered, inner⟩

theorem InOrder.empty (making : Making) : InOrder (.table making []) :=
  .table List.Pairwise.nil nofun

theorem InOrder.insert {making other : Making} {entries : List (String × Node)} {node : Node}
    (h : InOrder (.table making entries)) (inOrder : InOrder node) (name : String) :
    InOrder (.table other (Entries.insert name node entries)) := by
  obtain ⟨ordered, inner⟩ := h.entries
  refine .table (Entries.insert_ordered name node ordered) fun entry member => ?_
  rcases Entries.mem_insert member with rfl | member
  · exact inOrder
  · exact inner entry member

theorem InOrder.of_find? {making : Making} {entries : List (String × Node)} {node : Node}
    (h : InOrder (.table making entries)) (found : Entries.find? name entries = some node) : InOrder node := by
  obtain ⟨ordered, inner⟩ := h.entries
  obtain ⟨before, after, rfl, -⟩ := Entries.exists_append_of_find? ordered found
  exact inner _ (List.mem_append_right _ List.mem_cons_self)

/-- A change that leaves the names in order. -/
def KeepsOrder (change : Table → Option Table) : Prop :=
  ∀ held changed, change held = some changed → InOrder (.table held.1 held.2) → InOrder (.table changed.1 changed.2)

theorem keepsOrder_within (keeps : KeepsOrder change) (path : List String) :
    KeepsOrder (within dotted change path) := by
  induction path with
  | nil => exact keeps
  | cons name path ih =>
    intro held changed h inOrder
    obtain ⟨next, becomes, rfl⟩ := exists_becomes h
    refine inOrder.insert ?_ name
    have found (node : Node) : Entries.find? name held.2 = some node → InOrder node := inOrder.of_find?
    generalize Entries.find? name held.2 = under at becomes found
    cases becomes with
    | made isInner =>
      obtain ⟨ordered, inner⟩ := (ih _ _ isInner (.empty _)).entries
      exact .table ordered inner
    | inTable isInner => exact ih _ _ isInner (found _ rfl)
    | inLast isInner =>
      -- of a list of tables only the last one changes
      cases found _ rfl with
      | tables each =>
        obtain ⟨first, more⟩ := List.forall_mem_cons.1 each
        obtain ⟨ordered, inner⟩ := (ih _ _ isInner first).entries
        exact .tables (List.forall_mem_cons.2 ⟨.table ordered inner, more⟩)

theorem keepsOrder_put (keys : List String)
    (inOrder : InOrder (.value setting)) : KeepsOrder (put keys setting) := by
  intro held changed h
  unfold put at h
  split at h
  · cases h
  · refine keepsOrder_within ?_ _ _ _ h
    intro held changed h before
    obtain ⟨-, rfl⟩ := addEntry_cases h
    exact before.insert inOrder _

theorem keepsOrder_openTable (keys : List String) : KeepsOrder (openTable keys) := by
  intro held changed h
  unfold openTable at h
  split at h
  · cases h
  · refine keepsOrder_within ?_ _ _ _ h
    intro held changed h before
    -- the table is a new one, is opened again, or is something that is no table
    dsimp only at h
    split at h
    · rw [← Option.some.inj h]
      exact before.insert (.empty _) _
    · next inner found =>
      rw [← Option.some.inj h]
      obtain ⟨ordered, below⟩ := (before.of_find? found).entries
      exact before.insert (.table ordered below) _
    · cases h

theorem keepsOrder_openItem (keys : List String) : KeepsOrder (openItem keys) := by
  intro held changed h
  unfold openItem at h
  split at h
  · cases h
  · refine keepsOrder_within ?_ _ _ _ h
    intro held changed h before
    -- the item is the first one, the next one, or is asked of something that has no items
    dsimp only at h
    split at h
    · rw [← Option.some.inj h]
      exact before.insert (.tables (List.forall_mem_singleton.2 (.empty _))) _
    · next items found =>
      rw [← Option.some.inj h]
      refine before.insert (.tables (List.forall_mem_cons.2 ⟨.empty _, ?_⟩)) _
      cases before.of_find? found with
      | tables each => exact each
    · cases h

theorem entriesOf_eq_map (origin : Origin) (entries : List (String × Node)) :
    entriesOf origin entries = entries.map fun entry => (entry.1, toSetting origin entry.2) := by
  induction entries with
  | nil => rw [entriesOf, List.map_nil]
  | cons entry rest ih => rw [entriesOf, ih, List.map_cons]

theorem InOrder.entriesOf {making : Making} {entries : List (String × Node)}
    (h : InOrder (.table making entries)) (origin : Origin) : Entries.Ordered (entriesOf origin entries) := by
  rw [entriesOf_eq_map]
  exact List.pairwise_map.2 h.entries.1

/-- A part of a document in order is a setting in order. -/
theorem InOrder.toSetting {node : Node} (h : InOrder node) {origin inner : Origin}
    {entries : List (String × Setting)} (same : node.toSetting origin = .table entries inner) :
    Entries.Ordered entries := by
  cases node with
  | value setting =>
    cases h with
    | value ordered =>
      rw [Node.toSetting] at same
      exact ordered _ _ same
  | table making held =>
    rw [Node.toSetting] at same
    -- only a table becomes a table
    obtain ⟨rfl, -⟩ := Setting.table.inj same
    exact h.entriesOf origin
  | tables items =>
    rw [Node.toSetting] at same
    cases same

end Node

/-! ### The reader of a document -/

variable {origin : Origin} {draft next final : Draft} {text before rest value : List Char}
  {path keys : List String} {setting : Setting}

/-- The keys of an entry, and the text from its value on. -/
def keyAndValue? : Part (List String) := fun text => do
  let (keys, rest) ← key text
  let rest ← expect '=' rest
  some (keys, skipGap rest)

/-- The reader comes to a line: it made the draft of the lines before it, and the text goes on with it. -/
inductive Reaches (origin : Origin) (text : List Char) : Draft → List Char → Prop where
  | start : Reaches origin text {} text
  | line {draft next : Draft} {before rest after : List Char} (reached : Reaches origin text draft before)
    (isLine : readLine origin draft (skipLines before) = some (next, rest)) (isEnd : lineEnd? rest = some after) :
    Reaches origin text next after

/-- The reader of a table on one line comes to an entry with these keys, and its value is written there. -/
inductive GivesInline (origin : Origin) (depth : Nat) :
    Nat → Node.Table → List Char → List String → List Char → Prop where
  | here {fuel : Nat} {held : Node.Table} {text value : List Char} {keys : List String}
    (isEntry : keyAndValue? text = some (keys, value)) : GivesInline origin depth (fuel + 1) held text keys value
  | later {fuel : Nat} {held changed : Node.Table} {text value rest more found : List Char}
    {keys path : List String} {setting : Setting} (isEntry : keyAndValue? text = some (keys, value))
    (isValue : readValue origin depth fuel value = some (setting, rest))
    (isPut : Node.put keys setting held = some changed) (goesOn : skipGap rest = ',' :: more)
    (gives : GivesInline origin depth fuel changed more path found) :
    GivesInline origin depth (fuel + 1) held text path found

theorem GivesInline.exists_entry {depth fuel : Nat} {held : Node.Table}
    (gives : GivesInline origin depth fuel held text path value) :
    ∃ keys value, keyAndValue? text = some (keys, value) := by
  cases gives with
  | here isEntry => exact ⟨_, _, isEntry⟩
  | later isEntry => exact ⟨_, _, isEntry⟩

/-- The reader comes to an entry with a path of names, and its value is written there: on a line, below the
header of the line, or in a table on one line, under one more name. -/
inductive Gives (origin : Origin) (text : List Char) : List String → List Char → Prop where
  | line {draft : Draft} {before value : List Char} {keys : List String} (reached : Reaches origin text draft before)
    (isEntry : keyAndValue? (skipLines before) = some (keys, value)) : Gives origin text (draft.header ++ keys) value
  | inline {draft : Draft} {before inner value : List Char} {keys : List String} {name : String}
    (reached : Reaches origin text draft before)
    (isEntry : keyAndValue? (skipLines before) = some (keys, '\x7b' :: inner))
    (gives : GivesInline origin (depthLimit - 1) (inner.length + 1) (.header, []) (skipGap inner) [name] value) :
    Gives origin text (draft.header ++ keys ++ [name]) value

/-- No key begins with a bracket or a brace. -/
theorem key_eq_none {mark : Char} (isMark : mark = '[' ∨ mark = '\x7d') (rest : List Char) :
    key (mark :: rest) = none := by
  rw [key, List.length_cons, keyRest]
  rcases isMark with rfl | rfl
  · rfl
  · rfl

theorem ne_nil_of_entry (isEntry : keyAndValue? text = some (keys, value)) : keys ≠ [] := by
  obtain ⟨⟨keys', rest⟩, isKey, isEntry⟩ := Option.bind_eq_some_iff.1 isEntry
  obtain ⟨after, -, isEntry⟩ := Option.bind_eq_some_iff.1 isEntry
  obtain ⟨rfl, -⟩ := Prod.mk.inj (Option.some.inj isEntry)
  obtain ⟨⟨parts, left⟩, isRest, isKey⟩ := Option.bind_eq_some_iff.1 isKey
  dsimp only at isKey
  split at isKey
  · obtain ⟨rfl, -⟩ := Prod.mk.inj (Option.some.inj isKey)
    -- the first part of a dotted key is there in any case
    rw [keyRest] at isRest
    obtain ⟨⟨first, behind⟩, -, isRest⟩ := Option.bind_eq_some_iff.1 isRest
    dsimp only at isRest
    split at isRest
    · obtain ⟨⟨more, last⟩, -, isRest⟩ := Option.bind_eq_some_iff.1 isRest
      obtain ⟨rfl, -⟩ := Prod.mk.inj (Option.some.inj isRest)
      exact List.cons_ne_nil _ _
    · obtain ⟨rfl, -⟩ := Prod.mk.inj (Option.some.inj isRest)
      exact List.cons_ne_nil _ _
  · cases isKey

/-- A line that is an entry puts its value below the header. -/
theorem readLine_of_entry (isEntry : keyAndValue? text = some (keys, value)) :
    readLine origin draft text = (do
      let (setting, rest) ← readValue origin depthLimit (value.length + 1) value
      let root ← Node.within false (Node.put keys setting) draft.header draft.root
      some ({ draft with root }, rest)) := by
  obtain ⟨⟨keys', rest⟩, isKey, isEntry⟩ := Option.bind_eq_some_iff.1 isEntry
  obtain ⟨after, isAfter, isEntry⟩ := Option.bind_eq_some_iff.1 isEntry
  obtain ⟨rfl, rfl⟩ := Prod.mk.inj (Option.some.inj isEntry)
  unfold readLine
  split
  · exact absurd isKey (by rw [key_eq_none (.inl rfl)]; nofun)
  · exact absurd isKey (by rw [key_eq_none (.inl rfl)]; nofun)
  · rw [isKey]
    simp only [Option.bind_eq_bind, Option.bind_some, isAfter]

/-- What a line does to the root of a draft. -/
inductive Changes (origin : Origin) : (Node.Table → Option Node.Table) → Prop where
  | item (keys : List String) : Changes origin (Node.openItem keys)
  | table (keys : List String) : Changes origin (Node.openTable keys)
  | entry {depth fuel : Nat} {text rest : List Char} {setting : Setting}
    (isValue : readValue origin depth fuel text = some (setting, rest)) (header keys : List String) :
    Changes origin (Node.within false (Node.put keys setting) header)

theorem exists_changes_of_readLine (h : readLine origin draft text = some (next, rest)) :
    ∃ change, Changes origin change ∧ change draft.root = some next.root := by
  unfold readLine at h
  split at h
  · -- the header of an item, the header of a table, or an entry
    obtain ⟨⟨keys, after⟩, -, h⟩ := Option.bind_eq_some_iff.1 h
    obtain ⟨root, isRoot, h⟩ := Option.bind_eq_some_iff.1 h
    obtain ⟨rfl, -⟩ := Prod.mk.inj (Option.some.inj h)
    exact ⟨_, .item keys, isRoot⟩
  · obtain ⟨⟨keys, after⟩, -, h⟩ := Option.bind_eq_some_iff.1 h
    obtain ⟨root, isRoot, h⟩ := Option.bind_eq_some_iff.1 h
    obtain ⟨rfl, -⟩ := Prod.mk.inj (Option.some.inj h)
    exact ⟨_, .table keys, isRoot⟩
  · obtain ⟨⟨keys, after⟩, -, h⟩ := Option.bind_eq_some_iff.1 h
    obtain ⟨behind, -, h⟩ := Option.bind_eq_some_iff.1 h
    obtain ⟨⟨value, left⟩, isValue, h⟩ := Option.bind_eq_some_iff.1 h
    obtain ⟨root, isRoot, h⟩ := Option.bind_eq_some_iff.1 h
    obtain ⟨rfl, -⟩ := Prod.mk.inj (Option.some.inj h)
    exact ⟨_, .entry isValue draft.header keys, isRoot⟩

/-- What every line keeps is kept to the end of the document. -/
theorem readLines_induction {P : Node.Table → Prop}
    (step : ∀ change held changed, Changes origin change → change held = some changed → P held → P changed)
    {fuel : Nat} (h : readLines origin fuel draft text = some final) (start : P draft.root) : P final.root := by
  induction fuel generalizing draft text with
  | zero => cases h
  | succ fuel ih =>
    rw [readLines] at h
    split at h
    · obtain rfl := Option.some.inj h
      exact start
    · obtain ⟨⟨next, rest⟩, isLine, h⟩ := Option.bind_eq_some_iff.1 h
      obtain ⟨after, -, h⟩ := Option.bind_eq_some_iff.1 h
      obtain ⟨change, changes, isNext⟩ := exists_changes_of_readLine isLine
      exact ih h (step change _ _ changes isNext start)

/-- No line removes anything. -/
theorem Changes.keeps {change : Node.Table → Option Node.Table} (changes : Changes origin change) :
    Node.Keeps change := by
  cases changes with
  | item keys => exact Node.keeps_openItem keys
  | table keys => exact Node.keeps_openTable keys
  | entry isValue header keys => exact Node.keeps_within (Node.keeps_put keys _) header

theorem holds_of_readLines {fuel : Nat} (h : readLines origin fuel draft text = some final)
    (holds : Node.Holds setting path draft.root.2) : Node.Holds setting path final.root.2 :=
  readLines_induction (P := fun root => Node.Holds setting path root.2)
    (fun _ held changed changes => changes.keeps setting path held changed) h holds

/-- From each line that the reader comes to, it reads the rest. -/
theorem exists_readLines_of_reaches (reached : Reaches origin text draft before) {fuel : Nat}
    (h : readLines origin fuel {} text = some final) : ∃ fuel, readLines origin fuel draft before = some final := by
  induction reached with
  | start => exact ⟨fuel, h⟩
  | line reached isLine isEnd ih =>
    obtain ⟨fuel, h⟩ := ih
    cases fuel with
    | zero => cases h
    | succ fuel =>
      rw [readLines] at h
      split at h
      · -- a line was read there, so the text is not at its end
        next none =>
        rw [none] at isLine
        cases isLine
      · rw [isLine, Option.bind_eq_bind, Option.bind_some] at h
        obtain ⟨after, isAfter, h⟩ := Option.bind_eq_some_iff.1 h
        obtain rfl := Option.some.inj (isEnd.symm.trans isAfter)
        exact ⟨fuel, h⟩

/-! ### Tables on one line -/

/-- An entry of a table on one line, and how it goes on behind it. -/
theorem exists_of_readEntries {depth fuel : Nat} {held final : Node.Table}
    (h : readEntries origin depth (fuel + 1) held text = some (final, rest)) :
    ∃ keys value setting after changed, keyAndValue? text = some (keys, value) ∧
      readValue origin depth fuel value = some (setting, after) ∧ Node.put keys setting held = some changed ∧
      ((∃ more, skipGap after = ',' :: more ∧ readEntries origin depth fuel changed more = some (final, rest)) ∨
        skipGap after = '\x7d' :: rest ∧ final = changed) := by
  rw [readEntries] at h
  obtain ⟨⟨keys, behind⟩, isKey, h⟩ := Option.bind_eq_some_iff.1 h
  obtain ⟨marked, isMarked, h⟩ := Option.bind_eq_some_iff.1 h
  obtain ⟨⟨setting, after⟩, isValue, h⟩ := Option.bind_eq_some_iff.1 h
  obtain ⟨changed, isPut, h⟩ := Option.bind_eq_some_iff.1 h
  -- a key, its value and its place are read; behind a comma there are more of them
  refine ⟨keys, skipGap marked, setting, after, changed, ?_, isValue, isPut, ?_⟩
  · rw [keyAndValue?, isKey]
    simp only [Option.bind_eq_bind, Option.bind_some, isMarked]
  · split at h
    · next more goesOn => exact .inl ⟨more, goesOn, h⟩
    · next left ends =>
      obtain ⟨rfl, rfl⟩ := Prod.mk.inj (Option.some.inj h)
      exact .inr ⟨ends, rfl⟩
    · cases h

theorem holds_of_readEntries {depth fuel : Nat} {held final : Node.Table}
    (h : readEntries origin depth fuel held text = some (final, rest)) (holds : Node.Holds setting path held.2) :
    Node.Holds setting path final.2 := by
  induction fuel generalizing held text with
  | zero => cases h
  | succ fuel ih =>
    obtain ⟨keys, value, read, after, changed, -, -, isPut, goesOn | ⟨-, rfl⟩⟩ := exists_of_readEntries h
    · obtain ⟨more, -, h⟩ := goesOn
      exact ih h (Node.keeps_put _ _ _ _ _ _ isPut holds)
    · exact Node.keeps_put _ _ _ _ _ _ isPut holds

/-- A value is read as a setting where it stands. -/
def IsReadAs (origin : Origin) (value : List Char) (setting : Setting) : Prop :=
  ∃ depth fuel rest, readValue origin depth fuel value = some (setting, rest)

/-- A table on one line that is read holds what the values of its entries are read as. -/
theorem holds_of_givesInline {depth fuel : Nat} {held final : Node.Table}
    (gives : GivesInline origin depth fuel held text path value)
    (h : readEntries origin depth fuel held text = some (final, rest)) :
    ∃ setting, IsReadAs origin value setting ∧ Node.Holds setting path final.2 := by
  induction gives with
  | @here fuel held text value keys isEntry =>
    -- this entry puts the value, and those behind it keep it
    obtain ⟨keys', value', read, after, changed, isEntry', isValue, isPut, goesOn⟩ := exists_of_readEntries h
    obtain ⟨rfl, rfl⟩ := Prod.mk.inj (Option.some.inj (isEntry.symm.trans isEntry'))
    have holds : Node.Holds read (keys ++ []) changed.2 := Node.holds_of_put isPut rfl
    rw [List.append_nil] at holds
    refine ⟨read, ⟨_, _, _, isValue⟩, ?_⟩
    rcases goesOn with ⟨more, -, h⟩ | ⟨-, rfl⟩
    · exact holds_of_readEntries h holds
    · exact holds
  | later isEntry isValue isPut goesOn gives ih =>
    -- the entry before is the one that was read, so the two go on alike
    obtain ⟨keys', value', read, after, changed, isEntry', isValue', isPut', goesOn'⟩ := exists_of_readEntries h
    obtain ⟨rfl, rfl⟩ := Prod.mk.inj (Option.some.inj (isEntry.symm.trans isEntry'))
    obtain ⟨rfl, rfl⟩ := Prod.mk.inj (Option.some.inj (isValue.symm.trans isValue'))
    obtain rfl := Option.some.inj (isPut.symm.trans isPut')
    rcases goesOn' with ⟨more, isMore, h⟩ | ⟨ends, -⟩
    · obtain rfl := (List.cons.inj (goesOn.symm.trans isMore)).2
      exact ih h
    · cases goesOn.symm.trans ends

/-! ### Tables on one line in order -/

/-- A table on one line is read as the table of its entries. -/
theorem exists_of_readValue_brace {depth fuel : Nat} {inner : List Char}
    (h : readValue origin (depth + 1) (fuel + 1) ('\x7b' :: inner) = some (setting, rest)) :
    ∃ held : Node.Table, setting = .table (Node.entriesOf origin held.2) origin ∧
      (skipGap inner = '\x7d' :: rest ∧ held = (.header, []) ∨
        (∀ more, skipGap inner ≠ '\x7d' :: more) ∧
          readEntries origin depth fuel (.header, []) (skipGap inner) = some (held, rest)) := by
  rw [readValue] at h
  split at h
  · next more ends =>
    obtain ⟨rfl, rfl⟩ := Prod.mk.inj (Option.some.inj h)
    exact ⟨_, by rw [Node.toSetting], .inl ⟨ends, rfl⟩⟩
  · next others =>
    obtain ⟨⟨held, left⟩, isHeld, h⟩ := Option.bind_eq_some_iff.1 h
    obtain ⟨rfl, rfl⟩ := Prod.mk.inj (Option.some.inj h)
    exact ⟨held, by rw [Node.toSetting], .inr ⟨others, isHeld⟩⟩

/-- What is read as a value or as the entries of a table on one line has its names in order. -/
theorem inOrder_of_read (origin : Origin) (fuel : Nat) :
    (∀ depth text setting rest, readValue origin depth fuel text = some (setting, rest) →
      Node.InOrder (.value setting)) ∧
    ∀ depth held text final rest, readEntries origin depth fuel held text = some (final, rest) →
      Node.InOrder (.table held.1 held.2) → Node.InOrder (.table final.1 final.2) := by
  induction fuel with
  | zero => exact ⟨nofun, nofun⟩
  | succ fuel ih =>
    -- values hold entries and entries hold values, so both are known of less fuel
    obtain ⟨ofValue, ofEntries⟩ := ih
    constructor
    · intro depth text setting rest h
      refine .value ?_
      rintro entries inner rfl
      have isValue := h
      rw [readValue.eq_def] at h
      dsimp only at h
      split at h
      · cases h
      · cases h
      · obtain ⟨items, -, same⟩ := Option.map_eq_some_iff.1 h
        cases (Prod.mk.inj same).1
      · obtain ⟨held, same, ⟨-, rfl⟩ | ⟨-, isHeld⟩⟩ := exists_of_readValue_brace isValue
        · obtain ⟨rfl, -⟩ := Setting.table.inj same
          exact (Node.InOrder.empty .header).entriesOf origin
        · obtain ⟨rfl, -⟩ := Setting.table.inj same
          exact (ofEntries _ _ _ _ _ isHeld (.empty _)).entriesOf origin
      -- everything else is a single value
      all_goals
        obtain ⟨read, -, same⟩ := Option.map_eq_some_iff.1 h
        cases (Prod.mk.inj same).1
    · intro depth held text final rest h before
      obtain ⟨keys, value, setting, after, changed, -, isValue, isPut, goesOn⟩ := exists_of_readEntries h
      have changed := Node.keepsOrder_put keys (ofValue _ _ _ _ isValue) _ _ isPut before
      rcases goesOn with ⟨more, -, h⟩ | ⟨-, rfl⟩
      · exact ofEntries _ _ _ _ _ h changed
      · exact changed

/-! ### What a document holds -/

theorem find?_entriesOf (origin : Origin) (name : String) (entries : List (String × Node)) :
    Entries.find? name (Node.entriesOf origin entries) =
      (Entries.find? name entries).map (Node.toSetting origin) := by
  induction entries with
  | nil => rw [Node.entriesOf]; rfl
  | cons entry rest ih =>
    obtain ⟨other, node⟩ := entry
    rw [Node.entriesOf, Entries.find?, Entries.find?, ih]
    split
    · rfl
    · rfl

/-- What is held under a name is the setting of that name. -/
theorem find?_of_holds {entries : List (String × Node)} {name : String}
    (holds : Node.Holds setting [name] entries) :
    Entries.find? name (Node.entriesOf origin entries) = some setting := by
  rw [Node.Holds] at holds
  rw [find?_entriesOf]
  split at holds
  · exact holds.elim
  · next held found =>
    obtain rfl : held = setting := Option.some.inj holds
    rw [found, Option.map_some, Node.toSetting]
  · exact holds.elim
  · exact absurd rfl holds

/-- What is held below a table is a setting of that table. -/
theorem find?_of_holds_table {entries : List (String × Node)} {part name : String}
    {inner : List (String × Setting)} {innerOrigin : Origin} (holds : Node.Holds setting [part, name] entries)
    (isTable : Entries.find? part (Node.entriesOf origin entries) = some (.table inner innerOrigin)) :
    Entries.find? name inner = some setting := by
  rw [Node.Holds] at holds
  rw [find?_entriesOf] at isTable
  -- of what can stand under the first name only a value and a table become tables
  split at holds
  · exact holds.elim
  · next held found =>
    rw [found, Option.map_some, Node.toSetting] at isTable
    obtain rfl := Option.some.inj isTable
    rw [Setting.find?, Option.bind_eq_bind, Option.bind_eq_some_iff] at holds
    obtain ⟨other, isOther, same⟩ := holds
    exact isOther.trans same
  · next making below found =>
    rw [found, Option.map_some, Node.toSetting] at isTable
    obtain ⟨rfl, -⟩ := Setting.table.inj (Option.some.inj isTable)
    exact find?_of_holds holds
  · next items found =>
    rw [found, Option.map_some, Node.toSetting] at isTable
    cases isTable

/-- **What an entry gives stays.** A document that was read holds what the value of the entry is read as. -/
theorem holds_of_gives (gives : Gives origin text path value) {fuel : Nat}
    (h : readLines origin fuel {} text = some final) :
    ∃ setting, IsReadAs origin value setting ∧ Node.Holds setting path final.root.2 := by
  -- the line is read, and what it puts into the draft is kept to the end
  have ofLine {draft : Draft} {before first : List Char} {keys : List String} (more : List String)
      (reached : Reaches origin text draft before) (isEntry : keyAndValue? (skipLines before) = some (keys, first))
      (part : ∀ read rest, readValue origin depthLimit (first.length + 1) first = some (read, rest) →
        ∃ setting, IsReadAs origin value setting ∧ read.find? more = some setting) :
      ∃ setting, IsReadAs origin value setting ∧
        Node.Holds setting (draft.header ++ (keys ++ more)) final.root.2 := by
    obtain ⟨fuel, h⟩ := exists_readLines_of_reaches reached h
    cases fuel with
    | zero => cases h
    | succ fuel =>
      rw [readLines] at h
      split at h
      · next none =>
        rw [none] at isEntry
        cases isEntry
      · rw [readLine_of_entry isEntry] at h
        obtain ⟨⟨next, rest⟩, isLine, h⟩ := Option.bind_eq_some_iff.1 h
        obtain ⟨⟨read, left⟩, isValue, isLine⟩ := Option.bind_eq_some_iff.1 isLine
        obtain ⟨root, isRoot, isLine⟩ := Option.bind_eq_some_iff.1 isLine
        obtain ⟨rfl, -⟩ := Prod.mk.inj (Option.some.inj isLine)
        obtain ⟨after, -, h⟩ := Option.bind_eq_some_iff.1 h
        obtain ⟨setting, readAs, isPart⟩ := part _ _ isValue
        refine ⟨setting, readAs, holds_of_readLines h (Node.holds_of_within ?_ ?_ isRoot)⟩
        · intro held changed isPut
          exact Node.holds_of_put isPut isPart
        · exact fun none => ne_nil_of_entry isEntry (List.append_eq_nil_iff.1 none).1
  cases gives with
  | line reached isEntry =>
    have holds := ofLine [] reached isEntry fun read rest isValue => ⟨read, ⟨_, _, _, isValue⟩, rfl⟩
    rwa [List.append_nil] at holds
  | inline reached isEntry gives =>
    rw [List.append_assoc]
    refine ofLine _ reached isEntry fun read rest isValue => ?_
    obtain ⟨held, rfl, ⟨ends, rfl⟩ | ⟨-, isHeld⟩⟩ := exists_of_readValue_brace isValue
    · obtain ⟨keys, value, isEntry⟩ := gives.exists_entry
      obtain ⟨⟨parts, behind⟩, isKey, -⟩ := Option.bind_eq_some_iff.1 isEntry
      rw [ends, key_eq_none (.inr rfl)] at isKey
      cases isKey
    · obtain ⟨setting, readAs, holds⟩ := holds_of_givesInline gives isHeld
      refine ⟨setting, readAs, ?_⟩
      rw [Setting.find?, Setting.entries, find?_of_holds holds]
      rfl

/-- Every line leaves the names in order. -/
theorem Changes.keepsOrder {change : Node.Table → Option Node.Table} (changes : Changes origin change) :
    Node.KeepsOrder change := by
  cases changes with
  | item keys => exact Node.keepsOrder_openItem keys
  | table keys => exact Node.keepsOrder_openTable keys
  | entry isValue header keys =>
    have inOrder := (inOrder_of_read origin _).1 _ _ _ _ isValue
    exact Node.keepsOrder_within (Node.keepsOrder_put keys inOrder) header

theorem inOrder_of_readLines {fuel : Nat} (h : readLines origin fuel draft text = some final)
    (before : Node.InOrder (.table draft.root.1 draft.root.2)) :
    Node.InOrder (.table final.root.1 final.root.2) :=
  readLines_induction (P := fun root => Node.InOrder (.table root.1 root.2))
    (fun _ held changed changes => changes.keepsOrder held changed) h before

/-- The characters of a document, without a byte order mark at its start. -/
def documentChars (text : String) : List Char :=
  match text.toList with
  | '\ufeff' :: rest => rest
  | chars => chars

theorem exists_of_read? {text : String} {layer : List (String × Setting)} (h : read? origin text = some layer) :
    ∃ fuel draft, readLines origin fuel {} (documentChars text) = some draft ∧
      layer = Node.entriesOf origin draft.root.2 := by
  obtain ⟨draft, isDraft, h⟩ := Option.bind_eq_some_iff.1 h
  exact ⟨_, draft, isDraft, (Option.some.inj h).symm⟩

/-- Each name of a document stands once. -/
theorem exists_append_of_read? {text key : String} {layer : List (String × Setting)}
    (h : read? origin text = some layer) (found : Entries.find? key layer = some setting) :
    ∃ before after, layer = before ++ (key, setting) :: after ∧ ∀ entry ∈ after, entry.1 ≠ key := by
  obtain ⟨fuel, draft, isDraft, rfl⟩ := exists_of_read? h
  exact Entries.exists_append_of_find? ((inOrder_of_readLines isDraft (.empty .header)).entriesOf origin) found

/-- **Entries outside of sections.** What the value of such an entry is read as stands in the document, once. -/
theorem exists_append_of_gives_key {text key : String} {layer : List (String × Setting)}
    (h : read? origin text = some layer) (gives : Gives origin (documentChars text) [key] value) :
    ∃ setting before after, IsReadAs origin value setting ∧ layer = before ++ (key, setting) :: after ∧
      ∀ entry ∈ after, entry.1 ≠ key := by
  obtain ⟨fuel, draft, isDraft, isLayer⟩ := exists_of_read? h
  obtain ⟨setting, readAs, holds⟩ := holds_of_gives gives isDraft
  have found : Entries.find? key layer = some setting := isLayer ▸ find?_of_holds holds
  obtain ⟨before, after, same, absent⟩ := exists_append_of_read? h found
  exact ⟨setting, before, after, readAs, same, absent⟩

/-- **Entries of sections.** What the value of such an entry is read as stands in the section, and both the section
and its entry stand once. -/
theorem exists_append_of_gives {text : String} {layer entries : List (String × Setting)} {part name : String}
    {sectionOrigin : Origin} (h : read? origin text = some layer)
    (gives : Gives origin (documentChars text) [part, name] value)
    (isTable : Entries.find? part layer = some (.table entries sectionOrigin)) :
    (∃ before after, layer = before ++ (part, .table entries sectionOrigin) :: after ∧
      ∀ entry ∈ after, entry.1 ≠ part) ∧
    ∃ setting before after, IsReadAs origin value setting ∧ entries = before ++ (name, setting) :: after ∧
      ∀ entry ∈ after, entry.1 ≠ name := by
  have isSection := exists_append_of_read? h isTable
  obtain ⟨fuel, draft, isDraft, rfl⟩ := exists_of_read? h
  have inOrder := inOrder_of_readLines isDraft (.empty .header)
  obtain ⟨setting, readAs, holds⟩ := holds_of_gives gives isDraft
  have found := find?_of_holds_table holds isTable
  have ordered : Entries.Ordered entries := by
    rw [find?_entriesOf] at isTable
    obtain ⟨node, isNode, same⟩ := Option.map_eq_some_iff.1 isTable
    exact (inOrder.of_find? isNode).toSetting same
  obtain ⟨before, after, same, absent⟩ := Entries.exists_append_of_find? ordered found
  exact ⟨isSection, setting, before, after, readAs, same, absent⟩

end ServiceProbe.Config.Toml

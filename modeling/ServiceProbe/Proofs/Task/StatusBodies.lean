import ServiceProbe.Proofs.Text.Trimming
import ServiceProbe.Task.Snapshot

/-!
# Status bodies

Which JSON values tell the status of a task, and what they tell. A body has four fields (`StatusBody.FoundIn`): by
name, if it is an object, and by position, if it is an array; of these only the status has to be there. Its status is
a word that may have blanks around it and capital letters of ASCII in it (`Status.Spells`).

* `Status.parse_eq_ok_iff` — the words of a status;
* `StatusBody.decode_eq_ok_iff` — the bodies and what is found in them;
* `Snapshot.ofBody_accepts` — which bodies are snapshots, and why another one is not: the form of a body is looked at
  before its word.

For each decoder it is enough to know which values it takes, since decoding in sequence succeeds if each part does.
-/

namespace ServiceProbe

open Text (Padded isBlank)

/-! ### Words -/

namespace Status

/-- The word is a spelling of the status: blanks may stand around it, and the case of ASCII letters does not matter. -/
def Spells (word : String) (status : Status) : Prop :=
  ∃ core, Padded core word.toList ∧ String.ofList (Text.lowerAscii core) ∈ status.spellings

theorem mem_all (status : Status) : status ∈ all := by
  cases status <;> decide

/-- No spelling stands for two statuses. -/
theorem eq_of_mem_spellings {spelling : String} {status status' : Status} (h : spelling ∈ status.spellings)
    (h' : spelling ∈ status'.spellings) : status = status' := by
  have apart : ∀ status ∈ all, ∀ status' ∈ all, ∀ spelling ∈ status.spellings,
      spelling ∈ status'.spellings → status = status' := by decide
  exact apart status status.mem_all status' status'.mem_all spelling h h'

/-- There is no blank in a spelling. -/
theorem isBlank_of_mem_spellings {spelling : String} {status : Status} (h : spelling ∈ status.spellings) :
    ∀ c ∈ spelling.toList, isBlank c = false := by
  have solid : (all.all fun status => status.spellings.all fun spelling =>
      spelling.toList.all fun c => !isBlank c) = true := by decide
  intro c member
  have within := List.all_eq_true.1 (List.all_eq_true.1 solid status status.mem_all) spelling h
  exact Bool.not_eq_true' _ ▸ List.all_eq_true.1 within c member

/-- The word that is looked up is the core of a spelling. -/
theorem spells_iff {word : String} {status : Status} :
    Spells word status ↔ String.ofList (Text.lowerAscii (Text.trim word.toList)) ∈ status.spellings := by
  constructor
  · rintro ⟨core, padded, spelled⟩
    have solid : ∀ c ∈ Text.lowerAscii core, isBlank c = false := by
      have := isBlank_of_mem_spellings spelled
      rwa [String.toList_ofList] at this
    rwa [Text.trim_eq_iff.2 ⟨padded, Text.trimmed_of_lowerAscii solid⟩]
  · intro spelled
    exact ⟨_, Text.padded_trim word.toList, spelled⟩

theorem parse_cases (word : String) :
    (∃ status, parse word = .ok status) ∨ parse word = .error (.unknownStatus word) := by
  rw [parse]
  split
  · next status found => exact .inl ⟨status, rfl⟩
  · exact .inr rfl

/-- **The words of a status.** A word is read as the one status that it spells, if there is one. -/
theorem parse_eq_ok_iff {word : String} {status : Status} : parse word = .ok status ↔ Spells word status := by
  rw [spells_iff, parse]
  generalize String.ofList (Text.lowerAscii (Text.trim word.toList)) = spelling
  have spelled_of_find {found : Status}
      (isFound : all.find? (fun status => status.spellings.contains spelling) = some found) :
      spelling ∈ found.spellings := by
    have contains := List.find?_some isFound
    exact List.contains_iff_mem.1 contains
  constructor
  · intro parsed
    split at parsed
    · next found isFound =>
      cases parsed
      exact spelled_of_find isFound
    · cases parsed
  · intro spelled
    split
    · next found isFound =>
      -- the first status with this spelling is the only one
      rw [eq_of_mem_spellings spelled (spelled_of_find isFound)]
    · next none =>
      exact absurd (List.contains_iff_mem.2 spelled) (List.find?_eq_none.1 none status status.mem_all)

/-- A word that spells no status is the error itself. -/
theorem parse_eq_error_iff {word : String} {e : Error} :
    parse word = .error e ↔ e = .unknownStatus word ∧ ∀ status, ¬ Spells word status := by
  simp only [← parse_eq_ok_iff]
  rcases parse_cases word with ⟨status, parsed⟩ | refused
  · rw [parsed]
    exact iff_of_false nofun fun unknown => unknown.2 status rfl
  · rw [refused]
    exact ⟨fun same => ⟨(Except.error.inj same).symm, nofun⟩, fun ⟨same, _⟩ => congrArg _ same.symm⟩

/-- The words by which a status is shown and by which it is written are spellings of it. -/
theorem spells_names (status : Status) : Spells status.word status ∧ Spells status.jsonName status := by
  rw [spells_iff, spells_iff]
  cases status <;> decide

end Status

/-! ### Fields -/

namespace Decoder

variable {α : Type} {decode : Decoder α} {write : α → Json}

/-- The decoder takes what is written for a value, and nothing else. -/
def Takes (decode : Decoder α) (write : α → Json) : Prop :=
  ∀ value a, decode value = .ok a ↔ value = write a

/-- What stands at a place that may be left out says this: nothing and null say none, and a value says what it is
written for. -/
def Says (write : α → Json) (place : Option Json) : Option α → Prop
  | none => place = none ∨ place = some .null
  | some a => place = some (write a)

theorem takes_text : Takes text Json.string := by
  intro value s
  cases value with
  | string t => simp [text, eq_comm]
  | null | bool | number | array | object => exact iff_of_false nofun nofun

theorem takes_word64 : Takes word64 fun n => .number (.natural n) := by
  intro value n
  match value with
  | .number (.natural m) =>
    have read : word64 (.number (.natural m)) = .ok m := by
      have small : m.toNat < UInt64.size := m.toNat_lt
      simp [word64, naturalBelow, small, Except.map]
    rw [read]
    simp
  | .number (.negative _) | .number (.double _) => exact iff_of_false nofun nofun
  | .null | .bool _ | .string _ | .array _ | .object _ => exact iff_of_false nofun nofun

/-- Null stands for no value. -/
theorem orNull_eq_ok_iff (takes : Takes decode write) (notNull : ∀ a, write a ≠ .null) {value : Json}
    {a? : Option α} : orNull decode value = .ok a? ↔ Says write (some value) a? := by
  by_cases isNull : value = .null
  · subst isNull
    cases a? with
    | none => exact iff_of_true rfl (.inr rfl)
    | some a => exact iff_of_false nofun fun told => notNull a (Option.some.inj told).symm
  · -- what is not null is read as it is without that
    have read : orNull decode value = (decode value).map some := by
      cases value with
      | null => exact absurd rfl isNull
      | bool | number | string | array | object => rfl
    rw [read, map_eq_ok_iff]
    cases a? with
    | none => simp [Says, isNull]
    | some a => simp [Says, takes value]

section places

variable {members : Json.Members} {items : List Json} {name : String} {place : Nat}

/-- A member that may be missing, or be null. -/
theorem member_orNull_iff (takes : Takes decode write) (notNull : ∀ a, write a ≠ .null) {a? : Option α} :
    (∃ found, member members name (orNull decode) = .ok found ∧ found.join = a?) ↔
      Says write (Entries.find? name members) a? := by
  rw [member]
  cases Entries.find? name members with
  | none => cases a? <;> simp [Says]
  | some value =>
    rw [← orNull_eq_ok_iff takes notNull]
    constructor
    · rintro ⟨found, read, rfl⟩
      obtain ⟨a?, decoded, rfl⟩ := map_eq_ok_iff.1 read
      exact decoded
    · intro decoded
      exact ⟨some a?, map_eq_ok_iff.2 ⟨a?, decoded, rfl⟩, rfl⟩

/-- A member that has to be there. -/
theorem required_member_iff (takes : Takes decode write) {a : α} :
    (∃ found, member members name decode = .ok found ∧ required name found = .ok a) ↔
      Entries.find? name members = some (write a) := by
  rw [member]
  cases Entries.find? name members with
  | none => simp [required]
  | some value =>
    rw [Option.some.injEq, ← takes value a]
    constructor
    · rintro ⟨found, read, isThere⟩
      obtain ⟨b, decoded, rfl⟩ := map_eq_ok_iff.1 read
      rwa [← Except.ok.inj isThere]
    · intro decoded
      exact ⟨some a, map_eq_ok_iff.2 ⟨a, decoded, rfl⟩, rfl⟩

/-- An item that may be missing at the end, or be null. -/
theorem itemOr_orNull_eq_ok_iff (takes : Takes decode write) (notNull : ∀ a, write a ≠ .null) {a? : Option α} :
    itemOr none items place (orNull decode) = .ok a? ↔ Says write items[place]? a? := by
  rw [itemOr]
  cases items[place]? with
  | none => cases a? <;> simp [Says]
  | some value => exact orNull_eq_ok_iff takes notNull

/-- An item that has to be there. -/
theorem item_eq_ok_iff (takes : Takes decode write) {shape : Shape} {a : α} :
    item shape items place decode = .ok a ↔ items[place]? = some (write a) := by
  rw [item]
  cases items[place]? with
  | none => simp
  | some value => simp [takes value a]

end places

end Decoder

/-! ### Bodies -/

namespace StatusBody

/-- What stands at the four fields of a status body says this. -/
structure FieldsSay (status completed total error : Option Json) (parts : StatusBody) : Prop where
  status : status = some (.string parts.status)
  completed : Decoder.Says (fun n => .number (.natural n)) completed parts.completedTasks
  total : Decoder.Says (fun n => .number (.natural n)) total parts.totalTasks
  error : Decoder.Says Json.string error parts.error

/-- The value is a status body with these parts: an object, whatever else is in it, or an array of the fields in their
order, of which those at the end may be missing. -/
inductive FoundIn : Json → StatusBody → Prop where
  | object {members : Json.Members} {parts : StatusBody}
    (say : FieldsSay (Entries.find? "status" members) (Entries.find? "completed_tasks" members)
      (Entries.find? "total_tasks" members) (Entries.find? "error" members) parts) :
    FoundIn (.object members) parts
  | array {items : List Json} {parts : StatusBody} (few : items.length ≤ 4)
    (say : FieldsSay items[0]? items[1]? items[2]? items[3]? parts) : FoundIn (.array items) parts

section decode

open Decoder

/-- What is written for a number is not null. -/
private theorem number_ne_null (n : UInt64) : Json.number (.natural n) ≠ .null :=
  Json.noConfusion

private theorem string_ne_null (s : String) : Json.string s ≠ .null :=
  Json.noConfusion

theorem decode_object_eq_ok_iff {members : Json.Members} {parts : StatusBody} :
    decode (.object members) = .ok parts ↔ FoundIn (.object members) parts := by
  simp only [decode, record, bind_eq_ok_iff]
  constructor
  · rintro ⟨completed, isCompleted, error, isError, status, isStatus, total, isTotal, word, isWord, same⟩
    -- what the reader has found under each name is what the object says there
    cases same
    exact .object
      { status := (required_member_iff takes_text).1 ⟨status, isStatus, isWord⟩
        completed := (member_orNull_iff takes_word64 number_ne_null).1 ⟨completed, isCompleted, rfl⟩
        total := (member_orNull_iff takes_word64 number_ne_null).1 ⟨total, isTotal, rfl⟩
        error := (member_orNull_iff takes_text string_ne_null).1 ⟨error, isError, rfl⟩ }
  · intro found
    cases found with
    | object say =>
      obtain ⟨status, isStatus, isWord⟩ := (required_member_iff takes_text).2 say.status
      obtain ⟨completed, isCompleted, sameCompleted⟩ := (member_orNull_iff takes_word64 number_ne_null).2 say.completed
      obtain ⟨total, isTotal, sameTotal⟩ := (member_orNull_iff takes_word64 number_ne_null).2 say.total
      obtain ⟨error, isError, sameError⟩ := (member_orNull_iff takes_text string_ne_null).2 say.error
      refine ⟨completed, isCompleted, error, isError, status, isStatus, total, isTotal, parts.status, isWord, ?_⟩
      rw [sameCompleted, sameTotal, sameError]
      rfl

theorem decode_array_eq_ok_iff {items : List Json} {parts : StatusBody} :
    decode (.array items) = .ok parts ↔ FoundIn (.array items) parts := by
  simp only [decode, record, bind_eq_ok_iff, item_eq_ok_iff takes_text,
    itemOr_orNull_eq_ok_iff takes_word64 number_ne_null, itemOr_orNull_eq_ok_iff takes_text string_ne_null]
  constructor
  · rintro ⟨found, ⟨status, isStatus, completed, isCompleted, total, isTotal, error, isError, same⟩, few⟩
    cases same
    -- more items than parts are refused
    split at few
    · cases few
    · next few' =>
      cases few
      exact .array (Nat.not_lt.1 few') ⟨isStatus, isCompleted, isTotal, isError⟩
  · intro found
    cases found with
    | array few say =>
      refine ⟨parts, ⟨_, say.status, _, say.completed, _, say.total, _, say.error, rfl⟩, ?_⟩
      exact if_neg (Nat.not_lt.2 few)

/-- **The bodies.** A value is decoded as the parts that are found in it. -/
theorem decode_eq_ok_iff {value : Json} {parts : StatusBody} : decode value = .ok parts ↔ FoundIn value parts := by
  cases value with
  | object members => exact decode_object_eq_ok_iff
  | array items => exact decode_array_eq_ok_iff
  | null | bool | number | string => exact iff_of_false nofun nofun

end decode

end StatusBody

/-! ### Snapshots -/

namespace Snapshot

open StatusBody (FoundIn)

/-- A body that is decoded has a snapshot if its word spells a status. -/
theorem ofBody_of_foundIn {body : Json} {parts : StatusBody} (found : FoundIn body parts) :
    ofBody body = (Status.parse parts.status).map fun status =>
      { status
        completed := parts.completedTasks.getD 0
        total := parts.totalTasks.getD 0
        payload := body
        error := parts.error } := by
  rw [ofBody, StatusBody.decode_eq_ok_iff.2 found]
  dsimp only
  cases Status.parse parts.status <;> rfl

/-- A body is accepted if it is a status body whose word spells the status of the snapshot. -/
theorem ofBody_eq_ok_iff {body : Json} {snapshot : Snapshot} :
    ofBody body = .ok snapshot ↔
      ∃ parts, FoundIn body parts ∧ Status.Spells parts.status snapshot.status ∧
        snapshot.completed = parts.completedTasks.getD 0 ∧ snapshot.total = parts.totalTasks.getD 0 ∧
        snapshot.payload = body ∧ snapshot.error = parts.error := by
  constructor
  · intro accepted
    cases decoded : StatusBody.decode body with
    | error fault =>
      rw [ofBody, decoded] at accepted
      cases accepted
    | ok parts =>
      have found := StatusBody.decode_eq_ok_iff.1 decoded
      rw [ofBody_of_foundIn found] at accepted
      obtain ⟨status, parsed, rfl⟩ := map_eq_ok_iff.1 accepted
      exact ⟨parts, found, Status.parse_eq_ok_iff.1 parsed, rfl, rfl, rfl, rfl⟩
  · rintro ⟨parts, found, spelled, completed, total, payload, error⟩
    -- all of the snapshot but its status is said by the parts
    obtain ⟨status, _, _, _, _⟩ := snapshot
    cases completed
    cases total
    cases payload
    cases error
    rw [ofBody_of_foundIn found, Status.parse_eq_ok_iff.2 spelled]
    rfl

/-- Whether a value is a status body at all is looked at before its word. -/
theorem ofBody_eq_invalidResponse_iff {body : Json} :
    (∃ reason, ofBody body = .error (.invalidResponse "status" reason)) ↔ ∀ parts, ¬ FoundIn body parts := by
  constructor
  · rintro ⟨reason, refused⟩ parts found
    rw [ofBody_of_foundIn found] at refused
    rcases Status.parse_cases parts.status with ⟨status, parsed⟩ | unknown
    · rw [parsed] at refused
      cases refused
    · rw [unknown] at refused
      cases refused
  · intro none
    cases decoded : StatusBody.decode body with
    | error fault => exact ⟨fault.message, by rw [ofBody, decoded]⟩
    | ok parts => exact absurd (StatusBody.decode_eq_ok_iff.1 decoded) (none parts)

/-- A status body is refused for its word only if that spells no status. -/
theorem ofBody_eq_unknownStatus_iff {body : Json} {word : String} :
    ofBody body = .error (.unknownStatus word) ↔
      ∃ parts, FoundIn body parts ∧ parts.status = word ∧ ∀ status, ¬ Status.Spells word status := by
  constructor
  · intro refused
    cases decoded : StatusBody.decode body with
    | error fault =>
      rw [ofBody, decoded] at refused
      cases refused
    | ok parts =>
      have found := StatusBody.decode_eq_ok_iff.1 decoded
      rw [ofBody_of_foundIn found] at refused
      -- the parts are read, so only their word can be wrong
      rcases Status.parse_cases parts.status with ⟨status, parsed⟩ | unknown
      · rw [parsed] at refused
        cases refused
      · obtain ⟨-, none⟩ := Status.parse_eq_error_iff.1 unknown
        rw [unknown] at refused
        cases refused
        exact ⟨parts, found, rfl, none⟩
  · rintro ⟨parts, found, rfl, unknown⟩
    rw [ofBody_of_foundIn found, Status.parse_eq_error_iff.2 ⟨rfl, unknown⟩]
    rfl

/-- **Status bodies.** A value is accepted exactly if it is a status body whose word spells a status. The snapshot then
has that status, the counts, where one that is left out is zero, the error, and the whole value for its payload. A value
of another form is refused for its status field, whatever its word may be, and a status body with another word is
refused for that word, as it was sent. So the words by which a status is shown and by which it is written in JSON are
accepted for that status. -/
theorem ofBody_accepts (body : Json) :
    (∀ snapshot, ofBody body = .ok snapshot ↔
      ∃ parts, FoundIn body parts ∧ Status.Spells parts.status snapshot.status ∧
        snapshot.completed = parts.completedTasks.getD 0 ∧ snapshot.total = parts.totalTasks.getD 0 ∧
        snapshot.payload = body ∧ snapshot.error = parts.error) ∧
    ((∃ reason, ofBody body = .error (.invalidResponse "status" reason)) ↔ ∀ parts, ¬ FoundIn body parts) ∧
    (∀ word, ofBody body = .error (.unknownStatus word) ↔
      ∃ parts, FoundIn body parts ∧ parts.status = word ∧ ∀ status, ¬ Status.Spells word status) ∧
    ∀ status parts, FoundIn body parts → (parts.status = status.word ∨ .string parts.status = status.encode) →
      ∃ snapshot, ofBody body = .ok snapshot ∧ snapshot.status = status := by
  refine ⟨fun _ => ofBody_eq_ok_iff, ofBody_eq_invalidResponse_iff, fun _ => ofBody_eq_unknownStatus_iff, ?_⟩
  intro status parts found named
  have spelled : Status.Spells parts.status status := by
    rcases named with shown | written
    · rw [shown]
      exact status.spells_names.1
    · rw [Json.string.inj written]
      exact status.spells_names.2
  rw [ofBody_of_foundIn found, Status.parse_eq_ok_iff.2 spelled]
  exact ⟨_, rfl, rfl⟩

/-- A body with a count that is null, one that is left out and a member that means nothing here. -/
def namedTimedOut : Json :=
  .object [("completed_tasks", .null), ("error", .string "gave up"), ("id", .number (.natural 7)),
    ("status", .string "timed_out")]

/-- The name by which a status is written is another word than the one by which it is shown. -/
theorem ofBody_accepts_timed_out :
    FoundIn namedTimedOut { status := "timed_out", error := some "gave up" } ∧
      .string "timed_out" = Status.timedOut.encode ∧ "timed_out" ≠ Status.timedOut.word ∧
      ∃ snapshot, ofBody namedTimedOut = .ok snapshot ∧ snapshot.status = .timedOut ∧ snapshot.completed = 0 ∧
        snapshot.error = some "gave up" ∧ snapshot.payload = namedTimedOut := by
  have found : FoundIn namedTimedOut { status := "timed_out", error := some "gave up" } :=
    .object { status := rfl, completed := .inr rfl, total := .inl rfl, error := rfl }
  obtain ⟨accepted, -, -, names⟩ := ofBody_accepts namedTimedOut
  obtain ⟨snapshot, made, isStatus⟩ := names .timedOut _ found (.inr rfl)
  obtain ⟨parts, found', -, completed, -, payload, error⟩ := (accepted snapshot).1 made
  obtain rfl : parts = _ :=
    Except.ok.inj ((StatusBody.decode_eq_ok_iff.2 found').symm.trans (StatusBody.decode_eq_ok_iff.2 found))
  exact ⟨found, rfl, by decide, snapshot, made, isStatus, completed, error, payload⟩

end Snapshot

end ServiceProbe

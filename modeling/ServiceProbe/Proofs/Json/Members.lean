import ServiceProbe.Task.Request

/-!
# Reading what was written

A record is written as an object that has a member for each part which is there (`presentMembers`). A
decoder looks its parts up by name, so it is enough to know what it finds under each name.

* `Decoder.member_present`, `Decoder.member_optional`, `Decoder.member_absent` — a part that is always
  there, one that may be missing, and a name under which nothing is written;
* `Decoder.list_texts`, `Decoder.named_encode`, `Decoder.word32_encode` — lists of texts, tables and words
  are read as they were written.

All of it is stated for the list of parts, by any names, and not for one record.
-/

namespace ServiceProbe

/-! ### Members by name -/

/-- The members that are written for a list of parts. -/
def presentEntries (parts : List (String × Option Json)) : Json.Members :=
  Entries.collect (parts.filterMap fun (name, value?) => value?.map fun value => (name, value))

theorem presentMembers_eq (parts : List (String × Option Json)) :
    presentMembers parts = .object (presentEntries parts) := rfl

/-- The members are named as the parts are. -/
theorem names_present_sublist (parts : List (String × Option Json)) :
    ((parts.filterMap fun (name, value?) => value?.map fun value => (name, value)).map (·.1)).Sublist
      (parts.map (·.1)) := by
  induction parts with
  | nil => exact List.Sublist.refl _
  | cons part rest ih =>
    obtain ⟨name, _ | value⟩ := part
    · exact ih.cons name
    · exact ih.cons_cons name

/-- Under the name of a part there is the part, if it is written at all. -/
theorem find?_presentEntries {parts : List (String × Option Json)} (distinct : (parts.map (·.1)).Nodup)
    (name : String) : Entries.find? name (presentEntries parts) = (Entries.find? name parts).join := by
  rw [presentEntries, Entries.find?_collect (distinct.sublist (names_present_sublist parts))]
  induction parts with
  | nil => rfl
  | cons part rest ih =>
    obtain ⟨other, value?⟩ := part
    obtain ⟨absent, others⟩ := List.nodup_cons.1 distinct
    cases value? with
    | none =>
      -- a part that is not written hides no other, since no other has its name
      rw [List.filterMap_cons_none rfl, ih others, Entries.find?]
      by_cases same : other = name
      · subst same
        rw [if_pos rfl, Entries.find?_eq_none absent]
        rfl
      · rw [if_neg same]
    | some value =>
      change Entries.find? name ((other, value) :: rest.filterMap _) = _
      rw [Entries.find?, Entries.find?, ih others]
      split <;> rfl

namespace Decoder

variable {α : Type} {decode : Decoder α} {encode : α → Json} {parts : List (String × Option Json)}
  {name : String}

/-- A part that is written is found and decoded. -/
theorem member_present (encode : α → Json) (distinct : (parts.map (·.1)).Nodup) {value : α}
    (found : Entries.find? name parts = some (some (encode value)))
    (rereads : decode (encode value) = .ok value) :
    member (presentEntries parts) name decode = .ok (some value) := by
  rw [member, find?_presentEntries distinct, found]
  exact congrArg (Except.map some) rereads

/-- Under the name of no part nothing is found. -/
theorem member_absent (distinct : (parts.map (·.1)).Nodup) (absent : name ∉ parts.map (·.1)) :
    member (presentEntries parts) name decode = .ok none := by
  rw [member, find?_presentEntries distinct, Entries.find?_eq_none absent]
  rfl

/-- A part that may be missing is found if it is there. -/
theorem member_optional (distinct : (parts.map (·.1)).Nodup) {value? : Option α}
    (found : Entries.find? name parts = some (value?.map encode))
    (rereads : ∀ value, orNull decode (encode value) = .ok (some value)) :
    member (presentEntries parts) name (orNull decode) = .ok (value?.map some) := by
  rw [member, find?_presentEntries distinct, found]
  cases value? with
  | none => rfl
  | some value => exact congrArg (Except.map some) (rereads value)

/-! ### Parts -/

/-- Items that are each read as they were written are so as a list. -/
theorem mapM_encode {β : Type} {read : β → Decoded α} {write : α → β} {values : List α}
    (rereads : ∀ value ∈ values, read (write value) = .ok value) :
    (values.map write).mapM read = .ok values := by
  induction values with
  | nil => rfl
  | cons value rest ih =>
    obtain ⟨first, more⟩ := List.forall_mem_cons.1 rereads
    rw [List.map_cons, List.mapM_cons, first, ih more]
    rfl

theorem list_texts (texts : List String) : list text (encodeTexts texts) = .ok texts :=
  mapM_encode fun _ _ => rfl

private theorem mapM_entries (rereads : ∀ value, decode (encode value) = .ok value)
    (entries : List (String × α)) :
    (entries.map fun (name, value) => (name, encode value)).mapM
      (fun (name, value) => return (name, ← decode value)) = (.ok entries : Decoded _) := by
  refine mapM_encode fun entry _ => ?_
  change (do return (entry.1, ← decode (encode entry.2))) = _
  rw [rereads]
  rfl

/-- A table is read as it was written: its names are in order, so they stay so. -/
theorem named_encode (rereads : ∀ value, decode (encode value) = .ok value) (held : Named α) :
    named decode (Json.ofMembers (held.entries.map fun (name, value) => (name, encode value))) =
      .ok held := by
  have ordered : Entries.Ordered (held.entries.map fun (name, value) => (name, encode value)) :=
    List.pairwise_map.2 held.ordered
  rw [Json.ofMembers, Entries.collect_eq_self ordered]
  change (do return Named.ofList (← List.mapM _ _)) = _
  rw [mapM_entries rereads]
  exact congrArg Except.ok held.ofList_entries

/-- A word of 32 bits is read as it was written. -/
theorem word32_encode (n : UInt32) : word32 (encodeWord n) = .ok n := by
  have small : n.toNat < UInt32.size := n.toNat_lt
  have wide : (UInt64.ofNat n.toNat).toNat = n.toNat :=
    UInt64.toNat_ofNat_of_lt' (Nat.lt_trans small (by decide))
  change (if (UInt64.ofNat n.toNat).toNat < UInt32.size then Except.ok _ else _).map UInt32.ofNat = _
  rw [wide, if_pos small]
  exact congrArg Except.ok UInt32.ofNat_toNat

end Decoder

end ServiceProbe

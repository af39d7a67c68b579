import ServiceProbe.Json.Value

/-!
# What a body holds

Evidence is looked for in a body of any depth and of any types. `Json.IsEmpty` lists the values that are no
content, and `Json.at?` goes through the members of some names. A pointer whose parts are no indices does the
same (`Json.foldlM_child?_eq_at?`): an array on its way, or a scalar, ends it without a value.
-/

namespace ServiceProbe

namespace Json

/-- The values without content: null, false, the zeros, and the empty texts, arrays and objects. -/
inductive IsEmpty : Json → Prop where
  | null : IsEmpty .null
  | no : IsEmpty (.bool false)
  | natural : IsEmpty (.number (.natural 0))
  | negative : IsEmpty (.number (.negative 0))
  | zero : IsEmpty (.number (.double .zero))
  | negativeZero : IsEmpty (.number (.double .negativeZero))
  | text : IsEmpty (.string "")
  | array : IsEmpty (.array [])
  | object : IsEmpty (.object [])

end Json

/-- There are two zeros among the doubles. -/
theorem Number.Double.isZero_iff (x : Double) : x.isZero ↔ x = zero ∨ x = negativeZero := by
  constructor
  · intro none
    have none : x.bits.toNat % signBit = 0 := of_decide_eq_true none
    have bound := x.bits.toNat_lt
    -- nothing but the sign is left
    have sign : x.bits.toNat = 0 ∨ x.bits.toNat = signBit := by
      unfold signBit at *
      omega
    obtain ⟨bits⟩ := x
    refine sign.imp (fun positive => ?_) fun negative => ?_
    · exact congrArg Double.mk (UInt64.toNat_inj.1 positive)
    · exact congrArg Double.mk (UInt64.toNat_inj.1 negative)
  · rintro (rfl | rfl) <;> rfl

namespace Json

theorem isContentful_eq_false_iff (value : Json) : value.isContentful = false ↔ value.IsEmpty := by
  constructor
  · intro empty
    -- of each kind one value is empty, but of the doubles two
    match value with
    | null => exact .null
    | bool false => exact .no
    | string text =>
      obtain rfl : text = "" := by simpa [isContentful] using empty
      exact .text
    | array [] => exact .array
    | object [] => exact .object
    | number (.natural n) =>
      obtain rfl : n = 0 := by simpa [isContentful] using empty
      exact .natural
    | number (.negative n) =>
      obtain rfl : n = 0 := by simpa [isContentful] using empty
      exact .negative
    | number (.double x) =>
      have isZero : x.isZero := by simpa [isContentful] using empty
      obtain rfl | rfl := x.isZero_iff.1 isZero
      · exact .zero
      · exact .negativeZero
  · intro empty
    cases empty <;> rfl

/-- A value has content if it is not one of those that have none. -/
theorem isContentful_iff (value : Json) : value.isContentful ↔ ¬ value.IsEmpty := by
  rw [← isContentful_eq_false_iff, Bool.not_eq_false]

/-! ### Members of members -/

/-- The value that is reached through the members of these names, each a member of the one before. -/
def at? (names : List String) (value : Json) : Option Json :=
  names.foldlM (fun held name => held.member? name) value

/-- A value is reached through the members of these names, and has content. -/
def HasContentAt (names : List String) (value : Json) : Prop :=
  ∃ held, value.at? names = some held ∧ ¬ held.IsEmpty

/-- A part of a pointer that is no index leads nowhere but to a member. -/
theorem child?_eq_member? {name : String} (noIndex : index? name.toList = none) (value : Json) :
    value.child? name.toList = value.member? name := by
  cases value with
  | object members => rw [child?, String.ofList_toList, member?]
  | array items =>
    rw [child?, noIndex]
    rfl
  | null | bool | number | string => rfl

/-- A pointer whose parts are no indices goes through members. -/
theorem foldlM_child?_eq_at? (names : List String)
    (noIndices : ∀ name ∈ names, index? name.toList = none) (value : Json) :
    names.foldlM (fun held name => held.child? name.toList) value = value.at? names := by
  unfold at?
  induction names generalizing value with
  | nil => rfl
  | cons name names ih =>
    obtain ⟨noIndex, noIndices⟩ := List.forall_mem_cons.1 noIndices
    rw [List.foldlM_cons, List.foldlM_cons, child?_eq_member? noIndex]
    exact congrArg _ (funext (ih noIndices))

/-- A name under which an object has a value is the name of a member. -/
theorem isSome_member?_iff (name : String) (value : Json) :
    (value.member? name).isSome ↔ ∃ members, value = .object members ∧ name ∈ members.map (·.1) := by
  constructor
  · intro found
    cases value with
    | object members =>
      refine ⟨members, rfl, Decidable.of_not_not fun absent => ?_⟩
      rw [member?, Entries.find?_eq_none absent] at found
      cases found
    | null | bool | number | string | array => cases found
  · rintro ⟨members, rfl, among⟩
    rw [member?]
    -- the name is that of the first member or stands further on
    induction members with
    | nil => exact absurd among List.not_mem_nil
    | cons member rest ih =>
      obtain ⟨other, held⟩ := member
      rw [Entries.find?]
      split
      · rfl
      · next different =>
        exact ih ((List.mem_cons.1 among).resolve_left fun same => different same.symm)

end Json

end ServiceProbe

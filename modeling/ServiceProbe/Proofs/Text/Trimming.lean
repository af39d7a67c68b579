import ServiceProbe.Text.Blank

/-!
# Texts with blanks around them and words before them

A text is padded if there are blanks around its core (`Text.Padded`). Trimming finds the one core that neither begins
nor ends with a blank (`Text.trim_eq_iff`). Capital letters are no blanks, so that a core whose small letters make a
word without blanks is such a core (`Text.trimmed_of_lowerAscii`).

A text is headed by a word if copies of the word stand before the rest (`Text.Headed`). There may be many such rests,
and dropping the word finds the one that does not begin with a further copy (`Text.dropLeading_eq_iff`).
-/

namespace ServiceProbe.Text

variable {text core before after : List Char}

/-- The text is the core with blanks before and after it, if with any. -/
def Padded (core text : List Char) : Prop :=
  ∃ before after, text = before ++ (core ++ after) ∧ (∀ c ∈ before, isBlank c = true) ∧
    ∀ c ∈ after, isBlank c = true

/-- The text has no blank at its ends. -/
structure Trimmed (text : List Char) : Prop where
  first : ∀ c, text.head? = some c → isBlank c = false
  last : ∀ c, text.getLast? = some c → isBlank c = false

/-! ### Blanks at one end -/

theorem trimStart_append (blank : ∀ c ∈ before, isBlank c = true) :
    trimStart (before ++ text) = trimStart text :=
  List.dropWhile_append_of_pos blank

theorem trimEnd_append (blank : ∀ c ∈ after, isBlank c = true) : trimEnd (text ++ after) = trimEnd text := by
  have reversed : ∀ c ∈ after.reverse, isBlank c = true := fun c member => blank c (List.mem_reverse.1 member)
  rw [trimEnd, List.reverse_append, List.dropWhile_append_of_pos reversed, trimEnd]

theorem trimStart_eq_self (first : ∀ c, text.head? = some c → isBlank c = false) : trimStart text = text := by
  cases text with
  | nil => rfl
  | cons c rest => exact List.dropWhile_cons_of_neg (by rw [first c rfl]; exact Bool.false_ne_true)

theorem trimEnd_eq_self (last : ∀ c, text.getLast? = some c → isBlank c = false) : trimEnd text = text := by
  have reversed : text.reverse.dropWhile isBlank = text.reverse :=
    trimStart_eq_self fun c isFirst => last c (List.head?_reverse ▸ isFirst)
  rw [trimEnd, reversed, List.reverse_reverse]

theorem exists_trimStart (text : List Char) :
    ∃ before, text = before ++ trimStart text ∧ ∀ c ∈ before, isBlank c = true :=
  ⟨_, List.takeWhile_append_dropWhile.symm, List.all_eq_true.1 List.all_takeWhile⟩

theorem exists_trimEnd (text : List Char) :
    ∃ after, text = trimEnd text ++ after ∧ ∀ c ∈ after, isBlank c = true := by
  obtain ⟨before, whole, blank⟩ := exists_trimStart text.reverse
  refine ⟨before.reverse, ?_, fun c member => blank c (List.mem_reverse.1 member)⟩
  rw [trimEnd, ← List.reverse_append, ← trimStart, ← whole, List.reverse_reverse]

/-! ### Blanks at both ends -/

theorem padded_trim (text : List Char) : Padded (trim text) text := by
  obtain ⟨before, whole, blankBefore⟩ := exists_trimStart text
  obtain ⟨after, rest, blankAfter⟩ := exists_trimEnd (trimStart text)
  exact ⟨before, after, by rw [trim, ← rest, ← whole], blankBefore, blankAfter⟩

theorem trimmed_trim (text : List Char) : Trimmed (trim text) := by
  refine ⟨fun c isFirst => ?_, fun c isLast => getLast?_trimEnd isLast⟩
  -- what is trimmed at the end too begins as before, unless nothing is left
  obtain ⟨after, rest, -⟩ := exists_trimEnd (trimStart text)
  refine @head?_trimStart text c ?_
  rw [rest, List.head?_append, ← trim, isFirst]
  rfl

/-- **Trimming.** It finds the core of a text, which has no blank at its ends. -/
theorem trim_eq_iff : trim text = core ↔ Padded core text ∧ Trimmed core := by
  constructor
  · rintro rfl
    exact ⟨padded_trim text, trimmed_trim text⟩
  · rintro ⟨⟨before, after, rfl, blankBefore, blankAfter⟩, trimmed⟩
    rw [trim, trimStart_append blankBefore]
    cases core with
    | nil => rw [List.nil_append, ← List.append_nil after, trimStart_append blankAfter]; rfl
    | cons c rest =>
      have begins : trimStart (c :: rest ++ after) = c :: rest ++ after := trimStart_eq_self trimmed.first
      rw [begins, trimEnd_append blankAfter, trimEnd_eq_self trimmed.last]

/-- A text without any blank has none at its ends. -/
theorem trimmed_of_solid (solid : ∀ c ∈ text, isBlank c = false) : Trimmed text :=
  ⟨fun c isFirst => solid c (List.mem_of_head? isFirst), fun c isLast => solid c (List.mem_of_getLast? isLast)⟩

/-! ### Small letters -/

/-- A blank is no capital letter. -/
theorem toLower_of_isBlank {c : Char} (blank : isBlank c = true) : c.toLower = c := by
  refine toLower_of_toNat fun capital => ?_
  obtain ⟨⟨low, high⟩, among, within⟩ := List.any_eq_true.1 blank
  have apart : ∀ run ∈ blankRanges, run.2 < 65 ∨ 90 < run.1 := by decide
  have := apart _ among
  simp only [Bool.and_eq_true, decide_eq_true_eq] at within
  omega

/-- A text without blanks in small letters has none as it is. -/
theorem trimmed_of_lowerAscii (solid : ∀ c ∈ lowerAscii text, isBlank c = false) : Trimmed text := by
  refine trimmed_of_solid fun c member => ?_
  cases blank : isBlank c with
  | false => rfl
  | true =>
    have lowered := solid c.toLower (List.mem_map_of_mem member)
    rw [toLower_of_isBlank blank, blank] at lowered
    exact lowered

/-! ### Words at the start -/

section Leading

variable {word rest : List Char}

/-- The text is the rest with copies of the word before it, if with any. -/
def Headed (word rest text : List Char) : Prop :=
  ∃ copies, text = (List.replicate copies word).flatten ++ rest

theorem Headed.refl (word text : List Char) : Headed word text text :=
  ⟨0, rfl⟩

/-- One more copy. -/
theorem Headed.append (headed : Headed word rest text) : Headed word rest (word ++ text) := by
  obtain ⟨copies, rfl⟩ := headed
  exact ⟨copies + 1, by rw [List.replicate_succ, List.flatten_cons, List.append_assoc]⟩

theorem Headed.mem {c : Char} (headed : Headed word rest text) (member : c ∈ text) : c ∈ word ∨ c ∈ rest := by
  obtain ⟨copies, rfl⟩ := headed
  refine (List.mem_append.1 member).imp_left fun inCopies => ?_
  obtain ⟨copy, isCopy, inCopy⟩ := List.mem_flatten.1 inCopies
  rwa [List.eq_of_mem_replicate isCopy] at inCopy

theorem dropLeading_append (isWord : word ≠ []) : dropLeading word (word ++ text) = dropLeading word text := by
  have notEmpty : word.isEmpty = false := List.isEmpty_eq_false_iff.2 isWord
  have follows : after? word (word ++ text) = some text := after?_eq_some_iff.2 rfl
  have shorter : text.length < (word ++ text).length := by
    rw [List.length_append]
    exact Nat.lt_add_of_pos_left (List.length_pos_iff.2 isWord)
  rw [dropLeading, notEmpty, follows]
  exact if_pos shorter

theorem dropLeading_eq_self (ends : ¬ word <+: text) : dropLeading word text = text := by
  have none : after? word text = none := by
    refine Option.eq_none_iff_forall_not_mem.2 fun rest follows => ends ⟨rest, ?_⟩
    exact (after?_eq_some_iff.1 follows).symm
  rw [dropLeading, none]
  exact ite_self text

/-- **Dropping a word.** It drops copies of the word, and as many that no further one follows. -/
theorem dropLeading_eq_iff (isWord : word ≠ []) :
    dropLeading word text = rest ↔ Headed word rest text ∧ ¬ word <+: rest := by
  constructor
  · rintro rfl
    fun_induction dropLeading word text with
    | case1 text empty => exact absurd (List.isEmpty_iff.1 empty) isWord
    | case2 text notEmpty rest follows shorter ih =>
      rw [after?_eq_some_iff.1 follows]
      exact ⟨ih.1.append, ih.2⟩
    | case3 text notEmpty rest follows longer =>
      -- a word that is dropped makes the text shorter
      rw [after?_eq_some_iff.1 follows, List.length_append] at longer
      exact absurd (Nat.lt_add_of_pos_left (List.length_pos_iff.2 isWord)) longer
    | case4 text notEmpty none =>
      refine ⟨.refl word text, ?_⟩
      rintro ⟨rest, rfl⟩
      rw [after?_eq_some_iff.2 rfl] at none
      cases none
  · rintro ⟨⟨copies, rfl⟩, ends⟩
    induction copies with
    | zero => exact dropLeading_eq_self ends
    | succ copies ih => rw [List.replicate_succ, List.flatten_cons, List.append_assoc, dropLeading_append isWord, ih]

end Leading

end ServiceProbe.Text

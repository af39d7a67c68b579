import Mathlib.Data.Bool.AllAny
import Mathlib.Data.List.DropRight
import ServiceProbe.Url.Reading

/-!
# Where a text is cut

Reading a URL cuts its text at marks. Cutting undoes putting together: a text is cut at a mark where it was put,
if what stands before it (for the last mark, what stands behind it) has no such mark, and a text of parts is cut
into its parts if none of them has the separator (`splitBy_append_flatMap`).

What reading drops can only be behind the sound beginning of a URL (`clean_append_cons`, `cleanEnd_append_cons`).
-/

namespace ServiceProbe.Url

/-! ### At a mark -/

section marks

variable {stop : Char → Bool} {mark c : Char} {text before after : List Char}

theorem cutAt_append_cons (outside : ∀ d ∈ before, stop d = false) (stops : stop c) :
    cutAt stop (before ++ c :: after) = (before, c :: after) := by
  have all : ∀ d ∈ before, (!stop d) = true := fun d hd => by rw [outside d hd]; rfl
  rw [cutAt, List.takeWhile_append_of_pos all, List.dropWhile_append_of_pos all,
    List.takeWhile_cons_of_neg (by simp [stops]), List.dropWhile_cons_of_neg (by simp [stops]),
    List.append_nil]

theorem cutAt_of_none (outside : ∀ d ∈ text, stop d = false) : cutAt stop text = (text, []) := by
  have all : ∀ d ∈ text, (!stop d) = true := fun d hd => by rw [outside d hd]; rfl
  rw [cutAt, List.takeWhile_eq_self_iff.2 all, List.dropWhile_eq_nil_iff.2 all]

theorem splitAtMark_append_cons (outside : mark ∉ before) :
    splitAtMark mark (before ++ mark :: after) = (before, some after) := by
  have all : ∀ d ∈ before, decide (d = mark) = false :=
    fun d hd => decide_eq_false fun same => outside (same ▸ hd)
  rw [splitAtMark, cutAt_append_cons all (decide_eq_true rfl)]

theorem splitAtMark_of_not_mem (outside : mark ∉ text) : splitAtMark mark text = (text, none) := by
  have all : ∀ d ∈ text, decide (d = mark) = false :=
    fun d hd => decide_eq_false fun same => outside (same ▸ hd)
  rw [splitAtMark, cutAt_of_none all]

/-- What stands before the first mark may be longer. -/
theorem splitAtMark_append (outside : mark ∉ before) (text : List Char) :
    splitAtMark mark (before ++ text) = (before ++ (splitAtMark mark text).1, (splitAtMark mark text).2) := by
  by_cases member : mark ∈ text
  · obtain ⟨front, after, rfl, outside'⟩ := List.eq_append_cons_of_mem member
    have both : mark ∉ before ++ front := fun h => (List.mem_append.1 h).elim outside outside'
    rw [← List.append_assoc, splitAtMark_append_cons both, splitAtMark_append_cons outside']
  · have both : mark ∉ before ++ text := fun h => (List.mem_append.1 h).elim outside member
    rw [splitAtMark_of_not_mem both, splitAtMark_of_not_mem member]

/-- There is a text after a mark exactly if there is a mark. -/
theorem splitAtMark_snd_eq_none_iff : (splitAtMark mark text).2 = none ↔ mark ∉ text := by
  constructor
  · intro none member
    obtain ⟨before, after, same, outside⟩ := List.eq_append_cons_of_mem member
    rw [same, splitAtMark_append_cons outside] at none
    exact Option.some_ne_none after none
  · intro outside
    rw [splitAtMark_of_not_mem outside]

theorem splitAtLast?_append_cons (outside : mark ∉ after) :
    splitAtLast? mark (before ++ mark :: after) = some (before, after) := by
  have reversed : (before ++ mark :: after).reverse = after.reverse ++ mark :: before.reverse := by
    simp
  rw [splitAtLast?, reversed, splitAtMark_append_cons (by simpa using outside)]
  simp

theorem splitAtLast?_of_not_mem (outside : mark ∉ text) : splitAtLast? mark text = none := by
  rw [splitAtLast?, splitAtMark_of_not_mem (by simpa using outside)]

end marks

/-! ### Into parts -/

section parts

variable {separates : Char → Bool} {c : Char} {text : List Char}

theorem splitBy_eq_splitOnP (text : List Char) : splitBy separates text = text.splitOnP separates := by
  induction text with
  | nil => rfl
  | cons c text ih =>
    rw [splitBy, List.splitOnP_cons_eq_if_modifyHead, ih]
    split
    · rfl
    · split
      · next none => exact absurd none (List.splitOnP_ne_nil _ _)
      · next same => rw [same, List.modifyHead_cons]

/-- Names are cut at points in the same way as paths at slashes. -/
theorem splitOn_eq_splitBy (separator : Char) (text : List Char) :
    Text.splitOn separator text = splitBy (· == separator) text := by
  induction text with
  | nil => rfl
  | cons c text ih =>
    -- both look at the parts of the rest, to put the character before the first of them
    cases parts : splitBy (· == separator) text with
    | nil => simp only [Text.splitOn, splitBy, ih, parts, beq_iff_eq]
    | cons part rest => simp only [Text.splitOn, splitBy, ih, parts, beq_iff_eq]

theorem splitOn_eq_splitOn (separator : Char) (text : List Char) :
    Text.splitOn separator text = text.splitOn separator := by
  rw [splitOn_eq_splitBy, splitBy_eq_splitOnP, List.splitOn_eq_splitOnP]

/-- Parts with a separator between them have no other characters. -/
theorem of_mem_intercalate {separator d : Char} {parts : List (List Char)}
    (member : d ∈ [separator].intercalate parts) : d = separator ∨ ∃ part ∈ parts, d ∈ part := by
  induction parts with
  | nil => exact absurd member List.not_mem_nil
  | cons part parts ih =>
    match parts with
    | [] =>
      rw [List.intercalate_singleton] at member
      exact .inr ⟨part, List.mem_cons_self, member⟩
    | second :: parts =>
      rw [List.intercalate_cons_cons, List.mem_append, List.mem_append, List.mem_singleton] at member
      rcases member with (inside | isSeparator) | later
      · exact .inr ⟨part, List.mem_cons_self, inside⟩
      · exact .inl isSeparator
      · exact (ih later).imp_right fun ⟨other, among, inside⟩ =>
          ⟨other, List.mem_cons_of_mem part among, inside⟩

theorem toList_joinWith (separator : Char) (parts : List (List Char)) :
    (Text.joinWith (String.singleton separator) (parts.map String.ofList)).toList =
      [separator].intercalate parts := by
  rw [Text.joinWith, String.toList_intercalate, List.map_map]
  simp [Function.comp_def]

theorem splitBy_ne_nil (separates : Char → Bool) (text : List Char) : splitBy separates text ≠ [] := by
  rw [splitBy_eq_splitOnP]
  exact List.splitOnP_ne_nil _ _

theorem splitBy_append_cons (before after : List Char) (isSeparator : separates c) :
    splitBy separates (before ++ c :: after) = splitBy separates before ++ splitBy separates after := by
  rw [splitBy_eq_splitOnP, splitBy_eq_splitOnP, splitBy_eq_splitOnP,
    List.splitOnP_append_cons before after isSeparator]

/-- **Parts come apart.** A part and further parts, each behind a separator, are cut into the parts. -/
theorem splitBy_append_flatMap {first : List Char} {more : List (List Char)} (isSeparator : separates c)
    (none : ∀ part ∈ first :: more, ∀ d ∈ part, separates d = false) :
    splitBy separates (first ++ more.flatMap (c :: ·)) = first :: more := by
  induction more generalizing first with
  | nil =>
    rw [List.flatMap_nil, List.append_nil, splitBy_eq_splitOnP]
    exact List.splitOnP_eq_singleton (none first List.mem_cons_self)
  | cons second more ih =>
    obtain ⟨noneFirst, noneMore⟩ := List.forall_mem_cons.1 none
    rw [List.flatMap_cons, List.cons_append, splitBy_append_cons _ _ isSeparator, ih noneMore,
      splitBy_eq_splitOnP, List.splitOnP_eq_singleton noneFirst]
    rfl

/-- A part has characters of the text, and no separators. -/
theorem of_mem_splitBy {part : List Char} (member : part ∈ splitBy separates text) {d : Char}
    (inside : d ∈ part) : d ∈ text ∧ separates d = false := by
  induction text generalizing part with
  | nil =>
    rw [List.mem_singleton.1 member] at inside
    exact absurd inside List.not_mem_nil
  | cons c text ih =>
    have later : ∀ part ∈ splitBy separates text, d ∈ part → d ∈ c :: text ∧ separates d = false :=
      fun part member inside => (ih member inside).imp_left (List.mem_cons_of_mem c)
    rw [splitBy] at member
    split at member
    · rcases List.mem_cons.1 member with rfl | member
      · exact absurd inside List.not_mem_nil
      · exact later part member inside
    · next isPlain =>
      split at member
      · next none => exact absurd none (splitBy_ne_nil separates text)
      · next first parts same =>
        rw [same] at later
        rcases List.mem_cons.1 member with rfl | member
        · rcases List.mem_cons.1 inside with rfl | inside
          · exact ⟨List.mem_cons_self, by simpa using isPlain⟩
          · exact later first List.mem_cons_self inside
        · exact later part (List.mem_cons_of_mem first member) inside

/-- The last part is the end of the text. -/
theorem exists_getLast?_splitBy (separates : Char → Bool) (text : List Char) :
    ∃ last, (splitBy separates text).getLast? = some last ∧ last <:+ text := by
  by_cases parted : ∃ c ∈ text, separates c
  · -- the last part of the text is the last one of what stands behind any separator
    obtain ⟨c, member, isSeparator⟩ := parted
    obtain ⟨before, after, rfl⟩ := List.append_of_mem member
    obtain ⟨last, isLast, ends⟩ := exists_getLast?_splitBy separates after
    refine ⟨last, ?_, ends.trans ((List.suffix_cons c after).trans (List.suffix_append before _))⟩
    rw [splitBy_append_cons before after isSeparator, List.getLast?_append, isLast]
    rfl
  · have whole : splitBy separates text = [text] := by
      rw [splitBy_eq_splitOnP]
      exact List.splitOnP_eq_singleton fun c hc => Bool.eq_false_iff.2 fun h => parted ⟨c, hc, h⟩
    exact ⟨text, by rw [whole]; rfl, List.suffix_rfl⟩
termination_by text.length
decreasing_by
  subst_vars
  rw [List.length_append, List.length_cons]
  omega

end parts

/-! ### What is dropped -/

section ends

variable {before after : List Char} {c : Char}

theorem rdropWhile_append_cons {α : Type} {p : α → Bool} {a : α} (before after : List α) (stays : p a = false) :
    (before ++ a :: after).rdropWhile p = before ++ a :: after.rdropWhile p := by
  induction after using List.reverseRecOn with
  | nil =>
    rw [List.rdropWhile_nil]
    exact List.rdropWhile_concat_neg p before a (by simp [stays])
  | append_singleton after b ih =>
    rw [← List.cons_append, ← List.append_assoc, List.rdropWhile_concat, List.rdropWhile_concat, ih]
    split <;> simp

/-- What cleaning leaves of the end of a text. -/
def cleanEnd (text : List Char) : List Char :=
  (text.rdropWhile isEdge).filter (!isIgnored ·)

theorem isIgnored_of_not_isEdge (sound : isEdge c = false) : isIgnored c = false := by
  rw [isIgnored, decide_eq_false_iff_not]
  intro member
  have edge : ∀ d ∈ ['\t', '\n', '\x0d'], isEdge d = true := List.all_iff_forall_prop.1 (by decide)
  rw [edge c member] at sound
  exact Bool.noConfusion sound

theorem keep_of_not_isEdge (sound : isEdge c = false) : (!isIgnored c) = true := by
  rw [isIgnored_of_not_isEdge sound]
  rfl

/-- **The beginning of a text is kept** by cleaning its end if there is nothing to clean in it. -/
theorem cleanEnd_append_cons (sound : ∀ d ∈ before, isEdge d = false) (stays : isEdge c = false) :
    cleanEnd (before ++ c :: after) = before ++ c :: cleanEnd after := by
  have kept : before.filter (!isIgnored ·) = before :=
    List.filter_eq_self.2 fun d hd => keep_of_not_isEdge (sound d hd)
  rw [cleanEnd, rdropWhile_append_cons before after stays, List.filter_append, kept, List.filter_cons,
    if_pos (keep_of_not_isEdge stays), cleanEnd]

/-- Nothing is dropped at the start of a text that begins soundly. -/
theorem clean_append_cons (sound : ∀ d ∈ before, isEdge d = false) (stays : isEdge c = false) :
    clean (before ++ c :: after) = before ++ c :: cleanEnd after := by
  -- the text begins with a character that stays, be it the first one of `before` or `c` itself
  have start : (before ++ c :: after).dropWhile isEdge = before ++ c :: after := by
    cases before with
    | nil => rw [List.nil_append, List.dropWhile_cons_of_neg (by simp [stays])]
    | cons d before =>
      rw [List.cons_append, List.dropWhile_cons_of_neg (by simp [sound d List.mem_cons_self])]
  rw [clean, trim, start]
  exact cleanEnd_append_cons sound stays

/-- What is left of a text stood there in the same order. -/
theorem cleanEnd_sublist (text : List Char) : (cleanEnd text).Sublist text :=
  List.filter_sublist.trans (List.rdropWhile_prefix _ _).sublist

/-- A text is kept whole exactly if there is nothing to clean in it and at its end. -/
theorem cleanEnd_eq_self_iff {text : List Char} :
    cleanEnd text = text ↔
      (∀ d ∈ text, isIgnored d = false) ∧ ∀ d, text.getLast? = some d → isEdge d = false := by
  constructor
  · intro kept
    -- dropping and filtering only make shorter, so each of them left the text as it was
    have whole : text.rdropWhile isEdge = text := by
      have sub : text.Sublist (text.rdropWhile isEdge) := by
        rw [cleanEnd] at kept
        nth_rewrite 1 [← kept]
        exact List.filter_sublist
      exact (List.rdropWhile_prefix _ _).sublist.antisymm sub
    constructor
    · intro d member
      rw [← kept] at member
      simpa using (List.mem_filter.1 member).2
    · intro d isLast
      have nonempty : text ≠ [] := List.ne_nil_of_mem (List.mem_of_getLast? isLast)
      have stays := List.rdropWhile_eq_self_iff.1 whole nonempty
      rw [List.getLast?_eq_some_getLast nonempty] at isLast
      rw [Option.some.inj isLast] at stays
      exact Bool.eq_false_iff.2 stays
  · rintro ⟨sound, ends⟩
    have whole : text.rdropWhile isEdge = text := by
      rw [List.rdropWhile_eq_self_iff]
      intro nonempty edge
      rw [ends _ (List.getLast?_eq_some_getLast nonempty)] at edge
      exact Bool.false_ne_true edge
    rw [cleanEnd, whole, List.filter_eq_self]
    exact fun d member => by rw [sound d member]; rfl

end ends

end ServiceProbe.Url

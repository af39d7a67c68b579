import Mathlib.Data.List.Basic
import Mathlib.Tactic.Ring
import ServiceProbe.Url.Punycode

/-!
# Labels are read back from ASCII

A label that was written in ASCII is read back as it was (`decode?_encode`). The writer goes over the whole
label once for every code point beyond ASCII and counts what it passes; the reader knows only the characters put
in so far. The two are tied by what they have in common while the writer stands somewhere in the label:

* the reader has the characters below the code point of this round from the whole label, and the ones with that
  code point from the part that the writer is through with;
* the numbers written so far lead the reader there, whatever follows them (`Leads`);
* the number under way makes up the difference between the places of the two (`InStep.place`).

Each character that the writer visits keeps them in step (`InStep.visit`), and so do whole rounds
(`InStep.foldl`, `InStep.putIn`). Conversely, nothing can be read from a text that is not in ASCII
(`ascii_of_decode?`).
-/

namespace ServiceProbe.Url.Punycode

/-! ### Numbers -/

theorem threshold_le (bias weight : Nat) : threshold bias weight ≤ 26 :=
  Nat.min_le_left _ _

theorem valueOf?_digit : ∀ n < 36, valueOf? (digit n) = some n := by
  decide

/-- **A number is read back**, counting from the place it was written for, and what follows it is left. -/
theorem number?_number (bias weight unit n : Nat) (rest : List Char) :
    number? bias weight unit (number bias weight n ++ rest) = some (n * unit, rest) := by
  -- the weight and the unit change from digit to digit, and the rest is what makes the induction go through
  induction n using Nat.strongRecOn generalizing weight unit with
  | ind n ih =>
    have positive := threshold_pos bias weight
    have small := threshold_le bias weight
    rw [number]
    split
    · next last =>
      rw [List.singleton_append, number?, valueOf?_digit n (by omega)]
      simp [last]
    · next more =>
      set t := threshold bias weight with ht
      have remainder : (n - t) % (36 - t) < 36 - t := Nat.mod_lt _ (by omega)
      have quotient : (n - t) / (36 - t) ≤ n - t := Nat.div_le_self _ _
      have value := valueOf?_digit (t + (n - t) % (36 - t)) (by omega)
      -- the first digit and what is left make up the number again
      have sum : t + (n - t) % (36 - t) + (36 - t) * ((n - t) / (36 - t)) = n := by
        have parts := Nat.mod_add_div (n - t) (36 - t)
        omega
      rw [List.cons_append, number?, value]
      simp only [Option.bind_eq_bind, Option.bind_some, ← ht]
      rw [if_neg (by omega), ih _ (by omega)]
      simp only [Option.bind_some, Option.pure_def]
      congr 2
      calc (t + (n - t) % (36 - t)) * unit + (n - t) / (36 - t) * (unit * (36 - t))
          = (t + (n - t) % (36 - t) + (36 - t) * ((n - t) / (36 - t))) * unit := by ring
        _ = n * unit := by rw [sum]

theorem number_ne_nil (bias weight n : Nat) : number bias weight n ≠ [] := by
  rw [number]
  split <;> exact List.cons_ne_nil _ _

/-- A character by which numbers are written. -/
def IsDigit (c : Char) : Prop :=
  ∃ n < 36, c = digit n

theorem isDigit_of_mem_number {bias weight n : Nat} {c : Char} (written : c ∈ number bias weight n) :
    IsDigit c := by
  induction n using Nat.strongRecOn generalizing weight with
  | ind n ih =>
    have positive := threshold_pos bias weight
    have small := threshold_le bias weight
    rw [number] at written
    split at written
    · next last => exact ⟨n, by omega, List.mem_singleton.1 written⟩
    · -- the first digit is a remainder, and what is left is a smaller number
      next more =>
      have remainder : (n - threshold bias weight) % (36 - threshold bias weight) <
          36 - threshold bias weight := Nat.mod_lt _ (by omega)
      have quotient : (n - threshold bias weight) / (36 - threshold bias weight) ≤
          n - threshold bias weight := Nat.div_le_self _ _
      rcases List.mem_cons.1 written with rfl | later
      · exact ⟨_, by omega, rfl⟩
      · exact ih _ (by omega) later

/-! ### Where the reader is led -/

/-- What was written so far is taken up from `start` to `reading`, whatever follows. -/
def Leads (start : Reading) (written : List Char) (reading : Reading) : Prop :=
  ∀ rest fuel, (written ++ rest).length ≤ fuel →
    ∃ left, rest.length ≤ left ∧ takeUp fuel start (written ++ rest) = takeUp left reading rest

theorem Leads.refl (start : Reading) : Leads start [] start :=
  fun _ fuel enough => ⟨fuel, enough, rfl⟩

/-- The reading after a character is put in. -/
def Reading.insert (reading : Reading) (skipped place : Nat) (c : Char) : Reading where
  label := reading.label.take place ++ c :: reading.label.drop place
  bias := adapt skipped (reading.label.length + 1) (reading.place = 0)
  code := c.toNat
  place := place + 1

/-- A number that leads from the place of the last character to a place for `c` puts `c` in there. -/
theorem Leads.number {start reading : Reading} {written : List Char} {skipped place : Nat} {c : Char}
    (leads : Leads start written reading) (later : reading.code ≤ c.toNat)
    (inside : place ≤ reading.label.length)
    (distance : reading.place + skipped =
      (c.toNat - reading.code) * (reading.label.length + 1) + place) :
    Leads start (written ++ number reading.bias 36 skipped) (reading.insert skipped place c) := by
  intro rest fuel enough
  rw [List.append_assoc] at enough ⊢
  obtain ⟨left, leftEnough, same⟩ := leads _ fuel enough
  rw [same]
  obtain ⟨d, digits, written⟩ := List.exists_cons_of_ne_nil (number_ne_nil reading.bias 36 skipped)
  -- a number has a digit, so there is fuel for it
  obtain ⟨left, rfl⟩ : ∃ less, left = less + 1 := by
    rw [written, List.cons_append, List.length_cons] at leftEnough
    exact ⟨left - 1, by omega⟩
  -- what was skipped is divided into the rounds, which give the code point, and the place in the last one
  have code : reading.code + (reading.place + skipped) / (reading.label.length + 1) = c.toNat := by
    rw [distance, Nat.mul_comm, Nat.mul_add_div (Nat.succ_pos _), Nat.div_eq_of_lt (by omega)]
    omega
  have placed : (reading.place + skipped) % (reading.label.length + 1) = place := by
    rw [distance, Nat.mul_comm, Nat.mul_add_mod, Nat.mod_eq_of_lt (by omega)]
  refine ⟨left, ?_, ?_⟩
  · rw [written, List.cons_append, List.length_cons, List.length_append] at leftEnough
    omega
  · have read : takeUp (left + 1) reading (Punycode.number reading.bias 36 skipped ++ rest) =
        takeUp left (reading.insert skipped place c) rest := by
      have valid : ¬ ¬ c.toNat.isValidChar := not_not_intro c.valid
      rw [written, List.cons_append, takeUp, ← List.cons_append, ← written, number?_number]
      · simp only [Option.bind_eq_bind, Option.bind_some, Nat.mul_one, code, placed]
        rw [if_neg valid, Char.ofNat_toNat]
        rfl
      · exact fun none => List.cons_ne_nil _ _ none
    exact read

/-! ### Keeping in step -/

/-- The characters up to a code point, in their order. -/
def upTo (code : Nat) (text : List Char) : List Char :=
  text.filter (·.toNat ≤ code)

/-- The characters below a code point, in their order. -/
def below (code : Nat) (text : List Char) : List Char :=
  text.filter (·.toNat < code)

/-- What the writer and the reader have in common while characters with a code point are put in and the writer is
through with the part `before` of the label, but not with the part `after`. The reader started with the ASCII
characters of the label, and `opening` was written for them. -/
structure InStep (start : Reading) (opening : List Char) (code : Nat) (before after : List Char)
    (progress : Progress) (reading : Reading) : Prop where
  written : ∃ digits, progress.written = opening ++ digits ∧ (∀ c ∈ digits, IsDigit c) ∧
    Leads start digits reading
  bias : reading.bias = progress.bias
  label : reading.label = upTo code before ++ below code after
  handled : progress.handled = reading.label.length
  started : start.label.length ≤ progress.handled
  first : reading.place = 0 ↔ progress.handled = start.label.length
  code_le : reading.code ≤ code
  /-- The writer has counted from the place of the last character to where it stands: all places of the rounds
  in between, and the characters of this round. -/
  place : reading.place + progress.skipped =
    (code - reading.code) * (progress.handled + 1) + (upTo code before).length

namespace InStep

variable {start reading : Reading} {opening before after : List Char} {code : Nat} {c : Char}
  {progress : Progress}

/-- A character below the code point is counted. -/
theorem pass_below (step : InStep start opening code before (c :: after) progress reading)
    (small : c.toNat < code) :
    InStep start opening code (before ++ [c]) after { progress with skipped := progress.skipped + 1 }
      reading := by
  have counted : upTo code (before ++ [c]) = upTo code before ++ [c] := by
    simp [upTo, List.filter_append, small.le]
  have taken : below code (c :: after) = c :: below code after := by
    simp [below, small]
  refine { step with label := ?_, place := ?_ }
  · rw [step.label, counted, taken, List.append_assoc]
    rfl
  · rw [counted, List.length_append, List.length_singleton]
    exact congrArg (· + 1) step.place

/-- A character above the code point is left for a later round. -/
theorem pass_above (step : InStep start opening code before (c :: after) progress reading)
    (big : code < c.toNat) : InStep start opening code (before ++ [c]) after progress reading := by
  have counted : upTo code (before ++ [c]) = upTo code before := by
    simp [upTo, List.filter_append, big]
  have left : below code (c :: after) = below code after := by
    simp [below, big.le]
  refine { step with label := ?_, place := ?_ }
  · rw [step.label, counted, left]
  · rw [counted]
    exact step.place

/-- A character with the code point is put in where the writer stands. -/
theorem put (step : InStep start opening code before (c :: after) progress reading)
    (here : c.toNat = code) :
    InStep start opening code (before ++ [c]) after
      { written := progress.written ++ number progress.bias 36 progress.skipped
        bias := adapt progress.skipped (progress.handled + 1)
          (progress.handled = start.label.length)
        handled := progress.handled + 1
        skipped := 0 }
      (reading.insert progress.skipped (upTo code before).length c) := by
  have counted : upTo code (before ++ [c]) = upTo code before ++ [c] := by
    simp [upTo, List.filter_append, here]
  have left : below code (c :: after) = below code after := by
    simp [below, here]
  have label : reading.label = upTo code before ++ below code after := by
    rw [step.label, left]
  have started := step.started
  -- the reader inserts where the writer has counted to
  have inserted : (reading.insert progress.skipped (upTo code before).length c).label =
      upTo code before ++ c :: below code after := by
    simp [Reading.insert, label]
  obtain ⟨digits, written, areDigits, leads⟩ := step.written
  refine ⟨⟨digits ++ number progress.bias 36 progress.skipped, ?_, ?_, ?_⟩, ?_, ?_, ?_, ?_, ?_, ?_, ?_⟩
  · rw [written, List.append_assoc]
  · intro d hd
    exact (List.mem_append.1 hd).elim (areDigits d) isDigit_of_mem_number
  · -- the reader's bias is the writer's, so it takes the number for what it is
    rw [← step.bias]
    refine leads.number (here.symm ▸ step.code_le) ?_ ?_
    · rw [label, List.length_append]
      exact Nat.le_add_right _ _
    · rw [here, ← step.handled]
      exact step.place
  · simp only [Reading.insert, ← step.handled, decide_eq_decide.2 step.first]
  · rw [inserted, counted, List.append_assoc]
    rfl
  · rw [inserted, step.handled, label]
    simp only [List.length_append, List.length_cons]
    rfl
  · exact Nat.le_succ_of_le started
  · simp only [Reading.insert]
    omega
  · exact here.le
  · simp [Reading.insert, here, counted]

/-- **One character.** The writer visits it, and the reader stays in step. -/
theorem visit (step : InStep start opening code before (c :: after) progress reading) :
    ∃ reading', InStep start opening code (before ++ [c]) after
      (visit start.label.length code progress c) reading' := by
  rcases Nat.lt_trichotomy c.toNat code with small | here | big
  · refine ⟨reading, ?_⟩
    rw [Punycode.visit, if_pos small]
    exact step.pass_below small
  · refine ⟨reading.insert progress.skipped (upTo code before).length c, ?_⟩
    rw [Punycode.visit, if_neg here.not_lt, if_pos here]
    exact step.put here
  · refine ⟨reading, ?_⟩
    rw [Punycode.visit, if_neg big.le.not_gt, if_neg big.ne']
    exact step.pass_above big

/-- **One round.** The writer visits the rest of the label. -/
theorem foldl (step : InStep start opening code before after progress reading) :
    ∃ reading', InStep start opening code (before ++ after) []
      (after.foldl (Punycode.visit start.label.length code) progress) reading' := by
  induction after generalizing before progress reading with
  | nil => exact ⟨reading, by rwa [List.append_nil]⟩
  | cons c after ih =>
    obtain ⟨reading', step'⟩ := step.visit
    rw [List.append_cons]
    exact ih step'

/-- At the end of a round, nothing of the next one is done. -/
theorem next {label : List Char} (step : InStep start opening code label [] progress reading) :
    InStep start opening (code + 1) [] label { progress with skipped := progress.skipped + 1 }
      reading := by
  have same : reading.label = below (code + 1) label := by
    rw [step.label, below, upTo, below]
    simp only [Nat.lt_succ_iff, List.filter_nil, List.append_nil]
  have counted : (upTo code label).length = progress.handled := by
    rw [step.handled, step.label]
    simp [below]
  -- nothing is put in, and one more place is skipped for each character that is there
  refine { step with label := ?_, code_le := ?_, place := ?_ }
  · simpa [upTo] using same
  · exact Nat.le_succ_of_le step.code_le
  · have place := step.place
    have later : code + 1 - reading.code = code - reading.code + 1 := Nat.succ_sub step.code_le
    rw [counted] at place
    rw [later, Nat.add_mul, one_mul]
    simp only [upTo, List.filter_nil, List.length_nil]
    omega

/-- Rounds for code points that the label does not have can be left out, if their places are counted. -/
theorem skip {label : List Char} {code' : Nat}
    (step : InStep start opening code [] label progress reading) (later : code ≤ code')
    (none : ∀ c ∈ label, c.toNat < code ∨ code' ≤ c.toNat) :
    InStep start opening code' [] label
      { progress with skipped := progress.skipped + (code' - code) * (progress.handled + 1) }
      reading := by
  have same : below code label = below code' label := by
    refine List.filter_congr fun c hc => ?_
    rcases none c hc with small | big
    · simp [small, small.trans_le later]
    · simp [big.not_gt, (later.trans big).not_gt]
  refine { step with label := ?_, code_le := step.code_le.trans later, place := ?_ }
  · rw [step.label, same]
    rfl
  · have place := step.place
    -- the rounds that are left out come to those before
    have rounds : code' - reading.code = (code - reading.code) + (code' - code) := by
      have := step.code_le
      omega
    have none : upTo code' [] = [] := rfl
    have none' : upTo code [] = [] := rfl
    rw [none'] at place
    rw [rounds, Nat.add_mul, none]
    simp only at place ⊢
    omega

/-- **All rounds.** When every code point of the label was put in, the reader has the label. -/
theorem putIn {label : List Char} {codes : List Nat}
    (step : InStep start opening code [] label progress reading) (increasing : codes.Pairwise (· < ·))
    (later : ∀ code' ∈ codes, code ≤ code')
    (complete : ∀ c ∈ label, c.toNat < code ∨ c.toNat ∈ codes) :
    ∃ digits, (Punycode.putIn label start.label.length code codes progress).written =
        opening ++ digits ∧ (∀ c ∈ digits, IsDigit c) ∧
      ∃ reading', Leads start digits reading' ∧ reading'.label = label := by
  induction codes generalizing code progress reading with
  | nil =>
    obtain ⟨digits, written, areDigits, leads⟩ := step.written
    refine ⟨digits, written, areDigits, reading, leads, ?_⟩
    have all : below code label = label :=
      List.filter_eq_self.2 fun c hc => by simpa using complete c hc
    rw [step.label, all]
    rfl
  | cons code' codes ih =>
    obtain ⟨increasing', increasing⟩ := List.pairwise_cons.1 increasing
    -- from this code point to the next one that the label has, nothing is put in
    have skipped := step.skip (later code' List.mem_cons_self) fun c hc => by
      rcases complete c hc with small | member
      · exact .inl small
      · rcases List.mem_cons.1 member with same | further
        · exact .inr same.ge
        · exact .inr (increasing' _ further).le
    obtain ⟨reading', visited⟩ := skipped.foldl
    rw [Punycode.putIn]
    refine ih visited.next increasing (fun code'' member => increasing' code'' member) ?_
    intro c hc
    rcases complete c hc with small | member
    · exact .inl (small.trans_le (Nat.le_succ_of_le (later code' List.mem_cons_self)))
    · rcases List.mem_cons.1 member with same | further
      · exact .inl (Nat.lt_succ_of_le same.le)
      · exact .inr further

end InStep

/-! ### Whole labels -/

/-- A list in order without repetitions increases. -/
theorem pairwise_eraseDups {codes : List Nat} (sorted : codes.Pairwise (· ≤ ·)) :
    codes.eraseDups.Pairwise (· < ·) := by
  match codes with
  | [] => exact List.Pairwise.nil
  | code :: codes =>
    obtain ⟨least, sorted⟩ := List.pairwise_cons.1 sorted
    have shorter : (codes.filter fun d => !d == code).length < (code :: codes).length :=
      Nat.lt_succ_of_le (List.length_filter_le _ _)
    rw [List.eraseDups_cons, List.pairwise_cons]
    refine ⟨fun d member => ?_, pairwise_eraseDups (sorted.filter _)⟩
    have filtered := List.mem_filter.1 (List.mem_eraseDups.1 member)
    have different : d ≠ code := by simpa using filtered.2
    exact lt_of_le_of_ne (least d filtered.1) different.symm
termination_by codes.length
decreasing_by exact shorter

/-- The code points beyond ASCII of a label, in increasing order. -/
theorem mem_codes {label : List Char} {code : Nat} :
    code ∈ ((label.map Char.toNat).filter (0x80 ≤ ·)).mergeSort.eraseDups ↔
      0x80 ≤ code ∧ ∃ c ∈ label, c.toNat = code := by
  rw [List.mem_eraseDups, List.mem_mergeSort, List.mem_filter, List.mem_map, decide_eq_true_eq,
    and_comm]

/-- The ASCII characters of a label, in their order. -/
def basic (label : List Char) : List Char :=
  label.filter (·.toNat < 0x80)

/-- What is written for the ASCII characters of a label. -/
def opening (label : List Char) : List Char :=
  if (basic label).isEmpty then [] else basic label ++ ['-']

/-- A label is written as its ASCII characters and digits that lead the reader to it. -/
theorem exists_digits (label : List Char) :
    ∃ digits, encode label = opening label ++ digits ∧ (∀ c ∈ digits, IsDigit c) ∧
      ∃ reading, Leads { label := basic label } digits reading ∧ reading.label = label := by
  have start : InStep { label := basic label } (opening label) 0x80 [] label
      { written := opening label, handled := (basic label).length } { label := basic label } :=
    { written := ⟨[], (List.append_nil _).symm, by simp, Leads.refl _⟩
      bias := rfl
      label := rfl
      handled := rfl
      started := le_rfl
      first := by simp
      code_le := le_rfl
      place := by simp [upTo] }
  have sorted : ((label.map Char.toNat).filter (0x80 ≤ ·)).mergeSort.Pairwise (· ≤ ·) := by
    refine (List.pairwise_mergeSort ?_ ?_ _).imp of_decide_eq_true
    · intro a b c ab bc
      exact decide_eq_true ((of_decide_eq_true ab).trans (of_decide_eq_true bc))
    · intro a b
      simpa using Nat.le_total a b
  -- the characters are put in by their codes, from the smallest on
  refine start.putIn (pairwise_eraseDups sorted) (fun code member => (mem_codes.1 member).1) ?_
  intro c hc
  rcases Nat.lt_or_ge c.toNat 0x80 with small | big
  · exact .inl small
  · exact .inr (mem_codes.2 ⟨big, c, hc, rfl⟩)

theorem digit_ne_dash {c : Char} (isDigit : IsDigit c) : c ≠ '-' := by
  obtain ⟨n, small, rfl⟩ := isDigit
  revert n
  decide

/-- Behind the last dash stand the digits. -/
theorem takeWhile_reverse_opening {label digits : List Char} (areDigits : ∀ c ∈ digits, IsDigit c) :
    ((opening label ++ digits).reverse.takeWhile (· ≠ '-')).reverse = digits := by
  have all : ∀ c ∈ digits.reverse, decide (c ≠ '-') = true :=
    fun c hc => decide_eq_true (digit_ne_dash (areDigits c (List.mem_reverse.1 hc)))
  rw [List.reverse_append, List.takeWhile_append_of_pos all, opening]
  split <;> simp

/-- In front of it stand the ASCII characters. -/
theorem take_opening (label digits : List Char) :
    (opening label ++ digits).take ((opening label ++ digits).length - digits.length - 1) =
      basic label := by
  rw [List.length_append, Nat.add_sub_cancel, opening]
  split
  · next none => simpa using (List.isEmpty_iff.1 none).symm
  · simp [List.append_assoc]

/-- **Labels are read back.** -/
theorem decode?_encode (label : List Char) : decode? (encode label) = some label := by
  obtain ⟨digits, written, areDigits, reading, leads, same⟩ := exists_digits label
  -- the reader has as much fuel as the text is long, which is at least what the digits need
  have read : ∀ fuel, digits.length ≤ fuel →
      takeUp fuel { label := basic label } digits = some label := by
    intro fuel enough
    obtain ⟨left, -, all⟩ := leads [] fuel (by rwa [List.append_nil])
    rw [List.append_nil] at all
    rw [all, takeUp, same]
  have ascii : (basic label).all (·.toNat < 0x80) := by
    rw [List.all_eq_true]
    exact fun c hc => (List.mem_filter.1 hc).2
  rw [written, decode?]
  simp only [takeWhile_reverse_opening areDigits, take_opening]
  split
  · next none =>
    rw [List.isEmpty_iff.1 none] at read
    rw [opening, if_pos none, List.nil_append]
    exact read _ le_rfl
  · exact read _ le_rfl

/-- An encoded label is made of its ASCII characters, a dash and digits. -/
theorem of_mem_encode {label : List Char} {c : Char} (written : c ∈ encode label) :
    c ∈ basic label ∨ c = '-' ∨ IsDigit c := by
  obtain ⟨digits, same, areDigits, -⟩ := exists_digits label
  rw [same, List.mem_append] at written
  rcases written with inOpening | inDigits
  · rw [opening] at inOpening
    split at inOpening
    · exact absurd inOpening List.not_mem_nil
    · exact (List.mem_append.1 inOpening).imp_right fun dash => .inl (List.mem_singleton.1 dash)
  · exact .inr (.inr (areDigits c inDigits))

/-! ### What can be read -/

theorem ascii_of_valueOf? {c : Char} {n : Nat} (value : valueOf? c = some n) : c.toNat < 0x80 := by
  rw [valueOf?] at value
  split at value
  · next lower =>
    have upto := of_decide_eq_true (Bool.and_eq_true_iff.1 lower).2
    exact (UInt32.le_iff_toNat_le.1 upto).trans_lt (by decide)
  · split at value
    · next numeral =>
      rw [Char.isDigit, Bool.and_eq_true, decide_eq_true_eq, decide_eq_true_eq] at numeral
      exact (UInt32.le_iff_toNat_le.1 numeral.2).trans_lt (by decide)
    · exact absurd value (Option.some_ne_none n).symm

/-- A number is read off the start of a text, and is in ASCII. -/
theorem exists_of_number? {bias weight unit n : Nat} {text rest : List Char}
    (read : number? bias weight unit text = some (n, rest)) :
    ∃ used, text = used ++ rest ∧ ∀ c ∈ used, c.toNat < 0x80 := by
  induction text generalizing weight unit n with
  | nil => exact absurd read (Option.some_ne_none _).symm
  | cons c text ih =>
    simp only [number?, Option.bind_eq_bind, Option.bind_eq_some_iff] at read
    obtain ⟨value, isValue, read⟩ := read
    have ascii := ascii_of_valueOf? isValue
    split at read
    · obtain ⟨-, rfl⟩ := Prod.mk.inj (Option.some.inj read)
      exact ⟨[c], rfl, by simpa using ascii⟩
    · -- it was not the last digit of the number
      obtain ⟨⟨more, rest'⟩, later, same⟩ := Option.bind_eq_some_iff.1 read
      obtain ⟨-, rfl⟩ := Prod.mk.inj (Option.some.inj same)
      obtain ⟨used, rfl, all⟩ := ih later
      exact ⟨c :: used, rfl, List.forall_mem_cons.2 ⟨ascii, all⟩⟩

theorem ascii_of_takeUp {fuel : Nat} {reading : Reading} {text label : List Char}
    (read : takeUp fuel reading text = some label) : ∀ c ∈ text, c.toNat < 0x80 := by
  induction fuel generalizing reading text with
  | zero =>
    cases text with
    | nil => simp
    | cons c text => exact absurd read (Option.some_ne_none label).symm
  | succ fuel ih =>
    cases text with
    | nil => simp
    | cons c text =>
      simp only [takeUp, Option.bind_eq_bind, Option.bind_eq_some_iff] at read
      obtain ⟨⟨skipped, rest⟩, number, read⟩ := read
      -- the number read first is written in ASCII, and so is what it leaves
      obtain ⟨used, same, all⟩ := exists_of_number? number
      have later : ∃ reading', takeUp fuel reading' rest = some label := by
        split at read
        · exact absurd read (Option.some_ne_none label).symm
        · exact ⟨_, read⟩
      obtain ⟨reading', read⟩ := later
      rw [same]
      exact List.forall_mem_append.2 ⟨all, ih read⟩

/-- Only a text in ASCII stands for a label. -/
theorem ascii_of_decode? {text label : List Char} (read : decode? text = some label) :
    ∀ c ∈ text, c.toNat < 0x80 := by
  rw [decode?] at read
  set digits := (text.reverse.takeWhile (· ≠ '-')).reverse with isDigits
  have parts : text = (text.reverse.dropWhile (· ≠ '-')).reverse ++ digits := by
    rw [isDigits, ← List.reverse_append, List.takeWhile_append_dropWhile, List.reverse_reverse]
  split at read
  · exact ascii_of_takeUp read
  · next some =>
    split at read
    · next ascii =>
      have front : ∀ c ∈ text.take (text.length - digits.length - 1), c.toNat < 0x80 := by
        simpa using ascii
      -- the text is what is checked to be in ASCII, a dash, and digits that were taken up
      cases dash : text.reverse.dropWhile (· ≠ '-') with
      | nil =>
        rw [dash, List.reverse_nil, List.nil_append] at parts
        rw [parts] at some
        simp at some
      | cons d more =>
        have isDash : d = '-' := by
          have := List.head?_dropWhile_not (· ≠ '-') text.reverse
          rw [dash] at this
          simpa using this
        rw [dash, List.reverse_cons] at parts
        have length : text.length - digits.length - 1 = more.reverse.length := by
          rw [parts, List.length_append, List.length_append, List.length_singleton]
          omega
        rw [length, parts, List.append_assoc, List.take_left] at front
        rw [parts, isDash]
        refine List.forall_mem_append.2 ⟨List.forall_mem_append.2 ⟨front, by simp⟩, ?_⟩
        exact ascii_of_takeUp read
    · exact absurd read (Option.some_ne_none label).symm

end ServiceProbe.Url.Punycode

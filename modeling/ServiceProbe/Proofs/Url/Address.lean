import Mathlib.Data.List.Basic
import Mathlib.Tactic.Ring
import ServiceProbe.Proofs.Url.Cutting

/-!
# Addresses are read back from their texts

An IPv4 address is written as four bytes in decimal, an IPv6 address as groups in hexadecimal, of which a run of
zeros may be left out. Reading gives back the address (`parseIpv4_renderIpv4`, `ipv6Groups?_renderIpv6`), for the
addresses that reading can give at all: 32 bits (`lt_of_parseIpv4`), and eight groups of 16 bits
(`eight_of_ipv6Groups?`).
-/

namespace ServiceProbe

namespace Text

/-! ### Numbers -/

theorem number?_concat (base : Nat) (digits : List Char) (c : Char) :
    number? base (digits ++ [c]) =
      (number? base digits).bind fun n =>
        (digitValue? c).bind fun value => if value < base then some (base * n + value) else none := by
  simp [number?, List.foldlM_append]

/-- A number is read back from its digits. -/
theorem number?_toDigits {base : Nat} (big : 1 < base) (small : base ≤ 16) (n : Nat) :
    number? base (Nat.toDigits base n) = some n := by
  have digit : ∀ d < base, digitValue? (Nat.digitChar d) = some d :=
    fun d lt => digitValue?_hexDigit d (lt.trans_le small)
  induction n using Nat.base_induction base big with
  | single n lt =>
    rw [Nat.toDigits_of_lt_base lt, ← List.nil_append [_], number?_concat, digit n lt]
    simp [number?, lt]
  | digit m d lt pos ih =>
    rw [← Nat.toDigits_append_toDigits big pos lt, Nat.toDigits_of_lt_base lt, number?_concat, ih,
      digit d lt]
    simp [lt]

/-- A number has no more than its digits can say. -/
theorem lt_of_number? {base n : Nat} {digits : List Char} (read : number? base digits = some n) :
    n < base ^ digits.length := by
  induction digits using List.reverseRecOn generalizing n with
  | nil =>
    rw [← Option.some.inj read]
    exact Nat.one_pos
  | append_singleton digits c ih =>
    rw [number?_concat] at read
    obtain ⟨m, front, read⟩ := Option.bind_eq_some_iff.1 read
    obtain ⟨value, -, read⟩ := Option.bind_eq_some_iff.1 read
    split at read
    · next lt =>
      -- the digits in front are smaller than their power of the base, and the last one is a digit
      have bound : m + 1 ≤ base ^ digits.length := ih front
      rw [← Option.some.inj read, List.length_append, List.length_singleton, pow_succ]
      calc base * m + value < base * m + base := Nat.add_lt_add_left lt _
        _ = (m + 1) * base := by ring
        _ ≤ base ^ digits.length * base := Nat.mul_le_mul_right base bound
    · exact absurd read (Option.some_ne_none n).symm

end Text

namespace Url.Host

open Text (number? splitOn)

/-! ### IPv4 -/

/-- The four bytes of an address. -/
def octets (address : Nat) : List Nat :=
  [address >>> 24, (address >>> 16) % 256, (address >>> 8) % 256, address % 256]

theorem renderIpv4_eq (address : Nat) :
    renderIpv4 address = ['.'].intercalate ((octets address).map (Nat.toDigits 10)) := by
  simp [renderIpv4, octets, String.toList_append, toString, List.intercalate]

theorem isDigit_of_mem_toDigits {n : Nat} {c : Char} (member : c ∈ Nat.toDigits 10 n) : c.isDigit :=
  Nat.isDigit_of_mem_toDigits (by decide) (by decide) member

theorem labels_renderIpv4 (address : Nat) :
    labels (renderIpv4 address) = (octets address).map (Nat.toDigits 10) := by
  have parts : splitOn '.' (renderIpv4 address) = (octets address).map (Nat.toDigits 10) := by
    rw [renderIpv4_eq, splitOn_eq_splitOn, List.splitOn_intercalate]
    · intro part member inside
      obtain ⟨n, -, rfl⟩ := List.mem_map.1 member
      exact absurd (isDigit_of_mem_toDigits inside) (by decide)
    · simp [octets]
  rw [labels, parts]
  simp [octets]

theorem ipv4Number?_toDigits : ∀ n < 256, ipv4Number? (Nat.toDigits 10 n) = some n := by
  decide +kernel

theorem octets_lt {address : Nat} (small : address < 2 ^ 32) : ∀ n ∈ octets address, n < 256 := by
  simp only [octets, Nat.shiftRight_eq_div_pow]
  simp only [List.mem_cons, List.not_mem_nil, or_false, forall_eq_or_imp, forall_eq]
  omega

theorem ipv4OfNumbers?_octets {address : Nat} (small : address < 2 ^ 32) :
    ipv4OfNumbers? (octets address) = some address := by
  have bounds := octets_lt small
  simp only [octets, Nat.shiftRight_eq_div_pow] at bounds ⊢
  simp only [List.mem_cons, List.not_mem_nil, or_false, forall_eq_or_imp, forall_eq] at bounds
  simp [ipv4OfNumbers?, bounds, Nat.shiftLeft_eq]
  omega

/-- Reading each text of a list gives back what the texts were made from. -/
theorem mapM_map {α : Type} {read : List Char → Option α} {write : α → List Char} {values : List α}
    (reads : ∀ value ∈ values, read (write value) = some value) :
    (values.map write).mapM read = some values := by
  induction values with
  | nil => rfl
  | cons value values ih =>
    obtain ⟨first, more⟩ := List.forall_mem_cons.1 reads
    rw [List.map_cons, List.mapM_cons, first, ih more]
    rfl

/-- **IPv4 addresses are read back.** -/
theorem parseIpv4_renderIpv4 {address : Nat} (small : address < 2 ^ 32) :
    parseIpv4 (renderIpv4 address) = .ok (ipv4 address) := by
  have numbers : (labels (renderIpv4 address)).mapM ipv4Number? = some (octets address) := by
    rw [labels_renderIpv4]
    exact mapM_map fun n member => ipv4Number?_toDigits n (octets_lt small n member)
  rw [parseIpv4, numbers]
  simp only [Option.bind_eq_bind, Option.bind_some, ipv4OfNumbers?_octets small]

theorem endsInNumber_renderIpv4 (address : Nat) : endsInNumber (renderIpv4 address) := by
  have digits : (Nat.toDigits 10 (address % 256)).all Char.isDigit :=
    List.all_eq_true.2 fun c => isDigit_of_mem_toDigits
  rw [endsInNumber, labels_renderIpv4]
  simp [octets, digits]

theorem foldl_octets_lt {front : List Nat} (bytes : ∀ byte ∈ front, byte < 256) :
    front.foldl (fun n byte => 256 * n + byte) 0 < 256 ^ front.length := by
  induction front using List.reverseRecOn with
  | nil => exact Nat.one_pos
  | append_singleton front byte ih =>
    obtain ⟨before, last⟩ := List.forall_mem_append.1 bytes
    have bound := ih before
    have small := last byte (List.mem_singleton.2 rfl)
    rw [List.foldl_append, List.length_append, List.length_singleton, pow_succ]
    simp only [List.foldl_cons, List.foldl_nil]
    omega

/-- Reading gives addresses of 32 bits. -/
theorem lt_of_ipv4OfNumbers? {numbers : List Nat} {address : Nat}
    (read : ipv4OfNumbers? numbers = some address) : address < 2 ^ 32 := by
  rw [ipv4OfNumbers?] at read
  split at read
  · exact absurd read (Option.some_ne_none address).symm
  · next last isLast =>
    simp only at read
    split at read
    · next fits =>
      rw [Bool.and_eq_true, Bool.and_eq_true, decide_eq_true_eq, decide_eq_true_eq] at fits
      obtain ⟨⟨few, bytes⟩, fits⟩ := fits
      have bytes : ∀ byte ∈ numbers.dropLast, byte < 256 := by simpa using bytes
      have front := foldl_octets_lt bytes
      -- the last number has the bits that the bytes before it leave
      have whole : ∀ k < 4, 256 ^ k * 2 ^ (8 * (4 - k)) = 2 ^ 32 := by decide
      rw [Nat.one_shiftLeft] at fits
      rw [← Option.some.inj read, Nat.shiftLeft_eq, ← whole _ few]
      set n := numbers.dropLast.foldl (fun n byte => 256 * n + byte) 0
      set width := 8 * (4 - numbers.dropLast.length)
      calc n * 2 ^ width + last < n * 2 ^ width + 2 ^ width := Nat.add_lt_add_left fits _
        _ = (n + 1) * 2 ^ width := by ring
        _ ≤ 256 ^ numbers.dropLast.length * 2 ^ width := Nat.mul_le_mul_right _ front
    · exact absurd read (Option.some_ne_none address).symm

theorem lt_of_parseIpv4 {name : List Char} {host : Host} (read : parseIpv4 name = .ok host) :
    ∃ address, host = ipv4 address ∧ address < 2 ^ 32 := by
  rw [parseIpv4] at read
  split at read
  · next address same =>
    obtain ⟨numbers, -, same⟩ := Option.bind_eq_some_iff.1 same
    exact ⟨address, (Except.ok.inj read).symm, lt_of_ipv4OfNumbers? same⟩
  · exact absurd read (by simp)

/-! ### IPv6 -/

/-- A group of at most 16 bits is read back. -/
theorem group?_toDigits {group : Nat} (small : group < 65536) :
    group? (Nat.toDigits 16 group) = some group := by
  have short : (Nat.toDigits 16 group).length ≤ 4 :=
    (Nat.length_toDigits_le_iff (by decide) (by decide)).2 small
  rw [group?, if_neg, Text.number?_toDigits (by decide) (by decide)]
  simpa using short

theorem lt_of_group? {digits : List Char} {group : Nat} (read : group? digits = some group) :
    group < 65536 := by
  rw [group?] at read
  split at read
  · exact absurd read (Option.some_ne_none group).symm
  · next fits =>
    have short : digits.length ≤ 4 := by simp at fits; omega
    calc group < 16 ^ digits.length := Text.lt_of_number? read
      _ ≤ 16 ^ 4 := Nat.pow_le_pow_right (by decide) short

theorem lt_of_octet? {digits : List Char} {byte : Nat} (read : octet? digits = some byte) :
    byte < 256 := by
  rw [octet?.eq_def] at read
  split at read
  · exact absurd read (Option.some_ne_none byte).symm
  · rw [← Option.some.inj read]
    decide
  · exact absurd read (Option.some_ne_none byte).symm
  · split at read
    · simpa using (Option.filter_eq_some_iff.1 read).2
    · exact absurd read (Option.some_ne_none byte).symm

/-- What all texts of a list are read as has the property that each of them is read with. -/
theorem forall_of_mapM {α : Type} {read : List Char → Option α} {holds : α → Prop}
    {texts : List (List Char)} {values : List α}
    (each : ∀ text ∈ texts, ∀ value, read text = some value → holds value)
    (all : texts.mapM read = some values) : ∀ value ∈ values, holds value := by
  induction texts generalizing values with
  | nil =>
    rw [← Option.some.inj all]
    exact fun _ => by simp
  | cons text texts ih =>
    rw [List.mapM_cons] at all
    obtain ⟨value, first, all⟩ := Option.bind_eq_some_iff.1 all
    obtain ⟨values', more, all⟩ := Option.bind_eq_some_iff.1 all
    rw [← Option.some.inj all]
    obtain ⟨here, later⟩ := List.forall_mem_cons.1 each
    exact List.forall_mem_cons.2 ⟨here value first, ih later more⟩

theorem lt_of_ipv4Groups? {text : List Char} {groups : List Nat} (read : ipv4Groups? text = some groups) :
    ∀ group ∈ groups, group < 65536 := by
  rw [ipv4Groups?] at read
  split at read
  · next a b c d bytes =>
    have small := forall_of_mapM (fun _ _ _ => lt_of_octet?) bytes
    rw [← Option.some.inj read]
    simp only [List.mem_cons, List.not_mem_nil, or_false, forall_eq_or_imp, forall_eq] at small ⊢
    omega
  · exact absurd read (Option.some_ne_none groups).symm

theorem lt_of_groups? {ipv4Last : Bool} {text : List Char} {groups : List Nat}
    (read : groups? ipv4Last text = some groups) : ∀ group ∈ groups, group < 65536 := by
  rw [groups?] at read
  split at read
  · rw [← Option.some.inj read]
    exact fun _ => by simp
  · simp only at read
    split at read
    · exact absurd read (Option.some_ne_none groups).symm
    · split at read
      · obtain ⟨front, isFront, read⟩ := Option.bind_eq_some_iff.1 read
        obtain ⟨back, isBack, read⟩ := Option.bind_eq_some_iff.1 read
        rw [← Option.some.inj read]
        exact List.forall_mem_append.2
          ⟨forall_of_mapM (fun _ _ _ => lt_of_group?) isFront, lt_of_ipv4Groups? isBack⟩
      · exact forall_of_mapM (fun _ _ _ => lt_of_group?) read

/-- Reading gives eight groups of 16 bits. -/
theorem eight_of_ipv6Groups? {text : List Char} {groups : List Nat}
    (read : ipv6Groups? text = some groups) :
    groups.length = 8 ∧ ∀ group ∈ groups, group < 65536 := by
  rw [ipv6Groups?] at read
  split at read
  · next before after _ =>
    obtain ⟨front, isFront, read⟩ := Option.bind_eq_some_iff.1 read
    obtain ⟨back, isBack, read⟩ := Option.bind_eq_some_iff.1 read
    simp only at read
    split at read
    · next few =>
      rw [← Option.some.inj read]
      -- the zeros in the middle fill up to eight
      refine ⟨by simp; omega, ?_⟩
      refine List.forall_mem_append.2 ⟨List.forall_mem_append.2 ⟨lt_of_groups? isFront, ?_⟩, ?_⟩
      · intro group member
        rw [List.eq_of_mem_replicate member]
        decide
      · exact lt_of_groups? isBack
    · exact absurd read (Option.some_ne_none groups).symm
  · obtain ⟨all, isAll, read⟩ := Option.bind_eq_some_iff.1 read
    split at read
    · next eight =>
      rw [← Option.some.inj read]
      exact ⟨eight, lt_of_groups? isAll⟩
    · exact absurd read (Option.some_ne_none groups).symm

theorem joinGroups_eq (groups : List Nat) :
    joinGroups groups = [':'].intercalate (groups.map (Nat.toDigits 16)) := by
  simp [joinGroups, String.toList_intercalate, Function.comp_def]

theorem joinGroups_cons_cons (group next : Nat) (groups : List Nat) :
    joinGroups (group :: next :: groups) =
      Nat.toDigits 16 group ++ ':' :: joinGroups (next :: groups) := by
  simp [joinGroups_eq, List.intercalate_cons_cons]

theorem joinGroups_singleton (group : Nat) : joinGroups [group] = Nat.toDigits 16 group := by
  simp [joinGroups_eq]

theorem exists_joinGroups_cons (group : Nat) (groups : List Nat) :
    ∃ more, joinGroups (group :: groups) = Nat.toDigits 16 group ++ more := by
  match groups with
  | [] => exact ⟨[], by rw [joinGroups_singleton, List.append_nil]⟩
  | next :: groups => exact ⟨_, joinGroups_cons_cons group next groups⟩

/-- The digits of a group are no points and no colons. -/
theorem isSome_of_mem_toDigits {n : Nat} {c : Char} (member : c ∈ Nat.toDigits 16 n) :
    (Text.digitValue? c).isSome := by
  have digit : ∀ d < 16, (Text.digitValue? (Nat.digitChar d)).isSome := by decide
  induction n using Nat.base_induction 16 (by decide) with
  | single n lt =>
    rw [Nat.toDigits_of_lt_base lt, List.mem_singleton] at member
    exact member ▸ digit n lt
  | digit m d lt pos ih =>
    rw [← Nat.toDigits_append_toDigits (by decide) pos lt, Nat.toDigits_of_lt_base lt,
      List.mem_append, List.mem_singleton] at member
    rcases member with front | rfl
    · exact ih front
    · exact digit d lt

theorem colon_not_mem_toDigits (n : Nat) : ':' ∉ Nat.toDigits 16 n := fun member =>
  absurd (isSome_of_mem_toDigits member) (by decide)

theorem point_not_mem_toDigits (n : Nat) : '.' ∉ Nat.toDigits 16 n := fun member =>
  absurd (isSome_of_mem_toDigits member) (by decide)

/-- Without points in it, a text between colons is read as groups alone. -/
theorem groups?_of_splitOn {ipv4Last : Bool} {text : List Char} {parts : List (List Char)}
    (some : text ≠ []) (parted : splitOn ':' text = parts) (noPoints : ∀ part ∈ parts, '.' ∉ part) :
    groups? ipv4Last text = parts.mapM group? := by
  have nonempty : parts ≠ [] := by
    rw [← parted, splitOn_eq_splitOn]
    exact List.splitOn_ne_nil _ _
  have isLast : parts.getLast? = Option.some (parts.getLast nonempty) := List.getLast?_eq_some_getLast nonempty
  have noPoint : (parts.getLast nonempty).contains '.' = false := by
    simpa using noPoints _ (List.getLast_mem nonempty)
  rw [groups?, if_neg (by simpa using some), parted]
  simp only [isLast, noPoint, Bool.and_false, Bool.false_eq_true, if_false]

/-- Groups between colons are read back. -/
theorem groups?_joinGroups (ipv4Last : Bool) {groups : List Nat}
    (small : ∀ group ∈ groups, group < 65536) : groups? ipv4Last (joinGroups groups) = some groups := by
  match groups with
  | [] => rfl
  | group :: groups =>
    obtain ⟨more, starts⟩ := exists_joinGroups_cons group groups
    have some : joinGroups (group :: groups) ≠ [] := by
      rw [starts]
      exact List.append_ne_nil_of_left_ne_nil Nat.toDigits_ne_nil more
    -- no digit is a colon, so the colons cut between the groups
    have parted : splitOn ':' (joinGroups (group :: groups)) =
        (group :: groups).map (Nat.toDigits 16) := by
      rw [joinGroups_eq, splitOn_eq_splitOn, List.splitOn_intercalate]
      · intro part member
        obtain ⟨n, -, rfl⟩ := List.mem_map.1 member
        exact colon_not_mem_toDigits n
      · exact List.cons_ne_nil _ _
    rw [groups?_of_splitOn some parted]
    · exact mapM_map fun n member => group?_toDigits (small n member)
    · intro part member
      obtain ⟨n, -, rfl⟩ := List.mem_map.1 member
      exact point_not_mem_toDigits n

theorem atDoubleColon?_append {before : List Char} (none : ':' ∉ before) (rest : List Char) :
    atDoubleColon? (before ++ rest) =
      (atDoubleColon? rest).map fun found => (before ++ found.1, found.2) := by
  induction before with
  | nil => simp
  | cons c before ih =>
    rw [List.mem_cons, not_or] at none
    rw [List.cons_append, atDoubleColon?, ih none.2, Option.map_map]
    · rfl
    · exact fun _ isColon _ => none.1 isColon.symm

theorem atDoubleColon?_cons {rest : List Char} (single : rest.head? ≠ some ':') :
    atDoubleColon? (':' :: rest) =
      (atDoubleColon? rest).map fun found => (':' :: found.1, found.2) := by
  rw [atDoubleColon?]
  exact fun rest' _ same => single (by rw [same]; rfl)

/-- There is no double colon between groups. -/
theorem atDoubleColon?_joinGroups (groups : List Nat) (rest : List Char) :
    atDoubleColon? (joinGroups groups ++ rest) =
      (atDoubleColon? rest).map fun found => (joinGroups groups ++ found.1, found.2) := by
  induction groups with
  | nil => simp [joinGroups_eq]
  | cons group groups ih =>
    cases groups with
    | nil =>
      rw [joinGroups_singleton]
      exact atDoubleColon?_append (colon_not_mem_toDigits group) rest
    | cons next groups =>
      -- behind a colon between groups stands a digit
      have single : (joinGroups (next :: groups) ++ rest).head? ≠ some ':' := by
        obtain ⟨more, starts⟩ := exists_joinGroups_cons next groups
        obtain ⟨d, digits, same⟩ :=
          List.exists_cons_of_ne_nil (Nat.toDigits_ne_nil : Nat.toDigits 16 next ≠ [])
        rw [starts, same]
        intro isColon
        refine colon_not_mem_toDigits next ?_
        rw [same, Option.some.inj isColon]
        exact List.mem_cons_self
      rw [joinGroups_cons_cons, List.append_assoc, List.cons_append,
        atDoubleColon?_append (colon_not_mem_toDigits group), atDoubleColon?_cons single, ih,
        Option.map_map, Option.map_map]
      congr 1
      funext found
      simp

/-- The zeros at the start, and the rest. -/
theorem eq_of_zeroRun (groups : List Nat) :
    groups = List.replicate (zeroRun groups) 0 ++ groups.drop (zeroRun groups) := by
  have zeros : groups.takeWhile (· = 0) = List.replicate (zeroRun groups) 0 := by
    refine List.eq_replicate_iff.2 ⟨rfl, fun group member => ?_⟩
    simpa using List.mem_takeWhile_imp member
  have rest : groups.drop (zeroRun groups) = groups.dropWhile (· = 0) := by
    have parts := List.takeWhile_append_dropWhile (p := (· = 0)) (l := groups)
    rw [zeroRun]
    nth_rewrite 2 [← parts]
    exact List.drop_left
  rw [← zeros, rest, List.takeWhile_append_dropWhile]

/-- The longest run of zeros is where it is said to be. -/
theorem eq_of_longestZeros (groups : List Nat) :
    groups = groups.take (longestZeros groups).1 ++ List.replicate (longestZeros groups).2 0 ++
      groups.drop ((longestZeros groups).1 + (longestZeros groups).2) := by
  induction groups with
  | nil => rfl
  | cons group groups ih =>
    simp only [longestZeros]
    split
    · simpa using eq_of_zeroRun (group :: groups)
    · rw [Nat.add_right_comm, List.take_succ_cons, List.drop_succ_cons]
      exact congrArg (group :: ·) ih

/-- **IPv6 addresses are read back.** -/
theorem ipv6Groups?_renderIpv6 {groups : List Nat} (eight : groups.length = 8)
    (small : ∀ group ∈ groups, group < 65536) : ipv6Groups? (renderIpv6 groups) = some groups := by
  have parts := eq_of_longestZeros groups
  rw [renderIpv6]
  set start := (longestZeros groups).1 with isStart
  set length := (longestZeros groups).2 with isLength
  simp only
  split
  · next long =>
    have before : ∀ group ∈ groups.take start, group < 65536 :=
      fun group member => small group (List.mem_of_mem_take member)
    have after : ∀ group ∈ groups.drop (start + length), group < 65536 :=
      fun group member => small group (List.mem_of_mem_drop member)
    -- as there are eight groups, the zeros left out are as many as the reader puts in
    have count := congrArg List.length parts
    rw [List.length_append, List.length_append, List.length_replicate, eight] at count
    have few : (groups.take start).length + (groups.drop (start + length)).length < 8 := by omega
    have left : 8 - ((groups.take start).length + (groups.drop (start + length)).length) = length := by
      omega
    -- the double colon that is written is the first one, as there is none in the groups before it
    have found : atDoubleColon? (joinGroups (groups.take start) ++ [':', ':'] ++
        joinGroups (groups.drop (start + length))) =
          some (joinGroups (groups.take start), joinGroups (groups.drop (start + length))) := by
      rw [List.append_assoc, atDoubleColon?_joinGroups]
      simp [atDoubleColon?]
    rw [ipv6Groups?, found]
    simp only [groups?_joinGroups false before, groups?_joinGroups true after, Option.bind_eq_bind,
      Option.bind_some, if_pos few, left]
    exact congrArg some parts.symm
  · have none : atDoubleColon? (joinGroups groups) = none := by
      have found := atDoubleColon?_joinGroups groups []
      rw [List.append_nil] at found
      rw [found]
      rfl
    rw [ipv6Groups?, none]
    simp only [groups?_joinGroups true small, Option.bind_eq_bind, Option.bind_some, if_pos eight]
    rfl

/-- Groups are written with hexadecimal digits and colons. -/
theorem of_mem_joinGroups {groups : List Nat} {c : Char} (member : c ∈ joinGroups groups) :
    c = ':' ∨ (Text.digitValue? c).isSome := by
  induction groups with
  | nil => exact absurd member List.not_mem_nil
  | cons group groups ih =>
    cases groups with
    | nil =>
      rw [joinGroups_singleton] at member
      exact .inr (isSome_of_mem_toDigits member)
    | cons next groups =>
      rw [joinGroups_cons_cons, List.mem_append, List.mem_cons] at member
      -- a character stands in a group or between two
      rcases member with digit | colon | later
      · exact .inr (isSome_of_mem_toDigits digit)
      · exact .inl colon
      · exact ih later

theorem of_mem_renderIpv6 {groups : List Nat} {c : Char} (member : c ∈ renderIpv6 groups) :
    c = ':' ∨ (Text.digitValue? c).isSome := by
  rw [renderIpv6] at member
  simp only at member
  split at member
  · rw [List.mem_append, List.mem_append] at member
    rcases member with (before | colons) | after
    · exact of_mem_joinGroups before
    · exact .inl (by simpa using colons)
    · exact of_mem_joinGroups after
  · exact of_mem_joinGroups member

theorem of_mem_renderIpv4 {address : Nat} {c : Char} (member : c ∈ renderIpv4 address) :
    c = '.' ∨ c.isDigit := by
  rw [renderIpv4_eq, octets] at member
  simp only [List.map_cons, List.map_nil, List.intercalate_cons_cons, List.intercalate_singleton,
    List.mem_append, List.mem_singleton] at member
  rcases member with (digit | point) | (digit | point) | (digit | point) | digit
  exacts [.inr (isDigit_of_mem_toDigits digit), .inl point, .inr (isDigit_of_mem_toDigits digit),
    .inl point, .inr (isDigit_of_mem_toDigits digit), .inl point, .inr (isDigit_of_mem_toDigits digit)]

end Url.Host

end ServiceProbe

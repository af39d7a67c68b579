import Mathlib.Data.List.DropRight
import ServiceProbe.Http.Client
import ServiceProbe.Proofs.Url.Rereading

/-!
# Texts behind a path

A client puts the path of a request behind the text of its base URL and reads the whole again as a URL.
What it reads is said here for a path of settled segments and any text behind them: `addressed` is the
URL that comes of it (`continued_afterSlash`).

A text that is to name something should be one segment that stands for it (`Names`). Only a `PlainId` is
one (`names_addressed_iff`): reading drops blanks at the end of a text and line breaks within, cuts at
slashes and marks, carries out dots, and leaves codes as they are, so that they stand for something
else. That these are all the ways to be read as something else follows by counting. The last segment
comes from a part of the text, and what it stands for is no longer than this part. So if it stands for
the whole text, then the part is the whole text, and no byte of it is taken for a code.
-/

namespace ServiceProbe

open Url

namespace Url

/-! ### Slashes at the end -/

open Client (dropTrailingSlashes)

theorem dropTrailingSlashes_eq (text : List Char) :
    dropTrailingSlashes text = text.rdropWhile (· = '/') :=
  rfl

theorem dropTrailingSlashes_append_cons {c : Char} (before after : List Char) (stays : c ≠ '/') :
    dropTrailingSlashes (before ++ c :: after) = before ++ c :: dropTrailingSlashes after :=
  rdropWhile_append_cons before after (decide_eq_false stays)

/-- Only slashes are dropped. -/
theorem eq_slash_of_eq_append {text dropped : List Char} (same : text = dropTrailingSlashes text ++ dropped) :
    ∀ c ∈ dropped, c = '/' := by
  have whole : dropTrailingSlashes text ++ text.rtakeWhile (· = '/') = text :=
    List.rdropWhile_append_rtakeWhile
  have all : text.rtakeWhile (· = '/') = dropped := List.append_cancel_left (whole.trans same)
  intro c member
  rw [← all] at member
  have slash := List.mem_rtakeWhile_imp member
  rwa [decide_eq_true_eq] at slash

/-- A path without slashes at its end has no empty segments at its end. -/
theorem dropTrailingSlashes_flatMap {segments : List (List Char)}
    (noSlash : ∀ segment ∈ segments, ∀ c ∈ segment, isSlash c = false) :
    dropTrailingSlashes (segments.flatMap ('/' :: ·)) =
      (segments.rdropWhile List.isEmpty).flatMap ('/' :: ·) := by
  induction segments using List.reverseRecOn with
  | nil => rfl
  | append_singleton segments last ih =>
    obtain ⟨front, here⟩ := List.forall_mem_append.1 noSlash
    rw [List.flatMap_append, List.flatMap_singleton, List.rdropWhile_concat]
    rcases List.eq_nil_or_concat last with rfl | ⟨start, c, rfl⟩
    · -- an empty segment is a slash at the end
      rw [if_pos List.isEmpty_nil, ← ih front, dropTrailingSlashes_eq, dropTrailingSlashes_eq,
        List.rdropWhile_concat_pos _ _ _ (by simp)]
    · -- any other segment ends with no slash
      have stays : c ≠ '/' := by
        rintro rfl
        exact absurd (here _ (List.mem_singleton.2 rfl) '/' (by simp)) (by decide)
      rw [if_neg (by simp), List.flatMap_append, List.flatMap_singleton, List.concat_eq_append,
        ← List.cons_append, ← List.append_assoc, dropTrailingSlashes_eq]
      exact List.rdropWhile_concat_neg _ _ _ (by simpa using stays)

/-! ### Behind the first slash -/

/-- What stands behind the first slash of a path of segments and a text. -/
def afterSlash (segments : List (List Char)) (text : List Char) : List Char :=
  match segments with
  | [] => text
  | first :: more => first ++ more.flatMap ('/' :: ·) ++ '/' :: text

theorem flatMap_append_eq_cons (segments : List (List Char)) (text : List Char) :
    segments.flatMap ('/' :: ·) ++ '/' :: text = '/' :: afterSlash segments text := by
  cases segments <;> simp [afterSlash]

section segments

variable {segments : List (List Char)} (settled : ∀ segment ∈ segments, SettledSegment segment)

include settled

/-- Settled segments hold nothing that is dropped, and no marks. -/
theorem isEdge_of_mem_flatMap {c : Char} (member : c ∈ segments.flatMap ('/' :: ·)) :
    isEdge c = false ∧ c ≠ '?' ∧ c ≠ '#' := by
  obtain ⟨segment, among, inside⟩ := List.mem_flatMap.1 member
  rcases List.mem_cons.1 inside with rfl | inside
  · decide
  · have plain := (settled segment among).plain c inside
    exact @of_ascii (fun c => EncodeSet.path c = false → isEdge c = false ∧ c ≠ '?' ∧ c ≠ '#') (by decide) c
      plain.1 plain.2

theorem cleanEnd_afterSlash (text : List Char) :
    cleanEnd (afterSlash segments text) = afterSlash segments (cleanEnd text) := by
  match segments with
  | [] => rfl
  | first :: more =>
    refine cleanEnd_append_cons (fun c member => ?_) (by decide)
    exact (isEdge_of_mem_flatMap settled (List.mem_cons_of_mem '/' member)).1

theorem splitAtMark_afterSlash {mark : Char} (isMark : mark = '?' ∨ mark = '#') (text : List Char) :
    splitAtMark mark (afterSlash segments text) =
      (afterSlash segments (splitAtMark mark text).1, (splitAtMark mark text).2) := by
  match segments with
  | [] => rfl
  | first :: more =>
    -- the segments in front are settled, so the mark stands behind them
    have outside : mark ∉ first ++ more.flatMap ('/' :: ·) ++ ['/'] := by
      intro member
      rcases List.mem_append.1 member with inside | slash
      · have noMark := (isEdge_of_mem_flatMap settled (List.mem_cons_of_mem '/' inside)).2
        exact isMark.elim noMark.1 noMark.2
      · rw [List.mem_singleton.1 slash] at isMark
        exact absurd isMark (by decide)
    have cut := splitAtMark_append outside text
    simpa [afterSlash] using cut

theorem parseSegments_afterSlash {scheme : List Char} (special : isSpecial scheme) (text : List Char) :
    parseSegments scheme (afterSlash segments text) =
      resolve id segments.reverse ((splitBy isSlash text).map (encode EncodeSet.path)) := by
  match segments with
  | [] => rw [afterSlash, parseSegments, encodedSegments_eq special, List.reverse_nil]
  | first :: more =>
    rw [afterSlash, parseSegments, encodedSegments_append_cons special,
      encodedSegments_of_settled special settled, resolve_append settled, List.append_nil,
      encodedSegments_eq special]

end segments

/-- What stands behind a mark is not part of the path. -/
theorem path_continued {url : Url} (special : isSpecial url.scheme) {first : List Char}
    {more : List (List Char)} (settled : ∀ segment ∈ first :: more, SettledSegment segment) {mark : Char}
    (isMark : mark = '?' ∨ mark = '#') (text : List Char) :
    (url.continued (first ++ more.flatMap ('/' :: ·) ++ mark :: text)).path = .segments (first :: more) := by
  set path := first ++ more.flatMap ('/' :: ·) with isPath
  have noMark : ∀ c ∈ path, c ≠ '?' ∧ c ≠ '#' := fun c member =>
    (isEdge_of_mem_flatMap settled (List.mem_cons_of_mem '/' member)).2
  have noQuestion : '?' ∉ path := fun member => (noMark _ member).1 rfl
  have noHash : '#' ∉ path := fun member => (noMark _ member).2 rfl
  have cut : (splitAtMark '?' (splitAtMark '#' (path ++ mark :: text)).1).1 = path := by
    rcases isMark with rfl | rfl
    · -- what is cut off as a fragment is behind the question mark
      rw [splitAtMark_append noHash]
      have rest : ∃ after, (splitAtMark '#' ('?' :: text)).1 = '?' :: after := by
        have here := @splitAtMark_append '#' ['?'] (by decide) text
        exact ⟨_, congrArg Prod.fst here⟩
      obtain ⟨after, same⟩ := rest
      rw [same, splitAtMark_append_cons noQuestion]
    · rw [splitAtMark_append_cons noHash, splitAtMark_of_not_mem noQuestion]
  have segments := parseSegments_of_settled special settled
  rw [← isPath, ← cut] at segments
  exact congrArg UrlPath.segments segments

/-! ### Texts as segments -/

/-- A text that stands for itself behind a slash: nothing in it is dropped, separates, marks or is a
code, and it is no dot. -/
structure PlainId (text : List Char) : Prop where
  noMark : ∀ c ∈ text, isSlash c = false ∧ c ≠ '?' ∧ c ≠ '#'
  noBreak : ∀ c ∈ text, isIgnored c = false
  ends : ∀ c, text.getLast? = some c → isEdge c = false
  noCode : ¬ HasCode text
  noDot : text ≠ ['.'] ∧ text ≠ ['.', '.']

/-- The URL whose path has segments and behind them what a text is read as. -/
def addressed (url : Url) (segments : List (List Char)) (text : List Char) : Url :=
  let (beforeFragment, fragment) := splitAtMark '#' (cleanEnd text)
  let (main, query) := splitAtMark '?' beforeFragment
  { url with
    path := .segments (resolve id segments.reverse ((splitBy isSlash main).map (encode EncodeSet.path)))
    query := query.map (encode EncodeSet.specialQuery)
    fragment := fragment.map (encode EncodeSet.fragment) }

theorem continued_afterSlash {url : Url} (special : isSpecial url.scheme) {segments : List (List Char)}
    (settled : ∀ segment ∈ segments, SettledSegment segment) (text : List Char) :
    url.continued (cleanEnd (afterSlash segments text)) = url.addressed segments text := by
  simp only [continued, addressed, cleanEnd_afterSlash settled,
    splitAtMark_afterSlash settled (.inr rfl), splitAtMark_afterSlash settled (.inl rfl),
    parseSegments_afterSlash settled special]

/-- A dot stands for a dot, so that a text that is no dot is not read as one unless there is a code in it. -/
theorem PlainId.isDot_encode {text : List Char} (plain : PlainId text) :
    isDot (encode EncodeSet.path text) = false := by
  have meaning : decodeBytes (encode EncodeSet.path text) = utf8 text := by
    rw [decodeBytes_encode EncodeSet.path_keepsCodes, decodeBytes_of_not_hasCode plain.noCode]
  rw [isDot, Bool.or_eq_false_iff, Bool.eq_false_iff, Bool.eq_false_iff]
  constructor
  · intro double
    rw [decodeBytes_of_isDoubleDot double] at meaning
    exact plain.noDot.2 (utf8_inj meaning).symm
  · intro single
    rw [decodeBytes_of_isSingleDot single] at meaning
    exact plain.noDot.1 (utf8_inj meaning).symm

/-- **A plain text is one segment.** -/
theorem PlainId.addressed {text : List Char} (plain : PlainId text) (url : Url)
    {segments : List (List Char)} :
    url.addressed segments text =
      { url with
        path := .segments (segments ++ [encode EncodeSet.path text]), query := none, fragment := none } := by
  have whole : cleanEnd text = text := cleanEnd_eq_self_iff.2 ⟨plain.noBreak, plain.ends⟩
  have noFragment : '#' ∉ text := fun member => (plain.noMark _ member).2.2 rfl
  have noQuery : '?' ∉ text := fun member => (plain.noMark _ member).2.1 rfl
  have one : splitBy isSlash text = [text] := by
    rw [splitBy_eq_splitOnP]
    exact List.splitOnP_eq_singleton fun c member => (plain.noMark c member).1
  -- it is one segment, and none that the path is resolved by
  obtain ⟨noDots, noDot⟩ := Bool.or_eq_false_iff.1 plain.isDot_encode
  have resolved : ∀ done, resolve id done [encode EncodeSet.path text] =
      done.reverse ++ [encode EncodeSet.path text] := by
    intro done
    rw [resolve, if_neg (by simp [noDots]), if_neg (by simp [noDot]), resolve]
    cases done <;> simp
  simp only [Url.addressed, whole, splitAtMark_of_not_mem noFragment, splitAtMark_of_not_mem noQuery, one,
    List.map_cons, List.map_nil, resolved, List.reverse_reverse, Option.map_none]

/-- What a URL must be to name a text behind a path. -/
structure Names (url : Url) (path : List Char) (text : List Char) : Prop where
  noQuery : url.query = none
  noFragment : url.fragment = none
  segment : ∃ segment, '/' ∉ segment ∧ url.path.render = path ++ '/' :: segment ∧
    decodeBytes segment = utf8 text

theorem slash_not_mem_encode {text : List Char} (noSlash : '/' ∉ text) :
    '/' ∉ encode EncodeSet.path text := by
  intro member
  rcases of_mem_encode member with ⟨inText, -⟩ | percent | isDigit
  · exact noSlash inText
  · exact absurd percent (by decide)
  · exact absurd isDigit (by decide)

/-- A text that holds no mark is one part of the path. -/
theorem addressed_of_unmarked {url : Url} {segments : List (List Char)} {text : List Char}
    (noQuery : (url.addressed segments text).query = none)
    (noFragment : (url.addressed segments text).fragment = none) :
    '?' ∉ cleanEnd text ∧ '#' ∉ cleanEnd text ∧ (url.addressed segments text).path =
      .segments (resolve id segments.reverse
        ((splitBy isSlash (cleanEnd text)).map (encode EncodeSet.path))) := by
  simp only [addressed, Option.map_eq_none_iff] at noQuery noFragment
  have noHash : '#' ∉ cleanEnd text := splitAtMark_snd_eq_none_iff.1 noFragment
  rw [splitAtMark_of_not_mem noHash] at noQuery
  have noQuestion : '?' ∉ cleanEnd text := splitAtMark_snd_eq_none_iff.1 noQuery
  refine ⟨noQuestion, noHash, ?_⟩
  simp only [addressed, splitAtMark_of_not_mem noHash, splitAtMark_of_not_mem noQuestion]

/-- The text behind the last slash is determined. -/
theorem eq_of_append_slash {before before' last last' : List Char} (noSlash : '/' ∉ last)
    (noSlash' : '/' ∉ last') (same : before ++ '/' :: last = before' ++ '/' :: last') :
    before = before' ∧ last = last' := by
  have cut : splitAtLast? '/' (before ++ '/' :: last) = some (before, last) :=
    splitAtLast?_append_cons noSlash
  rw [same, splitAtLast?_append_cons noSlash'] at cut
  obtain ⟨front, back⟩ := Prod.mk.inj (Option.some.inj cut)
  exact ⟨front.symm, back.symm⟩

/-- What stands behind the last slash is the last part of the text, encoded, or nothing in place of a dot. -/
theorem eq_last_of_names {url : Url} {segments : List (List Char)} {path segment text last : List Char}
    (isPath : url.path = .segments (resolve id segments.reverse
      ((splitBy isSlash text).map (encode EncodeSet.path))))
    (isLast : (splitBy isSlash text).getLast? = some last) (noSlash : '/' ∉ segment)
    (same : url.path.render = path ++ '/' :: segment) :
    segment = if isDot (encode EncodeSet.path last) then [] else encode EncodeSet.path last := by
  set ending := if isDot (encode EncodeSet.path last) then [] else encode EncodeSet.path last with isEnding
  have found : (resolve id segments.reverse
      ((splitBy isSlash text).map (encode EncodeSet.path))).getLast? = some ending :=
    getLast?_resolve (by rw [List.getLast?_map, isLast]; rfl)
  obtain ⟨front, parts⟩ := List.getLast?_eq_some_iff.1 found
  -- the last segment has no slash in it, before and after it is encoded
  have noSlashLast : '/' ∉ last := fun member =>
    absurd (of_mem_splitBy (List.mem_of_getLast? isLast) member).2 (by decide)
  have noSlashEnding : '/' ∉ ending := by
    rw [isEnding]
    split
    · exact List.not_mem_nil
    · exact slash_not_mem_encode noSlashLast
  rw [isPath, parts, UrlPath.render, List.flatMap_append, List.flatMap_singleton] at same
  exact (eq_of_append_slash noSlashEnding noSlash same).2.symm

/-- **Only plain texts are named.** If the text behind the last slash stands for the whole text, it is
the whole text: nothing was dropped or cut off, and no code was read. -/
theorem names_addressed_iff {url : Url} {segments : List (List Char)} {text : List Char} :
    Names (url.addressed segments text) (segments.flatMap ('/' :: ·)) text ↔ PlainId text := by
  constructor
  · intro names
    obtain ⟨segment, noSlash, path, meaning⟩ := names.segment
    obtain ⟨noQuestion, noHash, isPath⟩ := addressed_of_unmarked names.noQuery names.noFragment
    obtain ⟨last, isLast, ends⟩ := exists_getLast?_splitBy isSlash (cleanEnd text)
    have sub : last.Sublist text := ends.sublist.trans (cleanEnd_sublist text)
    rw [eq_last_of_names isPath isLast noSlash path] at meaning
    have noDot : isDot (encode EncodeSet.path last) = false := by
      rw [← Bool.not_eq_true]
      intro dot
      -- an empty segment stands for the empty text, of which no dot is a part
      rw [if_pos dot, decodeBytes_nil] at meaning
      have empty : text = [] := utf8_inj meaning.symm
      rw [empty, List.sublist_nil] at sub
      rw [sub] at dot
      exact absurd dot (by decide)
    rw [noDot, if_neg Bool.false_ne_true, decodeBytes_encode EncodeSet.path_keepsCodes] at meaning
    -- the bytes of the part are at least those that it stands for, which are all bytes of the text
    have whole : last = text :=
      eq_of_sublist_of_length_utf8_le sub (meaning ▸ length_decodeBytes_le last)
    subst whole
    -- so nothing was dropped either
    have kept : cleanEnd last = last := (cleanEnd_sublist last).antisymm ends.sublist
    rw [kept] at noQuestion noHash isLast
    obtain ⟨noBreak, endsSound⟩ := cleanEnd_eq_self_iff.1 kept
    refine ⟨fun c member => ⟨?_, ?_, ?_⟩, noBreak, endsSound, decodeBytes_eq_utf8_iff.1 meaning, ?_, ?_⟩
    · exact (of_mem_splitBy (List.mem_of_getLast? isLast) member).2
    · rintro rfl
      exact noQuestion member
    · rintro rfl
      exact noHash member
    · rintro rfl
      exact absurd noDot (by decide)
    · rintro rfl
      exact absurd noDot (by decide)
  · intro plain
    rw [plain.addressed]
    have noSlash : '/' ∉ text := fun member => absurd (plain.noMark _ member).1 (by decide)
    refine ⟨rfl, rfl, encode EncodeSet.path text, slash_not_mem_encode noSlash, ?_, ?_⟩
    · rw [UrlPath.render, List.flatMap_append, List.flatMap_singleton]
    · rw [decodeBytes_encode EncodeSet.path_keepsCodes, decodeBytes_of_not_hasCode plain.noCode]

end Url

end ServiceProbe

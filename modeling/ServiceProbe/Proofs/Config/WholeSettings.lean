import ServiceProbe.Proofs.Config.Documents
import ServiceProbe.Proofs.Config.Literals
import ServiceProbe.Proofs.Config.Loaders
import ServiceProbe.Proofs.Config.Values
import ServiceProbe.Proofs.Number.Wholes

/-!
# Whole numbers from files and from the environment

A file and the environment do not treat whole numbers alike. In a file a number that no signed word of 64 bits
holds makes the whole file unreadable. In the environment such a number is read as a double, and the setting
becomes what that double is as a word.

* `WholeSetting.held?_of_written` — a configuration that is loaded holds exactly the number that a file gives,
  and of a number that a variable gives exactly those that survive both readings (`Survives`); every other one is
  replaced by another number.
-/

namespace ServiceProbe.Config

open Number (Double wordOf Survives)

variable {value : String} {n : Int}

/-! ### Numbers of variables -/

/-- The first character of a whole number stays as it is in small letters, and no truth value begins with it. -/
theorem exists_cons_of_whole? {text : List Char} (whole : Number.whole? text = some n) :
    ∃ c rest, text = c :: rest ∧ Text.smallLetter c = c ∧ c.toNat < 0x80 ∧ c ≠ 't' ∧ c ≠ 'f' := by
  obtain ⟨negative, digits, isSplit, isDigits, -⟩ := Number.exists_of_whole? whole
  rcases Number.splitSign_cases isSplit with ⟨rfl, -⟩ | ⟨sign, rfl | rfl, rfl⟩
  · obtain ⟨some, all⟩ := Bool.and_eq_true_iff.1 isDigits
    cases text with
    | nil => cases some
    | cons c rest =>
      -- a digit is its own small letter, and it opens no word for a truth value
      have digit : c.isDigit := List.all_eq_true.1 all c List.mem_cons_self
      have ascii : c.toNat < 0x80 := (Url.toNat_le_of_isDigit digit).trans_lt (by decide)
      obtain ⟨same, noTrue, noFalse⟩ :=
        @Url.of_ascii (fun c => c.isDigit → Text.smallLetter c = c ∧ c ≠ 't' ∧ c ≠ 'f') (by decide) c ascii digit
      exact ⟨c, rest, rfl, same, ascii, noTrue, noFalse⟩
  · exact ⟨'+', digits, rfl, by decide⟩
  · exact ⟨'-', digits, rfl, by decide⟩

/-- A whole number is no word for a truth value. -/
theorem not_isTruth_of_whole? (whole : Number.whole? value.toList = some n) (b : Bool) : ¬ IsTruth value b := by
  obtain ⟨c, rest, isText, same, ascii, noTrue, noFalse⟩ := exists_cons_of_whole? whole
  have noDot : c ≠ '\u0130' := by
    rintro rfl
    exact absurd ascii (by decide)
  have noSigma : c ≠ '\u03a3' := by
    rintro rfl
    exact absurd ascii (by decide)
  rw [IsTruth, isText, Text.lower, Text.lowerAfter, if_neg noDot, if_neg noSigma, same]
  cases b with
  | true => exact fun word => noTrue (List.cons.inj word).1
  | false => exact fun word => noFalse (List.cons.inj word).1

/-- A signed word is read as the number it is, unless that is below zero. -/
theorem of_asWhole_whole {small : Int64} {key : String} {origin : Origin} {word : UInt64}
    (h : Keyed.asWhole ⟨key, .leaf (.whole small) origin⟩ = .ok word) :
    0 ≤ small.toInt ∧ word.toNat = small.toInt.toNat := by
  have most := small.toInt_lt
  unfold Keyed.asWhole at h
  dsimp only at h
  split at h
  · cases h
  · next notNegative =>
    rw [Int64.lt_iff_toInt_lt, Int64.toInt_zero] at notNegative
    rw [← Except.ok.inj h]
    exact ⟨Int.not_lt.1 notNegative, UInt64.toNat_ofNat_of_lt' (by unfold UInt64.size; omega)⟩

/-- What a variable that is a whole number becomes where a number is wanted. -/
theorem toNat_of_asWhole (whole : Number.whole? value.toList = some n) {key : String} {origin : Origin}
    {word : UInt64} (h : Keyed.asWhole ⟨key, .leaf (scalarOf value) origin⟩ = .ok word) :
    word.toNat = wordOf n ∧ (0 ≤ n ∨ n < -2 ^ 63) := by
  obtain ⟨negative, digits, isSplit, isDigits, isValue⟩ := Number.exists_of_whole? whole
  have read := isReadAs_scalarOf value
  generalize scalarOf value = scalar at read h
  cases read with
  | truth isTruth => exact absurd isTruth (not_isTruth_of_whole? whole _)
  | @whole small noTruth isWhole =>
    obtain ⟨same, low, high⟩ := isWhole
    obtain rfl := Option.some.inj (whole.symm.trans same)
    obtain ⟨notNegative, isWord⟩ := of_asWhole_whole h
    rw [wordOf, if_pos high]
    exact ⟨isWord, .inl notNegative⟩
  | @real x noTruth noWhole isReal =>
    -- no signed word holds the number, so it lies far on one side of zero
    have outside : n < -2 ^ 63 ∨ 2 ^ 63 ≤ n := by
      have none := noWhole n
      rw [IsWhole, whole] at none
      by_contra inside
      exact none ⟨rfl, by omega, by omega⟩
    rw [Double.read?_of_isDigits isSplit isDigits] at isReal
    obtain rfl := Option.some.inj isReal
    have isWord : word = UInt64.ofNat
        ((Double.ofRatio negative (Number.digitsValue digits) 1).roundWithin 0 (2 ^ 64 - 1)).toNat :=
      (Except.ok.inj h).symm
    cases negative with
    | true =>
      rw [if_pos rfl] at isValue
      -- a number below zero is rounded up to zero
      have nothing : n.toNat = 0 := by omega
      rw [isWord, Double.roundWithin_ofRatio_true, wordOf, if_pos (by omega), nothing]
      exact ⟨rfl, by omega⟩
    | false =>
      rw [if_neg Bool.false_ne_true] at isValue
      -- a number from 2⁶³ on goes through a double
      have large : 2 ^ 63 ≤ Number.digitsValue digits := by omega
      rw [isWord, Double.roundWithin_ofRatio_false large, wordOf, if_neg (by omega), isValue, Int.toNat_natCast,
        Int.toNat_natCast]
      refine ⟨UInt64.toNat_ofNat_of_lt' ?_, by omega⟩
      unfold UInt64.size
      omega
  | text noTruth noWhole noReal =>
    rw [Double.read?_of_isDigits isSplit isDigits] at noReal
    cases noReal

/-! ### Numbers of files -/

/-- The paths of names in a document that lead to the setting at a place: the name of its section and its own, or
one key that is a path itself. Letters may be of any size. -/
inductive LeadsTo (part name : String) : List String → Prop where
  | inSection {first second : String} (isPath : KeyStep.ofKey first = [.name first])
    (isPart : Setting.foldName first = part) (isName : Setting.foldName second = name) :
    LeadsTo part name [first, second]
  | inKey {key first second : String} (isPath : KeyStep.ofKey key = [.name first, .name second])
    (isPart : Setting.foldName first = part) (isName : Setting.foldName second = name) : LeadsTo part name [key]

/-- In a layer the section on a path is a table. -/
def isInTable (layer : List (String × Setting)) (path : List String) : Bool :=
  match path with
  | [part, _] =>
    match Entries.find? part layer with
    | some (.table _ _) => true
    | _ => false
  | _ => true

/-- Nothing in a layer but what is on a path bears on the setting at a place. -/
def isAlone (part name : String) (layer : List (String × Setting)) (path : List String) : Bool :=
  layer.all fun entry =>
    if path.head? = some entry.1 then
      entry.2.entries.all fun inner => path[1]? = some inner.1 || Setting.foldName inner.1 ≠ name
    else !Setting.bears part name (KeyStep.ofKey entry.1) entry.2

/-- A TOML file gives a whole number for the setting at a place: the number is written there in decimal, and nothing
else in the file bears on the setting. -/
def GivesWhole (files : Files) (document : String × String) (part name : String) (n : Int) : Prop :=
  FileFormat.of? document.1 = some .toml ∧
  ∃ path literal rest, LeadsTo part name path ∧ Toml.IsDecimal literal n ∧ Toml.EndsNumber rest ∧
    Toml.Gives (some (Path.plain document.1)) (Toml.documentChars (Files.unmarked document.2)) path
      (literal ++ rest) ∧
    ∀ layer, files.Reads document layer → isInTable layer path ∧ isAlone part name layer path

/-- What stands behind the entry on the path leads elsewhere. -/
theorem elsewhere_of_isAlone {part name first : String} {path : List String}
    {before after : List (String × Setting)} {entry : String × Setting}
    (h : isAlone part name (before ++ entry :: after) (first :: path))
    (absent : ∀ entry ∈ after, entry.1 ≠ first) : Elsewhere part name after := by
  intro other member
  have alone := List.all_eq_true.1 h other (List.mem_append_right _ (List.mem_cons_of_mem _ member))
  have notOnPath : (first :: path).head? ≠ some other.1 :=
    fun same => absent other member (Option.some.inj same).symm
  rw [if_neg notOnPath] at alone
  exact Bool.not_eq_true' _ ▸ alone

/-- What stands behind the setting in its section has another name, however that is spelled. -/
theorem foldName_ne_of_isAlone {part name first second : String}
    {before after earlier later : List (String × Setting)} {setting : Setting} {origin : Origin}
    (h : isAlone part name (before ++ (first, .table (earlier ++ (second, setting) :: later) origin) :: after)
      [first, second])
    (once : ∀ entry ∈ later, entry.1 ≠ second) : ∀ entry ∈ later, Setting.foldName entry.1 ≠ name := by
  intro entry member
  have inSection := List.all_eq_true.1 h _ (List.mem_append_right _ List.mem_cons_self)
  rw [if_pos (show [first, second].head? = some first from rfl)] at inSection
  have other := List.all_eq_true.1 inSection entry (List.mem_append_right _ (List.mem_cons_of_mem _ member))
  rcases Bool.or_eq_true_iff.1 other with same | different
  · exact absurd (Option.some.inj (of_decide_eq_true same)).symm (once entry member)
  · exact of_decide_eq_true different

/-- A file that is read gives the number itself. -/
theorem exists_sets_of_givesWhole {files : Files} {document : String × String} {part name : String} {layer : Layer}
    (gives : GivesWhole files document part name n) (isRead : files.Reads document layer) :
    ∃ before entry after word, layer = before ++ entry :: after ∧ Elsewhere part name after ∧
      Setting.Sets part name (.leaf (.whole word) (some (Path.plain document.1))) (KeyStep.ofKey entry.1) entry.2 ∧
      word.toInt = n := by
  obtain ⟨isToml, path, literal, rest, leads, decimal, ends, given, only⟩ := gives
  obtain ⟨inTable, alone⟩ := only layer isRead
  have isRead := (Files.reads_toml_iff isToml).1 isRead
  -- the line stands in the section, or names the section in its key
  cases leads with
  | @inSection first second isPath isPart isName =>
    rw [isInTable] at inTable
    split at inTable
    · next entries origin isHeld =>
      obtain ⟨⟨before, after, rfl, absent⟩, setting, earlier, later, readAs, rfl, once⟩ :=
        Toml.exists_append_of_gives isRead given isHeld
      obtain ⟨depth, fuel, left, isValue⟩ := readAs
      obtain ⟨word, rfl, isWord⟩ := Toml.readValue_of_decimal decimal ends isValue
      refine ⟨before, _, after, word, rfl, elsewhere_of_isAlone alone absent, ?_, isWord⟩
      rw [isPath]
      exact .inTable isPart isName (foldName_ne_of_isAlone alone once)
    · cases inTable
  | @inKey key first second isPath isPart isName =>
    obtain ⟨setting, before, after, readAs, rfl, absent⟩ := Toml.exists_append_of_gives_key isRead given
    obtain ⟨depth, fuel, left, isValue⟩ := readAs
    obtain ⟨word, rfl, isWord⟩ := Toml.readValue_of_decimal decimal ends isValue
    refine ⟨before, _, after, word, rfl, elsewhere_of_isAlone alone absent, ?_, isWord⟩
    rw [isPath]
    exact .direct isPart isName

/-! ### What a configuration holds -/

namespace WholeSetting

theorem foldName_part (number : WholeSetting) : Setting.foldName number.part.name = number.part.name := by
  cases number <;> decide +kernel

theorem foldName_name (number : WholeSetting) : Setting.foldName number.name = number.name := by
  cases number <;> decide +kernel

/-- The number of attempts has 32 bits and is not zero, so that only numbers that survive are loaded. -/
theorem survives_of_maxAttempts {config : Config} {held : Nat} (valid : config.validate = .ok ())
    (isHeld : maxAttempts.held? config = some held) (same : held = wordOf n) : Survives n := by
  obtain ⟨-, -, -, notZero, -⟩ := validate_eq_ok_iff.1 valid
  obtain rfl : config.polling.maxAttempts.toNat = held := Option.some.inj isHeld
  have small := config.polling.maxAttempts.toNat_lt
  have some : config.polling.maxAttempts.toNat ≠ 0 := fun none => notZero (UInt32.toNat_inj.1 none)
  rw [same] at small some
  unfold wordOf at small some
  split at small
  · next signed =>
    rw [if_pos signed] at some
    exact ⟨by omega, .inl signed⟩
  · -- what a double becomes from 2⁶³ on does not fit into 32 bits
    have down := (Number.roundDiv_bounds n.toNat 2048).1
    omega

/-- **Whole numbers.** If a variable decides a number, a configuration that is loaded holds it only if it
survives, as it always does where it is the number of attempts. If a file decides it, such a configuration holds
it in any case. -/
theorem held?_of_written (number : WholeSetting) {loader : Loader} {environment : Environment} {files : Files}
    {config : Config} (loads : loader.load environment files = .ok config) :
    (∀ variableName value n, Decides environment number.part.name number.name variableName value →
      Number.whole? value.toList = some n →
      ∃ held, number.held? config = some held ∧ held = wordOf n ∧ ((held : Int) = n ↔ Survives n) ∧
        (0 ≤ n ∨ n < -2 ^ 63) ∧ (number = .maxAttempts → Survives n)) ∧
    ∀ document n, loader.DecidesBy environment files number.part.name number.name document →
      GivesWhole files document number.part.name number.name n →
      ∃ held, number.held? config = some held ∧ (held : Int) = n := by
  constructor
  · intro variableName value n decides whole
    obtain ⟨tree, decoded, there⟩ :=
      Loader.exists_tree_of_variable loads decides number.foldName_part number.foldName_name
    have something : scalarOf value ≠ .nothing := by
      have read := isReadAs_scalarOf value
      rintro nothing
      rw [nothing] at read
      cases read
    obtain ⟨word, isWord, held⟩ := held?_of_there decoded there something
    -- a variable is a text, and the number it holds is the nearest double
    obtain ⟨same, bounds⟩ := toNat_of_asWhole whole isWord
    refine ⟨word.toNat, held, same, ?_, bounds, ?_⟩
    · rw [same]
      exact Number.wordOf_eq_iff n
    · rintro rfl
      exact survives_of_maxAttempts (Loader.validate_of_load loads) held same
  · intro document n decides gives
    obtain ⟨layer, isRead, exists_tree⟩ := Loader.exists_tree_of_document loads decides
    obtain ⟨before, entry, after, small, same, elsewhere, sets, rfl⟩ :=
      exists_sets_of_givesWhole gives isRead
    obtain ⟨tree, decoded, there⟩ := exists_tree _ _ _ _ _ same sets elsewhere
    obtain ⟨word, isWord, held⟩ := held?_of_there decoded there nofun
    obtain ⟨notNegative, same⟩ := of_asWhole_whole isWord
    exact ⟨word.toNat, held, by omega⟩

/-- The text of a file with a number, over which a variable puts a number of the same section. -/
def pauseFile : String × String :=
  ("slow.toml", "[polling]\ninterval_ms = 1_500 # often enough\n")

def pauseFiles : Files :=
  .ofTexts fun _ => some pauseFile.2

def largeWait : Environment :=
  [("TASKPROBE__POLLING__MAX_WAIT_MS", "9223372036854775809")]

/-- The number that the file gives, after the line of its section. -/
theorem givesWhole_pauseFile : GivesWhole pauseFiles pauseFile "polling" "interval_ms" 1500 := by
  refine ⟨by decide +kernel, ["polling", "interval_ms"], "1_500".toList, " # often enough\n".toList,
    .inSection (by decide +kernel) (by decide +kernel) (by decide +kernel),
    ⟨false, "1_500".toList, rfl, ⟨by decide, List.all_eq_true.1 rfl⟩, by decide⟩, ?_, ?_, ?_⟩
  · rintro c same
    obtain rfl : ' ' = c := Option.some.inj same
    rfl
  · -- the reader comes to the second line, whose header is the first
    have comes : (do
        let origin := some (Path.plain pauseFile.1)
        let text := Toml.documentChars (Files.unmarked pauseFile.2)
        let line ← Toml.readLine origin {} (Toml.skipLines text)
        let after ← Toml.lineEnd? line.2
        let entry ← Toml.keyAndValue? (Toml.skipLines after)
        some (line.1.header ++ entry.1, entry.2)) =
        some (["polling", "interval_ms"], "1_500".toList ++ " # often enough\n".toList) := by
      decide +kernel
    obtain ⟨⟨draft, rest⟩, isLine, comes⟩ := Option.bind_eq_some_iff.1 comes
    obtain ⟨after, isEnd, comes⟩ := Option.bind_eq_some_iff.1 comes
    obtain ⟨⟨keys, value⟩, isEntry, comes⟩ := Option.bind_eq_some_iff.1 comes
    obtain ⟨isPath, rfl⟩ := Prod.mk.inj (Option.some.inj comes)
    rw [← isPath]
    exact .line (.line .start isLine isEnd) isEntry
  · have all : (pauseFiles.readDocument? pauseFile).all (fun layer => isInTable layer ["polling", "interval_ms"] &&
        isAlone "polling" "interval_ms" layer ["polling", "interval_ms"]) := by
      decide +kernel
    intro layer isRead
    rw [isRead] at all
    exact Bool.and_eq_true_iff.1 all

/-- The file is read exactly, and the number of the variable is not. -/
theorem held?_of_written_large :
    ∃ config, (Loader.file "slow.toml").load largeWait pauseFiles = .ok config ∧
      (∃ held, interval.held? config = some held ∧ (held : Int) = 1500) ∧
      ∃ held, maxWait.held? config = some held ∧ held = 9223372036854775808 ∧ ¬ Survives 9223372036854775809 := by
  have loads : (Loader.file "slow.toml").load largeWait pauseFiles =
      .ok { polling := { intervalMillis := 1500, maxWaitMillis := some 9223372036854775808 } } := by
    refine eq_ok_of_toOption ?_
    decide +kernel
  have quiet : Elsewhere "polling" "interval_ms" (environmentLayer largeWait) := by
    unfold Elsewhere
    decide +kernel
  have whole : Number.whole? "9223372036854775809".toList = some 9223372036854775809 := by decide +kernel
  refine ⟨_, loads, (held?_of_written interval loads).2 pauseFile 1500 ⟨[], [], rfl, nofun, quiet⟩
    givesWhole_pauseFile, ?_⟩
  obtain ⟨held, isHeld, same, iff, -⟩ := (held?_of_written maxWait loads).1 _ "9223372036854775809" _
    ⟨[], [], "polling.max_wait_ms", rfl, by decide +kernel, by decide +kernel, nofun⟩ whole
  obtain rfl : 9223372036854775808 = held := Option.some.inj isHeld
  exact ⟨_, isHeld, rfl, mt iff.2 (by decide)⟩

/-- The number that follows 2⁶³ is loaded as 2⁶³. -/
theorem held?_ne_of_large :
    Decides [("TASKPROBE__POLLING__INTERVAL_MS", "9223372036854775809")] "polling" "interval_ms"
        "TASKPROBE__POLLING__INTERVAL_MS" "9223372036854775809" ∧
      Number.whole? "9223372036854775809".toList = some 9223372036854775809 ∧
      ∃ config, Loader.standard.load [("TASKPROBE__POLLING__INTERVAL_MS", "9223372036854775809")]
          (.ofTexts fun _ => none) = .ok config ∧
        interval.held? config = some 9223372036854775808 := by
  refine ⟨⟨[], [], "polling.interval_ms", rfl, by decide +kernel, by decide +kernel, nofun⟩, by decide +kernel,
    { polling := { intervalMillis := 9223372036854775808 } }, eq_ok_of_toOption ?_, rfl⟩
  decide +kernel

end WholeSetting

end ServiceProbe.Config

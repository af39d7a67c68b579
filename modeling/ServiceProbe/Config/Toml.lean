import ServiceProbe.Config.Setting
import ServiceProbe.Number.Reading
import ServiceProbe.Text.Digits

/-!
# Reading TOML

`Toml.read` turns a text in TOML 1.0 into a tree of settings. It first collects the lines into a document
whose tables remember how they came to be: by a header of their own, as a step on the way of another
header, or by a dotted key. That decides what may still be added to them; a table or value that is given
twice makes the whole text unreadable. Dates and times are kept as texts, in their normal form.
-/

namespace ServiceProbe.Config.Toml

open Number (Double)

/-- Reads a part at the start of a text and gives what is left of it. -/
abbrev Part (α : Type) := List Char → Option (α × List Char)

/-! ### Characters -/

/-- A space or a tab. -/
def isGap (c : Char) : Bool :=
  c = ' ' || c = '\t'

def skipGap (text : List Char) : List Char :=
  text.dropWhile isGap

/-- A character that may stand in a comment or a text: no control character but the tab. -/
def isPlain (c : Char) : Bool :=
  c = '\t' || (0x20 ≤ c.toNat && c.toNat ≠ 0x7F)

/-- The text after a line break. -/
def lineBreak? : List Char → Option (List Char)
  | '\n' :: rest => some rest
  | '\x0d' :: '\n' :: rest => some rest
  | _ => none

/-- The text after a comment, if one starts here. -/
def skipComment (text : List Char) : List Char :=
  match text with
  | '#' :: rest => rest.dropWhile isPlain
  | _ => text

/-- The end of a line: blanks, perhaps a comment, and a line break or the end of the text. -/
def lineEnd? (text : List Char) : Option (List Char) :=
  match skipComment (skipGap text) with
  | [] => some []
  | rest => lineBreak? rest

/-- The text after blanks, comments and line breaks. -/
def skipLines (text : List Char) : List Char :=
  let inner := skipComment (skipGap text)
  match lineBreak? inner with
  | some rest => if rest.length < text.length then skipLines rest else rest
  | none => inner
termination_by text.length

/-! ### Texts -/

/-- The character with a code of so many hexadecimal digits. -/
private def codePoint (length : Nat) : Part Char := fun text => do
  let digits := text.take length
  let code ← if digits.length = length then Text.number? 16 digits else none
  if code < 0xD800 || (0xDFFF < code && code < 0x110000) then
    some (Char.ofNat code, text.drop length)
  else none

/-- The character an escape stands for, after its backslash. -/
def escaped : Part Char
  | 'b' :: rest => some ('\x08', rest)
  | 't' :: rest => some ('\t', rest)
  | 'n' :: rest => some ('\n', rest)
  | 'f' :: rest => some ('\x0c', rest)
  | 'r' :: rest => some ('\x0d', rest)
  | '"' :: rest => some ('"', rest)
  | '\\' :: rest => some ('\\', rest)
  | 'u' :: rest => codePoint 4 rest
  | 'U' :: rest => codePoint 8 rest
  | _ => none

/-- The rest of a text in double quotes. The fuel is the number of characters. -/
private def basicRest : Nat → Part (List Char)
  | 0, _ => none
  | fuel + 1, text =>
    match text with
    | '"' :: rest => some ([], rest)
    | '\\' :: rest => do
      let (c, rest) ← escaped rest
      let (more, rest) ← basicRest fuel rest
      some (c :: more, rest)
    | c :: rest =>
      if isPlain c then do
        let (more, rest) ← basicRest fuel rest
        some (c :: more, rest)
      else none
    | [] => none

/-- The rest of a text in single quotes. -/
private def literalRest (text : List Char) : Option (List Char × List Char) :=
  match text.dropWhile fun c => isPlain c && c ≠ '\'' with
  | '\'' :: rest => some (text.takeWhile fun c => isPlain c && c ≠ '\'', rest)
  | _ => none

/-- Up to two quotes may stand before the three that end a text of several lines. -/
private def closing (quote : Char) (text : List Char) : Option (List Char × List Char) :=
  let run := (text.takeWhile (· = quote)).length
  if 3 ≤ run then
    let extra := min (run - 3) 2
    some (List.replicate extra quote, text.drop (extra + 3))
  else none

/-- The text after gaps and line breaks. -/
def skipBlankLines (text : List Char) : List Char :=
  let inner := skipGap text
  match lineBreak? inner with
  | some rest => if rest.length < text.length then skipBlankLines rest else rest
  | none => inner
termination_by text.length

/-- The text after a backslash at the end of a line: all gaps and line breaks are left out. -/
private def continuation? (text : List Char) : Option (List Char) :=
  (lineBreak? (skipGap text)).map skipBlankLines

/-- The rest of a text of several lines. Line breaks are kept in one form; escapes are read where
`escapes` says so. -/
private def multilineRest (quote : Char) (escapes : Bool) : Nat → Part (List Char)
  | 0, _ => none
  | fuel + 1, text =>
    match closing quote text with
    | some (extra, rest) => some (extra, rest)
    | none =>
      match lineBreak? text, text with
      | some rest, _ => do
        let (more, rest) ← multilineRest quote escapes fuel rest
        some ('\n' :: more, rest)
      | none, [] => none
      | none, c :: rest =>
        if c = '\\' && escapes then
          -- a backslash at the end of a line joins it to the next text, and begins an escape elsewhere
          match continuation? rest with
          | some rest => multilineRest quote escapes fuel rest
          | none => do
            let (c, rest) ← escaped rest
            let (more, rest) ← multilineRest quote escapes fuel rest
            some (c :: more, rest)
        else if isPlain c then do
          let (more, rest) ← multilineRest quote escapes fuel rest
          some (c :: more, rest)
        else none

/-- The text without a line break at its start. -/
private def dropLineBreak (text : List Char) : List Char :=
  (lineBreak? text).getD text

/-- A text on one line, in quotes of either kind. -/
def quotedText : Part (List Char)
  | '"' :: rest => basicRest (rest.length + 1) rest
  | '\'' :: rest => literalRest rest
  | _ => none

/-- A text, on one line or on several. -/
def stringText : Part (List Char)
  | '"' :: '"' :: '"' :: rest => multilineRest '"' true (rest.length + 1) (dropLineBreak rest)
  | '\'' :: '\'' :: '\'' :: rest => multilineRest '\'' false (rest.length + 1) (dropLineBreak rest)
  | text => quotedText text

/-! ### Keys -/

/-- A character of a key without quotes. -/
def isBareKeyChar (c : Char) : Bool :=
  c.isAlphanum || c = '_' || c = '-'

def simpleKey : Part String := fun text =>
  let bare := text.takeWhile isBareKeyChar
  if bare.isEmpty then (quotedText text).map fun (key, rest) => (String.ofList key, rest)
  else some (String.ofList bare, text.drop bare.length)

/-- Keys with dots between them, and blanks around the dots. -/
def keyRest : Nat → Part (List String)
  | 0, _ => none
  | fuel + 1, text => do
    let (key, rest) ← simpleKey (skipGap text)
    match skipGap rest with
    | '.' :: rest =>
      let (more, rest) ← keyRest fuel rest
      some (key :: more, rest)
    | rest => some ([key], rest)

/-- How deep values may be nested, and how many parts a key may have. -/
def depthLimit : Nat := 79

/-- A key; one of too many parts is refused. -/
def key : Part (List String) := fun text => do
  let (parts, rest) ← keyRest (text.length + 1) text
  if parts.length ≤ depthLimit then some (parts, rest) else none

/-! ### Numbers -/

/-- A character of a number, date or time. -/
def isNumberChar (c : Char) : Bool :=
  c.isAlphanum || ['+', '-', '.', '_', ':'].contains c

/-- Digits with single underscores between them, which are left out. -/
def groupedDigits? (isDigit : Char → Bool) : List Char → Option (List Char)
  | [] => none
  | [c] => if isDigit c then some [c] else none
  | c :: '_' :: rest =>
    if isDigit c then (groupedDigits? isDigit rest).map (c :: ·) else none
  | c :: rest => if isDigit c then (groupedDigits? isDigit rest).map (c :: ·) else none

def ofInt? (n : Int) : Option Scalar :=
  (Number.int64? n).map .whole

/-- The digits of a whole number, without needless zeros. -/
def wholeDigits? (text : List Char) : Option (List Char) := do
  let digits ← groupedDigits? Char.isDigit text
  match digits with
  | '0' :: _ :: _ => none
  | digits => some digits

def inBase? (base : Nat) (text : List Char) : Option Scalar := do
  let isDigit (c : Char) : Bool := (Text.digitValue? c).any (· < base)
  ofInt? (← Text.number? base (← groupedDigits? isDigit text))

def integer? (text : List Char) : Option Scalar :=
  match text with
  | '0' :: 'x' :: rest => inBase? 16 rest
  | '0' :: 'o' :: rest => inBase? 8 rest
  | '0' :: 'b' :: rest => inBase? 2 rest
  | _ => do
    let (negative, body) := Number.splitSign text
    let size := Number.digitsValue (← wholeDigits? body)
    ofInt? (if negative then -(size : Int) else size)

/-- The exponent of a number, after its mark: a sign and digits. -/
def exponentDigits? (text : List Char) : Option (List Char) := do
  let (negative, body) := Number.splitSign text
  let digits ← groupedDigits? Char.isDigit body
  some (if negative then '-' :: digits else digits)

/-- A number with a point or an exponent. -/
def real? (text : List Char) : Option Scalar := do
  let (negative, body) := Number.splitSign text
  if body = "inf".toList || body = "nan".toList then
    return .real (← Double.read? text)
  let main := body.takeWhile fun c => c ≠ 'e' && c ≠ 'E'
  let exponent ← match body.drop main.length with
    | [] => some []
    | _ :: rest => (exponentDigits? rest).map ('e' :: ·)
  let whole ← wholeDigits? (main.takeWhile (· ≠ '.'))
  let fraction ← match main.dropWhile (· ≠ '.') with
    | [] => some []
    | _ :: rest => (groupedDigits? Char.isDigit rest).map ('.' :: ·)
  if fraction.isEmpty && exponent.isEmpty then none
  else
    -- a number too large is refused, but only above zero
    let sign := if negative then ['-'] else []
    let value ← Double.read? (sign ++ whole ++ fraction ++ exponent)
    if value = Double.infinity then none else some (.real value)

/-! ### Dates and times -/

/-- A number of exactly so many digits within bounds. -/
def field (length low high : Nat) : Part (List Char) := fun text =>
  let digits := text.take length
  let value := Number.digitsValue digits
  if digits.length = length && digits.all Char.isDigit && low ≤ value && value ≤ high then
    some (digits, text.drop length)
  else none

/-- The number of days of a month. -/
private def daysIn (year month : Nat) : Nat :=
  if month = 2 then
    if year % 4 = 0 && (year % 100 ≠ 0 || year % 400 = 0) then 29 else 28
  else if [4, 6, 9, 11].contains month then 30 else 31

def expect (c : Char) : List Char → Option (List Char)
  | d :: rest => if c = d then some rest else none
  | [] => none

def date : Part (List Char) := fun text => do
  let (year, rest) ← field 4 0 9999 text
  let (month, rest) ← field 2 1 12 (← expect '-' rest)
  let days := daysIn (Number.digitsValue year) (Number.digitsValue month)
  let (day, rest) ← field 2 1 days (← expect '-' rest)
  some (year ++ ['-'] ++ month ++ ['-'] ++ day, rest)

/-- A fraction of a second: nine digits count, and zeros at the end do not. -/
private def fractionText (digits : List Char) : List Char :=
  match (((digits.take 9).reverse).dropWhile (· = '0')).reverse with
  | [] => []
  | kept => '.' :: kept

def time : Part (List Char) := fun text => do
  let (hour, rest) ← field 2 0 23 text
  let (minute, rest) ← field 2 0 59 (← expect ':' rest)
  let (second, rest) ← field 2 0 60 (← expect ':' rest)
  let main := hour ++ [':'] ++ minute ++ [':'] ++ second
  match rest with
  | '.' :: rest =>
    let digits := rest.takeWhile Char.isDigit
    if digits.isEmpty then none else some (main ++ fractionText digits, rest.drop digits.length)
  | rest => some (main, rest)

/-- An offset; where it is zero its sign is a plus. -/
private def offset : Part (List Char)
  | 'Z' :: rest => some (['Z'], rest)
  | 'z' :: rest => some (['Z'], rest)
  | sign :: rest => do
    if sign = '+' || sign = '-' then
      let (hour, rest) ← field 2 0 23 rest
      let (minute, rest) ← field 2 0 59 (← expect ':' rest)
      let shown := if (hour ++ minute).all (· = '0') then '+' else sign
      some (shown :: hour ++ [':'] ++ minute, rest)
    else none
  | [] => none

/-- A time after a date. -/
private def timeAfterDate (text : List Char) : Option (List Char × List Char) := do
  let (time, rest) ← time text
  match offset rest with
  | some (offset, rest) => some (time ++ offset, rest)
  | none => some (time, rest)

/-- A date, a time or both, in their normal form. -/
def dateTime : Part (List Char) := fun text =>
  match date text with
  | none => time text
  | some (date, mark :: rest) =>
    if mark = 'T' || mark = 't' then
      (timeAfterDate rest).map fun (time, rest) => (date ++ 'T' :: time, rest)
    else if mark = ' ' then
      match timeAfterDate rest with
      | some (time, rest) => some (date ++ 'T' :: time, rest)
      | none => some (date, mark :: rest)
    else some (date, mark :: rest)
  | some (date, []) => some (date, [])

/-- A number, or a date or time. -/
def numeric : Part Scalar := fun text =>
  match dateTime text with
  | some (moment, rest) => some (.text (String.ofList moment), rest)
  | none => do
    let word := text.takeWhile isNumberChar
    let value ← (integer? word).orElse fun _ => real? word
    some (value, text.drop word.length)

/-! ### Documents -/

/-- How a table came to be. -/
inductive Making where
  /-- By a header of its own. -/
  | header
  /-- On the way of another header. -/
  | passing
  /-- By a dotted key. -/
  | dotted
deriving DecidableEq

/-- A document or a part of it. -/
inductive Node where
  /-- A value, which nothing can be added to. -/
  | value (setting : Setting)
  | table (making : Making) (entries : List (String × Node))
  /-- Tables under one name, the last one first. -/
  | tables (items : List (List (String × Node)))

namespace Node

/-- Entries with the making of their table. -/
abbrev Table := Making × List (String × Node)

/-- Changes the table at a path below a table. Missing tables are made on the way; a dotted key cannot
pass a table with a header of its own. -/
def within (dotted : Bool) (change : Table → Option Table) : List String → Table → Option Table
  | [], held => change held
  | name :: path, (making, entries) => do
    let next ←
      match Entries.find? name entries with
      | none => do
        let (_, inner) ← within dotted change path (if dotted then .dotted else .passing, [])
        some (table (if dotted then .dotted else .passing) inner)
      | some (value _) => none
      | some (table making inner) =>
        -- a header may lead through any table, a dotted key only through those it could have made
        if dotted && making = .header then none
        else do
          let (making, inner) ← within dotted change path (making, inner)
          some (table making inner)
      | some (tables (last :: earlier)) => do
        let (_, last) ← within dotted change path (.header, last)
        some (tables (last :: earlier))
      | some (tables []) => none
    some (making, Entries.insert name next entries)

/-- A new entry. A table made by a dotted key only grows by dotted keys, and only such keys make it
grow. -/
def addEntry (isPath : Bool) (name : String) (setting : Setting) : Table → Option Table
  | (making, entries) =>
    if (making = .dotted) ≠ isPath then none
    else if (Entries.find? name entries).isSome then none
    else some (making, Entries.insert name (value setting) entries)

/-- The table with a value at a key. -/
def put (keys : List String) (setting : Setting) (held : Table) : Option Table :=
  match keys.getLast? with
  | none => none
  | some name =>
    within true (addEntry (1 < keys.length) name setting) keys.dropLast held

/-- The document with a table opened by a header. -/
def openTable (keys : List String) (held : Table) : Option Table :=
  match keys.getLast? with
  | none => none
  | some name =>
    within false (fun (making, entries) =>
      match Entries.find? name entries with
      | none => some (making, Entries.insert name (table .header []) entries)
      -- a table that is only passed through so far may still get a header of its own
      | some (table .passing inner) =>
        some (making, Entries.insert name (table .header inner) entries)
      | some _ => none) keys.dropLast held

/-- The document with one more table under a name. -/
def openItem (keys : List String) (held : Table) : Option Table :=
  match keys.getLast? with
  | none => none
  | some name =>
    within false (fun (making, entries) =>
      match Entries.find? name entries with
      | none => some (making, Entries.insert name (tables [[]]) entries)
      | some (tables items) => some (making, Entries.insert name (tables ([] :: items)) entries)
      | some _ => none) keys.dropLast held

mutual

/-- The setting a part of a document is. -/
def toSetting (origin : Origin) : Node → Setting
  | value setting => setting
  | table _ entries => .table (entriesOf origin entries) origin
  | tables items => .list (itemsOf origin items).reverse origin

/-- The settings of entries. -/
def entriesOf (origin : Origin) : List (String × Node) → List (String × Setting)
  | [] => []
  | (name, node) :: rest =>
    (name, toSetting origin node) :: entriesOf origin rest

/-- The settings of tables under one name. -/
def itemsOf (origin : Origin) : List (List (String × Node)) → List Setting
  | [] => []
  | entries :: rest => .table (entriesOf origin entries) origin :: itemsOf origin rest

end

end Node

/-! ### Values -/

/-- The word at the start of a text. -/
def word (expected : String) (text : List Char) : Option (List Char) :=
  Text.after? expected.toList text

mutual

/-- A value. The fuel bounds the number of values within values and one after the other, and `depth` is how
deep they may still be nested. -/
def readValue (origin : Origin) (depth : Nat) : Nat → Part Setting
  | 0, _ => none
  | fuel + 1, text =>
    match depth, text with
    -- values may be nested so deep and no deeper
    | 0, '[' :: _ => none
    | 0, '\x7b' :: _ => none
    | depth + 1, '[' :: rest =>
      (readItems origin depth fuel (skipLines rest)).map fun (items, rest) => (.list items origin, rest)
    | depth + 1, '\x7b' :: rest => do
      let (table, rest) ←
        match skipGap rest with
        | '\x7d' :: rest => some ((Making.header, []), rest)
        | rest => readEntries origin depth fuel (.header, []) rest
      some (Node.toSetting origin (.table table.1 table.2), rest)
    | _, '"' :: _ => stringSetting text
    | _, '\'' :: _ => stringSetting text
    | _, 't' :: _ => (word "true" text).map fun rest => (.leaf (.truth true) origin, rest)
    | _, 'f' :: _ => (word "false" text).map fun rest => (.leaf (.truth false) origin, rest)
    -- numbers, dates and times, infinities and what is no number
    | _, _ => (numeric text).map fun (scalar, rest) => (.leaf scalar origin, rest)
where
  stringSetting (text : List Char) : Option (Setting × List Char) :=
    (stringText text).map fun (s, rest) => (.leaf (.text (String.ofList s)) origin, rest)

/-- The items of an array, up to its bracket. -/
def readItems (origin : Origin) (depth : Nat) : Nat → Part (List Setting)
  | 0, _ => none
  | fuel + 1, text =>
    match text with
    | ']' :: rest => some ([], rest)
    | _ => do
      let (item, rest) ← readValue origin depth fuel text
      -- a comma may stand behind the last item as well
      match skipLines rest with
      | ',' :: rest =>
        let (items, rest) ← readItems origin depth fuel (skipLines rest)
        some (item :: items, rest)
      | ']' :: rest => some ([item], rest)
      | _ => none

/-- The entries of a table on one line, up to its brace. -/
def readEntries (origin : Origin) (depth : Nat) : Nat → Node.Table → Part Node.Table
  | 0, _, _ => none
  | fuel + 1, held, text => do
    let (keys, rest) ← key text
    let rest ← expect '=' rest
    let (setting, rest) ← readValue origin depth fuel (skipGap rest)
    let held ← Node.put keys setting held
    match skipGap rest with
    | ',' :: rest => readEntries origin depth fuel held rest
    | '\x7d' :: rest => some (held, rest)
    | _ => none

end

/-! ### Lines -/

/-- A document, and the keys of the header that its last lines belong to. -/
structure Draft where
  header : List String := []
  root : Node.Table := (.header, [])

/-- The keys of a header between its brackets. -/
def headerKeys (closers : String) (text : List Char) : Option (List String × List Char) := do
  let (keys, rest) ← key text
  let rest ← word closers rest
  some (keys, rest)

/-- One line that is not blank: a header or an entry. -/
def readLine (origin : Origin) (draft : Draft) : Part Draft
  | '[' :: '[' :: rest => do
    let (keys, rest) ← headerKeys "]]" rest
    some ({ header := keys, root := ← Node.openItem keys draft.root }, rest)
  | '[' :: rest => do
    let (keys, rest) ← headerKeys "]" rest
    some ({ header := keys, root := ← Node.openTable keys draft.root }, rest)
  | text => do
    let (keys, rest) ← key text
    let rest ← expect '=' rest
    let rest := skipGap rest
    let (setting, rest) ← readValue origin depthLimit (rest.length + 1) rest
    let root ← Node.within false (Node.put keys setting) draft.header draft.root
    some ({ draft with root }, rest)

/-- The lines of a document. The fuel is the number of characters. -/
def readLines (origin : Origin) : Nat → Draft → List Char → Option Draft
  | 0, _, _ => none
  | fuel + 1, draft, text =>
    match skipLines text with
    | [] => some draft
    | text => do
      let (draft, rest) ← readLine origin draft text
      readLines origin fuel draft (← lineEnd? rest)

/-- The settings of a text, by name, with the origin each is given. -/
def read? (origin : Origin) (text : String) : Option (List (String × Setting)) := do
  let chars := match text.toList with
    | '\ufeff' :: rest => rest
    | chars => chars
  let draft ← readLines origin (chars.length + 1) {} chars
  some (Node.entriesOf origin draft.root.2)

end ServiceProbe.Config.Toml

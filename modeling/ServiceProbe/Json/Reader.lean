import ServiceProbe.Json.Value
import ServiceProbe.Text.Digits

/-!
# Reading JSON texts

`Json.read` reads one value from a text and says where and why it fails. The reader walks a cursor that
knows its line and column; columns count bytes from the start of the line. Whole numbers that fit a
word stay whole. Every other number is computed from its leading digits, as many as fit a word, and a
power of ten, by one multiplication or division of doubles.
-/

namespace ServiceProbe.Json

open Number (Double)

/-- Why a text is no JSON value. -/
inductive SyntaxFault where
  | endInValue | endInList | endInObject | endInString
  | expectedColon | expectedListSeparator | expectedObjectSeparator
  | expectedIdent | expectedValue | invalidEscape | invalidNumber | numberOutOfRange
  | controlCharacter | keyNotString | loneSurrogate | trailingComma | trailingCharacters
  | endInHexEscape | tooDeep
deriving DecidableEq

/-- The wording of a fault. -/
def SyntaxFault.message : SyntaxFault → String
  | .endInValue => "EOF while parsing a value"
  | .endInList => "EOF while parsing a list"
  | .endInObject => "EOF while parsing an object"
  | .endInString => "EOF while parsing a string"
  | .expectedColon => "expected `:`"
  | .expectedListSeparator => "expected `,` or `]`"
  | .expectedObjectSeparator => "expected `,` or `\x7d`"
  | .expectedIdent => "expected ident"
  | .expectedValue => "expected value"
  | .invalidEscape => "invalid escape"
  | .invalidNumber => "invalid number"
  | .numberOutOfRange => "number out of range"
  | .controlCharacter => "control character (\\u0000-\\u001F) found while parsing a string"
  | .keyNotString => "key must be a string"
  | .loneSurrogate => "lone leading surrogate in hex escape"
  | .trailingComma => "trailing comma"
  | .trailingCharacters => "trailing characters"
  | .endInHexEscape => "unexpected end of hex escape"
  | .tooDeep => "recursion limit exceeded"

/-- A fault and its place. -/
structure SyntaxError where
  fault : SyntaxFault
  line : Nat
  column : Nat
deriving DecidableEq

def SyntaxError.message (e : SyntaxError) : String :=
  s!"{e.fault.message} at line {e.line} column {e.column}"

/-- The rest of a text, and how far the part before it reaches. -/
structure Cursor where
  rest : List Char
  line : Nat
  column : Nat

/-- A blank between the parts of a text. -/
def isSpace (c : Char) : Bool :=
  c = ' ' || c = '\n' || c = '\t' || c = '\x0d'

namespace Cursor

def start (text : List Char) : Cursor :=
  ⟨text, 1, 0⟩

/-- The cursor behind the next character. -/
def next (cursor : Cursor) : Cursor :=
  match cursor.rest with
  | [] => cursor
  | c :: rest =>
    if c = '\n' then ⟨rest, cursor.line + 1, 0⟩
    else ⟨rest, cursor.line, cursor.column + c.utf8Size⟩

/-- The cursor behind the next `n` characters. -/
def skip (cursor : Cursor) : Nat → Cursor
  | 0 => cursor
  | n + 1 => cursor.next.skip n

/-- A fault at what has been read so far. -/
def fault {α : Type} (cursor : Cursor) (f : SyntaxFault) : Except SyntaxError α :=
  .error ⟨f, cursor.line, cursor.column⟩

/-- A fault behind so many of the next bytes; a character may be cut. -/
def faultBehind {α : Type} (cursor : Cursor) (f : SyntaxFault) : Nat → Except SyntaxError α
  | 0 => cursor.fault f
  | bytes + 1 =>
    match cursor.rest with
    | [] => cursor.fault f
    | c :: _ =>
      if c.utf8Size ≤ bytes + 1 then cursor.next.faultBehind f (bytes + 1 - c.utf8Size)
      else .error ⟨f, cursor.line, cursor.column + bytes + 1⟩
termination_by bytes => bytes
decreasing_by
  have := c.utf8Size_pos
  omega

/-- A fault behind the next byte. -/
def faultAhead {α : Type} (cursor : Cursor) (f : SyntaxFault) : Except SyntaxError α :=
  cursor.faultBehind f 1

/-- The cursor behind blanks. -/
def skipSpace (cursor : Cursor) : Cursor :=
  cursor.skip (cursor.rest.takeWhile isSpace).length

/-- The digits ahead. -/
def digits (cursor : Cursor) : List Char :=
  cursor.rest.takeWhile Char.isDigit

end Cursor

private def digitValue (c : Char) : Nat :=
  c.toNat - '0'.toNat

/-! ### Numbers -/

/-- Takes digits into `leading` for as long as the result stays below the limit; gives the result and
how many digits were taken. -/
private def takeDigits (limit leading taken : Nat) : List Char → Nat × Nat
  | [] => (leading, taken)
  | c :: rest =>
    let more := 10 * leading + digitValue c
    if more < limit then takeDigits limit more (taken + 1) rest else (leading, taken)

/-- `leading · 10 ^ exponent` in double arithmetic: exponents up to 308 take one multiplication or
division by the power of ten, smaller ones are approached by dividing by 10³⁰⁸ first. -/
private def scale (leading : Double) (exponent : Int) : Option Double :=
  if exponent.natAbs ≤ 308 then
    let power := Double.ofNat (Nat.pow 10 exponent.natAbs)
    if exponent < 0 then some (leading.div power)
    else
      let product := leading.mul power
      if product.isInfinite then none else some product
  else if leading.isZero then some leading
  else if 0 ≤ exponent then none
  else
    let reduced := leading.div (Double.ofNat (Nat.pow 10 308))
    if h : exponent + 308 < 0 then scale reduced (exponent + 308) else some reduced
termination_by exponent.natAbs
decreasing_by omega

private def scaled (cursor : Cursor) (positive : Bool) (leading : Nat) (exponent : Int) :
    Except SyntaxError (JsonNumber × Cursor) :=
  match scale (Double.ofNat leading) exponent with
  | some x => .ok (.double (if positive then x else x.neg), cursor)
  | none => cursor.fault .numberOutOfRange

/-- The exponent after its mark `e`. -/
private def readExponent (cursor : Cursor) (positive : Bool) (leading : Nat) (exponent : Int) :
    Except SyntaxError (JsonNumber × Cursor) :=
  let (up, cursor) :=
    match cursor.rest with
    | '+' :: _ => (true, cursor.next)
    | '-' :: _ => (false, cursor.next)
    | _ => (true, cursor)
  match cursor.rest with
  | [] => cursor.fault .endInValue
  | c :: _ =>
    if !c.isDigit then cursor.faultAhead .invalidNumber
    else
      let digits := cursor.digits
      let (size, taken) := takeDigits (UInt32.size / 2) 0 0 digits
      -- an exponent that fits no word decides by its sign alone
      if taken = digits.length then
        let shift : Int := if up then size else -size
        scaled (cursor.skip digits.length) positive leading (exponent + shift)
      else if leading != 0 && up then (cursor.skip (taken + 1)).fault .numberOutOfRange
      else
        .ok (.double (if positive then Double.zero else Double.negativeZero),
          cursor.skip digits.length)

/-- A character before an exponent. -/
def isExponentMark (c : Char) : Bool :=
  c = 'e' || c = 'E'

private def readExponentPart (cursor : Cursor) (positive : Bool) (leading : Nat) (exponent : Int) :
    Except SyntaxError (JsonNumber × Cursor) :=
  match cursor.rest with
  | c :: _ =>
    if isExponentMark c then readExponent cursor.next positive leading exponent
    else scaled cursor positive leading exponent
  | [] => scaled cursor positive leading exponent

/-- The decimals after their point. Digits beyond the first that does not fit are skipped. -/
private def readDecimals (cursor : Cursor) (positive : Bool) (leading : Nat) (exponent : Int) :
    Except SyntaxError (JsonNumber × Cursor) :=
  match cursor.digits with
  | [] =>
    match cursor.rest with
    | [] => cursor.fault .endInValue
    | _ => cursor.faultAhead .invalidNumber
  | digits =>
    let (leading', taken) := takeDigits UInt64.size leading 0 digits
    readExponentPart (cursor.skip digits.length) positive leading' (exponent - taken)

/-- What follows the whole part of a number that is larger than a word. -/
private def readLong (cursor : Cursor) (positive : Bool) (leading dropped : Nat) :
    Except SyntaxError (JsonNumber × Cursor) :=
  match cursor.rest with
  | '.' :: _ => readDecimals cursor.next positive leading dropped
  | _ => readExponentPart cursor positive leading dropped

/-- What follows the whole part of a number. Without point and exponent it stays a whole number if it
fits; minus zero and what is below the smallest 64-bit number become doubles. -/
private def readTail (cursor : Cursor) (positive : Bool) (leading : Nat) :
    Except SyntaxError (JsonNumber × Cursor) :=
  match cursor.rest with
  | '.' :: _ => readDecimals cursor.next positive leading 0
  | c :: _ =>
    if isExponentMark c then readExponent cursor.next positive leading 0 else whole
  | [] => whole
where
  whole :=
    if positive then .ok (.natural (UInt64.ofNat leading), cursor)
    else if leading = 0 || UInt64.size / 2 < leading then .ok (.double (Double.ofNat leading).neg, cursor)
    else .ok (.negative (Int64.ofInt (-(leading : Int))), cursor)

/-- A number after its sign. -/
private def readNumber (cursor : Cursor) (positive : Bool) :
    Except SyntaxError (JsonNumber × Cursor) :=
  match cursor.rest with
  | [] => cursor.fault .endInValue
  | c :: rest =>
    if c = '0' then
      match rest with
      | d :: _ =>
        if d.isDigit then cursor.next.faultAhead .invalidNumber else readTail cursor.next positive 0
      | [] => readTail cursor.next positive 0
    else if c.isDigit then
      let digits := cursor.digits
      let (leading, taken) := takeDigits UInt64.size 0 0 digits
      -- digits beyond a word only count as places
      let behind := cursor.skip digits.length
      if taken = digits.length then readTail behind positive leading
      else readLong behind positive leading (digits.length - taken)
    else cursor.faultAhead .invalidNumber

/-! ### Texts -/

/-- The code of four hexadecimal digits. -/
private def hexCode? : List Char → Option Nat
  | a :: b :: c :: d :: _ => Text.number? 16 [a, b, c, d]
  | _ => none

/-- Four hexadecimal digits; what stands in their place is taken as four bytes. -/
private def readHex (cursor : Cursor) : Except SyntaxError (Nat × Cursor) :=
  match hexCode? cursor.rest with
  | some code => .ok (code, cursor.skip 4)
  | none =>
    let bytes := (cursor.rest.take 4).foldl (fun n c => n + c.utf8Size) 0
    if 4 ≤ bytes then cursor.faultBehind .invalidEscape 4 else cursor.faultBehind .endInString bytes

/-- Takes one given character of the second half of a surrogate pair. -/
private def readPairMark (cursor : Cursor) (mark : Char) : Except SyntaxError Cursor :=
  match cursor.rest with
  | [] => cursor.fault .endInString
  | c :: _ => if c = mark then .ok cursor.next else cursor.faultAhead .endInHexEscape

/-- The character of a `\u` escape; above the first plane it takes two escapes. -/
private def readUnicode (cursor : Cursor) : Except SyntaxError (Char × Cursor) := do
  let (first, cursor) ← readHex cursor
  if 0xDC00 ≤ first && first ≤ 0xDFFF then cursor.fault .loneSurrogate
  else if 0xD800 ≤ first && first ≤ 0xDBFF then
    let cursor ← readPairMark cursor '\\'
    let cursor ← readPairMark cursor 'u'
    let (second, cursor) ← readHex cursor
    if second < 0xDC00 || 0xDFFF < second then cursor.fault .loneSurrogate
    else .ok (Char.ofNat (0x10000 + (first - 0xD800) * 0x400 + (second - 0xDC00)), cursor)
  else .ok (Char.ofNat first, cursor)

/-- The character of an escape, after the backslash. -/
private def readEscape (cursor : Cursor) : Except SyntaxError (Char × Cursor) :=
  match cursor.rest with
  | [] => cursor.fault .endInString
  | c :: _ =>
    let behind := cursor.next
    if c = '"' || c = '\\' || c = '/' then .ok (c, behind)
    else if c = 'b' then .ok ('\x08', behind)
    else if c = 'f' then .ok ('\x0c', behind)
    else if c = 'n' then .ok ('\n', behind)
    else if c = 'r' then .ok ('\x0d', behind)
    else if c = 't' then .ok ('\t', behind)
    else if c = 'u' then readUnicode behind
    else cursor.faultAhead .invalidEscape

/-- A text up to its closing quote. Each round takes at least one character. -/
private def readText (fuel : Nat) (cursor : Cursor) (taken : List Char) :
    Except SyntaxError (String × Cursor) :=
  match fuel, cursor.rest with
  | _, [] => cursor.fault .endInString
  | 0, _ => cursor.fault .endInString
  | fuel + 1, c :: _ =>
    if c = '"' then .ok (String.ofList taken.reverse, cursor.next)
    -- the characters so far are held the last one first
    else if c = '\\' then do
      let (d, cursor) ← readEscape cursor.next
      readText fuel cursor (d :: taken)
    else if c.toNat < 0x20 then cursor.faultAhead .controlCharacter
    else readText fuel cursor.next (c :: taken)

/-- The quoted text whose opening quote has been taken. -/
private def readString (cursor : Cursor) : Except SyntaxError (String × Cursor) :=
  readText cursor.rest.length cursor []

/-! ### Values -/

/-- The rest of a fixed word. -/
private def readWord (cursor : Cursor) (word : List Char) : Except SyntaxError Cursor :=
  match word with
  | [] => .ok cursor
  | w :: word =>
    match cursor.rest with
    | [] => cursor.fault .endInValue
    | c :: _ => if c = w then readWord cursor.next word else cursor.faultAhead .expectedIdent

/-- How deep values may be nested. -/
def depthLimit : Nat := 127

mutual

/-- A value. `fuel` bounds the characters still to come. -/
private def readValue (fuel depth : Nat) (cursor : Cursor) : Except SyntaxError (Json × Cursor) :=
  match fuel with
  | 0 => cursor.fault .endInValue
  | fuel + 1 =>
    let cursor := cursor.skipSpace
    match cursor.rest with
    | [] => cursor.faultAhead .endInValue
    | c :: _ =>
      if c = 'n' then do return (.null, ← readWord cursor.next ['u', 'l', 'l'])
      else if c = 't' then do return (.bool true, ← readWord cursor.next ['r', 'u', 'e'])
      else if c = 'f' then do return (.bool false, ← readWord cursor.next ['a', 'l', 's', 'e'])
      else if c = '-' then do
        let (n, cursor) ← readNumber cursor.next false
        return (.number n, cursor)
      else if c.isDigit then do
        let (n, cursor) ← readNumber cursor true
        return (.number n, cursor)
      else if c = '"' then do
        let (s, cursor) ← readString cursor.next
        return (.string s, cursor)
      else if c = '[' then
        match depth with
        -- only lists and objects count as depth
        | 0 => cursor.faultAhead .tooDeep
        | depth + 1 => do
          let (items, cursor) ← readItems fuel depth cursor.next true []
          return (.array items, cursor)
      else if c = '\x7b' then
        match depth with
        | 0 => cursor.faultAhead .tooDeep
        | depth + 1 => do
          let (members, cursor) ← readMembers fuel depth cursor.next true []
          return (.object members, cursor)
      else cursor.faultAhead .expectedValue

/-- The items of a list up to its closing bracket. -/
private def readItems (fuel depth : Nat) (cursor : Cursor) (first : Bool) (taken : List Json) :
    Except SyntaxError (List Json × Cursor) :=
  match fuel with
  | 0 => cursor.fault .endInList
  | fuel + 1 =>
    let cursor := cursor.skipSpace
    match cursor.rest with
    | [] => cursor.faultAhead .endInList
    | c :: _ =>
      if c = ']' then .ok (taken.reverse, cursor.next)
      else if first then do
        let (item, cursor) ← readValue fuel depth cursor
        readItems fuel depth cursor false (item :: taken)
      else if c = ',' then
        let cursor := cursor.next.skipSpace
        match cursor.rest with
        | [] => cursor.faultAhead .endInValue
        -- the fault is told where the comma promised an item
        | ']' :: _ => cursor.faultAhead .trailingComma
        | _ => do
          let (item, cursor) ← readValue fuel depth cursor
          readItems fuel depth cursor false (item :: taken)
      else cursor.faultAhead .expectedListSeparator

/-- The members of an object up to its closing brace. -/
private def readMembers (fuel depth : Nat) (cursor : Cursor) (first : Bool) (taken : Members) :
    Except SyntaxError (Members × Cursor) :=
  match fuel with
  | 0 => cursor.fault .endInObject
  | fuel + 1 =>
    let cursor := cursor.skipSpace
    match cursor.rest with
    | [] => cursor.faultAhead .endInObject
    | c :: _ =>
      if c = '\x7d' then .ok (taken, cursor.next)
      else if first then
        if c = '"' then readMember fuel depth cursor taken else cursor.faultAhead .keyNotString
      else if c = ',' then
        let cursor := cursor.next.skipSpace
        match cursor.rest with
        | [] => cursor.faultAhead .endInValue
        | '"' :: _ => readMember fuel depth cursor taken
        -- the fault is told where the comma promised a member
        | '\x7d' :: _ => cursor.faultAhead .trailingComma
        | _ => cursor.faultAhead .keyNotString
      else cursor.faultAhead .expectedObjectSeparator

/-- A member whose opening quote is ahead, and the members after it. -/
private def readMember (fuel depth : Nat) (cursor : Cursor) (taken : Members) :
    Except SyntaxError (Members × Cursor) :=
  match fuel with
  | 0 => cursor.fault .endInObject
  | fuel + 1 => do
    let (name, cursor) ← readString cursor.next
    let cursor := cursor.skipSpace
    match cursor.rest with
    | [] => cursor.faultAhead .endInObject
    | ':' :: _ =>
      let (value, cursor) ← readValue fuel depth cursor.next
      -- of members with one name the last one stays
      readMembers fuel depth cursor false (Entries.insert name value taken)
    | _ => cursor.faultAhead .expectedColon

end

/-- The value that the whole text is. -/
def read (text : String) : Except SyntaxError Json := do
  let chars := text.toList
  let (value, cursor) ← readValue (4 * chars.length + 4) depthLimit (Cursor.start chars)
  let cursor := cursor.skipSpace
  match cursor.rest with
  | [] => return value
  | _ => cursor.faultAhead .trailingCharacters

end ServiceProbe.Json

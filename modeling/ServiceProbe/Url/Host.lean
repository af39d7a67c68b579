import ServiceProbe.Text.Blank
import ServiceProbe.Text.Case
import ServiceProbe.Text.Unseen
import ServiceProbe.Url.Fault
import ServiceProbe.Url.Percent
import ServiceProbe.Url.Punycode

/-!
# Hosts

A host is a domain name, an IPv4 address or an IPv6 address. A name whose last label is a number is an
IPv4 address, which may be written with fewer than four numbers and in octal or hexadecimal; an IPv6
address stands in brackets. A name is written in ASCII. With an uncommon scheme a name is not interpreted:
only a few characters are refused, and it may be empty.

Of the mapping of international names only what `Host.nameChar` says is there: some characters are left out, stops are
points, and capitals are small letters. Neither are characters replaced by compatible ones, such as wide letters by
plain ones, nor are they composed, so a name that needs it keeps an encoded form of its own here.
-/

namespace ServiceProbe.Url

/-- A host. -/
inductive Host where
  | domain (name : List Char)
  /-- An address of 32 bits. -/
  | ipv4 (address : Nat)
  /-- Eight groups of 16 bits. -/
  | ipv6 (groups : List Nat)
deriving DecidableEq

namespace Host

/-! ### IPv4 -/

/-- A number of an IPv4 address: decimal, octal after `0`, hexadecimal after `0x`. -/
def ipv4Number? : List Char → Option Nat
  | [] => none
  | '0' :: 'x' :: digits => Text.number? 16 digits
  | '0' :: 'X' :: digits => Text.number? 16 digits
  | '0' :: c :: digits => Text.number? 8 (c :: digits)
  | digits => Text.number? 10 digits

/-- The labels of a name, without an empty last one. -/
def labels (name : List Char) : List (List Char) :=
  let parts := Text.splitOn '.' name
  if parts.getLast? = some [] then parts.dropLast else parts

/-- The last label is a number, so that the name can only be an address. -/
def endsInNumber (name : List Char) : Bool :=
  match (labels name).getLast? with
  | some label => (!label.isEmpty && label.all Char.isDigit) || (ipv4Number? label).isSome
  | none => false

/-- The address of these numbers: all but the last are bytes, the last fills the rest. -/
def ipv4OfNumbers? (numbers : List Nat) : Option Nat :=
  match numbers.getLast? with
  | none => none
  | some last =>
    let front := numbers.dropLast
    let width := 8 * (4 - front.length)
    if front.length < 4 && front.all (· < 256) && last < 1 <<< width then
      some (front.foldl (fun n byte => 256 * n + byte) 0 <<< width + last)
    else none

def parseIpv4 (name : List Char) : Except UrlFault Host :=
  match (labels name).mapM ipv4Number? >>= ipv4OfNumbers? with
  | some address => .ok (ipv4 address)
  | none => .error .badIpv4

/-! ### IPv6 -/

/-- A group of one to four hexadecimal digits. -/
def group? (digits : List Char) : Option Nat :=
  if digits.isEmpty || 4 < digits.length then none else Text.number? 16 digits

/-- A decimal byte without needless zeros. -/
def octet? : List Char → Option Nat
  | [] => none
  | ['0'] => some 0
  | '0' :: _ => none
  | digits => if digits.length ≤ 3 then (Text.number? 10 digits).filter (· < 256) else none

/-- The two groups written as four decimal bytes. -/
def ipv4Groups? (text : List Char) : Option (List Nat) :=
  match (Text.splitOn '.' text).mapM octet? with
  | some [a, b, c, d] => some [256 * a + b, 256 * c + d]
  | _ => none

/-- Groups between colons; the last one may be an IPv4 address where `ipv4Last` says so. -/
def groups? (ipv4Last : Bool) (text : List Char) : Option (List Nat) :=
  if text.isEmpty then some []
  else
    let parts := Text.splitOn ':' text
    match parts.getLast? with
    | none => none
    | some last =>
      if ipv4Last && last.contains '.' then do
        return (← parts.dropLast.mapM group?) ++ (← ipv4Groups? last)
      else parts.mapM group?

/-- The texts before and after the first double colon. -/
def atDoubleColon? : List Char → Option (List Char × List Char)
  | ':' :: ':' :: rest => some ([], rest)
  | c :: rest => (atDoubleColon? rest).map fun (before, after) => (c :: before, after)
  | [] => none

/-- The eight groups of an address; a double colon stands for one or more groups of zero. -/
def ipv6Groups? (text : List Char) : Option (List Nat) :=
  match atDoubleColon? text with
  | some (before, after) => do
    let front ← groups? false before
    let back ← groups? true after
    let count := front.length + back.length
    -- the colons stand for one group at least
    if count < 8 then return front ++ List.replicate (8 - count) 0 ++ back else none
  | none => do
    let groups ← groups? true text
    if groups.length = 8 then return groups else none

def parseIpv6 (text : List Char) : Except UrlFault Host :=
  match ipv6Groups? text with
  | some groups => .ok (ipv6 groups)
  | none => .error .badIpv6

/-! ### Names -/

/-- A character that no domain name has. -/
def isForbidden (c : Char) : Bool :=
  EncodeSet.controls c ||
    [' ', '%', '#', '/', ':', '<', '>', '?', '@', '[', '\\', ']', '^', '|'].contains c

/-- Characters that a name is read without. -/
def ignoredRanges : Text.Ranges :=
  [(0xAD, 0xAD), (0x34F, 0x34F), (0x180B, 0x180D), (0x180F, 0x180F), (0x200B, 0x200B),
    (0x2060, 0x2060), (0x2064, 0x2064), (0xFE00, 0xFE0F), (0xFEFF, 0xFEFF), (0xE0100, 0xE01EF)]

/-- A character as it counts in a name: ideographic stops are points and capitals are small letters. -/
def nameChar (c : Char) : List Char :=
  if ignoredRanges.has c then []
  else if c = '\u3002' || c = '\uff0e' || c = '\uff61' then ['.']
  else if c = '\u0130' then ['i', '\u0307']
  else [Text.smallLetter c]

/-- What a label begins with if it stands for one with characters beyond ASCII. -/
def encodedMark : List Char := "xn--".toList

/-- Whether a label may have its characters beyond ASCII: they count as they are, are seen, and the first one
does not join the character before it. -/
def isSound (label : List Char) : Bool :=
  label.all (fun c => nameChar c = [c] && !Text.isUnseen c) && !label.head?.any Text.isExtending

/-- A label of a domain name as it is written, in ASCII. -/
def label? (label : List Char) : Option (List Char) :=
  match Text.after? encodedMark label with
  | some code =>
    (Punycode.decode? code).bind fun meant =>
      if meant.any (0x80 ≤ ·.toNat) && isSound meant then some label else none
  | none =>
    if label.all (·.toNat < 0x80) then some label
    else if isSound label then some (encodedMark ++ Punycode.encode label)
    else none

/-- A domain name, in small letters and in ASCII. -/
def domainName? (text : List Char) : Option (List Char) := do
  let decoded ← String.fromUTF8? ⟨(decodeBytes text).toArray⟩
  let labels ← (Text.splitOn '.' (decoded.toList.flatMap nameChar)).mapM label?
  let name := (Text.joinWith "." (labels.map String.ofList)).toList
  if name.any isForbidden then none else some name

/-- The host of a URL with a common scheme. -/
def parse (text : List Char) : Except UrlFault Host :=
  match text with
  | [] => .error .emptyHost
  | '[' :: rest =>
    if rest.getLast? = some ']' then parseIpv6 rest.dropLast else .error .badIpv6
  | _ =>
    match domainName? text with
    | none => .error .badDomain
    | some [] => .error .emptyHost
    | some name => if endsInNumber name then parseIpv4 name else .ok (domain name)

/-- A character that is refused even where the host is not interpreted. -/
def isRefused (c : Char) : Bool :=
  ['\x00', '\t', '\n', '\x0d', ' ', '#', '/', ':', '<', '>', '?', '@', '[', '\\', ']', '^', '|'].contains c

/-- The host of a URL with any other scheme. -/
def parseOpaque (text : List Char) : Except UrlFault Host :=
  match text with
  | '[' :: rest =>
    if rest.getLast? = some ']' then parseIpv6 rest.dropLast else .error .badIpv6
  | _ =>
    if text.any isRefused then .error .badHostCharacter
    else .ok (domain (encode EncodeSet.controls text))

/-! ### Texts -/

/-- The length of the run of zeros at the start. -/
def zeroRun (groups : List Nat) : Nat :=
  (groups.takeWhile (· = 0)).length

/-- Where the longest run of zeros starts, and its length; the first of the longest. -/
def longestZeros : List Nat → Nat × Nat
  | [] => (0, 0)
  | group :: rest =>
    let here := zeroRun (group :: rest)
    let (start, length) := longestZeros rest
    if length ≤ here then (0, here) else (start + 1, length)

def joinGroups (groups : List Nat) : List Char :=
  (":".intercalate (groups.map fun group => String.ofList (Nat.toDigits 16 group))).toList

/-- The groups between colons; the longest run of two or more zeros is left out. -/
def renderIpv6 (groups : List Nat) : List Char :=
  let (start, length) := longestZeros groups
  if 2 ≤ length then
    joinGroups (groups.take start) ++ [':', ':'] ++ joinGroups (groups.drop (start + length))
  else joinGroups groups

/-- The four bytes in decimal. -/
def renderIpv4 (address : Nat) : List Char :=
  s!"{address >>> 24}.{(address >>> 16) % 256}.{(address >>> 8) % 256}.{address % 256}".toList

def render : Host → List Char
  | domain name => name
  | ipv4 address => renderIpv4 address
  | ipv6 groups => '[' :: renderIpv6 groups ++ [']']

/-- The empty host. -/
def empty : Host := domain []

end Host

end ServiceProbe.Url

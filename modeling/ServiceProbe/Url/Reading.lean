import ServiceProbe.Url.Basic

/-!
# Reading URLs

A text is cleaned first: control characters and blanks at its ends and tabs and line breaks anywhere are
dropped. Then it is cut: the scheme ends at the first colon, the fragment begins at the first `#`, the
query at the first `?` before it, the authority stands between two slashes and the next one. Each part is
then read on its own. In a path the segments `.` and `..` are carried out. What is dropped has left a trace in
one place: a tab or a line break behind the drive that begins a path of files parts the drive from the rest of
its segment.
-/

namespace ServiceProbe.Url

/-- The text before the first character that satisfies `stop`, and the text from it on. -/
def cutAt (stop : Char → Bool) (text : List Char) : List Char × List Char :=
  (text.takeWhile (!stop ·), text.dropWhile (!stop ·))

/-- The text before the first mark, and the text after it if there is a mark. -/
def splitAtMark (mark : Char) (text : List Char) : List Char × Option (List Char) :=
  match cutAt (· = mark) text with
  | (before, []) => (before, none)
  | (before, _ :: after) => (before, some after)

/-- The text before the last mark and the text after it. -/
def splitAtLast? (mark : Char) (text : List Char) : Option (List Char × List Char) :=
  match splitAtMark mark text.reverse with
  | (_, none) => none
  | (after, some before) => some (before.reverse, after.reverse)

/-- A control character or a blank. -/
def isEdge (c : Char) : Bool :=
  c.toNat ≤ 0x20

/-- The text without control characters and blanks at its ends. -/
def trim (text : List Char) : List Char :=
  ((text.dropWhile isEdge).reverse.dropWhile isEdge).reverse

/-- A tab or a line break. -/
def isIgnored (c : Char) : Bool :=
  c ∈ ['\t', '\n', '\x0d']

/-- The text without what reading a URL ignores. -/
def clean (text : List Char) : List Char :=
  (trim text).filter (!isIgnored ·)

/-! ### Scheme -/

def isSchemeChar (c : Char) : Bool :=
  c.isAlphanum || ['+', '-', '.'].contains c

/-- The scheme, in small letters, and the text after its colon. -/
def splitScheme? (text : List Char) : Option (List Char × List Char) :=
  match splitAtMark ':' text with
  | (name, some rest) =>
    if (name.head?.any Char.isAlpha) && name.all isSchemeChar then some (Text.lowerAscii name, rest)
    else none
  | (_, none) => none

/-! ### Authority -/

/-- The host and what follows its colon; a colon between brackets does not end a host. -/
def splitHost (inside : Bool) (text : List Char) : List Char × Option (List Char) :=
  match text with
  | [] => ([], none)
  | c :: rest =>
    if c = ':' && !inside then ([], some rest)
    else
      let (host, port) := splitHost (if c = '[' then true else if c = ']' then false else inside) rest
      (c :: host, port)

/-- The port at the start of a text, of at most 16 bits, and what follows it. A port that the scheme
implies is left out, like an empty one. Only a backslash may follow. -/
def parsePort (scheme text : List Char) : Except UrlFault (Option Nat × List Char) :=
  let digits := text.takeWhile Char.isDigit
  let rest := text.drop digits.length
  if rest.isEmpty || rest.head? = some '\\' then
    let port := digits.foldl (fun n c => 10 * n + (c.toNat - '0'.toNat)) 0
    if 65536 ≤ port then .error .badPort
    else if digits.isEmpty || defaultPort? scheme = some port then .ok (none, rest)
    else .ok (some port, rest)
  else .error .badPort

/-- The credentials before a host: a user and after a colon a password. -/
def parseUserinfo (text : List Char) : List Char × Option (List Char) :=
  let (user, password) := splitAtMark ':' text
  (encode EncodeSet.userinfo user,
    (password.filter (!·.isEmpty)).map (encode EncodeSet.userinfo))

/-- The authority in a text, and the text that its port leaves over. An empty host is allowed with an
uncommon scheme, but it has neither credentials nor a port; a mark for credentials alone may stand before it
only where the URL ends with it, as `ends` says. -/
def parseAuthority (scheme : List Char) (ends : Bool) (text : List Char) :
    Except UrlFault (Authority × List Char) := do
  let (userinfo, hostAndPort) ←
    match splitAtLast? '@' text with
    | none => pure ([], text)
    | some ([], []) => if ends then pure ([], []) else throw .emptyHost
    | some parts => pure parts
  let (user, password) := parseUserinfo userinfo
  let (hostText, portText) := splitHost false hostAndPort
  let host ← if isSpecial scheme then Host.parse hostText else Host.parseOpaque hostText
  let authority : Authority := { user, password, host }
  if host = Host.empty && (portText.isSome || authority.hasCredentials) then throw .emptyHost
  let (port, rest) ← parsePort scheme (portText.getD [])
  return ({ authority with port }, rest)

/-! ### Path -/

/-- The parts of a text between the characters that satisfy `separates`. -/
def splitBy (separates : Char → Bool) (text : List Char) : List (List Char) :=
  match text with
  | [] => [[]]
  | c :: rest =>
    if separates c then [] :: splitBy separates rest
    else
      match splitBy separates rest with
      | [] => [[c]]
      | part :: parts => (c :: part) :: parts

/-- A dot, written out or encoded. -/
def isSingleDot (segment : List Char) : Bool :=
  let small := Text.lowerAscii segment
  small = ".".toList || small = "%2e".toList

/-- Two dots, each written out or encoded. -/
def isDoubleDot (segment : List Char) : Bool :=
  let small := Text.lowerAscii segment
  ["..", ".%2e", "%2e.", "%2e%2e"].any (·.toList = small)

/-- A letter and a colon or bar, which names a drive. -/
def isDrive : List Char → Bool
  | [letter, mark] => letter.isAlpha && (mark = ':' || mark = '|')
  | _ => false

/-- A segment that two dots do not take back: a drive, also with a backslash behind it. -/
def isFixed (segment : List Char) : Bool :=
  isDrive segment || (isDrive (segment.take 2) && segment[2]? = some '\\')

/-- The segments with dots carried out; `done` are those so far, the last one first. A dot segment at the
end leaves an empty segment. What `asFirst` makes of it becomes the first segment. -/
def resolve (asFirst : List Char → List Char) (done : List (List Char)) :
    List (List Char) → List (List Char)
  | [] => done.reverse
  | segment :: rest =>
    if isDoubleDot segment then
      let left := if done.head?.any isFixed then done else done.tail
      resolve asFirst (if rest.isEmpty then [] :: left else left) rest
    else if isSingleDot segment then
      resolve asFirst (if rest.isEmpty then [] :: done else done) rest
    else resolve asFirst ((if done.isEmpty then asFirst segment else segment) :: done) rest

/-- The segments of a text, encoded. -/
def encodedSegments (scheme text : List Char) : List (List Char) :=
  let separates : Char → Bool := fun c => c = '/' || (isSpecial scheme && c = '\\')
  (splitBy separates text).map (encode EncodeSet.path)

/-- The segments of a path, given the text after its first slash. -/
def parseSegments (scheme text : List Char) : List (List Char) :=
  resolve id [] (encodedSegments scheme text)

/-- A drive is written with a colon. -/
def withColon (segment : List Char) : List Char :=
  if isDrive segment then segment.take 1 ++ [':'] else segment

/-- The segments of a path of files, where the first one may be a drive. If that is `parted` from what
follows it, they are two segments, and both stay as they are. -/
def parseFileSegments (parted : Bool) (scheme text : List Char) : List (List Char) :=
  match parted, encodedSegments scheme text with
  | true, (letter :: colon :: more) :: rest => resolve id [more, [letter, colon]] rest
  | _, segments => resolve withColon [] segments

/-- The path of these segments, which does not begin with empty ones. -/
def filePath (segments : List (List Char)) : UrlPath :=
  match segments.dropWhile List.isEmpty with
  | [] => .segments [[]]
  | rest => .segments rest

/-! ### The whole -/

def isSlash (c : Char) : Bool :=
  c = '/' || c = '\\'

/-- The text behind a slash at its start. -/
private def behindSlash? (text : List Char) : Option (List Char) :=
  match text.dropWhile isIgnored with
  | c :: rest => if isSlash c then some rest else none
  | [] => none

/-- Whether a text begins with a drive that an ignored character parts from the rest of its segment. -/
private def partsDrive (text : List Char) : Bool :=
  match text.dropWhile isIgnored with
  | letter :: rest =>
    match rest.dropWhile isIgnored with
    | ':' :: rest =>
      letter.isAlpha && rest.head?.any isIgnored && (rest.dropWhile isIgnored).head?.any (!isSlash ·)
    | _ => false
  | [] => false

/-- Whether the path in the rest of a file URL begins with such a drive. The text still has its ignored
characters. -/
private def hasPartedDrive (text : List Char) : Bool :=
  let main := text.takeWhile fun c => c ∉ ['?', '#']
  match behindSlash? main with
  | none => partsDrive main
  | some path =>
    match behindSlash? path with
    | none => partsDrive path
    | some hostAndPath => partsDrive ((hostAndPath.dropWhile (!isSlash ·)).drop 1)

/-- A path of files on this host. -/
private def localFile (parted : Bool) (scheme text : List Char) : Option Authority × UrlPath :=
  (some { host := Host.empty }, filePath (parseFileSegments parted scheme text))

/-- The rest of a file URL, after the scheme. A drive needs no host: one that stands in its place is the
beginning of the path, and one that begins the path makes the host be left out, unless it is parted. -/
private def parseFile (parted : Bool) (scheme text : List Char) :
    Except UrlFault (Option Authority × UrlPath) := do
  match text with
  | first :: second :: rest =>
    if isSlash first && isSlash second then
      let (hostText, pathText) := cutAt isSlash rest
      -- three slashes tell of no host
      if hostText.isEmpty then return localFile false scheme pathText
      else if isDrive hostText then return localFile false scheme rest
      else
        let host ← Host.parse hostText
        if host = .domain "localhost".toList then return localFile false scheme pathText
        else
          let segments := parseFileSegments parted scheme (pathText.drop 1)
          let host := if !parted && segments.head?.any isDrive then Host.empty else host
          return (some { host }, filePath segments)
    else return localFile parted scheme (if isSlash first then second :: rest else text)
  | [only] => return localFile false scheme (if isSlash only then [] else text)
  | [] => return localFile false scheme []

/-- The rest of a URL with another common scheme: any number of slashes, an authority, a path. -/
def parseSpecial (scheme text : List Char) :
    Except UrlFault (Option Authority × UrlPath) := do
  let (authorityText, pathText) := cutAt isSlash (text.dropWhile isSlash)
  let (authority, _) ← parseAuthority scheme false authorityText
  return (some authority, .segments (parseSegments scheme (pathText.drop 1)))

/-- The rest of a URL with an uncommon scheme: with two slashes an authority and a path, with one a path,
else a text. -/
private def parseGeneral (scheme : List Char) (ends : Bool) (text : List Char) :
    Except UrlFault (Option Authority × UrlPath) := do
  match text with
  | '/' :: '/' :: rest =>
    let (authorityText, pathText) := cutAt (· = '/') rest
    let (authority, left) ← parseAuthority scheme (ends && pathText.isEmpty) authorityText
    -- without a slash behind the authority there is no path
    let segments :=
      match left ++ pathText with
      | [] => []
      | '/' :: text => parseSegments scheme text
      | text => parseSegments scheme text
    return (some authority, .segments segments)
  | '/' :: rest => return (none, .segments (parseSegments scheme rest))
  | _ => return (none, .plain (encode EncodeSet.controls text))

/-- The URL a text is. -/
def parse (text : List Char) : Except UrlFault Url := do
  match splitScheme? (clean text) with
  | none => throw .noScheme
  | some (scheme, rest) =>
    let (beforeFragment, fragment) := splitAtMark '#' rest
    -- a question mark in the fragment is part of it
    let (main, query) := splitAtMark '?' beforeFragment
    let (authority, path) ←
      if isFile scheme then
        parseFile (hasPartedDrive ((trim text).dropWhile (· ≠ ':') |>.drop 1)) scheme main
      else if isSpecial scheme then parseSpecial scheme main
      else parseGeneral scheme (query.isNone && fragment.isNone) main
    let querySet := if isSpecial scheme then EncodeSet.specialQuery else EncodeSet.query
    return {
      scheme
      authority
      path
      query := query.map (encode querySet)
      fragment := fragment.map (encode EncodeSet.fragment) }

end ServiceProbe.Url

import ServiceProbe.Text.Digits

/-!
# Percent encoding

Outside its part's set of plain characters a character is written as its UTF-8 bytes, each as `%` and two
hexadecimal digits. The parts of a URL differ only in which ASCII characters they encode; a character
beyond ASCII is encoded everywhere.
-/

namespace ServiceProbe.Url

/-- A set of ASCII characters that one part of a URL encodes. -/
abbrev EncodeSet := Char → Bool

namespace EncodeSet

def controls : EncodeSet := fun c =>
  c.toNat < 0x20 || c.toNat = 0x7F

def fragment : EncodeSet := fun c =>
  controls c || [' ', '"', '<', '>', '\x60'].contains c

def query : EncodeSet := fun c =>
  controls c || [' ', '"', '#', '<', '>'].contains c

/-- The query of a URL with one of the common schemes. -/
def specialQuery : EncodeSet := fun c =>
  query c || c = '\''

def path : EncodeSet := fun c =>
  fragment c || ['#', '?', '\x7b', '\x7d'].contains c

def userinfo : EncodeSet := fun c =>
  path c || ['/', ':', ';', '=', '@', '[', '\\', ']', '^', '|'].contains c

end EncodeSet

/-- A byte as `%` and two digits. -/
def encodeByte (byte : UInt8) : List Char :=
  ['%', Text.upperHex (byte.toNat / 16), Text.upperHex (byte.toNat % 16)]

/-- One character, encoded if it is in the set. -/
def encodeChar (set : EncodeSet) (c : Char) : List Char :=
  if c.toNat < 0x80 && !set c then [c] else (String.utf8EncodeChar c).flatMap encodeByte

/-- A text with the characters of a set encoded. -/
def encode (set : EncodeSet) (text : List Char) : List Char :=
  text.flatMap (encodeChar set)

/-- The bytes of a text with its encoded bytes decoded. A `%` without two digits stands for itself. -/
def decodeBytes : List Char → List UInt8
  | '%' :: high :: low :: rest =>
    match Text.digitValue? high, Text.digitValue? low with
    | some h, some l => UInt8.ofNat (16 * h + l) :: decodeBytes rest
    | _, _ => '%'.toUInt8 :: decodeBytes (high :: low :: rest)
  | c :: rest => String.utf8EncodeChar c ++ decodeBytes rest
  | [] => []
termination_by text => text.length

end ServiceProbe.Url

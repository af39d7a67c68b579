import ServiceProbe.Text.Blank

/-!
# Texts from bytes

A text arrives as bytes in UTF-8, whatever is said about it. No bytes are refused: what is malformed becomes the
replacement character, one for as many bytes as begin a character that is not completed.
-/

namespace ServiceProbe.Text

/-- What stands for malformed bytes. -/
def replacement : Char := '\ufffd'

/-- A character of which more bytes are to come: how many, the bounds of the next one, and the bits so
far. -/
structure Pending where
  missing : Nat
  low : Nat := 0x80
  high : Nat := 0xBF
  bits : Nat

/-- What a first byte says. -/
inductive Lead where
  | whole (c : Char)
  | start (pending : Pending)
  | malformed

/-- The reading of a first byte. Bounds on the second byte keep out surrogates, codes beyond the last and
forms that are longer than needed. -/
def Lead.of (byte : Nat) : Lead :=
  if byte < 0x80 then .whole (Char.ofNat byte)
  -- a first byte below would tell of a character that one byte can tell of
  else if byte < 0xC2 then .malformed
  else if byte < 0xE0 then .start { missing := 1, bits := byte % 32 }
  else if byte = 0xE0 then .start { missing := 2, low := 0xA0, bits := 0 }
  else if byte = 0xED then .start { missing := 2, high := 0x9F, bits := 13 }
  else if byte < 0xF0 then .start { missing := 2, bits := byte % 16 }
  else if byte = 0xF0 then .start { missing := 3, low := 0x90, bits := 0 }
  else if byte < 0xF4 then .start { missing := 3, bits := byte % 8 }
  else if byte = 0xF4 then .start { missing := 3, high := 0x8F, bits := 4 }
  else .malformed

namespace Pending

/-- The byte can be the next one. -/
def takes (pending : Pending) (byte : UInt8) : Bool :=
  pending.low ≤ byte.toNat && byte.toNat ≤ pending.high

/-- The bits with those of the next byte. -/
def bitsWith (pending : Pending) (byte : UInt8) : Nat :=
  64 * pending.bits + byte.toNat % 64

/-- What is to come after the next byte. -/
def next (pending : Pending) (byte : UInt8) : Pending :=
  { missing := pending.missing - 1, bits := pending.bitsWith byte }

end Pending

/-- UTF-8 bytes as characters, after the bytes of `pending`. -/
def decodeUtf8 : Option Pending → List UInt8 → List Char
  | none, [] => []
  | some _, [] => [replacement]
  | none, byte :: rest =>
    match Lead.of byte.toNat with
    | .whole c => c :: decodeUtf8 none rest
    | .start pending => decodeUtf8 (some pending) rest
    | .malformed => replacement :: decodeUtf8 none rest
  | some pending, byte :: rest =>
    if pending.takes byte then
      if pending.missing = 1 then Char.ofNat (pending.bitsWith byte) :: decodeUtf8 none rest
      else decodeUtf8 (some (pending.next byte)) rest
    else
      -- the byte is none of this character, and is read as a first one
      replacement ::
        match Lead.of byte.toNat with
        | .whole c => c :: decodeUtf8 none rest
        | .start pending => decodeUtf8 (some pending) rest
        | .malformed => replacement :: decodeUtf8 none rest

/-- The text of bytes. -/
def ofBytes (bytes : List UInt8) : String :=
  String.ofList (decodeUtf8 none bytes)

end ServiceProbe.Text

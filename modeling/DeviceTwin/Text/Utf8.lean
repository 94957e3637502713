import DeviceTwin.Text.Numeral

/-!
# UTF-8

Texts are stored as bytes in UTF-8.  `decode` reads the bytes one by one: between characters it
expects a lead byte, and a lead byte says how many continuation bytes are owed and which values
the first of them may have, so that overlong forms, surrogates and values above the last code
point are refused at the first byte that rules them out.

A refusal tells where the character that could not be read starts and how many of its bytes were
in order before the one that was not; if the bytes end inside a character there is no such number.
-/

namespace DeviceTwin

/-- A sequence of bytes. -/
abbrev Bytes := List UInt8

namespace Utf8

/-- The bytes of a text. -/
def encode (t : Text) : Bytes := t.flatMap String.utf8EncodeChar

/-- Why bytes are not a text. -/
structure Fault where
  /-- How many bytes stand in front of the character that cannot be read. -/
  start : Nat
  /-- How many bytes are at fault, or nothing if the bytes end too early. -/
  length : Option Nat
  deriving DecidableEq, Repr

/-- The words for a fault. -/
def Fault.message (f : Fault) : Text :=
  match f.length with
  | some n =>
    "invalid utf-8 sequence of ".toList ++ Numeral.render n ++ " bytes from index ".toList ++
      Numeral.render f.start
  | none => "incomplete utf-8 byte sequence from index ".toList ++ Numeral.render f.start

/-- A character of which the lead byte has been read. -/
structure Partial where
  /-- How many continuation bytes are still missing. -/
  owed : Nat
  /-- The least value of the next byte. -/
  low : Nat := 0x80
  /-- The greatest value of the next byte. -/
  high : Nat := 0xbf
  /-- The bits of the code point read so far. -/
  bits : Nat
  /-- How many bytes have been read. -/
  seen : Nat := 1
  deriving DecidableEq, Repr

/-- What a byte between characters is. -/
inductive Lead where
  /-- A character on its own. -/
  | single (n : Nat)
  /-- The start of a longer character. -/
  | opens (p : Partial)
  /-- No start of a character. -/
  | invalid
  deriving DecidableEq, Repr

/-- Reads a byte between characters. -/
def lead (b : Nat) : Lead :=
  if b < 0x80 then .single b
  else if b < 0xc2 then .invalid
  else if b < 0xe0 then .opens { owed := 1, bits := b - 0xc0 }
  else if b = 0xe0 then .opens { owed := 2, low := 0xa0, bits := 0 }
  else if b = 0xed then .opens { owed := 2, high := 0x9f, bits := 0xd }
  else if b < 0xf0 then .opens { owed := 2, bits := b - 0xe0 }
  else if b = 0xf0 then .opens { owed := 3, low := 0x90, bits := 0 }
  else if b < 0xf4 then .opens { owed := 3, bits := b - 0xf0 }
  else if b = 0xf4 then .opens { owed := 3, high := 0x8f, bits := 4 }
  else .invalid

/-- Reads on with `start` bytes before the current character, of which `part` has been read. -/
def decodeFrom (start : Nat) : Option Partial → Bytes → Except Fault Text
  | none, [] => .ok []
  | some _, [] => .error { start, length := none }
  | none, b :: rest =>
    match lead b.toNat with
    | .single n => (decodeFrom (start + 1) none rest).map (Char.ofNat n :: ·)
    | .opens p => decodeFrom start (some p) rest
    | .invalid => .error { start, length := some 1 }
  | some p, b :: rest =>
    if p.low ≤ b.toNat ∧ b.toNat ≤ p.high then
      let bits := p.bits * 64 + (b.toNat - 0x80)
      if p.owed ≤ 1 then
        (decodeFrom (start + p.seen + 1) none rest).map (Char.ofNat bits :: ·)
      else decodeFrom start (some { owed := p.owed - 1, bits, seen := p.seen + 1 }) rest
    else .error { start, length := some p.seen }

/-- The text that the bytes hold. -/
def decode (bytes : Bytes) : Except Fault Text := decodeFrom 0 none bytes

/-- How many bytes a text takes. -/
def size : Text → Nat
  | [] => 0
  | c :: rest => c.utf8Size + size rest

end Utf8

end DeviceTwin

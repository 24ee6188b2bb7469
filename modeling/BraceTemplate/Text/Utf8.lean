import BraceTemplate.Text.Basic

namespace BraceTemplate.Utf8

def byte (n : Nat) : UInt8 :=
  UInt8.ofNat n

-- One to four bytes, the count by the size of the code point.
def encodeChar (c : Char) : List UInt8 :=
  let n := c.toNat
  if n < 0x80 then [byte n]
  else if n < 0x800 then [byte (0xC0 + n / 64), byte (0x80 + n % 64)]
  else if n < 0x10000 then
    [byte (0xE0 + n / 4096), byte (0x80 + n / 64 % 64), byte (0x80 + n % 64)]
  else
    [byte (0xF0 + n / 262144), byte (0x80 + n / 4096 % 64), byte (0x80 + n / 64 % 64),
      byte (0x80 + n % 64)]

def encode (s : Text) : List UInt8 :=
  s.flatMap encodeChar

-- What is still owed after the bytes of an unfinished character: how many more bytes, the bounds
-- of the next one, and the code point so far.
structure Pending where
  owed : Nat
  least : Nat
  greatest : Nat
  point : Nat

-- The start of a character of more than one byte. The bounds shut out long forms of short
-- characters, surrogates and points past the last plane.
def Pending.start? (b : Nat) : Option Pending :=
  if 0xC2 ≤ b && b ≤ 0xDF then some ⟨0, 0x80, 0xBF, b - 0xC0⟩
  else if b == 0xE0 then some ⟨1, 0xA0, 0xBF, 0⟩
  else if b == 0xED then some ⟨1, 0x80, 0x9F, 0xD⟩
  else if 0xE1 ≤ b && b ≤ 0xEF then some ⟨1, 0x80, 0xBF, b - 0xE0⟩
  else if b == 0xF0 then some ⟨2, 0x90, 0xBF, 0⟩
  else if 0xF1 ≤ b && b ≤ 0xF3 then some ⟨2, 0x80, 0xBF, b - 0xF0⟩
  else if b == 0xF4 then some ⟨2, 0x80, 0x8F, 4⟩
  else none

def decodeFrom : Option Pending → List UInt8 → Option Text
  | none, [] => some []
  | some _, [] => none
  | none, b :: rest =>
    if b.toNat < 0x80 then (decodeFrom none rest).map (Char.ofNat b.toNat :: ·)
    else
      match Pending.start? b.toNat with
      | some pending => decodeFrom (some pending) rest
      | none => none
  | some p, b :: rest =>
    if p.least ≤ b.toNat && b.toNat ≤ p.greatest then
      let point := p.point * 64 + (b.toNat - 0x80)
      match p.owed with
      | 0 => (decodeFrom none rest).map (Char.ofNat point :: ·)
      | owed + 1 => decodeFrom (some ⟨owed, 0x80, 0xBF, point⟩) rest
    else none

-- The text of a byte sequence, when the bytes are well formed.
def decode? (bytes : List UInt8) : Option Text :=
  decodeFrom none bytes

end BraceTemplate.Utf8

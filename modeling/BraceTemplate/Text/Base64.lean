import BraceTemplate.Text.Basic

namespace BraceTemplate.Base64

-- The six bits that a character stands for.
def bits? (c : Char) : Option Nat :=
  if 'A' ≤ c && c ≤ 'Z' then some (c.toNat - 65)
  else if 'a' ≤ c && c ≤ 'z' then some (c.toNat - 71)
  else if '0' ≤ c && c ≤ '9' then some (c.toNat + 4)
  else if c == '+' then some 62
  else if c == '/' then some 63
  else none

-- Decodes a text from a place within a group of four on: `filled` characters of the group came
-- before, `carry` holds their bits that are not in a byte yet, and `pads` signs followed them.
-- Characters that stand for nothing are passed over, and nothing is read after a full group of
-- padding.
def decodeFrom : (filled carry pads : Nat) → Text → Option (List UInt8)
  | filled, _, _, [] => if filled = 0 then some [] else none
  | filled, carry, pads, c :: rest =>
    if c = '=' then
      if 2 ≤ filled then
        if 4 ≤ filled + pads + 1 then some [] else decodeFrom filled carry (pads + 1) rest
      else decodeFrom filled carry pads rest
    else
      match bits? c with
      | none => decodeFrom filled carry pads rest
      | some b =>
        match filled with
        | 0 => decodeFrom 1 b 0 rest
        | 1 => (decodeFrom 2 (b % 16) 0 rest).map (UInt8.ofNat (carry * 4 + b / 16) :: ·)
        | 2 => (decodeFrom 3 (b % 4) 0 rest).map (UInt8.ofNat (carry * 16 + b / 4) :: ·)
        | _ => (decodeFrom 0 0 0 rest).map (UInt8.ofNat (carry * 64 + b) :: ·)

def decode? (s : Text) : Option (List UInt8) :=
  decodeFrom 0 0 0 s

end BraceTemplate.Base64

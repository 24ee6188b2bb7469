import BraceTemplate.Text.Basic

namespace BraceTemplate

def hexValue? (c : Char) : Option Nat :=
  if c.isDigit then some (c.toNat - 48)
  else if 'a' ≤ c ∧ c ≤ 'f' then some (c.toNat - 87)
  else if 'A' ≤ c ∧ c ≤ 'F' then some (c.toNat - 55)
  else none

-- A character by its code point, when there is one.
def charOfPoint? (n : Nat) : Option Char :=
  if n < 0x110000 ∧ (n < 0xD800 ∨ 0xDFFF < n) then some (Char.ofNat n) else none

-- The character whose code point is given by exactly `count` hexadecimal digits at the front.
def hexChar? (count : Nat) (s : Text) : Option Char := do
  let digits := s.take count
  if digits.length ≠ count then none
  let n ← digits.foldlM (fun n c => (hexValue? c).map (n * 16 + ·)) 0
  charOfPoint? n

def isOctalDigit (c : Char) : Bool :=
  '0' ≤ c && c ≤ '7'

def octalValue (digits : Text) : Nat :=
  digits.foldl (fun n c => n * 8 + (c.toNat - 48)) 0

end BraceTemplate

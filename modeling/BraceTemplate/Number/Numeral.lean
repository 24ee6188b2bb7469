import BraceTemplate.Number.Shortest
import BraceTemplate.Text.Case

namespace BraceTemplate

namespace Numeral

-- Digits of any script in their plain spelling; underscores only between digits, where they are
-- dropped.
def normalise : (afterDigit : Bool) → Text → Option Text
  | _, [] => some []
  | afterDigit, '_' :: rest =>
    if afterDigit && rest.head?.any isDecimalDigit then normalise false rest else none
  | _, c :: rest =>
    match digitValue? c with
    | some d => (normalise true rest).map (Char.ofNat (48 + d) :: ·)
    | none => (normalise false rest).map (c :: ·)

def digitsValue (s : Text) : Nat :=
  (readDigits? s).getD 0

-- An exponent mark with its number, or nothing.
def exponent? : Text → Option Int
  | [] => some 0
  | c :: rest =>
    if c = 'e' ∨ c = 'E' then
      let (sign, digits) : Int × Text := match rest with
        | '-' :: digits => (-1, digits)
        | '+' :: digits => (1, digits)
        | digits => (1, digits)
      if digits.isEmpty || !digits.all Char.isDigit then none else some (sign * digitsValue digits)
    else none

-- Digits with an optional fraction and an optional exponent, at least one digit before it.
def magnitude? (s : Text) : Option Float :=
  let whole := s.takeWhile Char.isDigit
  let rest := s.dropWhile Char.isDigit
  let (fraction, rest) := match rest with
    | '.' :: tail => (tail.takeWhile Char.isDigit, tail.dropWhile Char.isDigit)
    | rest => ([], rest)
  if whole.isEmpty && fraction.isEmpty then none
  else (exponent? rest).map fun e =>
    floatOfDecimal (digitsValue (whole ++ fraction)) (e - fraction.length)

def unsigned? (s : Text) : Option Float :=
  let word := lowerText s
  if word = "inf".toList ∨ word = "infinity".toList then some (1.0 / 0.0)
  else if word = "nan".toList then some (0.0 / 0.0)
  else (normalise false s).bind magnitude?

end Numeral

-- A floating-point number with blanks around it and a sign before it allowed.
def readFloat? (s : Text) : Option Float :=
  match trimNumeral s with
  | '-' :: rest => (Numeral.unsigned? rest).map fun x => -x
  | '+' :: rest => Numeral.unsigned? rest
  | rest => Numeral.unsigned? rest

end BraceTemplate

import BraceTemplate.Text.Basic
import BraceTemplate.Text.Digit

namespace BraceTemplate

-- Numerals longer than this are neither read nor written.
def maxNumeralLength : Nat := 4300

def natText (n : Nat) : Text :=
  Nat.toDigits 10 n

def intText : Int → Text
  | .ofNat n => natText n
  | .negSucc n => '-' :: natText (n + 1)

-- Whether a number has a numeral short enough to be written.
def hasNumeral (i : Int) : Bool :=
  i.natAbs < Nat.pow 10 maxNumeralLength

-- The value of a sequence of decimal digits of any script, the most significant first.
def readDigits? (s : Text) : Option Nat :=
  s.foldlM (fun n c => (digitValue? c).map (n * 10 + ·)) 0

-- Digits with single underscores between them.
def dropUnderscores? : Text → Option Text
  | [] => some []
  | ['_'] => none
  | '_' :: '_' :: _ => none
  | c :: rest => (dropUnderscores? rest).map fun s => if c = '_' then s else c :: s

-- A decimal numeral without sign: digits, single underscores between them, not too many.
def readNumeral? (s : Text) : Option Nat := do
  if s.head? = some '_' then none
  let digits ← dropUnderscores? s
  if digits.isEmpty || maxNumeralLength < digits.length then none
  readDigits? digits

-- Blanks that may stand around a numeral: all but the separators of the control range.
def isNumeralBlank (c : Char) : Bool :=
  isBlank c && !(28 ≤ c.toNat && c.toNat ≤ 31)

def trimNumeral (s : Text) : Text :=
  Text.dropTail isNumeralBlank (s.dropWhile isNumeralBlank)

-- An integer with blanks around it and a sign before it allowed.
def readInt? (s : Text) : Option Int :=
  match trimNumeral s with
  | '-' :: digits => (readNumeral? digits).map fun n => -(n : Int)
  | '+' :: digits => (readNumeral? digits).map fun n => (n : Int)
  | digits => (readNumeral? digits).map fun n => (n : Int)

end BraceTemplate

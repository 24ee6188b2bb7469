import BraceTemplate.Number.Shortest

namespace BraceTemplate

-- The integer nearest to a quotient; one that lies half-way goes to the even neighbour.
def roundDiv (num den : Nat) : Nat :=
  let down := num / den
  let twice := 2 * (num % den)
  if twice < den then down
  else if den < twice then down + 1
  else if down % 2 = 0 then down else down + 1

namespace Binary

-- The digits before the point, and so many behind it.
def places (b : Binary) (count : Nat) : Text × Text :=
  let (num, den) := b.ratio
  let digits := natText (roundDiv (num * Nat.pow 10 count) den)
  let digits := List.replicate (count + 1 - digits.length) '0' ++ digits
  digits.splitAt (digits.length - count)

-- One digit, so many behind it, and the power of ten that they are multiplied with.
def scaled (b : Binary) (count : Nat) : Char × Text × Int :=
  let (num, den) := b.ratio
  if num = 0 then ('0', List.replicate count '0', 0)
  else
    let power := Decimal.pointOf num den - 1
    let n := match (count : Int) - power with
      | .ofNat k => roundDiv (num * Nat.pow 10 k) den
      | .negSucc k => roundDiv num (den * Nat.pow 10 (k + 1))
    match natText n with
    | c :: rest =>
      if rest.length = count then (c, rest, power) else (c, rest.dropLast, power + 1)
    | [] => ('0', [], power)

end Binary

-- How the digits behind the point are chosen: so many of them, so many after the first digit with an
-- exponent behind, or by the number of all digits, in whichever of the two forms is shorter.
inductive Places where
  | fixed
  | scientific
  | general
  deriving DecidableEq, Inhabited

namespace Places

-- A whole part and a fraction with a point between them, which an empty fraction has only if wanted.
def withPoint (keepPoint : Bool) (whole fraction : Text) : Text :=
  if fraction.isEmpty && !keepPoint then whole else whole ++ '.' :: fraction

def exponent (power : Int) : Text :=
  let size := natText power.natAbs
  'e' :: (if power < 0 then '-' else '+') :: (if size.length < 2 then '0' :: size else size)

def fixedText (keepPoint : Bool) (count : Nat) (b : Binary) : Text :=
  let (whole, fraction) := b.places count
  withPoint keepPoint whole fraction

-- The magnitude of a number. `full` keeps the point and, where the number of digits is chosen, the
-- zeros at the end.
def magnitude (p : Places) (full : Bool) (count : Nat) (b : Binary) : Text :=
  match p with
  | .fixed => fixedText full count b
  | .scientific =>
    let (first, rest, power) := b.scaled count
    withPoint full [first] rest ++ exponent power
  | .general =>
    let count := max count 1
    let (first, rest, power) := b.scaled (count - 1)
    let cut := fun (s : Text) => if full then s else Text.dropTail (· == '0') s
    if -4 ≤ power ∧ power < count then
      let (whole, fraction) := b.places ((count : Int) - 1 - power).toNat
      withPoint full whole (cut fraction)
    else withPoint full [first] (cut rest) ++ exponent power

-- A number with its sign, if that is a minus.
def text (p : Places) (full : Bool) (count : Nat) (x : Float) : Text :=
  match Binary.ofFloat? x with
  | none => floatText x
  | some b =>
    let digits := p.magnitude full count b
    if b.negative then '-' :: digits else digits

end Places

end BraceTemplate

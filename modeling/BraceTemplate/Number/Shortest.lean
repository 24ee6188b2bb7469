import BraceTemplate.Number.Binary
import BraceTemplate.Number.Digits

namespace BraceTemplate

-- A decimal number `0.d₁d₂…dₙ * 10 ^ point`.
structure Decimal where
  digits : Text
  point : Int

namespace Decimal

-- A positive quotient, and the bounds of what is rounded to the same float, over one denominator.
structure Interval where
  low : Nat
  value : Nat
  high : Nat
  den : Nat
  closed : Bool

-- The reals that round to a float reach half-way to its neighbours. The lower neighbour of a power
-- of two is nearer. The ends belong to the interval when the mantissa is even.
def Interval.ofBinary (b : Binary) : Interval :=
  let below := if b.mantissa = Nat.pow 2 52 && -1074 < b.exponent then 1 else 2
  let (scale, den) := match b.exponent with
    | .ofNat e => (Nat.pow 2 e, 4)
    | .negSucc e => (1, 4 * Nat.pow 2 (e + 1))
  ⟨(4 * b.mantissa - below) * scale, 4 * b.mantissa * scale, (4 * b.mantissa + 2) * scale, den,
    b.mantissa % 2 = 0⟩

-- Whether `num * 10 ^ power` lies in the interval.
def Interval.holds (v : Interval) (num : Nat) (power : Int) : Bool :=
  let (x, scale) := match power with
    | .ofNat p => (num * Nat.pow 10 p * v.den, 1)
    | .negSucc p => (num * v.den, Nat.pow 10 (p + 1))
  let lo := v.low * scale
  let hi := v.high * scale
  if v.closed then lo ≤ x && x ≤ hi else lo < x && x < hi

-- The number of digits before the decimal point; zero or less counts the zeros after it.
def pointOf (num den : Nat) : Int :=
  if den ≤ num then (natText (num / den)).length
  else
    let zeros := (List.range 400).find? fun j => den ≤ num * Nat.pow 10 (j + 1)
    Int.negOfNat (zeros.getD 400)

-- The point of the decimal grid with `count` digits that is nearest to the value and lies in the
-- interval, if one does. Of two points at the same distance the even one is taken.
def nearestOnGrid? (v : Interval) (point : Int) (count : Nat) : Option Nat :=
  let power := point - count
  let (n, d) := match power with
    | .ofNat p => (v.value, v.den * Nat.pow 10 p)
    | .negSucc p => (v.value * Nat.pow 10 (p + 1), v.den)
  let down := n / d
  let up := down + 1
  match v.holds down power, v.holds up power with
  | true, true =>
    let twice := 2 * (n % d)
    some (if twice < d then down else if d < twice then up else if down % 2 = 0 then down else up)
  | true, false => some down
  | false, true => some up
  | false, false => none

-- The shortest decimal that reads back as the same float, and the nearest of those.
def shortest (b : Binary) : Decimal :=
  if b.mantissa = 0 then ⟨['0'], 1⟩
  else
    let v := Interval.ofBinary b
    let point := pointOf v.value v.den
    let found := (List.range 17).findSome? fun i =>
      (nearestOnGrid? v point (i + 1)).map fun n => (n, i + 1)
    let (n, count) := found.getD (0, 1)
    let digits := natText n
    ⟨Text.dropTail (· == '0') digits, point + (digits.length - count : Int)⟩

-- Positional notation from four zeros after the point to sixteen digits before it, always with a
-- point; otherwise one digit before the point and an exponent of two digits at least.
def text (d : Decimal) : Text :=
  if -4 < d.point ∧ d.point ≤ 16 then
    if d.point ≤ 0 then "0.".toList ++ List.replicate d.point.natAbs '0' ++ d.digits
    else
      let whole := d.digits.take d.point.toNat
      let zeros := List.replicate (d.point.toNat - d.digits.length) '0'
      let fraction := d.digits.drop d.point.toNat
      whole ++ zeros ++ '.' :: (if fraction.isEmpty then ['0'] else fraction)
  else
    let exponent := d.point - 1
    let size := natText exponent.natAbs
    let mark := if exponent < 0 then ['e', '-'] else ['e', '+']
    let lead := match d.digits with
      | [] => []
      | [c] => [c]
      | c :: rest => c :: '.' :: rest
    lead ++ mark ++ (if size.length < 2 then '0' :: size else size)

end Decimal

-- The text of a float: `inf`, `nan`, or the shortest decimal that reads back.
def floatText (x : Float) : Text :=
  match Binary.ofFloat? x with
  | none =>
    if x.isNaN then "nan".toList else if x < 0 then "-inf".toList else "inf".toList
  | some b =>
    let digits := (Decimal.shortest b).text
    if b.negative then '-' :: digits else digits

-- Reads `digits` and a power of ten; numbers past all floats become zero or infinite.
def floatOfDecimal (digits : Nat) (power : Int) : Float :=
  let size : Int := (natText digits).length
  if digits = 0 || size + power < -400 then 0.0
  else if 400 < size + power then 1.0 / 0.0
  else
    match power with
    | .ofNat p => Float.ofScientific digits false p
    | .negSucc p => Float.ofScientific digits true (p + 1)

end BraceTemplate

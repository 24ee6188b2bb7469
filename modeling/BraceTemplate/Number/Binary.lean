namespace BraceTemplate

-- A finite floating-point number as `mantissa * 2 ^ exponent`, with its sign kept apart.
structure Binary where
  negative : Bool
  mantissa : Nat
  exponent : Int

namespace Binary

-- Takes a number apart; `none` for infinities and for what is not a number.
def ofFloat? (x : Float) : Option Binary :=
  let bits := x.toBits.toNat
  let negative := Nat.pow 2 63 ≤ bits
  let field : Nat := bits / Nat.pow 2 52 % 2048
  let fraction := bits % Nat.pow 2 52
  if field = 2047 then none
  else if field = 0 then some ⟨negative, fraction, -1074⟩
  else some ⟨negative, Nat.pow 2 52 + fraction, (field : Int) - 1075⟩

-- The magnitude as a quotient of two natural numbers.
def ratio (b : Binary) : Nat × Nat :=
  match b.exponent with
  | .ofNat e => (b.mantissa * Nat.pow 2 e, 1)
  | .negSucc e => (b.mantissa, Nat.pow 2 (e + 1))

-- The value as a quotient with a signed numerator.
def signedRatio (b : Binary) : Int × Nat :=
  let (num, den) := b.ratio
  (if b.negative then -(num : Int) else num, den)

end Binary

-- The integer that is left when the fraction is cut off.
def Float.truncated? (x : Float) : Option Int :=
  (Binary.ofFloat? x).map fun b =>
    let (num, den) := b.signedRatio
    Int.tdiv num den

-- The float nearest to a quotient of natural numbers with a positive denominator. The quotient is
-- taken with 56 or 57 bits and one more that tells whether anything was left over.
def floatOfRatio (num den : Nat) : Float :=
  if num = 0 then 0.0
  else
    let shift : Int := 56 - (Nat.log2 num : Int) + (Nat.log2 den : Int)
    let (n, d) := match shift with
      | .ofNat s => (num * Nat.pow 2 s, den)
      | .negSucc s => (num, den * Nat.pow 2 (s + 1))
    let quotient := n / d * 2 + (if n % d = 0 then 0 else 1)
    (Float.ofNat quotient).scaleB (-shift - 1)

def floatOfInt (i : Int) : Float :=
  if i < 0 then -(floatOfRatio i.natAbs 1) else floatOfRatio i.natAbs 1

-- Exact order of an integer and a quotient, as the sign of their difference.
def compareRatio (a : Int) (b : Nat) (c : Int) (d : Nat) : Ordering :=
  compare (a * d) (c * b)

-- The quotient of two integers as the nearest float.
def divideInts (a b : Int) : Float :=
  let magnitude := floatOfRatio a.natAbs b.natAbs
  if (a < 0) != (b < 0) then -magnitude else magnitude

def isNegative (x : Float) : Bool :=
  Nat.pow 2 63 ≤ x.toBits.toNat

def withSign (negative : Bool) (x : Float) : Float :=
  if isNegative x != negative then -x else x

def isFinite (x : Float) : Bool :=
  (Binary.ofFloat? x).isSome

-- What is left of `x` when `y` is taken off as often as it fits, with the sign of `x`.
def Float.remainder (x y : Float) : Float :=
  match Binary.ofFloat? x, Binary.ofFloat? y with
  | some a, some b =>
    let (n, d) := a.ratio
    let (m, e) := b.ratio
    if m = 0 then 0.0 / 0.0
    else withSign a.negative (floatOfRatio (n * e % (m * d)) (d * e))
  | some _, none => if y.isNaN then y else x
  | none, _ => 0.0 / 0.0

-- The remainder with the sign of the divisor, which is not zero.
def Float.modulo (x y : Float) : Float :=
  let r := Float.remainder x y
  if r == 0.0 then withSign (isNegative y) 0.0
  else if isNegative r != isNegative y then r + y
  else r

-- The greatest whole number of times that `y` fits into `x`.
def Float.quotient (x y : Float) : Float :=
  let r := Float.remainder x y
  let q := (x - r) / y
  let q := if !(r == 0.0) && isNegative y != isNegative r then q - 1.0 else q
  if q == 0.0 then withSign (isNegative (x / y)) 0.0
  else
    let whole := q.floor
    if 0.5 < q - whole then whole + 1.0 else whole

end BraceTemplate

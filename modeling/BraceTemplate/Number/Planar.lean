import BraceTemplate.Number.Binary
import BraceTemplate.Number.Shortest

namespace BraceTemplate

-- A number of the plane by its real and its imaginary part.
structure Planar where
  re : Float
  im : Float
  deriving Inhabited

namespace Planar

def ofReal (x : Float) : Planar := ⟨x, 0.0⟩

def one : Planar := ofReal 1.0

def add (z w : Planar) : Planar := ⟨z.re + w.re, z.im + w.im⟩

def sub (z w : Planar) : Planar := ⟨z.re - w.re, z.im - w.im⟩

def neg (z : Planar) : Planar := ⟨-z.re, -z.im⟩

def mul (z w : Planar) : Planar :=
  ⟨z.re * w.re - z.im * w.im, z.re * w.im + z.im * w.re⟩

def isZero (z : Planar) : Bool :=
  z.re == 0.0 && z.im == 0.0

def same (z w : Planar) : Bool :=
  z.re == w.re && z.im == w.im

-- The quotient by a number that is not zero. Both are divided by the greater part of the divisor first,
-- so that no square is too large.
def div (z w : Planar) : Planar :=
  if w.im.abs ≤ w.re.abs then
    let ratio := w.im / w.re
    let whole := w.re + w.im * ratio
    ⟨(z.re + z.im * ratio) / whole, (z.im - z.re * ratio) / whole⟩
  else
    let ratio := w.re / w.im
    let whole := w.re * ratio + w.im
    ⟨(z.re * ratio + z.im) / whole, (z.im * ratio - z.re) / whole⟩

-- The root of the sum of two squares, `y` being no greater than `x`. The root that is found first is
-- off by a little, which is taken off it.
def hypotenuse (x y : Float) : Float :=
  let root := (x * x + y * y).sqrt
  let (first, second) :=
    if root ≤ 2.0 * y then
      let rest := root - y
      (x * (2.0 * rest - x), (rest - 2.0 * (x - y)) * rest)
    else
      let rest := root - x
      (2.0 * rest * (x - 2.0 * y), (4.0 * rest - y) * y + rest * rest)
  root - (first + second) / (2.0 * root)

-- The distance from zero. Numbers whose squares are too large or too small are scaled.
def magnitude (z : Planar) : Float :=
  let a := z.re.abs
  let b := z.im.abs
  let (y, x) := if a < b then (a, b) else (b, a)
  if x.isInf then x
  else if y ≤ x.scaleB (-54) then x + y
  else if Float.scaleB 1.0 511 < x then (hypotenuse (x.scaleB (-600)) (y.scaleB (-600))).scaleB 600
  else if y < Float.scaleB 1.0 (-459) then (hypotenuse (x.scaleB 600) (y.scaleB 600)).scaleB (-600)
  else hypotenuse x y

-- The product of as many factors as are asked for, by repeated squaring.
def powNat (z : Planar) : (fuel exponent : Nat) → (acc : Planar) → Planar
  | 0, _, acc => acc
  | _, 0, acc => acc
  | fuel + 1, n, acc => powNat (mul z z) fuel (n / 2) (if n % 2 = 1 then mul acc z else acc)

-- A power by angle and distance from zero, neither number being zero.
def polarPow (z w : Planar) : Planar :=
  let size := z.magnitude
  let angle := Float.atan2 z.im z.re
  let length := size.pow w.re
  let phase := angle * w.re
  let (length, phase) :=
    if w.im == 0.0 then (length, phase)
    else (length / (angle * w.im).exp, phase + w.im * size.log)
  ⟨length * phase.cos, length * phase.sin⟩

-- A power; small whole exponents are taken as products. Zero has no power with a negative or imaginary
-- exponent.
def pow? (z w : Planar) : Option Planar :=
  if w.im == 0.0 && w.re == w.re.floor && w.re.abs ≤ 100.0 then
    let n := w.re.abs.toUInt64.toNat
    let product := powNat z 64 n one
    if 0.0 < w.re then some product
    else if product.isZero then none
    else some (div one product)
  else if w.isZero then some one
  else if z.isZero then
    if w.im == 0.0 && 0.0 ≤ w.re then some ⟨0.0, 0.0⟩ else none
  else some (polarPow z w)

def partText (x : Float) : Text :=
  let s := floatText x
  if ".0".toList.isSuffixOf s then s.take (s.length - 2) else s

-- Both parts between parentheses with a sign between them, or the imaginary part alone.
def text (z : Planar) : Text :=
  let im := partText z.im
  if z.re == 0.0 && !isNegative z.re then im ++ ['j']
  else
    '(' :: partText z.re ++ (if im.head? = some '-' then im else '+' :: im) ++ "j)".toList

end Planar

end BraceTemplate

import BraceTemplate.Host.Fill
import BraceTemplate.Host.Order

namespace BraceTemplate.Host.Run

-- The largest number of bits that a power may have.
def maxPowerBits : Nat := 50000000

def powerOfInts (a b : Int) : Run Value :=
  if 0 ≤ b then
    if a.natAbs ≤ 1 || (Nat.log2 a.natAbs + 1) * b.toNat ≤ maxPowerBits then
      pure (.int (Int.pow a b.toNat))
    else fail .endless
  else if a = 0 then fail .divisionByZero
  else do
    let x ← asFloat a
    let y ← asFloat b
    float (x.pow y)

-- A number of the plane as a value, if neither part is too large.
def bounded (z : Planar) : Run Value :=
  if z.re.isInf || z.im.isInf then fail .tooLarge else pure (.scalar (.planar z))

def ofPlanars (op : Operator) (z w : Planar) : Run Value :=
  match op with
  | .add => pure (.scalar (.planar (z.add w)))
  | .sub => pure (.scalar (.planar (z.sub w)))
  | .mul => pure (.scalar (.planar (z.mul w)))
  | .div => if w.isZero then fail .divisionByZero else pure (.scalar (.planar (z.div w)))
  | .pow =>
    match z.pow? w with
    | some x => bounded x
    | none => fail .divisionByZero
  | _ => fail .wrongType

-- A number as one of the plane.
def planarOfReal? : Option Scalar.Number → Run (Option Planar)
  | some n => return some (.ofReal (← floatOf n))
  | none => pure none

def planarOf? (s : Scalar) : Run (Option Planar) := do
  match s with
  | .planar z => pure (some z)
  | s => planarOfReal? s.number?

-- A negative number has powers of the plane where the exponent has a fraction.
def powerOfFloats (x y : Float) : Run Value :=
  if x == 0.0 && y < 0.0 && isFinite y then fail .divisionByZero
  else
    let z := x.pow y
    if isFinite x && isFinite y && !isFinite z then
      if z.isNaN then ofPlanars .pow (.ofReal x) (.ofReal y) else fail .tooLarge
    else float z

def ofInts (op : Operator) (a b : Int) : Run Value :=
  match op with
  | .add => pure (.int (a + b))
  | .sub => pure (.int (a - b))
  | .mul => pure (.int (a * b))
  | .pow => powerOfInts a b
  | op =>
    if b = 0 then fail .divisionByZero
    else
      match op with
      | .floordiv => pure (.int (Int.fdiv a b))
      | .mod => pure (.int (Int.fmod a b))
      | _ =>
        let x := divideInts a b
        if isFinite x then float x else fail .tooLarge

def ofFloats (op : Operator) (x y : Float) : Run Value :=
  match op with
  | .add => float (x + y)
  | .sub => float (x - y)
  | .mul => float (x * y)
  | .pow => powerOfFloats x y
  | op =>
    if y == 0.0 then fail .divisionByZero
    else
      match op with
      | .floordiv => float (Float.quotient x y)
      | .mod => float (Float.modulo x y)
      | _ => float (x / y)

def ofNumbers (op : Operator) : Scalar.Number → Scalar.Number → Run Value
  | .int a, .int b => ofInts op a b
  | a, b => do
    let x ← floatOf a
    let y ← floatOf b
    ofFloats op x y

-- Numbers of repetitions are below this, and what is repeated has at most `maxRepeated` items.
def repetitionBound : Nat := 9223372036854775808

def maxRepeated : Nat := 20000000

-- Items several times over, none of them if the number is negative.
def repeatedItems {α : Type} (n : Int) (items : List α) : Run (List α) :=
  if (if n < 0 then repetitionBound < n.natAbs else repetitionBound ≤ n.natAbs) then fail .tooLarge
  else if items.isEmpty then pure []
  else if maxRepeated < n.toNat * items.length then fail .endless
  else pure (List.replicate n.toNat items).flatten

-- The length of a text is bounded like a number of repetitions.
def repeatedText {α : Type} (n : Int) (s : List α) : Run (List α) :=
  if repetitionBound ≤ n.toNat * s.length then fail .tooLarge else repeatedItems n s

-- A sequence several times over.
def repeated (v : Value) (n : Int) : Run Value := do
  match v with
  | .scalar (.str s) => return .str (← repeatedText n s)
  | .scalar (.safe s) => return .scalar (.safe (← repeatedText n s))
  | .scalar (.bytes bs) => return .scalar (.bytes (← repeatedText n bs))
  | .tuple items => return .tuple (← repeatedItems n items)
  | .ref address =>
    match ← cell? address with
    | some (.list items) => newList (← repeatedItems n items.toList)
    | _ => fail .wrongType
  | _ => fail .wrongType

-- Two sequences of one kind, one after the other. Text that joins safe text is made safe.
def concatenated (a b : Value) : Run Value := do
  match a, b with
  | .scalar (.str s), .scalar (.str t) => pure (.str (s ++ t))
  | .scalar (.safe s), .scalar (.str t) => pure (.scalar (.safe (s ++ escape t)))
  | .scalar (.str s), .scalar (.safe t) => pure (.scalar (.safe (escape s ++ t)))
  | .scalar (.safe s), .scalar (.safe t) => pure (.scalar (.safe (s ++ t)))
  | .scalar (.bytes s), .scalar (.bytes t) => pure (.scalar (.bytes (s ++ t)))
  | .tuple s, .tuple t => pure (.tuple (s ++ t))
  | .ref x, .ref y =>
    match ← cell? x, ← cell? y with
    | some (.list s), some (.list t) => newList (s.toList ++ t.toList)
    | _, _ => fail .wrongType
  | _, _ => fail .wrongType

-- The members of the left value that are not among the items of the right one.
def without (left right : List Value) : Run (List Value) := do
  let gone ← right.mapM asKey
  let kept ← left.mapM fun x => return (x, ← asKey x)
  pure ((kept.filter fun x => !gone.any x.2.same).map (·.1))

def isMembers (v : Value) : Bool :=
  match v with
  | .part .values _ => false
  | .part .. => true
  | _ => false

def distinctItems (seen : List Datum) : List Value → Run (List Value)
  | [] => pure []
  | x :: rest => do
    let key ← asKey x
    if seen.any (·.same key) then distinctItems seen rest
    else return x :: (← distinctItems (key :: seen) rest)

-- The keys or entries of a mapping have a difference with anything that has items.
def differenceOfItems (a b : Value) : Run Value := do
  if isMembers a || isMembers b then
    return .set false (← without (← distinctItems [] (← items a)) (← items b))
  else
    match a, b with
    | .absent x, _ => refuse x
    | _, .absent y => refuse y
    | _, _ => fail .wrongType

def difference (a b : Value) : Run Value := do
  match a, b with
  | .set frozen xs, .set _ ys => return .set frozen (← without xs ys)
  | a, b => differenceOfItems a b

def withPlanar (op : Operator) (z w : Run (Option Planar)) : Run Value := do
  match ← z, ← w with
  | some z, some w => ofPlanars op z w
  | _, _ => fail .wrongType

-- Numbers are calculated with; what is no number can be repeated by one, or joined.
def ofLines (op : Operator) (s t : Scalar) : Run Value :=
  match s.number?, t.number?, op with
  | some x, some y, op => ofNumbers op x y
  | none, some (.int n), .mul => repeated (.scalar s) n
  | some (.int n), none, .mul => repeated (.scalar t) n
  | _, _, .add => concatenated (.scalar s) (.scalar t)
  | _, _, _ => fail .wrongType

def ofScalars (op : Operator) (s t : Scalar) : Run Value :=
  match s, t with
  | .planar z, t => withPlanar op (pure (some z)) (planarOf? t)
  | s, .planar w => withPlanar op (planarOf? s) (pure (some w))
  | s, t => ofLines op s t

-- One of two values several times over, where the other is a whole number.
def multiplied (a b : Value) : Run Value :=
  match index? a, index? b with
  | _, some n => repeated a n
  | some n, _ => repeated b n
  | none, none => fail .wrongType

-- The value of an operation on two others that are not both scalars.
def ofOthers (op : Operator) (a b : Value) : Run Value :=
  if op = .sub then difference a b
  else
    match b with
    | .absent y => refuse y
    | b =>
      match op with
      | .mul => multiplied a b
      | .add => concatenated a b
      | _ => fail .wrongType

def isFormat : Scalar → Bool
  | .str _ => true
  | .safe _ => true
  | .bytes _ => true
  | _ => false

-- The value of an operation on two others. A remainder of a text is the text with its places filled.
def binary (op : Operator) (a b : Value) : Run Value :=
  match a with
  | .absent x => refuse x
  | .scalar s =>
    if op = .mod ∧ isFormat s then fill s b
    else
      match b with
      | .scalar t => ofScalars op s t
      | b => ofOthers op a b
  | a => ofOthers op a b

-- A number with a sign before it.
def signedLine (op : Prefixed) (s : Scalar) : Run Value :=
  match s.number?, op with
  | some (.int i), .negative => pure (.int (-i))
  | some (.float x), .negative => float (-x)
  | some (.int i), _ => pure (.int i)
  | some (.float _), _ => pure (.scalar s)
  | none, _ => fail .wrongType

def signed (op : Prefixed) (s : Scalar) : Run Value :=
  match s with
  | .planar z => pure (.scalar (.planar (if op = .negative then z.neg else z)))
  | s => signedLine op s

def unary (op : Prefixed) (v : Value) : Run Value := do
  match op with
  | .denied => return .bool (!(← truth v))
  | op =>
    match v with
    | .absent a => refuse a
    | .scalar s => signed op s
    | _ => fail .wrongType

end BraceTemplate.Host.Run

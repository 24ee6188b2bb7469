import BraceTemplate.Host.Run
import BraceTemplate.Number.Binary
import BraceTemplate.Number.Numeral

namespace BraceTemplate.Host.Run

-- An integer as a float, if it is not too large for one.
def asFloat (i : Int) : Run Float :=
  let x := floatOfInt i
  if isFinite x then pure x else fail .tooLarge

def floatOf : Scalar.Number → Run Float
  | .int i => asFloat i
  | .float x => pure x

-- The characters of a numeral that is given in bytes. Bytes outside of ASCII belong to none.
def bytesNumeral (bs : List UInt8) : Text :=
  bs.map fun b => if b.toNat < 128 then Char.ofNat b.toNat else '?'

-- The integer part of a number.
def wholeOf : Scalar.Number → Run Int
  | .int i => pure i
  | .float x =>
    match Float.truncated? x with
    | some i => pure i
    | none => fail (if x.isNaN then .wrongValue else .tooLarge)

def readOr {α : Type} (found : Option α) : Run α :=
  match found with
  | some x => pure x
  | none => fail .wrongValue

-- The integer that a value stands for: a numeral is read, the fraction of a number cut off.
def toWhole (v : Value) : Run Int :=
  match v with
  | .absent a => refuse a
  | .scalar (.str s) => readOr (readInt? s)
  | .scalar (.safe s) => readOr (readInt? s)
  | .scalar (.bytes bs) => readOr (readInt? (bytesNumeral bs))
  | .scalar s =>
    match s.number? with
    | some n => wholeOf n
    | none => fail .wrongType
  | _ => fail .wrongType

-- The float that a value stands for.
def toReal (v : Value) : Run Float :=
  match v with
  | .absent a => refuse a
  | .scalar (.str s) => readOr (readFloat? s)
  | .scalar (.safe s) => readOr (readFloat? s)
  | .scalar (.bytes bs) => readOr (readFloat? (bytesNumeral bs))
  | .scalar s =>
    match s.number? with
    | some n => floatOf n
    | none => fail .wrongType
  | _ => fail .wrongType

end BraceTemplate.Host.Run

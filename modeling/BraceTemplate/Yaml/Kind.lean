import BraceTemplate.Number.Based
import BraceTemplate.Number.Numeral
import BraceTemplate.Data.Scalar
import BraceTemplate.Text.Hex

namespace BraceTemplate.Yaml

-- What a node of a document stands for. `merge` and `default` mark keys of mappings.
inductive Kind where
  | null
  | bool
  | int
  | float
  | binary
  | timestamp
  | pairs
  | set
  | str
  | sequence
  | mapping
  | merge
  | default
  | unknown
  deriving DecidableEq, Inhabited

namespace Kind

def tagLead : Text := "tag:yaml.org,2002:".toList

def named : List (String × Kind) := [
  ("null", .null), ("bool", .bool), ("int", .int), ("float", .float), ("binary", .binary),
  ("timestamp", .timestamp), ("omap", .pairs), ("pairs", .pairs), ("set", .set), ("str", .str),
  ("seq", .sequence), ("map", .mapping), ("merge", .merge), ("value", .default)]

def ofTag (tag : Text) : Kind :=
  match Text.after? tagLead tag with
  | some name => ((named.find? (·.1.toList == name)).map (·.2)).getD .unknown
  | none => .unknown

-- The words for true and false, in lower case.
def flags : List (String × Bool) := [
  ("yes", true), ("no", false), ("true", true), ("false", false), ("on", true), ("off", false)]

-- Whether a word is in lower case, in capitals, or capitalised.
def inPlainCase (word s : Text) : Bool :=
  s == word || s == word.map Char.toUpper ||
    s == match word with | c :: rest => c.toUpper :: rest | [] => []

def isFlag (s : Text) : Bool :=
  flags.any fun (word, _) => inPlainCase word.toList s

def isNull (s : Text) : Bool :=
  s.isEmpty || s == ['~'] || inPlainCase "null".toList s

def dropSign : Text → Text
  | '+' :: rest => rest
  | '-' :: rest => rest
  | s => s

def isDigitOr_ (c : Char) : Bool :=
  c.isDigit || c == '_'

-- A part of a number in base sixty: one digit, or two up to fifty-nine.
def isSixtieth : Text → Bool
  | [a] => a.isDigit
  | [a, b] => a.isDigit && b.isDigit && a ≤ '5'
  | _ => false

-- Digits and underscores, a digit first, then parts in base sixty.
def isSixtyBased (s : Text) : Bool :=
  match s.split ':' with
  | (c :: rest) :: part :: parts =>
    c.isDigit && rest.all isDigitOr_ && (part :: parts).all isSixtieth
  | _ => false

def isInt (s : Text) : Bool :=
  match dropSign s with
  | '0' :: 'b' :: digits =>
    !digits.isEmpty && digits.all fun c => c == '0' || c == '1' || c == '_'
  | '0' :: 'x' :: digits =>
    !digits.isEmpty && digits.all fun c => (hexValue? c).isSome || c == '_'
  | '0' :: digits => digits.all fun c => isOctalDigit c || c == '_'
  | c :: rest => c.isDigit && (rest.all isDigitOr_ || isSixtyBased (c :: rest))
  | [] => false

-- Nothing, or an exponent with its sign.
def isExponent : Text → Bool
  | [] => true
  | e :: sign :: digits =>
    (e == 'e' || e == 'E') && (sign == '+' || sign == '-') && !digits.isEmpty &&
      digits.all Char.isDigit
  | _ => false

def isFraction (s : Text) : Bool :=
  isExponent (s.dropWhile isDigitOr_)

def isFloat (s : Text) : Bool :=
  let body := dropSign s
  let afterPoint := match s with
    | '.' :: c :: rest => c.isDigit && isFraction rest
    | _ => false
  let isNan := s == ".nan".toList || s == ".NaN".toList || s == ".NAN".toList
  let isInf := body == ".inf".toList || body == ".Inf".toList || body == ".INF".toList
  let withPoint := match Text.cutAt '.' body with
    | some (c :: whole, fraction) =>
      (c.isDigit && whole.all isDigitOr_ && isFraction fraction) ||
        (isSixtyBased (c :: whole) && fraction.all isDigitOr_)
    | _ => false
  afterPoint || withPoint || isNan || isInf

end Kind

-- The digits of a date and, where there is one, of a time with the distance from universal time.
structure Stamp where
  year : Text
  month : Text
  day : Text
  time : Option (Text × Text × Text × Text)
  zone : Option (Bool × Text × Text)

namespace Stamp

-- A number of digits at the front, and what follows.
def digits (least most : Nat) (s : Text) : Option (Text × Text) :=
  let taken := (s.take most).takeWhile Char.isDigit
  if taken.length < least then none else some (taken, s.drop taken.length)

def sign (c : Char) : Text → Option Text
  | d :: rest => if c = d then some rest else none
  | [] => none

def isGap (c : Char) : Bool :=
  c == ' ' || c == '\t'

-- Whether time is behind universal time, the hours and the minutes; no more text may follow.
def zone? (s : Text) : Option (Option (Bool × Text × Text)) :=
  match s.dropWhile isGap with
  | [] => if s.isEmpty then some none else none
  | ['Z'] => some (some (false, [], []))
  | c :: rest =>
    if c == '+' || c == '-' then do
      let (hour, rest) ← digits 1 2 rest
      match rest with
      | [] => some (some (c == '-', hour, []))
      | rest => do
        let (minute, rest) ← digits 2 2 (← sign ':' rest)
        if rest.isEmpty then some (some (c == '-', hour, minute)) else none
    else none

def timeStart? : Text → Option Text
  | 'T' :: rest => some rest
  | 't' :: rest => some rest
  | c :: rest => if isGap c then some (rest.dropWhile isGap) else none
  | [] => none

def ofText? (s : Text) : Option Stamp := do
  let (year, rest) ← digits 4 4 s
  let (month, rest) ← digits 1 2 (← sign '-' rest)
  let (day, rest) ← digits 1 2 (← sign '-' rest)
  if rest.isEmpty then return ⟨year, month, day, none, none⟩
  let (hour, rest) ← digits 1 2 (← timeStart? rest)
  let (minute, rest) ← digits 2 2 (← sign ':' rest)
  let (second, rest) ← digits 2 2 (← sign ':' rest)
  let (fraction, rest) := match rest with
    | '.' :: rest => (rest.takeWhile Char.isDigit, rest.dropWhile Char.isDigit)
    | rest => ([], rest)
  return ⟨year, month, day, some (hour, minute, second, fraction), ← zone? rest⟩

-- The first six digits of a fraction of a second.
def micro (fraction : Text) : Nat :=
  Numeral.digitsValue ((fraction ++ List.replicate 6 '0').take 6)

-- The moment, if its day, its time and its zone exist.
def value? (s : Stamp) : Option Scalar := do
  let n := Numeral.digitsValue
  let date ← Date.make? (n s.year) (n s.month) (n s.day)
  match s.time with
  | none => return .date date
  | some (hour, minute, second, fraction) =>
    let offset := s.zone.map fun (behind, h, m) =>
      let seconds : Int := (n h * 3600 + n m * 60 : Nat)
      if behind then -seconds else seconds
    if offset.any fun seconds => 86400 ≤ seconds.natAbs then none
    return .moment (← Moment.make? date (n hour) (n minute) (n second) (micro fraction) offset)

end Stamp

namespace Kind

-- A date alone has two digits for its month and its day.
def isTimestamp (s : Text) : Bool :=
  match Stamp.ofText? s with
  | some stamp => stamp.time.isSome || s.length == 10
  | none => false

-- A line end at the end of a text does not count.
def bare (s : Text) : Text :=
  if s.getLast? == some '\n' && 1 < s.length then s.dropLast else s

-- What a plain scalar stands for.
def ofPlain (s : Text) : Kind :=
  let s := bare s
  if isFlag s then .bool
  else if isFloat s then .float
  else if isInt s then .int
  else if s == "<<".toList then .merge
  else if isNull s then .null
  else if isTimestamp s then .timestamp
  else if s == ['='] then .default
  else if s == ['!'] || s == ['&'] || s == ['*'] then .unknown
  else .str

end Kind

end BraceTemplate.Yaml

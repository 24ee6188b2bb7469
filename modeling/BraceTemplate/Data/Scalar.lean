import BraceTemplate.Number.Digits
import BraceTemplate.Number.Planar
import BraceTemplate.Text.Quoted

namespace BraceTemplate

structure Date where
  year : Nat
  month : Nat
  day : Nat
  deriving DecidableEq, Inhabited

-- A date with a time of day and, where one is known, the distance from universal time in seconds.
structure Moment where
  date : Date
  hour : Nat
  minute : Nat
  second : Nat
  micro : Nat
  offset : Option Int
  deriving DecidableEq, Inhabited

-- `n` with zeros before it up to `width` digits.
def padded (width n : Nat) : Text :=
  let digits := natText n
  List.replicate (width - digits.length) '0' ++ digits

namespace Date

def isLeap (year : Nat) : Bool :=
  year % 4 == 0 && (year % 100 != 0 || year % 400 == 0)

def daysIn (year month : Nat) : Nat :=
  if month = 2 then if isLeap year then 29 else 28
  else if month = 4 || month = 6 || month = 9 || month = 11 then 30
  else 31

-- A day of the calendar, if it exists.
def make? (year month day : Nat) : Option Date :=
  if 1 ≤ year ∧ year ≤ 9999 ∧ 1 ≤ month ∧ month ≤ 12 ∧ 1 ≤ day ∧ day ≤ daysIn year month then
    some ⟨year, month, day⟩
  else none

def text (d : Date) : Text :=
  padded 4 d.year ++ '-' :: padded 2 d.month ++ '-' :: padded 2 d.day

-- The constructor call that makes the date.
def quoted (d : Date) : Text :=
  "datetime.date(".toList ++ Text.join ", ".toList ([d.year, d.month, d.day].map natText) ++ [')']

def compare (a b : Date) : Ordering :=
  compareOfLessAndEq (a.year * 10000 + a.month * 100 + a.day) (b.year * 10000 + b.month * 100 + b.day)

end Date

namespace Moment

def make? (date : Date) (hour minute second micro : Nat) (offset : Option Int) : Option Moment :=
  if hour < 24 ∧ minute < 60 ∧ second < 60 ∧ micro < 1000000 then
    some ⟨date, hour, minute, second, micro, offset⟩
  else none

def offsetText (seconds : Int) : Text :=
  let n := seconds.natAbs
  (if seconds < 0 then '-' else '+') :: padded 2 (n / 3600) ++ ':' :: padded 2 (n / 60 % 60)

def text (m : Moment) : Text :=
  m.date.text ++ ' ' :: padded 2 m.hour ++ ':' :: padded 2 m.minute ++ ':' :: padded 2 m.second ++
    (if m.micro = 0 then [] else '.' :: padded 6 m.micro) ++
    (m.offset.map offsetText).getD []

def quotedOffset (seconds : Int) : Text :=
  if seconds = 0 then "datetime.timezone.utc".toList
  else
    let days := Int.fdiv seconds 86400
    let rest := (Int.fmod seconds 86400).toNat
    let parts :=
      (if days = 0 then [] else ["days=".toList ++ intText days]) ++
      (if rest = 0 then [] else ["seconds=".toList ++ natText rest])
    "datetime.timezone(datetime.timedelta(".toList ++ Text.join ", ".toList parts ++ "))".toList

-- The constructor call that makes the moment: seconds and fractions only where they are not zero.
def quoted (m : Moment) : Text :=
  let tail :=
    if m.micro ≠ 0 then [m.second, m.micro] else if m.second ≠ 0 then [m.second] else []
  let fields := [m.date.year, m.date.month, m.date.day, m.hour, m.minute] ++ tail
  let zone := (m.offset.map fun s => "tzinfo=".toList ++ quotedOffset s).toList
  "datetime.datetime(".toList ++ Text.join ", ".toList (fields.map natText ++ zone) ++ [')']

end Moment

-- A value without parts. `safe` text is text that already fits into markup. A `nan` is no number, and
-- its mark tells it from others of its kind.
inductive Scalar where
  | null
  | bool (b : Bool)
  | int (i : Int)
  | float (x : Float)
  | nan (mark : Nat)
  | planar (z : Planar)
  | str (s : Text)
  | safe (s : Text)
  | bytes (bs : List UInt8)
  | range (start stop step : Int)
  | date (d : Date)
  | moment (m : Moment)
  deriving Inhabited

-- The number of terms of an arithmetic progression that stays before `stop`.
def rangeLength (start stop step : Int) : Nat :=
  if 0 < step then if start < stop then ((stop - start - 1) / step + 1).toNat else 0
  else if step < 0 then if stop < start then ((start - stop - 1) / (-step) + 1).toNat else 0
  else 0

def rangeItems (start stop step : Int) : List Int :=
  (List.range (rangeLength start stop step)).map fun (i : Nat) => start + step * i

namespace Scalar

def typeName : Scalar → Text
  | .null => "NoneType".toList
  | .bool _ => "bool".toList
  | .int _ => "int".toList
  | .float _ => "float".toList
  | .nan _ => "float".toList
  | .planar _ => "complex".toList
  | .str _ => "str".toList
  | .safe _ => "Markup".toList
  | .bytes _ => "bytes".toList
  | .range .. => "range".toList
  | .date _ => "date".toList
  | .moment _ => "datetime".toList

-- How a value is written inside another one: texts between quotes.
def quoted : Scalar → Text
  | .null => "None".toList
  | .bool true => "True".toList
  | .bool false => "False".toList
  | .int i => intText i
  | .float x => floatText x
  | .nan _ => "nan".toList
  | .planar z => z.text
  | .str s => Quoted.text s
  | .safe s => "Markup(".toList ++ Quoted.text s ++ [')']
  | .bytes bs => Quoted.bytes bs
  | .range start stop step =>
    let bounds := if step = 1 then [start, stop] else [start, stop, step]
    "range(".toList ++ Text.join ", ".toList (bounds.map intText) ++ [')']
  | .date d => d.quoted
  | .moment m => m.quoted

-- How a value is written on its own: texts as they are.
def printed : Scalar → Text
  | .str s => s
  | .safe s => s
  | .date d => d.text
  | .moment m => m.text
  | s => s.quoted

-- Whether every number in the value has a numeral short enough to be written.
def writable : Scalar → Bool
  | .int i => hasNumeral i
  | .range start stop step => hasNumeral start && hasNumeral stop && hasNumeral step
  | _ => true

-- The number that a value stands for in arithmetic.
inductive Number where
  | int (i : Int)
  | float (x : Float)

def number? : Scalar → Option Number
  | .bool b => some (.int (if b then 1 else 0))
  | .int i => some (.int i)
  | .float x => some (.float x)
  | .nan _ => some (.float (0.0 / 0.0))
  | _ => none

def text? : Scalar → Option Text
  | .str s => some s
  | .safe s => some s
  | _ => none

end Scalar

-- The exact order of two numbers; `none` where one is not a number at all.
def Scalar.Number.compare? : Scalar.Number → Scalar.Number → Option Ordering
  | .int a, .int b => some (compare a b)
  | .float a, .float b =>
    if a < b then some .lt else if b < a then some .gt else if a == b then some .eq else none
  | .int a, .float b => mixed a b
  | .float a, .int b => (mixed b a).map Ordering.swap
where
  mixed (a : Int) (b : Float) : Option Ordering :=
    match Binary.ofFloat? b with
    | some bits =>
      let (num, den) := bits.signedRatio
      some (compare (a * den) num)
    | none => if b.isNaN then none else if b < 0 then some .gt else some .lt

namespace Scalar

-- The point in time of a moment, as if it were in universal time when it names no distance from it.
def instant (m : Moment) : Int :=
  ((((dayNumber m.date * 24 + m.hour) * 60 + m.minute) * 60 + m.second : Nat) -
    m.offset.getD 0) * 1000000 + m.micro
where
  dayNumber (d : Date) : Nat :=
    let y := d.year - 1
    y * 365 + y / 4 - y / 100 + y / 400 + d.day +
      (List.range (d.month - 1)).foldl (fun n i => n + Date.daysIn d.year (i + 1)) 0

-- Whether two progressions have the same terms.
def sameTerms (a b c x y z : Int) : Bool :=
  let n := rangeLength a b c
  n == rangeLength x y z && (n == 0 || (a == x && (n == 1 || c == z)))

-- A number of the plane that is real, as such.
def onLine : Scalar → Scalar
  | .planar z => if z.im == 0.0 then .float z.re else .planar z
  | s => s

-- Equality of values: numbers by what they amount to, texts by their characters. A `nan` equals
-- nothing.
def same (a b : Scalar) : Bool :=
  match a.onLine.number?, b.onLine.number? with
  | some x, some y => x.compare? y == some .eq
  | some _, none => false
  | none, some _ => false
  | none, none =>
    match a, b with
    | .null, .null => true
    | .planar z, .planar w => z.same w
    | .bytes x, .bytes y => x == y
    | .range a b c, .range x y z => sameTerms a b c x y z
    | .date x, .date y => x == y
    | .moment x, .moment y => x.offset.isSome == y.offset.isSome && instant x == instant y
    | a, b =>
      match a.text?, b.text? with
      | some x, some y => x == y
      | _, _ => false

-- Equality, or the very same `nan`.
def alike (a b : Scalar) : Bool :=
  match a, b with
  | .nan i, .nan j => i == j
  | a, b => a.same b

-- How `a` stands to `b`. The outer `none` is for kinds that have no order, the inner one for numbers
-- that are none.
def order? (a b : Scalar) : Option (Option Ordering) :=
  match a.number?, b.number? with
  | some x, some y => some (x.compare? y)
  | _, _ =>
    match a, b with
    | .bytes x, .bytes y => some (some (compareOfLessAndEq x y))
    | .date x, .date y => some (some (x.compare y))
    | .moment x, .moment y =>
      if x.offset.isSome == y.offset.isSome then some (some (compare (instant x) (instant y)))
      else none
    | a, b =>
      match a.text?, b.text? with
      | some x, some y => some (some (compareOfLessAndEq x y))
      | _, _ => none

-- Whether `a` comes before `b`; `none` where the two have no order.
def before? (a b : Scalar) : Option Bool :=
  (order? a b).map (· == some .lt)

-- Whether a condition on the value holds: empty and zero values are false.
def truth : Scalar → Bool
  | .null => false
  | .bool b => b
  | .int i => i != 0
  | .float x => !(x == 0.0)
  | .nan _ => true
  | .planar z => !z.isZero
  | .str s => !s.isEmpty
  | .safe s => !s.isEmpty
  | .bytes bs => !bs.isEmpty
  | .range start stop step => 0 < rangeLength start stop step
  | .date _ => true
  | .moment _ => true

end Scalar

end BraceTemplate

import BraceTemplate.Host.Conversion
import BraceTemplate.Host.Walk
import BraceTemplate.Host.Attributes
import BraceTemplate.Number.Places
import BraceTemplate.Text.Case
import BraceTemplate.Text.Escape

namespace BraceTemplate.Host

-- How a place in a text is filled: on which side, with which sign, in what width and with how many
-- digits or characters.
structure Place where
  left : Bool
  sign : Bool
  blank : Bool
  full : Bool
  zeros : Bool
  width : Nat
  count : Option Nat
  deriving Inhabited

-- What is filled: plain text, text that is safe in markup, or bytes.
inductive Filling where
  | plain
  | safe
  | bytes
  deriving DecidableEq, Inhabited

-- The values that wait to be used. A value that answers to keys need not be used up.
structure Supply where
  whole : Value
  keyed : Bool
  waiting : List Value
  deriving Inhabited

namespace Place

def isWhole (kind : Char) : Bool :=
  "diuoxX".toList.contains kind

def isReal (kind : Char) : Bool :=
  "eEfFgG".toList.contains kind

-- Puts a text in its place. Zeros stand behind the sign and behind the mark of a base, and a text on
-- the left has blanks behind it.
def put (p : Place) (kind : Char) (body : Text) : Text :=
  let isNumber := isWhole kind || isReal kind
  let (sign, body) :=
    if !isNumber then ([], body)
    else
      match body with
      | '-' :: rest => (['-'], rest)
      | body => (if p.sign then ['+'] else if p.blank then [' '] else [], body)
  let base := if p.full && (kind == 'o' || kind == 'x' || kind == 'X') then 2 else 0
  let lead := sign ++ body.take base
  let rest := body.drop base
  let space := p.width - lead.length - rest.length
  if p.left then lead ++ rest ++ List.replicate space ' '
  else if isNumber && p.zeros then lead ++ List.replicate space '0' ++ rest
  else List.replicate space ' ' ++ lead ++ rest

def digitsOf (base n : Nat) : Text :=
  Nat.toDigits base n

-- A whole number in the base of its kind, with as many digits as are asked for.
def whole (p : Place) (kind : Char) (i : Int) : Text :=
  let base := if kind == 'o' then 8 else if kind == 'x' || kind == 'X' then 16 else 10
  let mark := if p.full && base != 10 then ['0', kind] else []
  let digits := digitsOf base i.natAbs
  let digits := if kind == 'X' then digits.map Char.toUpper else digits
  let zeros := List.replicate (p.count.getD 0 - digits.length) '0'
  (if i < 0 then ['-'] else []) ++ mark ++ zeros ++ digits

def real (p : Place) (kind : Char) (x : Float) : Text :=
  let places := match kind.toLower with
    | 'f' => Places.fixed
    | 'e' => Places.scientific
    | _ => Places.general
  let s := places.text p.full (p.count.getD 6) x
  if kind.isUpper then s.map Char.toUpper else s

end Place

namespace Run

-- A text with escapes for all characters outside of ASCII.
def inAscii (s : Text) : Text :=
  s.flatMap fun c => if c.toNat < 128 then [c] else Quoted.codeEscape c.toNat

def nextOf (s : Supply) : Run (Value × Supply) :=
  match s.waiting with
  | v :: rest => pure (v, { s with waiting := rest })
  | [] => fail .wrongType

-- Widths and counts are below these, and what is longer than `maxPlace` is not made.
def widthBound : Nat := 9223372036854775808
def countBound : Nat := 2147483648
def maxPlace : Nat := 50000000

-- A number that is written down, or a star for one that is taken from the values.
def measure (filling : Filling) (bound : Nat) (s : Supply) : Text → Run (Option Int × Supply × Text)
  | '*' :: rest => do
    let (v, s) ← nextOf s
    match index? v, filling with
    | _, .safe => fail .wrongType
    | none, _ => fail .wrongType
    | some i, _ => if i.natAbs < bound then pure (some i, s, rest) else fail .tooLarge
  | format => do
    let digits := format.takeWhile Char.isDigit
    let rest := format.drop digits.length
    match digits with
    | [] => pure (none, s, rest)
    | digits =>
      let n := (readDigits? digits).getD 0
      if n < bound then pure (some n, s, rest) else fail .wrongValue

-- The count behind a point.
def countBehind (filling : Filling) (s : Supply) : Text → Run (Option Nat × Supply × Text)
  | '.' :: rest => do
    let (count, s, rest) ← measure filling countBound s rest
    pure (some (count.getD 0).toNat, s, rest)
  | rest => pure (none, s, rest)

-- A letter for the size of a number tells nothing.
def afterSize : Text → Text
  | c :: more => if c = 'h' ∨ c = 'l' ∨ c = 'L' then more else c :: more
  | [] => []

-- The width and the count of a place, and the letter that tells what kind of value belongs there.
def placeOf (filling : Filling) (s : Supply) (format : Text) : Run (Place × Char × Supply × Text) := do
  let isFlag := fun (c : Char) => "-+ #0".toList.contains c
  let flags := format.takeWhile isFlag
  let (width, s, rest) ← measure filling widthBound s (format.drop flags.length)
  let (count, s, rest) ← countBehind filling s rest
  match afterSize rest with
  | [] => fail .wrongValue
  | kind :: rest =>
    let width := width.getD 0
    let p : Place := ⟨flags.contains '-' || width < 0, flags.contains '+', flags.contains ' ',
      flags.contains '#', flags.contains '0', width.natAbs, count⟩
    pure (p, kind, s, rest)

-- The number that goes into a place for whole numbers. In markup a numeral will do.
def wholeIn (filling : Filling) (v : Value) : Run Int :=
  match filling, v with
  | .safe, v => toWhole v
  | _, .absent a => refuse a
  | _, .scalar s =>
    match s.number? with
    | some n => wholeOf n
    | none => fail .wrongType
  | _, _ => fail .wrongType

def realIn (filling : Filling) (v : Value) : Run Float :=
  match filling, v with
  | .safe, v => toReal v
  | _, .absent a => refuse a
  | _, .scalar s =>
    match s.number? with
    | some n => floatOf n
    | none => fail .wrongType
  | _, _ => fail .wrongType

def byteChars (bs : List UInt8) : Text :=
  bs.map fun b => Char.ofNat b.toNat

-- The character of a number below a bound.
def charNumbered (bound : Nat) (v : Value) : Run Text :=
  match index? v with
  | some i => if 0 ≤ i ∧ i < bound then pure [Char.ofNat i.toNat] else fail .tooLarge
  | none => fail .wrongType

-- A single character, or the number of one.
def charIn (filling : Filling) (v : Value) : Run Text :=
  match filling, v with
  | .safe, _ => fail .wrongType
  | .plain, .scalar (.str [c]) => pure [c]
  | .plain, .scalar (.safe [c]) => pure [c]
  | .plain, v => charNumbered 0x110000 v
  | .bytes, .scalar (.bytes [b]) => pure (byteChars [b])
  | .bytes, v => charNumbered 256 v

-- The text of a value that is safe in markup.
def markupOf (v : Value) : Run Text :=
  match v with
  | .scalar (.safe s) => pure s
  | v => escape <$> text v

def bytesOf (v : Value) : Run Text :=
  match v with
  | .scalar (.bytes bs) => pure (byteChars bs)
  | _ => fail .wrongType

-- The text of a value, as the kind of its place shows it.
def shownIn (filling : Filling) (kind : Char) (v : Value) : Run Text :=
  match filling with
  | .plain => if kind = 's' then text v else if kind = 'r' then shown v else inAscii <$> shown v
  | .safe =>
    if kind = 's' then markupOf v
    else if kind = 'r' then escape <$> shown v
    else (inAscii ∘ escape) <$> shown v
  | .bytes =>
    if kind = 's' ∨ kind = 'b' then bytesOf v
    else if kind = 'a' ∨ kind = 'r' then inAscii <$> shown v
    else fail .wrongType

-- The text of a value, cut off after as many characters as are asked for.
def wordIn (filling : Filling) (p : Place) (kind : Char) (v : Value) : Run Text := do
  let full ← shownIn filling kind v
  match p.count with
  | some n => pure (full.take n)
  | none => pure full

-- The number that goes into a place for whole numbers of its kind; other bases take no other numbers.
def basedIn (filling : Filling) (byBase : Bool) (v : Value) : Run Int :=
  if byBase then
    match index? v, filling with
    | _, .safe => fail .wrongType
    | some i, _ => pure i
    | none, _ => fail .wrongType
  else wholeIn filling v

-- What goes into a place.
def placed (filling : Filling) (p : Place) (kind : Char) (v : Value) : Run Text := do
  if maxPlace < p.width then fail .endless
  else if Place.isWhole kind then
    let byBase := kind == 'o' || kind == 'x' || kind == 'X'
    let i ← basedIn filling byBase v
    if countBound ≤ p.count.getD 0 + 3 then fail .tooLarge
    else if maxPlace < p.count.getD 0 then fail .endless
    else if !byBase && !hasNumeral i then fail .wrongValue
    else pure (p.put kind (p.whole kind i))
  else if Place.isReal kind then
    let x ← realIn filling v
    if maxPlace < p.count.getD 0 then fail .endless else pure (p.put kind (p.real kind x))
  else if kind == 'c' then return p.put kind (← charIn filling v)
  else if kind == 's' || kind == 'r' || kind == 'a' || (kind == 'b' && filling == .bytes) then
    return p.put kind (← wordIn filling p kind v)
  else fail .wrongValue

-- The text up to the parenthesis that closes one already open, and what follows it.
def closeKey : (open' : Nat) → Text → Option (Text × Text)
  | _, [] => none
  | 0, ')' :: rest => some ([], rest)
  | n + 1, ')' :: rest => (closeKey n rest).map fun (key, tail) => (')' :: key, tail)
  | n, '(' :: rest => (closeKey (n + 1) rest).map fun (key, tail) => ('(' :: key, tail)
  | n, c :: rest => (closeKey n rest).map fun (key, tail) => (c :: key, tail)

-- The value of what answers to keys, if there is one.
def underKey? (v : Value) (shape : Datum) : Run (Option Value) := do
  match v with
  | .absent a => refuse a
  | .self => pure none
  | .view entries => inView? entries shape
  | .ref address =>
    match ← cell? address with
    | some (.dict t) => pure (t.find? shape)
    | _ => fail .wrongType
  | _ => fail .wrongType

-- The value under a key, which has to be there.
def valueUnder (v key : Value) : Run Value := do
  let shape ← reify key
  match ← underKey? v shape with
  | some x => pure x
  | none => fail (.noKey shape.quoted)

-- Takes the value under a key that stands in front of a place.
def keyedSupply (filling : Filling) (s : Supply) (format : Text) : Run (Supply × Text) := do
  match format with
  | '(' :: rest =>
    if !s.keyed then fail .wrongType
    else
      match closeKey 0 rest with
      | none => fail .wrongValue
      | some (key, rest) =>
        let key := if filling = .bytes then
            Value.scalar (.bytes (key.map fun c => UInt8.ofNat c.toNat))
          else .str key
        let v ← valueUnder s.whole key
        pure ({ s with waiting := [v] }, rest)
  | format => pure (s, format)

-- Fills the places of a text that a percent sign marks, from the left.
def filledFrom (filling : Filling) : (fuel : Nat) → Supply → Text → Run Text
  | 0, _, _ => pure []
  | _, s, [] => if s.keyed || s.waiting.isEmpty then pure [] else fail .wrongType
  | fuel + 1, s, '%' :: '%' :: rest => do
    let tail ← filledFrom filling fuel s rest
    pure ('%' :: tail)
  | fuel + 1, s, '%' :: rest => do
    let (s, rest) ← keyedSupply filling s rest
    let (p, kind, s, rest) ← placeOf filling s rest
    let (v, s) ← nextOf s
    let part ← placed filling p kind v
    let tail ← filledFrom filling fuel s rest
    pure (part ++ tail)
  | fuel + 1, s, c :: rest => do
    let tail ← filledFrom filling fuel s rest
    pure (c :: tail)

-- Whether a value answers to keys or positions.
def isKeyed (filling : Filling) (v : Value) : Run Bool := do
  match v with
  | .absent _ => pure true
  | .self => pure true
  | .view _ => pure true
  | .scalar (.bytes _) => pure (filling != .bytes)
  | .scalar (.range _ _ _) => pure true
  | .ref address =>
    match ← cell? address with
    | some (.list _) => pure true
    | some (.dict _) => pure true
    | _ => pure false
  | _ => pure false

-- A tuple holds the values of all places. A value that answers to keys or positions may be left over.
def supplyOf (filling : Filling) (v : Value) : Run Supply := do
  let keyed ← isKeyed filling v
  match v with
  | .tuple items => pure ⟨v, false, items⟩
  | v => pure ⟨v, keyed, [v]⟩

def filled (filling : Filling) (format : Text) (v : Value) : Run Text := do
  filledFrom filling (format.length + 1) (← supplyOf filling v) format

-- A text or bytes with its places filled; nothing else has places.
def fill (format : Scalar) (v : Value) : Run Value := do
  match format with
  | .str s => return .str (← filled .plain s v)
  | .safe s => return .scalar (.safe (← filled .safe s v))
  | .bytes bs =>
    let s ← filled .bytes (byteChars bs) v
    pure (.scalar (.bytes (s.map fun c => UInt8.ofNat c.toNat)))
  | _ => fail .wrongType

end Run

end BraceTemplate.Host

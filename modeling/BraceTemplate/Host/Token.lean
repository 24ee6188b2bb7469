import BraceTemplate.Host.Error
import BraceTemplate.Host.Literal
import BraceTemplate.Number.Shortest
import BraceTemplate.Tag.Rewrite
import BraceTemplate.Text.Identifier
import BraceTemplate.Text.Word

namespace BraceTemplate.Host

inductive Mark where
  | add | sub | div | floordiv | mul | mod | pow | tilde
  | leftBracket | rightBracket | leftParen | rightParen | leftBrace | rightBrace
  | eq | ne | gt | ge | lt | le
  | assign | dot | colon | pipe | comma | semicolon
  deriving DecidableEq, Inhabited

inductive TokenKind where
  | data (s : Text)
  | openOutput
  | closeOutput
  | openStatement
  | closeStatement
  | name (s : Text)
  | text (s : Text)
  | int (n : Nat)
  | float (x : Float)
  | mark (m : Mark)
  | fault (e : Error)
  deriving Inhabited

-- A part of a template, with the text from there on.
structure Token where
  kind : TokenKind
  ahead : Text
  deriving Inhabited

namespace Token

-- What a tag is opened by. A sign after the delimiter asks for the white space before the tag to be
-- kept or to be dropped.
inductive Opening where
  | statement
  | output
  | comment
  | raw

def sign : Text → Option Char × Text
  | '-' :: rest => (some '-', rest)
  | '+' :: rest => (some '+', rest)
  | s => (none, s)

-- The end of a statement, with a sign before it; a minus drops the white space that follows.
def statementEnd? : Text → Option Text
  | '-' :: rest => (Text.after? statementClose rest).map Text.trimLeft
  | '+' :: rest => Text.after? statementClose rest
  | s => Text.after? statementClose s

def outputEnd? : Text → Option Text
  | '-' :: rest => (Text.after? outputClose rest).map Text.trimLeft
  | s => Text.after? outputClose s

-- The rest of a tag that holds one word only, the opening being read already.
def bareStatement? (word : String) (s : Text) : Option Text := do
  let rest ← Text.after? word.toList s.trimLeft
  statementEnd? rest.trimLeft

-- The start of a block whose text is taken as it stands. A plus before the end does not count.
def rawStart? (s : Text) : Option Text := do
  let rest ← Text.after? "raw".toList s.trimLeft
  match rest.trimLeft with
  | '+' :: _ => none
  | rest => statementEnd? rest

-- What is opened at the front of a text, the sign, and the text after it.
def opening? (s : Text) : Option (Opening × Option Char × Text) :=
  match Text.after? statementOpen s with
  | some rest =>
    let (mark, inner) := sign rest
    match rawStart? inner with
    | some after => some (.raw, mark, after)
    | none => some (.statement, mark, inner)
  | none =>
    match Text.after? commentOpen s with
    | some rest => let (mark, inner) := sign rest; some (.comment, mark, inner)
    | none => (Text.after? outputOpen s).map fun rest =>
        let (mark, inner) := sign rest
        (.output, mark, inner)

-- The text before the first opening, and the opening.
def cutAtOpening : Text → Text × Option (Opening × Option Char × Text)
  | [] => ([], none)
  | c :: rest =>
    match opening? (c :: rest) with
    | some found => ([], some found)
    | none =>
      let (before, found) := cutAtOpening rest
      (c :: before, found)

-- The end of a raw block at the front, with its sign.
def rawEnd? (s : Text) : Option (Option Char × Text) := do
  let rest ← Text.after? statementOpen s
  let (mark, inner) := sign rest
  let after ← bareStatement? "endraw" inner
  some (mark, after)

def cutAtRawEnd : Text → Option (Text × Option Char × Text)
  | [] => none
  | c :: rest =>
    match rawEnd? (c :: rest) with
    | some (mark, after) => some ([], mark, after)
    | none => (cutAtRawEnd rest).map fun (before, mark, after) => (c :: before, mark, after)

-- What follows a comment.
def afterComment? (s : Text) : Option Text :=
  (Text.cutAtText commentClose s).map fun (body, after) =>
    if body.getLast? = some '-' then after.trimLeft else after

def isNameChar (c : Char) : Bool :=
  isWordChar c || isIdentifierPart c

-- Runs of digits joined by single underscores, and what follows.
def takeDigits : Text → Text × Text
  | [] => ([], [])
  | c :: rest =>
    if isDecimalDigit c then let (digits, after) := takeDigits rest; (c :: digits, after)
    else
      match c, rest with
      | '_', d :: more =>
        if isDecimalDigit d then let (digits, after) := takeDigits more; ('_' :: d :: digits, after)
        else ([], c :: rest)
      | _, _ => ([], c :: rest)

def startsDigit (s : Text) : Bool :=
  s.head?.any isDecimalDigit

-- A fraction after a point.
def takeFraction : Text → Option (Text × Text)
  | '.' :: rest => if startsDigit rest then some (takeDigits rest) else none
  | _ => none

-- An exponent with its sign.
def takeExponent : Text → Option (Bool × Text × Text)
  | c :: rest =>
    if c = 'e' ∨ c = 'E' then
      let (negative, digits) := match rest with
        | '-' :: digits => (true, digits)
        | '+' :: digits => (false, digits)
        | digits => (false, digits)
      if startsDigit digits then let (e, after) := takeDigits digits; some (negative, e, after)
      else none
    else none
  | [] => none

def digitsValue (digits : Text) : Nat :=
  (readDigits? (digits.filter (· != '_'))).getD 0

def digitCount (digits : Text) : Nat :=
  (digits.filter (· != '_')).length

-- A number with a fraction, an exponent, or both. It does not start after a point. `none` as the value is
-- one with digits of another script.
def float? (afterPoint : Bool) (s : Text) : Option (Option Float × Text) :=
  if afterPoint || !startsDigit s then none
  else
    let (whole, rest) := takeDigits s
    let (fraction, rest') := match takeFraction rest with
      | some (fraction, rest) => (some fraction, rest)
      | none => (none, rest)
    let value := fun (digits e : Text) (power : Int) =>
      if (whole ++ digits ++ e).all (fun c => c.toNat < 128) then
        some (floatOfDecimal (digitsValue (whole ++ digits)) (power - digitCount digits))
      else none
    match takeExponent rest', fraction with
    | some (negative, e, after), _ =>
      let power : Int := if negative then -(digitsValue e) else digitsValue e
      some (value (fraction.getD []) e power, after)
    | none, some digits => some (value digits [] 0, rest')
    | none, none => none

-- Digits of a base, each with an underscore before it allowed.
def takeBase (isDigit : Char → Bool) : Text → Text × Text
  | [] => ([], [])
  | c :: rest =>
    if isDigit c then let (digits, after) := takeBase isDigit rest; (c :: digits, after)
    else
      match c, rest with
      | '_', d :: more =>
        if isDigit d then let (digits, after) := takeBase isDigit more; (d :: digits, after)
        else ([], c :: rest)
      | _, _ => ([], c :: rest)

def digitIn? (c : Char) : Option Nat :=
  match hexValue? c with
  | some n => some n
  | none => digitValue? c

def baseValue (base : Nat) (digits : Text) : Nat :=
  digits.foldl (fun n c => n * base + (digitIn? c).getD 0) 0

def baseOf? (c : Char) : Option (Nat × (Char → Bool)) :=
  if c = 'b' ∨ c = 'B' then some (2, fun c => c == '0' || c == '1')
  else if c = 'o' ∨ c = 'O' then some (8, isOctalDigit)
  else if c = 'x' ∨ c = 'X' then some (16, fun c => (digitIn? c).isSome)
  else none

-- An integer: digits after a letter that names the base, a decimal numeral, or zeros. `none` as the
-- value is a numeral that is too long.
def int? (s : Text) : Option (Option Nat × Text) :=
  let zeros := fun (s : Text) =>
    let (_, after) := takeBase (· == '0') s
    some (some 0, after)
  match s with
  | '0' :: c :: rest =>
    match baseOf? c with
    | some (base, isDigit) =>
      match takeBase isDigit rest with
      | ([], _) => zeros s
      | (digits, after) => some (some (baseValue base digits), after)
    | none => zeros s
  | ['0'] => some (some 0, [])
  | c :: _ =>
    if '1' ≤ c ∧ c ≤ '9' then
      let (digits, after) := takeBase isDecimalDigit s
      some (if maxNumeralLength < digits.length then none else readDigits? digits, after)
    else none
  | [] => none

def mark? : Text → Option (Mark × Text)
  | '/' :: '/' :: rest => some (.floordiv, rest)
  | '*' :: '*' :: rest => some (.pow, rest)
  | '=' :: '=' :: rest => some (.eq, rest)
  | '!' :: '=' :: rest => some (.ne, rest)
  | '>' :: '=' :: rest => some (.ge, rest)
  | '<' :: '=' :: rest => some (.le, rest)
  | c :: rest =>
    let single := match c with
      | '+' => some Mark.add
      | '-' => some .sub
      | '/' => some .div
      | '*' => some .mul
      | '%' => some .mod
      | '~' => some .tilde
      | '[' => some .leftBracket
      | ']' => some .rightBracket
      | '(' => some .leftParen
      | ')' => some .rightParen
      | '\x7b' => some .leftBrace
      | '\x7d' => some .rightBrace
      | '>' => some .gt
      | '<' => some .lt
      | '=' => some .assign
      | '.' => some .dot
      | ':' => some .colon
      | '|' => some .pipe
      | ',' => some .comma
      | ';' => some .semicolon
      | _ => none
    single.map (·, rest)
  | [] => none

-- The brackets that have to be closed, the innermost first.
def balance (open' : List Mark) : Mark → Option (List Mark)
  | .leftParen => some (.rightParen :: open')
  | .leftBracket => some (.rightBracket :: open')
  | .leftBrace => some (.rightBrace :: open')
  | m =>
    if m = .rightParen ∨ m = .rightBracket ∨ m = .rightBrace then
      match open' with
      | expected :: rest => if expected = m then some rest else none
      | [] => none
    else some open'

-- The next part of a tag, no blank being in front, and the text after it.
def next (afterPoint : Bool) (s : Text) : Except Error (TokenKind × Text) :=
  match float? afterPoint s with
  | some (some x, rest) => .ok (.float x, rest)
  | some (none, _) => .error .foreignDigits
  | none =>
    match int? s with
    | some (some n, rest) => .ok (.int n, rest)
    | some (none, _) => .error .wrongValue
    | none =>
      match s.takeWhile isNameChar with
      | c :: name =>
        if isIdentifier (c :: name) then .ok (.name (c :: name), s.dropWhile isNameChar)
        else .error .malformed
      | [] =>
        match s with
        | [] => .error .malformed
        | c :: rest =>
          if c = '\'' ∨ c = '"' then
            match closeString c rest with
            | some (body, after) =>
              match unescape? body with
              | some value => .ok (.text value, after)
              | none => .error .malformed
            | none => .error .malformed
          else
            match mark? s with
            | some (m, after) => .ok (.mark m, after)
            | none => .error .malformed

def dataToken (s ahead : Text) : List Token :=
  if s.isEmpty then [] else [⟨.data s, ahead⟩]

-- The end of a template that cannot be read on.
def faulty (e : Error) (ahead : Text) : List Token :=
  [⟨.fault e, ahead⟩]

mutual

-- The parts of a template from a place outside of tags. A comment or a raw block that is opened where
-- the text ends is none.
def ofData : (fuel : Nat) → Text → List Token
  | 0, _ => []
  | fuel + 1, s =>
    match cutAtOpening s with
    | (data, none) => dataToken data s
    | (data, some (opening, mark, rest)) =>
      dataToken (if mark = some '-' then data.trimRight else data) s ++
        match opening with
        | .comment =>
          match afterComment? rest with
          | some after => ofData fuel after
          | none => if rest.isEmpty then [] else faulty .malformed rest
        | .raw =>
          match cutAtRawEnd rest with
          | some (body, endMark, after) =>
            dataToken (if endMark = some '-' then body.trimRight else body) rest ++ ofData fuel after
          | none => if rest.isEmpty then [] else faulty .malformed rest
        | .statement => ⟨.openStatement, s⟩ :: ofTag fuel true [] false rest
        | .output => ⟨.openOutput, s⟩ :: ofTag fuel false [] false rest

-- The parts of a template from a place inside of a tag. The tag ends only where no bracket is open.
def ofTag : (fuel : Nat) → (statement : Bool) → List Mark → (afterPoint : Bool) → Text → List Token
  | 0, _, _, _, _ => []
  | fuel + 1, statement, brackets, afterPoint, s =>
    match s with
    | [] => []
    | c :: more =>
      let close := if brackets.isEmpty then
        if statement then statementEnd? s else outputEnd? s
      else none
      match close with
      | some rest =>
        ⟨if statement then .closeStatement else .closeOutput, s⟩ :: ofData fuel rest
      | none =>
        if isBlank c then ofTag fuel statement brackets false more
        else
          match next afterPoint s with
          | .error e => faulty e s
          | .ok (.mark m, rest) =>
            match balance brackets m with
            | none => faulty .malformed s
            | some brackets =>
              ⟨.mark m, s⟩ :: ofTag fuel statement brackets (m = .dot) rest
          | .ok (kind, rest) => ⟨kind, s⟩ :: ofTag fuel statement brackets false rest

end

-- The parts of a template. A tag that is not closed is cut off at the end of the text, and nothing
-- follows a fault.
def scan (s : Text) : List Token :=
  ofData (2 * s.length + 2) s

end Token

end BraceTemplate.Host

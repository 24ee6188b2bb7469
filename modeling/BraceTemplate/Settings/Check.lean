import BraceTemplate.Number.Binary
import BraceTemplate.Settings.Basic
import BraceTemplate.Data.Datum
import BraceTemplate.Text.Utf8

namespace BraceTemplate

-- What can be wrong with a value in settings.
inductive IssueKind where
  | missing
  | notText
  | badText
  | notFlag
  | unknownFlag
  | notInteger
  | unreadableInteger
  | longInteger
  | fraction
  | notFinite
  | tooSmall
  | notList
  | notMapping
  | notSection
  deriving DecidableEq, Inhabited

-- Something wrong, and the names and positions that lead to it.
structure Issue where
  location : List Text
  kind : IssueKind
  deriving DecidableEq, Inhabited

-- A value, or all that is wrong with it.
abbrev Checked (α : Type) := Except (List Issue) α

namespace Checked

def issue {α : Type} (kind : IssueKind) : Checked α :=
  .error [⟨[], kind⟩]

-- What is wrong with a part is wrong at its name in the whole.
def at_ {α : Type} (name : Text) (c : Checked α) : Checked α :=
  c.mapError fun issues => issues.map fun i => { i with location := name :: i.location }

-- Both values, or all that is wrong with either.
def both {α β : Type} (a : Checked α) (b : Checked β) : Checked (α × β) :=
  match a, b with
  | .ok x, .ok y => .ok (x, y)
  | .error i, .error j => .error (i ++ j)
  | .error i, .ok _ => .error i
  | .ok _, .error j => .error j

def all {α : Type} : List (Checked α) → Checked (List α)
  | [] => .ok []
  | c :: rest => (both c (all rest)).map fun (x, xs) => x :: xs

end Checked

namespace Setting

open Checked

-- A text; bytes count as the text that they spell.
def text : Datum → Checked Text
  | .scalar (.str s) => .ok s
  | .scalar (.bytes bs) =>
    match Utf8.decode? bs with
    | some s => .ok s
    | none => issue .badText
  | _ => issue .notText

-- The same as `text`, for values that may be something else too.
def spelled? (d : Datum) : Option (Option Text) :=
  match d with
  | .scalar (.str s) => some (some s)
  | .scalar (.bytes bs) => some (Utf8.decode? bs)
  | _ => none

def trueWords : List Text :=
  ["1".toList, "t".toList, "true".toList, "y".toList, "yes".toList, "on".toList]

def falseWords : List Text :=
  ["0".toList, "f".toList, "false".toList, "n".toList, "no".toList, "off".toList]

def flagOfText (s : Text) : Checked Bool :=
  let word := s.map Char.toLower
  if trueWords.contains word then .ok true
  else if falseWords.contains word then .ok false
  else issue .unknownFlag

def flagOfInt (i : Int) : Checked Bool :=
  if i = 0 then .ok false else if i = 1 then .ok true else issue .unknownFlag

def wordBound : Int := 9223372036854775808

-- Whether an integer fits into sixty-four bits.
def fitsWord (i : Int) : Bool :=
  -wordBound ≤ i && i < wordBound

-- The integer that a number without a fraction is, short of the ends of the range.
def intOfFloat (x : Float) : Checked Int :=
  match Binary.ofFloat? x with
  | none => issue .notFinite
  | some bits =>
    let (num, den) := bits.signedRatio
    if num % (den : Int) ≠ 0 then issue .fraction
    else
      let i := num / (den : Int)
      if -wordBound < i && i < wordBound then .ok i else issue .longInteger

-- A flag: a truth value, one of its words in any case, or a number that is zero or one.
def flag (d : Datum) : Checked Bool :=
  match spelled? d with
  | some (some s) => flagOfText s
  | some none => issue .unknownFlag
  | none =>
    match d with
    | .scalar (.bool b) => .ok b
    | .scalar (.int i) => if fitsWord i then flagOfInt i else issue .notFlag
    | .scalar (.float x) =>
      match intOfFloat x with
      | .ok i => flagOfInt i
      | .error _ => issue .notFlag
    | _ => issue .notFlag

-- Drops leading zeros and the underscores among them, but keeps the zero before a point or the end.
-- What is left starts with a digit; only after zeros it may start with a sign.
def dropZeros? (s : Text) : Option Text :=
  match s with
  | '0' :: rest =>
    let zeros := rest.takeWhile fun c => c == '0' || c == '_'
    match rest.drop zeros.length with
    | [] => if zeros.getLast? = some '_' then none else some ['0']
    | '.' :: after => if zeros.getLast? = some '_' then none else some ('0' :: '.' :: after)
    | c :: after => if c.isDigit || c == '-' then some (c :: after) else none
  | c :: _ => if c.isDigit then some s else none
  | [] => none

-- Drops a fraction of zeros, at least one.
def dropFraction (s : Text) : Text :=
  match Text.cutAt '.' s with
  | some (whole, fraction) =>
    if !fraction.isEmpty && fraction.all (· == '0') then whole else s
  | none => s

-- The plain spelling of a numeral: no blanks around it, no plus, no zeros at either end that mean
-- nothing, and no single underscores between digits.
def plainNumeral? (s : Text) : Option Text :=
  let s := trimNumeral s
  let (sign, s) : Text × Text := match s with
    | '-' :: rest => (['-'], rest)
    | '+' :: rest => ([], rest)
    | rest => ([], rest)
  (dropZeros? s).map fun s =>
    let s := dropFraction s
    sign ++ (dropUnderscores? s).getD s

def unsigned (s : Text) : Text :=
  if s.head? = some '-' then s.drop 1 else s

-- Whether a text starts with more digits than a numeral may have.
def startsLong (s : Text) : Bool :=
  let digits := (unsigned s).takeWhile Char.isDigit
  digits.head? != some '0' && maxNumeralLength < digits.length

def intOfPlain? (s : Text) : Option Int :=
  let digits := unsigned s
  if digits.isEmpty || !digits.all Char.isDigit then none
  else (readDigits? digits).map fun n => if s.head? = some '-' then -(n : Int) else n

def intOfText (s : Text) : Checked Int :=
  if startsLong s then issue .longInteger
  else
    match plainNumeral? s with
    | none => issue .unreadableInteger
    | some plain =>
      if startsLong plain then issue .longInteger
      else
        match intOfPlain? plain with
        | some i => .ok i
        | none => issue .unreadableInteger

-- An integer: a number without a fraction, a truth value, or a numeral.
def integer (d : Datum) : Checked Int :=
  match spelled? d with
  | some (some s) => intOfText s
  | some none => issue .unreadableInteger
  | none =>
    match d with
    | .scalar (.bool b) => .ok (if b then 1 else 0)
    | .scalar (.int i) => .ok i
    | .scalar (.float x) => intOfFloat x
    | _ => issue .notInteger

def integerFrom (least : Int) (d : Datum) : Checked Int :=
  match integer d with
  | .ok i => if i < least then issue .tooSmall else .ok i
  | .error issues => .error issues

-- The items of a value that can stand for a list.
def items? : Datum → Option (List Datum)
  | .list items => some items
  | .tuple items => some items
  | .set _ items => some items
  | .scalar (.range start stop step) => some ((rangeItems start stop step).map Datum.int)
  | _ => none

def entries? : Datum → Option (List (Datum × Datum))
  | .dict entries => some entries
  | .view entries => some entries
  | _ => none

-- A list; what is wrong with an item is wrong at its position.
def list {α : Type} (item : Datum → Checked α) (d : Datum) : Checked (List α) :=
  match items? d with
  | some items => all (items.zipIdx.map fun (x, i) => at_ (natText i) (item x))
  | none => issue .notList

-- A key as a part of a location.
def locationOf : Datum → Text
  | .scalar (.str s) => s
  | .scalar (.bool b) => if b then ['1'] else ['0']
  | d => d.quoted

-- A mapping from texts.
def mapping {α : Type} (value : Datum → Checked α) (d : Datum) : Checked (List (Text × α)) :=
  match entries? d with
  | some entries =>
    all (entries.map fun (k, v) =>
      at_ (locationOf k) (both (at_ "[key]".toList (text k)) (value v)))
  | none => issue .notMapping

def field? (entries : List (Datum × Datum)) (name : String) : Option Datum :=
  Datum.lookup? entries (.str name.toList)

-- A field that may be left out.
def optional {α : Type} (entries : List (Datum × Datum)) (name : String) (fallback : α)
    (read : Datum → Checked α) : Checked α :=
  match field? entries name with
  | some d => at_ name.toList (read d)
  | none => .ok fallback

-- A field that has to be there.
def required {α : Type} (entries : List (Datum × Datum)) (name : String)
    (read : Datum → Checked α) : Checked α :=
  match field? entries name with
  | some d => at_ name.toList (read d)
  | none => at_ name.toList (issue .missing)

def root (d : Datum) : Checked RootSetting :=
  match entries? d with
  | none => issue .notSection
  | some entries =>
    (both (required entries "path" text) (optional entries "priority" 0 integer)).map
      fun (path, priority) => ⟨path, priority⟩

end Setting

open Checked Setting

-- Settings from the entries of a mapping; entries of other names are passed over.
def Settings.ofEntries (entries : List (Datum × Datum)) : Checked Settings :=
  let s := Settings.default
  (both (optional entries "extension" s.extension text)
    (both (optional entries "debug" s.debug flag)
      (both (optional entries "types" s.types (list text))
        (both (optional entries "max_include_depth" s.maxDepth (integerFrom 1))
          (optional entries "paths" s.registries (mapping (list root))))))).map
    fun (extension, debug, types, maxDepth, registries) =>
      ⟨extension, debug, types, maxDepth, registries⟩

end BraceTemplate

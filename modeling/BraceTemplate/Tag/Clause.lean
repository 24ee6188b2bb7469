import BraceTemplate.Text.Caseless
import BraceTemplate.Text.Piece
import BraceTemplate.Text.Word

namespace BraceTemplate.Sigil

def isNameStart (c : Char) : Bool :=
  c.isAlpha || c == '_'

-- The rest of a string literal up to its closing quote, and what follows. A backslash takes the
-- next character with it, unless that ends the line.
def closeLiteral (quote : Char) : Text → Option (Text × Text)
  | [] => none
  | '\\' :: [] => if quote = '\\' then some (['\\'], []) else none
  | '\\' :: c :: rest =>
    if c = '\n' then none
    else (closeLiteral quote rest).map fun (body, tail) => ('\\' :: c :: body, tail)
  | c :: rest =>
    if c = quote then some ([c], rest)
    else (closeLiteral quote rest).map fun (body, tail) => (c :: body, tail)

-- A closed string literal stands for itself, a dollar sign before a name for nothing.
def find : Recogniser Text
  | _, '$' :: c :: rest => if isNameStart c then some ([], c :: rest) else none
  | _, c :: rest =>
    if c = '\'' || c = '"' then
      (closeLiteral c rest).map fun (body, tail) => (c :: body, tail)
    else none
  | _, [] => none

-- Drops the dollar signs of variables outside of string literals.
def strip (s : Text) : Text :=
  (Piece.scan find s).flatMap fun
    | .char c => [c]
    | .hit kept => kept

end BraceTemplate.Sigil

namespace BraceTemplate

-- What a loop runs over, and the names that it binds.
inductive LoopClause where
  | plain (clause : Text)
  | values (iterable target : Text)
  | pairs (iterable key value : Text)
  deriving DecidableEq

namespace LoopClause

-- What stands after the word `as` between blanks, when it is next.
def afterAs? (s : Text) : Option Text :=
  match s with
  | [] => none
  | c :: _ =>
    if isBlank c then do
      let (_, rest) ← takeWord "as".toList s.trimLeft
      match rest with
      | [] => none
      | d :: _ => if isBlank d then some rest.trimLeft else none
    else none

-- The text before the first `as` between blanks and the text after it.
def cutAtAs : Text → Option (Text × Text)
  | [] => none
  | c :: rest =>
    match afterAs? (c :: rest) with
    | some target => some ([], target)
    | none => (cutAtAs rest).map fun (before, target) => (c :: before, target)

-- Splits `items as target` and `items as key => value`; anything else is left to the host.
def ofText (subject : Text) : LoopClause :=
  match cutAtAs subject with
  | none => .plain (Sigil.strip subject)
  | some (iterable, target) =>
    let items := Sigil.strip iterable.trim
    let names := Sigil.strip target.trim
    match Text.cutAtText "=>".toList names with
    | some (key, value) => .pairs items key.trim value.trim
    | none => .values items names

end LoopClause

-- A statement by its kind: it changes a variable by an operator, sets one, or does something else.
inductive Statement where
  | update (target operator value : Text)
  | set (body : Text)
  | perform (body : Text)
  deriving DecidableEq

namespace Statement

def isTargetChar (c : Char) : Bool :=
  isWordChar c || c == '.'

-- A single equals sign at the front, and what follows it.
def afterEquals? : Text → Option Text
  | '=' :: rest => if rest.head? = some '=' then none else some rest
  | _ => none

def singleOperators : List Char := ['-', '+', '*', '/', '%', '.', '~']

-- An operator joined to a single equals sign, and the value after it.
def operator? : Text → Option (Text × Text)
  | '*' :: '*' :: rest => (afterEquals? rest).map (['*', '*'], ·)
  | '/' :: '/' :: rest => (afterEquals? rest).map (['/', '/'], ·)
  | c :: rest => if singleOperators.contains c then (afterEquals? rest).map ([c], ·) else none
  | [] => none

-- Splits the rest of a target from the first operator that an equals sign follows.
def cutAtOperator : Text → Option (Text × Text × Text)
  | [] => none
  | c :: rest =>
    match operator? (Text.trimLeft (c :: rest)) with
    | some (operator, value) => some ([], operator, value.trimLeft)
    | none =>
      if isTargetChar c then
        (cutAtOperator rest).map fun (target, operator, value) => (c :: target, operator, value)
      else none

def isAssignment : Text → Bool
  | [] => false
  | c :: rest =>
    Sigil.isNameStart c && (afterEquals? (Text.trimLeft (rest.dropWhile isTargetChar))).isSome

-- A dot as operator joins texts, for which the host writes a tilde.
def hostOperator (operator : Text) : Text :=
  if operator = ['.'] then ['~'] else operator

def ofText (body : Text) : Statement :=
  let update := match body with
    | c :: rest =>
      if Sigil.isNameStart c then
        (cutAtOperator rest).map fun (target, operator, value) =>
          update (c :: target) (hostOperator operator) value
      else none
    | [] => none
  update.getD (if isAssignment body then set body else perform body)

end Statement

end BraceTemplate

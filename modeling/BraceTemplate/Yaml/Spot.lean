import BraceTemplate.Text.Basic

namespace BraceTemplate.Yaml

-- Why a document cannot be read. All but the first two are about single values: a number, a date or a
-- character that does not exist.
inductive Fault where
  | malformed
  | tooDeep
  | badNumber
  | emptyNumber
  | badDate
  | noDate
  | badCharacter
  | hugeCharacter
  | unknownFlag (word : Text)
  deriving DecidableEq, Inhabited

-- Characters that end a line.
def isBreak (c : Char) : Bool :=
  c == '\n' || c == '\r' || c == '\x85' || c == '\u2028' || c == '\u2029'

-- Stands for the end of the text; it never occurs in a document.
def endMark : Char := '\x00'

def isBreakOrEnd (c : Char) : Bool :=
  isBreak c || c == endMark

def isSpaceOrEnd (c : Char) : Bool :=
  isBreakOrEnd c || c == ' '

def isGapOrEnd (c : Char) : Bool :=
  isSpaceOrEnd c || c == '\t'

-- Characters of anchors, aliases and directive names.
def isNameChar (c : Char) : Bool :=
  c.isAlphanum || c == '-' || c == '_'

-- The sign that may start a document.
def byteOrderMark : Char := '\ufeff'

-- Characters that a document may hold.
def isAllowed (c : Char) : Bool :=
  let n := c.toNat
  n == 0x9 || n == 0xA || n == 0xD || (0x20 ≤ n && n ≤ 0x7E) || n == 0x85 ||
    (0xA0 ≤ n && n ≤ 0xFFFD) || 0x10000 ≤ n

-- A place in a document: what follows and how long it is, how many characters came before, the line and
-- the column.
structure Spot where
  rest : Text
  left : Nat
  index : Nat
  line : Nat
  column : Nat
  deriving Inhabited

namespace Spot

def start (s : Text) : Spot := ⟨s, s.length, 0, 0, 0⟩

-- One character on. A line feed belongs to the carriage return before it.
def advance (s : Spot) : Spot :=
  match s.rest with
  | [] => s
  | c :: rest =>
    if isBreak c && !(c == '\r' && rest.head? == some '\n') then
      ⟨rest, s.left - 1, s.index + 1, s.line + 1, 0⟩
    else
      ⟨rest, s.left - 1, s.index + 1, s.line, if c == byteOrderMark then s.column else s.column + 1⟩

def advanceBy : Nat → Spot → Spot
  | 0, s => s
  | n + 1, s => advanceBy n s.advance

def peekAt (s : Spot) (n : Nat) : Char :=
  s.rest.getD n endMark

end Spot

-- A walk through a document.
abbrev Walk := StateT Spot (Except Fault)

namespace Walk

def fail {α : Type} (f : Fault) : Walk α :=
  throw f

def here : Walk Spot :=
  get

def peek : Walk Char :=
  return (← get).peekAt 0

def peekAt (n : Nat) : Walk Char :=
  return (← get).peekAt n

def skip (n : Nat) : Walk Unit :=
  modify (Spot.advanceBy n)

-- The next `n` characters.
def take (n : Nat) : Walk Text := do
  let taken := (← get).rest.take n
  skip n
  pure taken

def takeWhile (p : Char → Bool) : Walk Text := do
  let taken := (← get).rest.takeWhile p
  skip taken.length
  pure taken

def skipSpaces : Walk Unit := do
  let _ ← takeWhile (· == ' ')

-- A comment, up to the end of its line.
def skipComment : Walk Unit := do
  if (← peek) == '#' then
    let _ ← takeWhile (!isBreak ·)

def expect (p : Char → Bool) : Walk Unit := do
  if p (← peek) then pure () else fail .malformed

-- A line end. The usual ones are all the same; the separators keep their character.
def takeBreak : Walk Text := do
  let c ← peek
  if c == '\r' && (← peekAt 1) == '\n' then
    skip 2
    pure ['\n']
  else if c == '\r' || c == '\n' || c == '\x85' then
    skip 1
    pure ['\n']
  else if c == '\u2028' || c == '\u2029' then
    skip 1
    pure [c]
  else pure []

-- Whether a line starts with the mark before or after a document.
def atMarker : Walk Bool := do
  let s ← get
  let mark := s.rest.take 3
  pure ((mark == "---".toList || mark == "...".toList) && isGapOrEnd (s.peekAt 3))

-- A bound on the number of turns of a loop that consumes something on each.
def turns : Walk Nat :=
  return (← get).left + 1

end Walk

end BraceTemplate.Yaml

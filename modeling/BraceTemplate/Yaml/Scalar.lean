import BraceTemplate.Text.Hex
import BraceTemplate.Yaml.Spot

namespace BraceTemplate.Yaml.Walk

-- Line ends and the spaces between them, within a plain scalar. Nothing comes of it at the mark
-- before or after a document.
def plainBreaks : (fuel : Nat) → Walk (Option Text)
  | 0 => pure none
  | fuel + 1 => do
    let c ← peek
    if c == ' ' then
      skip 1
      plainBreaks fuel
    else if isBreak c then
      let lineEnd ← takeBreak
      if ← atMarker then pure none
      else return (← plainBreaks fuel).map (lineEnd ++ ·)
    else pure (some [])

-- A single line end is a space, and before more of them it is dropped. A separator is kept.
def folded (lineEnd breaks : Text) : Text :=
  if lineEnd != ['\n'] then lineEnd ++ breaks else if breaks.isEmpty then [' '] else breaks

-- What stands between two runs of a plain scalar, and whether a line ended there.
def plainGap : Walk (Text × Bool) := do
  let spaces ← takeWhile (· == ' ')
  if isBreak (← peek) then
    let lineEnd ← takeBreak
    if ← atMarker then pure ([], true)
    else
      match ← plainBreaks (← turns) with
      | none => pure ([], true)
      | some breaks => pure (folded lineEnd breaks, true)
  else pure (spaces, false)

-- The length of a run of a plain scalar. A colon ends it where it could end a key.
def plainRun (inFlow : Bool) : Text → Nat
  | [] => 0
  | c :: rest =>
    let next := rest.head?.getD endMark
    if isGapOrEnd c then 0
    else if c == ':' && (isGapOrEnd next || (inFlow && ",[]\x7b\x7d".toList.contains next)) then 0
    else if inFlow && ",?[]\x7b\x7d".toList.contains c then 0
    else plainRun inFlow rest + 1

-- A plain scalar from its first or a later run on, and whether its end is the start of a line.
-- `gap` stands before the run.
def plainFrom (inFlow : Bool) (indent : Int) (gap : Text) (lineEnded : Bool) :
    (fuel : Nat) → Walk (Text × Bool)
  | 0 => pure ([], lineEnded)
  | fuel + 1 => do
    let length := plainRun inFlow (← here).rest
    if (← peek) == '#' || length == 0 then pure ([], lineEnded)
    else
      let run ← take length
      let (next, lineEnded) ← plainGap
      if next.isEmpty || (← peek) == '#' || (!inFlow && ((← here).column : Int) < indent) then
        pure (gap ++ run, lineEnded)
      else
        let (more, lineEnded) ← plainFrom inFlow indent next lineEnded fuel
        pure (gap ++ run ++ more, lineEnded)

-- A plain scalar; its lines stand further in than `indent` outside of brackets.
def plain (inFlow : Bool) (indent : Int) : Walk (Text × Bool) := do
  plainFrom inFlow (indent + 1) [] false (← turns)

-- Characters that a backslash and one letter stand for.
def escapes : List (Char × Char) := [
  ('0', '\x00'), ('a', '\x07'), ('b', '\x08'), ('t', '\t'), ('\t', '\t'), ('n', '\n'),
  ('v', '\x0b'), ('f', '\x0c'), ('r', '\r'), ('e', '\x1b'), (' ', ' '), ('"', '"'), ('\\', '\\'),
  ('/', '/'), ('N', '\x85'), ('_', '\xa0'), ('L', '\u2028'), ('P', '\u2029')]

-- The number of hexadecimal digits after a letter.
def escapeLength? (c : Char) : Option Nat :=
  if c == 'x' then some 2 else if c == 'u' then some 4 else if c == 'U' then some 8 else none

-- Line ends in a quoted scalar, with the spaces around them dropped.
def quotedBreaks : (fuel : Nat) → Walk Text
  | 0 => pure []
  | fuel + 1 => do
    if ← atMarker then fail .malformed
    let _ ← takeWhile fun c => c == ' ' || c == '\t'
    if isBreak (← peek) then
      let lineEnd ← takeBreak
      return lineEnd ++ (← quotedBreaks fuel)
    else pure []

-- What follows a backslash.
def escaped : Walk Text := do
  let c ← peek
  match escapes.find? (·.1 == c), escapeLength? c with
  | some (_, meant), _ =>
    skip 1
    pure [meant]
  | none, some length =>
    skip 1
    let digits := (← here).rest.take length
    if digits.length != length || digits.any fun d => (hexValue? d).isNone then fail .malformed
    let point := digits.foldl (fun n d => n * 16 + (hexValue? d).getD 0) 0
    if 0x80000000 ≤ point then fail .hugeCharacter
    if 0x110000 ≤ point then fail .badCharacter
    skip length
    pure [Char.ofNat point]
  | none, none =>
    if isBreak c then
      let _ ← takeBreak
      quotedBreaks (← turns)
    else fail .malformed

-- A stretch of a quoted scalar without spaces.
def quotedRun (double : Bool) : (fuel : Nat) → Walk Text
  | 0 => pure []
  | fuel + 1 => do
    let run ← takeWhile fun c => !isGapOrEnd c && c != '\'' && c != '"' && c != '\\'
    let c ← peek
    if !double && c == '\'' && (← peekAt 1) == '\'' then
      skip 2
      return run ++ '\'' :: (← quotedRun double fuel)
    else if (double && c == '\'') || (!double && (c == '"' || c == '\\')) then
      skip 1
      return run ++ c :: (← quotedRun double fuel)
    else if double && c == '\\' then
      skip 1
      let meant ← escaped
      return run ++ meant ++ (← quotedRun double fuel)
    else pure run

-- Spaces in a quoted scalar; those around a line end are folded away.
def quotedGap : Walk Text := do
  let spaces ← takeWhile fun c => c == ' ' || c == '\t'
  let c ← peek
  if c == endMark then fail .malformed
  else if isBreak c then
    let lineEnd ← takeBreak
    return folded lineEnd (← quotedBreaks (← turns))
  else pure spaces

def quotedRest (quote : Char) : (fuel : Nat) → Walk Text
  | 0 => fail .malformed
  | fuel + 1 => do
    if (← peek) == quote then
      skip 1
      pure []
    else
      let gap ← quotedGap
      let run ← quotedRun (quote == '"') (← turns)
      return gap ++ run ++ (← quotedRest quote fuel)

-- A quoted scalar.
def quoted (quote : Char) : Walk Text := do
  skip 1
  let run ← quotedRun (quote == '"') (← turns)
  return run ++ (← quotedRest quote (← turns))

-- How the last line ends of a block scalar are treated.
inductive Chomping where
  | clip
  | strip
  | keep
  deriving DecidableEq

def chomping? (c : Char) : Option Chomping :=
  if c == '+' then some .keep else if c == '-' then some .strip else none

-- A digit from one to nine that gives the indentation.
def indentation : Walk (Option Nat) := do
  let c ← peek
  if c.isDigit then
    if c == '0' then fail .malformed
    skip 1
    pure (some (c.toNat - 48))
  else pure none

-- The signs after the mark of a block scalar, in either order.
def blockHeader : Walk (Chomping × Option Nat) := do
  match chomping? (← peek) with
  | some chomping =>
    skip 1
    pure (chomping, ← indentation)
  | none =>
    match ← indentation with
    | none => pure (.clip, none)
    | some n =>
      match chomping? (← peek) with
      | some chomping =>
        skip 1
        pure (chomping, some n)
      | none => pure (.clip, some n)

-- What may stand between a header and the end of its line.
def lineRest : Walk Unit := do
  skipSpaces
  skipComment
  expect isBreakOrEnd
  let _ ← takeBreak

-- Empty lines before the first line of a block scalar, and the deepest column they reach.
def leadingLines (deepest : Nat) : (fuel : Nat) → Walk (Text × Nat)
  | 0 => pure ([], deepest)
  | fuel + 1 => do
    let c ← peek
    if c == ' ' then
      skip 1
      leadingLines (max deepest (← here).column) fuel
    else if isBreak c then
      let lineEnd ← takeBreak
      let (more, deepest) ← leadingLines deepest fuel
      pure (lineEnd ++ more, deepest)
    else pure ([], deepest)

def skipIndent (indent : Nat) : Walk Unit := do
  let missing := indent - (← here).column
  let spaces := ((← here).rest.take missing).takeWhile (· == ' ')
  skip spaces.length

-- Empty lines within a block scalar.
def emptyLines (indent : Nat) : (fuel : Nat) → Walk Text
  | 0 => pure []
  | fuel + 1 => do
    skipIndent indent
    if isBreak (← peek) then
      let lineEnd ← takeBreak
      return lineEnd ++ (← emptyLines indent fuel)
    else pure []

-- Whether a line of the block scalar starts here.
def inBlock (indent : Nat) : Walk Bool := do
  return (← here).column == indent && (← peek) != endMark

-- The lines of a block scalar, `breaks` before the first. The end of the last line and the empty
-- lines after it come apart.
def blockLines (folding : Bool) (indent : Nat) (breaks : Text) :
    (fuel : Nat) → Walk (Text × Text × Text)
  | 0 => pure ([], [], breaks)
  | fuel + 1 => do
    if !(← inBlock indent) then pure ([], [], breaks)
    else
      let first ← peek
      let line ← takeWhile (!isBreak ·)
      let lineEnd ← takeBreak
      let next ← emptyLines indent (← turns)
      if ← inBlock indent then
        let c ← peek
        let isText := fun (c : Char) => c != ' ' && c != '\t'
        let joint :=
          if folding && lineEnd == ['\n'] && isText first && isText c then
            if next.isEmpty then [' '] else []
          else lineEnd
        let (more, lastEnd, after) ← blockLines folding indent next fuel
        pure (breaks ++ line ++ joint ++ more, lastEnd, after)
      else pure (breaks ++ line, lineEnd, next)

-- A block scalar, the lines of which stand further in than `indent`.
def block (folding : Bool) (indent : Int) : Walk Text := do
  skip 1
  let (chomping, given) ← blockHeader
  expect isSpaceOrEnd
  lineRest
  let least := (max 1 (indent + 1)).toNat
  let (breaks, column) ← match given with
    | some n =>
      let column := least + n - 1
      pure (← emptyLines column (← turns), column)
    | none =>
      let (breaks, deepest) ← leadingLines 0 (← turns)
      pure (breaks, max least deepest)
  let (text, lineEnd, after) ← blockLines folding column breaks (← turns)
  pure (text ++ match chomping with
    | .strip => []
    | .clip => lineEnd
    | .keep => lineEnd ++ after)

end BraceTemplate.Yaml.Walk

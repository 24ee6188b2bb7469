import BraceTemplate.Yaml.Token

namespace BraceTemplate.Yaml

-- A place where a key may have started: the number of tokens before it, and whether the indentation
-- leaves nothing else for it to be.
structure Candidate where
  position : Nat
  required : Bool
  spot : Spot
  deriving Inhabited

-- A scan: the tokens so far, the last one first, and their number, the columns of the open blocks, the
-- number of open brackets, whether a key may start here, and at most one possible key for each number of
-- open brackets.
structure Scan where
  spot : Spot
  tokens : List Token
  count : Nat
  indent : Int
  outer : List Int
  depth : Nat
  keyAllowed : Bool
  candidates : List (Nat × Candidate)
  deriving Inhabited

abbrev Scanner := StateT Scan (Except Fault)

namespace Scanner

def fail {α : Type} (f : Fault) : Scanner α :=
  throw f

-- Walks on from where the scan stands.
def walk {α : Type} (w : Walk α) : Scanner α := do
  let s ← get
  let (a, spot) ← liftM (w.run s.spot)
  set { s with spot }
  pure a

def push (t : Token) : Scanner Unit :=
  modify fun s => { s with tokens := t :: s.tokens, count := s.count + 1 }

def allowKey (allowed : Bool) : Scanner Unit :=
  modify fun s => { s with keyAllowed := allowed }

def column : Scanner Int :=
  return (← get).spot.column

def inFlow : Scanner Bool :=
  return (← get).depth != 0

-- Closes the blocks that start further in than a column.
def closeTo (column : Int) : (blocks : List Int) → Scanner Unit
  | [] => pure ()
  | outer :: rest => do
    if column < (← get).indent then
      push .blockEnd
      modify fun s => { s with indent := outer, outer := rest }
      closeTo column rest
    else pure ()

def unwind (column : Int) : Scanner Unit := do
  if !(← inFlow) then closeTo column (← get).outer

-- Opens a block at a column, unless one is open there already.
def openAt (column : Int) : Scanner Bool := do
  let s ← get
  if s.indent < column then
    set { s with indent := column, outer := s.indent :: s.outer }
    pure true
  else pure false

def dropCandidate : Scanner Unit := do
  let s ← get
  match s.candidates.find? (·.1 == s.depth) with
  | some (_, c) =>
    if c.required then fail .malformed
    set { s with candidates := s.candidates.filter (·.1 != s.depth) }
  | none => pure ()

-- Notes that a key may start here.
def noteCandidate : Scanner Unit := do
  let s ← get
  if s.keyAllowed then
    dropCandidate
    let required := s.depth == 0 && s.indent == (s.spot.column : Int)
    modify fun s =>
      { s with candidates := (s.depth, ⟨s.count, required, s.spot⟩) :: s.candidates }

-- A key stays on one line and is not too long.
def maxKeyLength : Nat := 1024

def isStale (now : Spot) (c : Candidate) : Bool :=
  c.spot.line != now.line || maxKeyLength < now.index - c.spot.index

def dropStale : Scanner Unit := do
  let s ← get
  let (stale, kept) := s.candidates.partition fun (_, c) => isStale s.spot c
  if stale.any (·.2.required) then fail .malformed
  set { s with candidates := kept }

-- Spaces, comments and line ends; after a line end a key may start, outside of brackets.
def skipGap : (fuel : Nat) → Scanner Unit
  | 0 => pure ()
  | fuel + 1 => do
    walk Walk.skipSpaces
    walk Walk.skipComment
    if (← walk Walk.takeBreak).isEmpty then pure ()
    else
      if !(← inFlow) then allowKey true
      skipGap fuel

def nextToken : Scanner Unit := do
  let spot := (← get).spot
  if spot.index == 0 && spot.peekAt 0 == byteOrderMark then walk (Walk.skip 1)
  skipGap (spot.left + 1)

-- A token of one character.
def sign (t : Token) : Scanner Unit := do
  walk (Walk.skip 1)
  push t

def streamEnd : Scanner Unit := do
  unwind (-1)
  dropCandidate
  push .streamEnd

def directive : Scanner Unit := do
  unwind (-1)
  dropCandidate
  allowKey false
  push (← walk Walk.directive)

def marker (t : Token) : Scanner Unit := do
  unwind (-1)
  dropCandidate
  allowKey false
  walk (Walk.skip 3)
  push t

def openBracket (t : Token) : Scanner Unit := do
  noteCandidate
  modify fun s => { s with depth := s.depth + 1, keyAllowed := true }
  sign t

-- A closing bracket without an opening one fits nowhere.
def closeBracket (t : Token) : Scanner Unit := do
  dropCandidate
  if !(← inFlow) then fail .malformed
  modify fun s => { s with depth := s.depth - 1, keyAllowed := false }
  sign t

def flowEntry : Scanner Unit := do
  allowKey true
  dropCandidate
  sign .flowEntry

-- Opens a block where one may start.
def startBlock (t : Token) : Scanner Unit := do
  if !(← get).keyAllowed then fail .malformed
  if ← openAt (← column) then push t

def blockEntry : Scanner Unit := do
  if !(← inFlow) then startBlock .blockSequenceStart
  allowKey true
  dropCandidate
  sign .blockEntry

def explicitKey : Scanner Unit := do
  if !(← inFlow) then startBlock .blockMappingStart
  allowKey (!(← inFlow))
  dropCandidate
  sign .key

-- Puts a token between the first ones and the others.
def insertToken (first : Nat) (t : Token) : Scanner Unit :=
  modify fun s =>
    { s with tokens := s.tokens.insertIdx (s.count - first) t, count := s.count + 1 }

-- A colon makes the last possible key a key; without one it belongs to an explicit key.
def value : Scanner Unit := do
  let s ← get
  match s.candidates.find? (·.1 == s.depth) with
  | some (_, c) =>
    set { s with candidates := s.candidates.filter (·.1 != s.depth) }
    insertToken c.position .key
    if s.depth == 0 then
      if ← openAt c.spot.column then insertToken c.position .blockMappingStart
    allowKey false
  | none =>
    if s.depth == 0 then startBlock .blockMappingStart
    allowKey (s.depth == 0)
    dropCandidate
  sign .value

-- A token that may start a key.
def content (w : Walk Token) : Scanner Unit := do
  noteCandidate
  allowKey false
  push (← walk w)

def blockScalar (folding : Bool) : Scanner Unit := do
  allowKey true
  dropCandidate
  let indent := (← get).indent
  push (.scalar (← walk (Walk.block folding indent)) false)

def quotedScalar (quote : Char) : Scanner Unit :=
  content (return .scalar (← Walk.quoted quote) false)

def plainScalar : Scanner Unit := do
  noteCandidate
  allowKey false
  let s ← get
  let (text, lineEnded) ← walk (Walk.plain (s.depth != 0) s.indent)
  if lineEnded then allowKey true
  push (.scalar text true)

-- Whether a plain scalar may start with a character before another one.
def startsPlain (inFlow : Bool) (c next : Char) : Bool :=
  !(isGapOrEnd c || "-?:,[]\x7b\x7d#&*!|>'\"%@\x60".toList.contains c) ||
    (!isGapOrEnd next && (c == '-' || (!inFlow && (c == '?' || c == ':'))))

-- Reads the next token; false at the end of the document.
def step : Scanner Bool := do
  nextToken
  dropStale
  unwind (← column)
  let s ← get
  let c := s.spot.peekAt 0
  let next := s.spot.peekAt 1
  let flow := s.depth != 0
  let atStart := s.spot.column == 0
  let marked := (← walk Walk.atMarker) && atStart
  let loose := isGapOrEnd next
  if c == endMark then
    streamEnd
    return false
  if c == '%' && atStart then directive
  else if c == '-' && marked then marker .documentStart
  else if c == '.' && marked then marker .documentEnd
  else if c == '[' then openBracket .flowSequenceStart
  else if c == '\x7b' then openBracket .flowMappingStart
  else if c == ']' then closeBracket .flowSequenceEnd
  else if c == '\x7d' then closeBracket .flowMappingEnd
  else if c == ',' then flowEntry
  else if c == '-' && loose then blockEntry
  else if c == '?' && (flow || loose) then explicitKey
  else if c == ':' && (flow || loose) then value
  else if c == '*' then content (return .alias (← Walk.anchorName))
  else if c == '&' then content (return .anchor (← Walk.anchorName))
  else if c == '!' then content Walk.tag
  else if c == '|' && !flow then blockScalar false
  else if c == '>' && !flow then blockScalar true
  else if c == '\'' || c == '"' then quotedScalar c
  else if startsPlain flow c next then plainScalar
  else fail .malformed
  return true

-- The tokens up to the end of the document or to the first fault, the last one first.
def run : (fuel : Nat) → Scan → List Token
  | 0, s => .fault .malformed :: s.tokens
  | fuel + 1, s =>
    match StateT.run step s with
    | .error f => .fault f :: s.tokens
    | .ok (true, s) => run fuel s
    | .ok (false, s) => s.tokens

end Scanner

-- The tokens of a document. A character that documents may not hold is a fault at once.
def tokensOf (s : Text) : List Token :=
  if s.all isAllowed then
    (Scanner.run (s.length + 1) ⟨.start s, [], 0, -1, [], 0, true, []⟩).reverse
  else [.fault .malformed]

end BraceTemplate.Yaml

import BraceTemplate.Tag.Basic
import BraceTemplate.Text.Caseless
import BraceTemplate.Text.Piece
import BraceTemplate.Text.Word

namespace BraceTemplate.Tag

-- The text after one blank or more.
def skipBlanks? : Text → Option Text
  | [] => none
  | c :: rest => if isBlank c then some (Text.trimLeft rest) else none

-- A brace, one of the words, blanks, and a body up to the first closing brace.
def wordAndBody (words : List Text) : Text → Option ((Text × Text) × Text)
  | '\x7b' :: s => do
    let (spelling, rest) ← takeFirstWord words s
    let inner ← skipBlanks? rest
    let (body, after) ← Text.cutAt '\x7d' inner
    some ((spelling, body), after)
  | _ => none

-- A brace, one of the words, and a closing brace.
def bareWord (words : List Text) : Text → Option (Text × Text)
  | '\x7b' :: s => do
    let (spelling, rest) ← takeFirstWord words s
    let after ← Text.after? ['\x7d'] rest
    some (spelling, after)
  | _ => none

def openers : List Text := ["foreach".toList, "if".toList, "for".toList, "switch".toList]

def closers : List Text :=
  ["foreach".toList, "if".toList, "for".toList, "function".toList, "switch".toList]

def opening? : Recogniser Tag := fun _ s =>
  (wordAndBody openers s).map fun ((spelling, body), after) => (.opening spelling body.trim, after)

-- A tag made of one word and an expression.
def wordTag (word : String) (make : Text → Tag) : Recogniser Tag := fun _ s =>
  (wordAndBody [word.toList] s).map fun ((_, body), after) => (make body.trim, after)

-- The same, where the expression may be followed by one semicolon.
def statementTag (word : String) (make : Text → Tag) : Recogniser Tag := fun _ s =>
  (wordAndBody [word.toList] s).map fun ((_, body), after) => (make body.trimStatementEnd.trim, after)

def fixedTag (word : String) (tag : Tag) : Recogniser Tag := fun _ s =>
  (bareWord [word.toList] s).map fun (_, after) => (tag, after)

def fallback? : Recogniser Tag
  | _, '\x7b' :: s => do
    let (_, rest) ← takeWord "default".toList s
    let after ← Text.after? ['\x7d'] rest.trimLeft
    some (.fallback, after)
  | _, _ => none

def closing? : Recogniser Tag
  | _, '\x7b' :: '/' :: s =>
    (bareWord closers ('\x7b' :: s)).map fun (spelling, after) => (.closing spelling, after)
  | _, _ => none

def closingBranch? : Recogniser Tag
  | _, '\x7b' :: '/' :: s =>
    (bareWord ["case".toList, "default".toList] ('\x7b' :: s)).map
      fun (_, after) => (.closingBranch, after)
  | _, _ => none

-- A slash may stand before the closing brace.
def otherwise? : Recogniser Tag
  | _, '\x7b' :: s => do
    let (_, rest) ← takeWord "else".toList s
    let after ← match rest with
      | '/' :: '\x7d' :: after => some after
      | '\x7d' :: after => some after
      | _ => none
    some (.otherwise, after)
  | _, _ => none

def isListChar (c : Char) : Bool :=
  isWordChar c || c == '-' || c == '.' || c == ',' || c == '@' || c == '/'

-- A list of references without blanks in it.
def insertion? : Recogniser Tag
  | _, '\x7b' :: s => do
    let (_, rest) ← takeWord "include".toList s
    let list := rest.trimLeft
    let after ← Text.after? ['\x7d'] (list.dropWhile isListChar)
    some (.insertion (list.takeWhile isListChar), after)
  | _, _ => none

-- What the parts of a dotted path are made of.
def isPathChar (c : Char) : Bool :=
  !(c == '\x7b' || c == '\x7d' || c == '\'' || c == '"' || c == '.' || isBlank c)

-- A variable with at least one segment after it, each behind a dot.
def path? : Recogniser Tag
  | _, '\x7b' :: '$' :: s => do
    let parts := s.takeWhile fun c => isPathChar c || c == '.'
    let after ← Text.after? ['\x7d'] (s.dropWhile fun c => isPathChar c || c == '.')
    match Text.split '.' parts with
    | head :: segments =>
      if segments.isEmpty || head.isEmpty || segments.any List.isEmpty then none
      else some (.path ('$' :: head) segments, after)
    | [] => none
  | _, _ => none

-- The text before the next brace of either kind, which must be a closing one.
def toClosingBrace (s : Text) : Option (Text × Text) :=
  let isBrace := fun c => c == '\x7b' || c == '\x7d'
  (Text.after? ['\x7d'] (s.dropWhile (!isBrace ·))).map fun after => (s.takeWhile (!isBrace ·), after)

def interpolation? : Recogniser Tag
  | _, '\x7b' :: '$' :: s =>
    (toClosingBrace s).map fun (body, after) => (.interpolation (Text.trim ('$' :: body)), after)
  | _, _ => none

-- The short form of an escaped expression, with an optional semicolon.
def shortEcho? : Recogniser Tag
  | _, '\x7b' :: ':' :: s =>
    (toClosingBrace s).map fun (body, after) =>
      (.interpolation body.trimStatementEnd.trim, after)
  | _, _ => none

-- Blanks between the end of a statement and the start of the next one. The end of an output is no
-- end of a statement.
def merge? : Recogniser Tag
  | before, '?' :: '>' :: s => do
    if before = some '=' then none
    let rest ← skipBlanks? s
    let (_, after) ← takeWord "<?py".toList rest
    some (.merge, after)
  | _, _ => none

-- The kinds of tags in the order in which they are looked for, each in the whole text.
def recognisers : List (Recogniser Tag) := [
  opening?,
  wordTag "function" .define,
  statementTag "php" .statement,
  statementTag "dump" .dump,
  statementTag "print" .print,
  statementTag "echo" .echo,
  wordTag "case" .case,
  fallback?,
  fixedTag "php" .enter,
  fixedTag "/php" .leave,
  closing?,
  closingBranch?,
  wordTag "elseif" .elseif,
  otherwise?,
  insertion?,
  path?,
  interpolation?,
  shortEcho?,
  merge?]

end BraceTemplate.Tag

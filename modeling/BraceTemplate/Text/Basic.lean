namespace BraceTemplate

-- White space of every script, the separators of the control range included: what may stand
-- between the parts of a tag, and what trimming removes.
def isBlank (c : Char) : Bool :=
  let n := c.toNat
  (9 ≤ n && n ≤ 13) || (28 ≤ n && n ≤ 32) || n == 0x85 || n == 0xA0 || n == 0x1680 ||
    (0x2000 ≤ n && n ≤ 0x200A) || n == 0x2028 || n == 0x2029 || n == 0x202F || n == 0x205F ||
    n == 0x3000

-- Text is a list of characters, so that every rule on it is a recursion on the list.
abbrev Text := List Char

namespace Text

def ofString (s : String) : Text :=
  s.toList

-- Pieces put one after the other with `sep` between neighbours.
def join (sep : Text) : List Text → Text
  | [] => []
  | [piece] => piece
  | piece :: rest => piece ++ sep ++ join sep rest

-- The pieces between the occurrences of `sep`; always at least one piece.
def split (sep : Char) : Text → List Text
  | [] => [[]]
  | c :: rest =>
    if c = sep then [] :: split sep rest
    else
      match split sep rest with
      | [] => [[c]]
      | piece :: pieces => (c :: piece) :: pieces

def trimLeft (s : Text) : Text :=
  s.dropWhile isBlank

-- Drops the characters of the longest tail that satisfies `p`.
def dropTail (p : Char → Bool) : Text → Text
  | [] => []
  | c :: rest =>
    match dropTail p rest with
    | [] => if p c then [] else [c]
    | kept => c :: kept

def trimRight (s : Text) : Text :=
  dropTail isBlank s

def trim (s : Text) : Text :=
  trimRight (trimLeft s)

-- Strips what a statement may end with: blanks, one semicolon, blanks.
def trimStatementEnd (s : Text) : Text :=
  let kept := trimRight s
  if kept.getLast? = some ';' then trimRight kept.dropLast else kept

-- Replaces the occurrences of `old`, found from the left and not overlapping; `skip` characters
-- belong to an occurrence already replaced. An empty `old` occurs nowhere.
def replaceFrom (old new : Text) : Nat → Text → Text
  | _, [] => []
  | skip + 1, _ :: rest => replaceFrom old new skip rest
  | 0, c :: rest =>
    if !old.isEmpty && old.isPrefixOf (c :: rest) then
      new ++ replaceFrom old new (old.length - 1) rest
    else c :: replaceFrom old new 0 rest

def replaceAll (old new s : Text) : Text :=
  replaceFrom old new 0 s

-- The part before the first `stop` and the part after it.
def cutAt (stop : Char) : Text → Option (Text × Text)
  | [] => none
  | c :: rest =>
    if c = stop then some ([], rest)
    else (cutAt stop rest).map fun (before, after) => (c :: before, after)

-- What follows `lead`, when the text starts with it.
def after? : (lead s : Text) → Option Text
  | [], s => some s
  | _ :: _, [] => none
  | p :: lead, c :: s => if p = c then after? lead s else none

-- The remainder of a text after the first occurrence of `mark`, and what came before it.
def cutAtText (mark : Text) : Text → Option (Text × Text)
  | [] => if mark.isEmpty then some ([], []) else none
  | c :: rest =>
    match after? mark (c :: rest) with
    | some tail => some ([], tail)
    | none => (cutAtText mark rest).map fun (before, tail) => (c :: before, tail)

def holds (mark s : Text) : Bool :=
  (cutAtText mark s).isSome

def repeated (n : Nat) (s : Text) : Text :=
  (List.replicate n s).flatten

end Text

-- Line ends of every kind become a line feed.
def normalNewlines : Text → Text
  | [] => []
  | '\r' :: '\n' :: rest => '\n' :: normalNewlines rest
  | c :: rest => (if c = '\r' then '\n' else c) :: normalNewlines rest

end BraceTemplate

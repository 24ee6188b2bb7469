import BraceTemplate.Text.Basic

namespace BraceTemplate.Text

-- The position of the first occurrence of `mark`.
def indexOf? (mark s : Text) : Option Nat :=
  (cutAtText mark s).map (·.1.length)

-- The number of occurrences that do not overlap; `skip` characters belong to one already counted.
def countFrom (mark : Text) : (skip : Nat) → Text → Nat
  | _, [] => 0
  | skip + 1, _ :: rest => countFrom mark skip rest
  | 0, c :: rest =>
    if mark.isPrefixOf (c :: rest) then countFrom mark (mark.length - 1) rest + 1
    else countFrom mark 0 rest

-- An empty mark occurs between any two characters and at both ends.
def occurrences (mark s : Text) : Nat :=
  if mark.isEmpty then s.length + 1 else countFrom mark 0 s

-- Replaces at most `count` occurrences from the left.
def replaceSome (old new : Text) : (count skip : Nat) → Text → Text
  | _, _, [] => []
  | count, skip + 1, _ :: rest => replaceSome old new count skip rest
  | 0, 0, s => s
  | count + 1, 0, c :: rest =>
    if old.isPrefixOf (c :: rest) then new ++ replaceSome old new count (old.length - 1) rest
    else c :: replaceSome old new (count + 1) 0 rest

-- Puts a text before the characters and at the end, at most `count` times.
def interleave (new : Text) : (count : Nat) → Text → Text
  | 0, s => s
  | _ + 1, [] => new
  | count + 1, c :: rest => new ++ c :: interleave new count rest

-- Replaces occurrences from the left; without a bound, all of them.
def replaceUpTo (old new : Text) (count : Option Nat) (s : Text) : Text :=
  let bound := count.getD (s.length + 1)
  if old.isEmpty then interleave new bound s else replaceSome old new bound 0 s

-- The pieces between occurrences of a mark that is not empty; after `bound` cuts the rest is one.
def splitOn (mark : Text) : (fuel bound : Nat) → Text → List Text
  | 0, _, s => [s]
  | _, 0, s => [s]
  | fuel + 1, bound + 1, s =>
    match cutAtText mark s with
    | none => [s]
    | some (before, after) => before :: splitOn mark fuel bound after

-- The words between blanks; after `bound` cuts the rest is one.
def wordsUpTo : (fuel bound : Nat) → Text → List Text
  | 0, _, _ => []
  | fuel + 1, bound, s =>
    match trimLeft s with
    | [] => []
    | start =>
      match bound with
      | 0 => [start]
      | bound + 1 =>
        start.takeWhile (!isBlank ·) :: wordsUpTo fuel bound (start.dropWhile (!isBlank ·))

-- Drops characters of a set from both ends.
def trimSet (set s : Text) : Text :=
  dropTail set.contains (s.dropWhile set.contains)

end BraceTemplate.Text

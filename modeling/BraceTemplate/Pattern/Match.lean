import BraceTemplate.Pattern.Basic
import BraceTemplate.Text.Digit
import BraceTemplate.Text.Case
import BraceTemplate.Text.Piece
import BraceTemplate.Text.Word

namespace BraceTemplate

namespace CharKind

def holds (mode : PatternMode) (c : Char) : CharKind → Bool
  | .blank => isBlank c
  | .word => isWordChar c
  | .digit => isDecimalDigit c
  | .any => mode.dotAll || c != '\n'

end CharKind

namespace CharItem

def holds (mode : PatternMode) (c : Char) : CharItem → Bool
  | .single d => if mode.ignoreCase then sameFold c d else c == d
  | .range first last =>
    if mode.ignoreCase then (foldVariants c).any fun d => first ≤ d && d ≤ last
    else first ≤ c && c ≤ last
  | .kind k negated => k.holds mode c != negated

end CharItem

def CharSet.holds (mode : PatternMode) (set : CharSet) (c : Char) : Bool :=
  set.items.any (·.holds mode c) != set.negated

namespace Pattern

-- A place in a text: the character before it, the text after it, how far from the start it is, and
-- the groups closed so far, the latest first.
structure Place where
  before : Option Char
  rest : Text
  offset : Nat
  groups : List (Nat × Text)

abbrev Matcher := Place → (Place → Option Place) → Option Place

def Place.advance (p : Place) (c : Char) (rest : Text) : Place :=
  { p with before := some c, rest := rest, offset := p.offset + 1 }

def Place.atWordEdge (p : Place) : Bool :=
  p.before.any isWordChar != p.rest.head?.any isWordChar

def Place.atEdge (mode : PatternMode) (p : Place) : Edge → Bool
  | .lineStart => p.before.isNone || (mode.multiLine && p.before == some '\n')
  | .lineEnd =>
    p.rest.isEmpty || p.rest == ['\n'] || (mode.multiLine && p.rest.head? == some '\n')
  | .textStart => p.before.isNone
  | .textEnd => p.rest.isEmpty
  | .wordEdge => p.atWordEdge
  | .noWordEdge => !p.atWordEdge

-- Repeats a matcher `least` times, and then any number of times up to `fuel`, as long as `most` allows
-- it. Of the further repetitions no two start at the same place, where the last one started is `last`.
def repeatMatch (step : Matcher) (greed : Greed) :
    (fuel least : Nat) → (most last : Option Nat) → Matcher
  | fuel, least + 1, most, last, p, next =>
    step p fun q => repeatMatch step greed fuel least (most.map (· - 1)) last q next
  | 0, 0, _, _, p, next => next p
  | fuel + 1, 0, most, last, p, next =>
    if most = some 0 ∨ last = some p.offset then next p
    else
      let again := fun q => repeatMatch step greed fuel 0 (most.map (· - 1)) (some p.offset) q next
      match greed with
      | .most => (step p again).orElse fun _ => next p
      | .least => (next p).orElse fun _ => step p again
      | .held =>
        match step p some with
        | some q => again q
        | none => next p

-- Matches a pattern at a place and goes on with `next`; where that fails, other ways to match are
-- tried in order.
def run (mode : PatternMode) : Pattern → Matcher
  | .nothing, p, next => next p
  | .one set, p, next =>
    match p.rest with
    | c :: rest => if set.holds mode c then next (p.advance c rest) else none
    | [] => none
  | .edge e, p, next => if p.atEdge mode e then next p else none
  | .seq first second, p, next => first.run mode p fun q => second.run mode q next
  | .either first second, p, next => (first.run mode p next).orElse fun _ => second.run mode p next
  | .repeated greed least most body, p, next =>
    repeatMatch (body.run mode) greed (p.rest.length + 1) least most none p next
  | .group index body, p, next =>
    body.run mode p fun q =>
      next { q with groups := (index, p.rest.take (q.offset - p.offset)) :: q.groups }

-- What was found: the whole text and the texts of the groups that took part.
structure Found where
  whole : Text
  groups : List (Nat × Text)

def Found.group? (found : Found) (index : Nat) : Option Text :=
  if index = 0 then some found.whole else (found.groups.find? (·.1 == index)).map (·.2)

-- A match at the given place, one character long at least if `proper` holds.
def matchAt (mode : PatternMode) (pattern : Pattern) (proper : Bool) (before : Option Char)
    (rest : Text) : Option Found :=
  (pattern.run mode ⟨before, rest, 0, []⟩ fun q =>
    if proper && q.offset = 0 then none else some q).map fun q =>
      ⟨rest.take q.offset, q.groups⟩

-- The pieces that start at a place: what is matched there and how many characters it covers. After
-- an empty match a longer one may start at the same place.
def piecesAt (mode : PatternMode) (pattern : Pattern) (before : Option Char) (rest : Text) :
    List (Piece Found) × Nat :=
  match matchAt mode pattern false before rest with
  | none => ([], 0)
  | some found =>
    if found.whole.isEmpty then
      match matchAt mode pattern true before rest with
      | some longer => ([.hit found, .hit longer], longer.whole.length)
      | none => ([.hit found], 0)
    else ([.hit found], found.whole.length)

def scanFrom (mode : PatternMode) (pattern : Pattern) :
    Nat → Option Char → Text → List (Piece Found)
  | 0, before, [] => (piecesAt mode pattern before []).1
  | _ + 1, _, [] => []
  | skip + 1, _, c :: rest => scanFrom mode pattern skip (some c) rest
  | 0, before, c :: rest =>
    match piecesAt mode pattern before (c :: rest) with
    | (pieces, 0) => pieces ++ .char c :: scanFrom mode pattern 0 (some c) rest
    | (pieces, size + 1) => pieces ++ scanFrom mode pattern size (some c) rest

-- Cuts a text into its matches, from the left, and the characters between them.
def scan (mode : PatternMode) (pattern : Pattern) (s : Text) : List (Piece Found) :=
  scanFrom mode pattern 0 none s

end Pattern

end BraceTemplate

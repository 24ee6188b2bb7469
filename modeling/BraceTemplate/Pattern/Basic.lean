import BraceTemplate.Text.Basic

namespace BraceTemplate

-- A class of characters with a name of its own.
inductive CharKind where
  | blank
  | word
  | digit
  | any
  deriving DecidableEq, Inhabited

-- A part of a set of characters.
inductive CharItem where
  | single (c : Char)
  | range (first last : Char)
  | kind (k : CharKind) (negated : Bool)
  deriving Inhabited

structure CharSet where
  negated : Bool
  items : List CharItem
  deriving Inhabited

-- A place between two characters.
inductive Edge where
  | lineStart
  | lineEnd
  | textStart
  | textEnd
  | wordEdge
  | noWordEdge
  deriving DecidableEq, Inhabited

-- Which number of repetitions is tried first, and whether a smaller one may follow.
inductive Greed where
  | most
  | least
  | held
  deriving DecidableEq, Inhabited

-- A search pattern. Groups are numbered by their opening parentheses, from one.
inductive Pattern where
  | nothing
  | one (set : CharSet)
  | edge (e : Edge)
  | seq (first second : Pattern)
  | either (first second : Pattern)
  | repeated (greed : Greed) (least : Nat) (most : Option Nat) (body : Pattern)
  | group (index : Nat) (body : Pattern)
  deriving Inhabited

-- How a pattern is compared with a text.
structure PatternMode where
  ignoreCase : Bool
  dotAll : Bool
  multiLine : Bool
  deriving Inhabited

end BraceTemplate

import BraceTemplate.Pattern.Match
import BraceTemplate.Pattern.Reader
import BraceTemplate.Tag.Clause
import BraceTemplate.Text.Case

namespace BraceTemplate

-- A part of a replacement: fixed text, or a group as it is, without sigils, or in capitals.
inductive ReplacementPart where
  | text (s : Text)
  | group (index : Int)
  | strip (index : Int)
  | upper (index : Int)
  deriving Inhabited

-- A rule added to the tags: what it looks for, and what it puts in its place.
structure Extension where
  pattern : Pattern
  groups : Nat
  mode : PatternMode
  replacement : List ReplacementPart
  deriving Inhabited

-- Why a replacement has no text: a group that the pattern does not have, or one without a match.
inductive ReplacementError where
  | noSuchGroup (index : Int)
  | unmatchedGroup (index : Int)
  | unmatchedCapitals (index : Int)
  deriving DecidableEq

namespace Extension

-- Without flags of its own a pattern ignores case, and a dot matches line ends too.
def defaultMode : PatternMode := ⟨true, true, false⟩

-- Reads the pattern of an extension; `none` when it is malformed.
def make? (pattern : Text) (mode : PatternMode) (replacement : List ReplacementPart) :
    Option Extension :=
  (Pattern.ofText? pattern).map fun (p, groups) => ⟨p, groups, mode, replacement⟩

def groupText (e : Extension) (found : Pattern.Found) (index : Int) :
    Except ReplacementError (Option Text) :=
  if index < 0 ∨ (e.groups : Int) < index then .error (.noSuchGroup index)
  else .ok (found.group? index.toNat)

def partText (e : Extension) (found : Pattern.Found) : ReplacementPart → Except ReplacementError Text
  | .text s => .ok s
  | .group index => do
    match ← e.groupText found index with
    | some s => .ok s
    | none => .error (.unmatchedGroup index)
  | .strip index => do
    match ← e.groupText found index with
    | some s => .ok (Sigil.strip s)
    | none => .error (.unmatchedGroup index)
  | .upper index => do
    match ← e.groupText found index with
    | some s => .ok (upperText s)
    | none => .error (.unmatchedCapitals index)

def partTexts (e : Extension) (found : Pattern.Found) :
    List ReplacementPart → Except ReplacementError Text
  | [] => .ok []
  | part :: rest => do
    let first ← e.partText found part
    let others ← e.partTexts found rest
    .ok (first ++ others)

-- What a match is replaced by.
def replace (e : Extension) (found : Pattern.Found) : Except ReplacementError Text :=
  e.partTexts found e.replacement

end Extension

end BraceTemplate

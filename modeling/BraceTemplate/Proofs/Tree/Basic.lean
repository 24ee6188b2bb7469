import BraceTemplate.Data.Datum
import BraceTemplate.Host.Depth
import BraceTemplate.Host.Error
import BraceTemplate.Proofs.Flat.Segment
import BraceTemplate.Tag.Clause
import BraceTemplate.Text.Escape
import BraceTemplate.Text.Quoted

namespace BraceTemplate

-- What the rounds of a loop bind: a value, or a key and a value.
inductive Binder where
  | value (v : Text)
  | pair (k v : Text)
  deriving DecidableEq

mutual

-- A template as a tree: texts, variables that are put out, choices among branches and loops, each
-- with what follows it.
inductive Tree where
  | done
  | chunk (s : Text) (rest : Tree)
  | output (x : Text) (rest : Tree)
  | choose (x : Text) (body : Tree) (more : Branches) (rest : Tree)
  | each (x : Text) (binder : Binder) (body rest : Tree)

-- The branches of a choice behind the first one.
inductive Branches where
  | done
  | otherwise (body : Tree)
  | elseif (x : Text) (body : Tree) (more : Branches)

end

-- The clause of a loop behind the word `as`.
def Binder.clause : Binder → Text
  | .value v => '$' :: v
  | .pair k v => '$' :: (k ++ ' ' :: '=' :: '>' :: ' ' :: '$' :: v)

namespace Segment

-- Groups in braces.
def ofIf (x : Text) : Segment :=
  .group ('i' :: 'f' :: ' ' :: '$' :: x)

def ofElseif (x : Text) : Segment :=
  .group ('e' :: 'l' :: 's' :: 'e' :: 'i' :: 'f' :: ' ' :: '$' :: x)

def ofForeach (x : Text) (binder : Binder) : Segment :=
  .group ('f' :: 'o' :: 'r' :: 'e' :: 'a' :: 'c' :: 'h' :: ' ' :: '$' ::
    (x ++ ' ' :: 'a' :: 's' :: ' ' :: binder.clause))

end Segment

mutual

-- How a tree is written, as characters and groups in braces.
def Tree.segments : Tree → List Segment
  | .done => []
  | .chunk s rest => Segment.chars s ++ rest.segments
  | .output x rest => .group ('$' :: x) :: rest.segments
  | .choose x body more rest =>
    .ofIf x :: (body.segments ++ (more.segments ++ .group "/if".toList :: rest.segments))
  | .each x binder body rest =>
    .ofForeach x binder :: (body.segments ++ .group "/foreach".toList :: rest.segments)

def Branches.segments : Branches → List Segment
  | .done => []
  | .otherwise body => .group "else".toList :: body.segments
  | .elseif x body more => .ofElseif x :: (body.segments ++ more.segments)

end

def Tree.source (t : Tree) : Text :=
  Segment.spellAll t.segments

-- Words that mean something to the host where a name could stand, and names that it knows already.
def takenNames : List Text :=
  ["not".toList, "in".toList, "true".toList, "false".toList, "none".toList, "True".toList,
    "False".toList, "None".toList, "loop".toList, "self".toList, "range".toList, "dict".toList,
    "namespace".toList, "cycler".toList, "joiner".toList, "lipsum".toList]

def isNamePart (c : Char) : Bool :=
  c.isAlphanum || c == '_'

def isName : Text → Bool
  | [] => false
  | c :: rest => Sigil.isNameStart c && rest.all isNamePart

-- A name that a template can read and bind.
def isVariable (x : Text) : Bool :=
  isName x && !takenNames.contains x

def Binder.names : Binder → List Text
  | .value v => [v]
  | .pair k v => [k, v]

def Binder.isValid : Binder → Bool
  | .value v => isVariable v
  | .pair k v => isVariable k && isVariable v && k != v

-- What a text between tags is not made of.
def isMarkup (c : Char) : Bool :=
  c == '\x7b' || c == '\x7d' || c == '<' || c == '>' || c == '?' || c == '\r'

-- A text between tags: it is not all white space.
def isChunk (s : Text) : Bool :=
  s.any (!isBlank ·) && s.all (!isMarkup ·)

mutual

def Tree.isValid : Tree → Bool
  | .done => true
  | .chunk s rest => isChunk s && rest.isValid
  | .output x rest => isVariable x && rest.isValid
  | .choose x body more rest => isVariable x && body.isValid && more.isValid && rest.isValid
  | .each x binder body rest => isVariable x && binder.isValid && body.isValid && rest.isValid

def Branches.isValid : Branches → Bool
  | .done => true
  | .otherwise body => body.isValid
  | .elseif x body more => isVariable x && body.isValid && more.isValid

end

-- The data that names stand for; the first entry of a name counts.
abbrev Environment := List (Text × Datum)

def Environment.get? (env : Environment) (x : Text) : Option Datum :=
  (env.find? (·.1 == x)).map (·.2)

namespace Tree

-- What a template must not read is an error of the host.
def read (env : Environment) (x : Text) : Except Host.Error Datum :=
  match env.get? x with
  | some d => .ok d
  | none => .error (.undefined (Quoted.text x ++ " is undefined".toList))

-- The text that a value is put out as; a number may be too long to have one.
def shown (d : Datum) : Except Host.Error Text :=
  if d.writable then .ok (escape d.printed) else .error .wrongValue

-- Keys and values of a mapping, positions and items of a list or a text. Nothing else has entries.
def entries : Datum → Except Host.Error (List (Datum × Datum))
  | .dict entries => .ok entries
  | .list items => .ok (items.zipIdx.map fun (d, i) => (.int i, d))
  | .scalar (.str s) => .ok (s.zipIdx.map fun (c, i) => (.int i, .str [c]))
  | _ => .error .wrongType

end Tree

-- What a round binds.
def Binder.bindings (binder : Binder) (key value : Datum) : Environment :=
  match binder with
  | .value v => [(v, value)]
  | .pair k v => [(k, key), (v, value)]

mutual

-- The text that a tree stands for. A choice takes the first branch whose variable holds, a loop goes
-- through its body once for each entry.
def Tree.eval : Tree → Environment → Except Host.Error Text
  | .done, _ => .ok []
  | .chunk s rest, env => do
    let tail ← rest.eval env
    .ok (s ++ tail)
  | .output x rest, env => do
    let s ← Tree.shown (← Tree.read env x)
    let tail ← rest.eval env
    .ok (s ++ tail)
  | .choose x body more rest, env => do
    let d ← Tree.read env x
    let s ← (if d.truth then body.eval env else more.eval env)
    let tail ← rest.eval env
    .ok (s ++ tail)
  | .each x binder body rest, env => do
    let entries ← Tree.entries (← Tree.read env x)
    let rounds ← entries.mapM fun (key, value) => body.eval (binder.bindings key value ++ env)
    let tail ← rest.eval env
    .ok (rounds.flatten ++ tail)

-- The text of the first branch that is taken, if any is.
def Branches.eval : Branches → Environment → Except Host.Error Text
  | .done, _ => .ok []
  | .otherwise body, env => body.eval env
  | .elseif x body more, env => do
    let d ← Tree.read env x
    if d.truth then body.eval env else more.eval env

end

mutual

-- How many loops stand within one another.
def Tree.loops : Tree → Nat
  | .done => 0
  | .chunk _ rest => rest.loops
  | .output _ rest => rest.loops
  | .choose _ body more rest => max (max body.loops more.loops) rest.loops
  | .each _ _ body rest => max (body.loops + 1) rest.loops

def Branches.loops : Branches → Nat
  | .done => 0
  | .otherwise body => body.loops
  | .elseif _ body more => max body.loops more.loops

end

mutual

-- How many choices and loops stand within one another.
def Tree.blocks : Tree → Nat
  | .done => 0
  | .chunk _ rest => rest.blocks
  | .output _ rest => rest.blocks
  | .choose _ body more rest => max (max (body.blocks + 1) more.blocks) rest.blocks
  | .each _ _ body rest => max (body.blocks + 1) rest.blocks

def Branches.blocks : Branches → Nat
  | .done => 0
  | .otherwise body => body.blocks + 1
  | .elseif _ body more => max (body.blocks + 1) more.blocks

end

mutual

-- How deep the parts stand within one another where each further branch of a choice stands within the
-- one before it.
def Tree.nesting : Tree → Nat
  | .done => 0
  | .chunk _ rest => max 1 rest.nesting
  | .output _ rest => max 1 rest.nesting
  | .choose _ body more rest => max (max body.nesting more.nesting + 1) rest.nesting
  | .each _ _ body rest => max (body.nesting + 1) rest.nesting

def Branches.nesting : Branches → Nat
  | .done => 0
  | .otherwise body => body.nesting
  | .elseif _ body more => max body.nesting more.nesting + 1

end

-- A tree whose parts are well-formed and that nests no deeper than the host can take.
structure Tree.Sound (t : Tree) : Prop where
  valid : t.isValid = true
  loops : t.loops ≤ Host.maxLoopDepth
  blocks : t.blocks ≤ Host.maxBlockDepth
  nesting : t.nesting ≤ Host.maxNesting

end BraceTemplate

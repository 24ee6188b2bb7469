import BraceTemplate.Number.Digits
import BraceTemplate.Proofs.Tree.Basic
import BraceTemplate.Proofs.Tree.Lexeme

namespace BraceTemplate

-- What a branch of a switch is taken for: anything, a number, or the number that a name stands for.
inductive Label where
  | default
  | number (n : Nat)
  | named (y : Text)
  deriving DecidableEq

-- The branches of a switch, each with the gap behind it. In a branch stands a text, or another switch
-- on `x` with gaps around its tags.
inductive Cases where
  | done
  | text (label : Label) (s gap : Text) (rest : Cases)
  | switch (label : Label) (before x first : Text) (inner : Cases) (after gap : Text) (rest : Cases)

-- A switch on a variable, with the gap in front of its branches.
structure Switch where
  subject : Text
  gap : Text
  branches : Cases

namespace Segment

def ofSwitch (x : Text) : Segment :=
  .group ('s' :: 'w' :: 'i' :: 't' :: 'c' :: 'h' :: ' ' :: '$' :: x)

def ofLabel : Label → Segment
  | .default => .group "default".toList
  | .number n => .group ('c' :: 'a' :: 's' :: 'e' :: ' ' :: natText n)
  | .named y => .group ('c' :: 'a' :: 's' :: 'e' :: ' ' :: '$' :: y)

def closing : Label → Segment
  | .default => .group "/default".toList
  | _ => .group "/case".toList

end Segment

def Cases.segments : Cases → List Segment
  | .done => []
  | .text label s gap rest =>
    .ofLabel label :: (Segment.chars s ++ .closing label :: (Segment.chars gap ++ rest.segments))
  | .switch label before x first inner after gap rest =>
    .ofLabel label :: (Segment.chars before ++ .ofSwitch x :: (Segment.chars first ++ (inner.segments ++
      .group "/switch".toList :: (Segment.chars after ++ .closing label :: (Segment.chars gap ++
        rest.segments)))))

def Switch.segments (w : Switch) : List Segment :=
  .ofSwitch w.subject :: (Segment.chars w.gap ++ (w.branches.segments ++ [.group "/switch".toList]))

def Switch.source (w : Switch) : Text :=
  Segment.spellAll w.segments

-- The name under which a switch keeps its state.
def switchName : Text := "_switch".toList

def isGap (s : Text) : Bool :=
  s.all isBlank

def Label.isValid : Label → Bool
  | .named y => isVariable y
  | _ => true

def Cases.isValid : Cases → Bool
  | .done => true
  | .text label s gap rest => label.isValid && isChunk s && isGap gap && rest.isValid
  | .switch label before x first inner after gap rest =>
    label.isValid && isVariable x && (isGap before && isGap first) &&
      inner.isValid && (isGap after && isGap gap) && rest.isValid

def Switch.isValid (w : Switch) : Bool :=
  isVariable w.subject && isGap w.gap && w.branches.isValid

-- Whether the numbers are not too long for the host to read.
def Label.isShort : Label → Bool
  | .number n => (natText n).length ≤ maxNumeralLength
  | _ => true

def Cases.isShort : Cases → Bool
  | .done => true
  | .text label _ _ rest => label.isShort && rest.isShort
  | .switch label _ _ _ inner _ _ rest => label.isShort && inner.isShort && rest.isShort

-- The number that a name stands for; a name that stands for nothing must not be compared.
def Environment.int? (env : Environment) (x : Text) : Option Int :=
  match env.get? x with
  | some (.scalar (.int i)) => some i
  | _ => none

def Environment.number (env : Environment) (x : Text) : Except Host.Error Int :=
  match env.int? x with
  | some i => .ok i
  | none => .error (.undefined (Quoted.text x ++ " is undefined".toList))

-- Whether a branch is taken for what `x` stands for.
def Label.holds (env : Environment) (x : Text) : Label → Except Host.Error Bool
  | .default => .ok true
  | .number n => do
    let i ← env.number x
    .ok (i == n)
  | .named y => do
    let i ← env.number x
    let j ← env.number y
    .ok (i == j)

-- The text of the first branch that is taken, if any is. Those behind it are not looked at.
def Cases.eval (env : Environment) (x : Text) : Cases → Except Host.Error Text
  | .done => .ok []
  | .text label s _ rest => do
    if ← label.holds env x then .ok s else rest.eval env x
  | .switch label _ y _ inner _ _ rest => do
    if ← label.holds env x then inner.eval env y else rest.eval env x

def Switch.eval (w : Switch) (env : Environment) : Except Host.Error Text :=
  w.branches.eval env w.subject

-- How many branches stand within one another.
def Cases.depth : Cases → Nat
  | .done => 0
  | .text _ _ _ rest => max 1 rest.depth
  | .switch _ _ _ _ inner _ _ rest => max (inner.depth + 1) rest.depth

def Label.names : Label → List Text
  | .named y => [y]
  | _ => []

-- The names that are compared.
def Cases.names : Cases → List Text
  | .done => []
  | .text label _ _ rest => label.names ++ rest.names
  | .switch label _ y _ inner _ _ rest => label.names ++ (y :: (inner.names ++ rest.names))

def Switch.names (w : Switch) : List Text :=
  w.subject :: w.branches.names

-- A switch whose parts are well-formed and that asks no more of the host than it can take. Within it the
-- name of the state stands for the state, so that nothing is compared with it and no further switch is on it.
structure Switch.Sound (w : Switch) : Prop where
  valid : w.isValid = true
  free : switchName ∉ w.branches.names
  short : w.branches.isShort = true
  depth : w.branches.depth ≤ Host.maxBlockDepth

-- Data in which some names stand for numbers, if for anything. The name of the host's namespaces is left
-- to the host.
structure Environment.Counts (env : Environment) (names : List Text) : Prop where
  distinct : (env.map (·.1)).Nodup
  free : env.get? "namespace".toList = none
  numbers : ∀ x ∈ names, ∀ d, env.get? x = some d → ∃ i, d = .int i

open Host

namespace Label

-- What a branch is compared with in its test, and the value that this has there.
def operand? : Label → Option Lexeme
  | .default => none
  | .number n => some (.number n)
  | .named y => some (.name y)

def value? : Label → Option Expr
  | .default => none
  | .number n => some (.literal (.int n))
  | .named y => some (.name y)

end Label

namespace Host.Lexeme

-- A switch starts with a namespace that keeps its subject and whether a branch has been taken.
def entering (x : Text) : List Lexeme :=
  word "with" :: .blank :: .name switchName :: .blank :: .mark .assign :: .blank :: word "namespace" ::
    .mark .leftParen :: word "subject" :: .mark .assign :: (enclosed x ++ [.mark .comma, .blank,
      word "done", .mark .assign, word "false", .mark .rightParen])

def compared (operand : Lexeme) : List Lexeme :=
  [.blank, word "and", .blank, .name switchName, .mark .dot, word "subject", .blank, .mark .eq, .blank,
    .mark .leftParen, operand, .mark .rightParen]

-- A branch is taken where none has been taken and the subject is what it is compared with.
def asked (label : Label) : List Lexeme :=
  word "if" :: .blank :: word "not" :: .blank :: .name switchName :: .mark .dot :: word "done" ::
    (label.operand?.map compared).getD []

def taken : List Lexeme :=
  [word "set", .blank, .name switchName, .mark .dot, word "done", .blank, .mark .assign, .blank,
    word "true"]

end Host.Lexeme

open Lexeme

-- The host text of a branch and of a switch around what stands in them.
def Label.around (label : Label) (body : Text) : Text :=
  statementOf (asked label) ++ (statementOf taken ++ (body ++ statementOf [word "endif"]))

def Switch.around (x body : Text) : Text :=
  statementOf (entering x) ++ (body ++ statementOf [word "endwith"])

-- The host text of branches tag by tag, and without the gaps between tags.
def Cases.draft : Cases → Text
  | .done => []
  | .text label s gap rest => label.around s ++ (gap ++ rest.draft)
  | .switch label before x first inner after gap rest =>
    label.around (before ++ (Switch.around x (first ++ inner.draft) ++ after)) ++ (gap ++ rest.draft)

def Cases.host : Cases → Text
  | .done => []
  | .text label s _ rest => label.around s ++ rest.host
  | .switch label _ x _ inner _ _ rest => label.around (Switch.around x inner.host) ++ rest.host

def Switch.host (w : Switch) : Text :=
  Switch.around w.subject w.branches.host

-- Their parts.
def Label.kindsAround (label : Label) (body : List TokenKind) : List TokenKind :=
  statementKinds (asked label) ++ (statementKinds taken ++ (body ++ statementKinds [word "endif"]))

def Switch.kindsAround (x : Text) (body : List TokenKind) : List TokenKind :=
  statementKinds (entering x) ++ (body ++ statementKinds [word "endwith"])

def Cases.kinds : Cases → List TokenKind
  | .done => []
  | .text label s _ rest => label.kindsAround (dataKinds s) ++ rest.kinds
  | .switch label _ x _ inner _ _ rest =>
    label.kindsAround (Switch.kindsAround x inner.kinds) ++ rest.kinds

def Switch.kinds (w : Switch) : List TokenKind :=
  Switch.kindsAround w.subject w.branches.kinds

-- Their nodes. A branch that is taken marks that first.
def denied : Expr :=
  .unary .denied (.member (.name switchName) "done".toList)

def subjectIs (e : Expr) : Expr :=
  .compare (.member (.name switchName) "subject".toList) [(.eq, e)]

def Label.test (label : Label) : Expr :=
  (label.value?.map fun e => Expr.both denied (subjectIs e)).getD denied

def marking : Node :=
  .assign (.member switchName "done".toList) (.literal (.bool true))

def Label.node (label : Label) (body : List Node) : Node :=
  .conditional [(label.test, marking :: body)] []

def spaceOf (x : Text) : Expr :=
  .call (.name "namespace".toList) []
    [("subject".toList, .name x), ("done".toList, .literal (.bool false))] none none

def Switch.node (x : Text) (body : List Node) : Node :=
  .scope [(.name switchName, spaceOf x)] body

def Cases.nodes : Cases → List Node
  | .done => []
  | .text label s _ rest => label.node (dataNodes s) :: rest.nodes
  | .switch label _ x _ inner _ _ rest => label.node [Switch.node x inner.nodes] :: rest.nodes

end BraceTemplate

import BraceTemplate.Host.Names

namespace BraceTemplate.Host

mutual

-- The greatest sum of weights on a way from an expression down to one that has no parts.
def Expr.height (weight : Expr → Nat) : Expr → Nat
  | .literal s => weight (.literal s)
  | .name n => weight (.name n)
  | .list items => weight (.list items) + heightOfAll weight items
  | .tuple items => weight (.tuple items) + heightOfAll weight items
  | .dict entries => weight (.dict entries) + heightOfEntries weight entries
  | .unary op e => weight (.unary op e) + e.height weight
  | .binary op a b => weight (.binary op a b) + max (a.height weight) (b.height weight)
  | .joined parts => weight (.joined parts) + heightOfAll weight parts
  | .compare first rest =>
    weight (.compare first rest) + max (first.height weight) (heightOfOperands weight rest)
  | .both a b => weight (.both a b) + max (a.height weight) (b.height weight)
  | .either a b => weight (.either a b) + max (a.height weight) (b.height weight)
  | .choice test value otherwise line =>
    weight (.choice test value otherwise line) +
      max (max (test.height weight) (value.height weight)) (heightOfSome weight otherwise)
  | .member e name => weight (.member e name) + e.height weight
  | .item e key => weight (.item e key) + max (e.height weight) (key.height weight)
  | .slice e start stop step =>
    weight (.slice e start stop step) + max (max (e.height weight) (heightOfSome weight start))
      (max (heightOfSome weight stop) (heightOfSome weight step))
  | .bounds start stop step =>
    weight (.bounds start stop step) +
      max (heightOfSome weight start) (max (heightOfSome weight stop) (heightOfSome weight step))
  | .settled value names => weight (.settled value names) + value.height weight
  | .call f args named rest named' =>
    weight (.call f args named rest named') + max (max (f.height weight) (heightOfAll weight args))
      (max (heightOfNamed weight named) (max (heightOfSome weight rest) (heightOfSome weight named')))
  | .filter e name args named rest named' =>
    weight (.filter e name args named rest named') +
      max (max (e.height weight) (heightOfAll weight args)) (max (heightOfNamed weight named)
        (max (heightOfSome weight rest) (heightOfSome weight named')))
  | .test e name args named rest named' =>
    weight (.test e name args named rest named') +
      max (max (e.height weight) (heightOfAll weight args)) (max (heightOfNamed weight named)
        (max (heightOfSome weight rest) (heightOfSome weight named')))

def heightOfAll (weight : Expr → Nat) : List Expr → Nat
  | [] => 0
  | e :: rest => max (e.height weight) (heightOfAll weight rest)

def heightOfEntries (weight : Expr → Nat) : List (Expr × Expr) → Nat
  | [] => 0
  | (k, v) :: rest => max (max (k.height weight) (v.height weight)) (heightOfEntries weight rest)

def heightOfOperands (weight : Expr → Nat) : List (Relation × Expr) → Nat
  | [] => 0
  | (_, e) :: rest => max (e.height weight) (heightOfOperands weight rest)

def heightOfNamed (weight : Expr → Nat) : List (Text × Expr) → Nat
  | [] => 0
  | (_, e) :: rest => max (e.height weight) (heightOfNamed weight rest)

def heightOfSome (weight : Expr → Nat) : Option Expr → Nat
  | none => 0
  | some e => e.height weight

end

-- How many expressions stand within one another.
def Expr.depth (e : Expr) : Nat :=
  e.height fun _ => 1

-- How many brackets are written around the parts of an expression. A name is asked whether it stands for
-- something, and texts that are joined are handed over together.
def ownBrackets : Expr → Nat
  | .literal _ => 0
  | .name _ => 2
  | .joined _ => 2
  | .slice .. => 0
  | .bounds .. => 0
  | .settled .. => 0
  | _ => 1

def Expr.brackets (e : Expr) : Nat :=
  e.height ownBrackets

mutual

-- The greatest depth that an expression in a part of a template has.
def Node.reach (depth : Expr → Nat) : Node → Nat
  | .text _ => 0
  | .output e => depth e
  | .perform e => depth e
  | .conditional branches otherwise =>
    max (reachOfBranches depth branches) (reachOfNodes depth otherwise)
  | .loop _ items test body otherwise =>
    max (max (depth items) ((test.map depth).getD 0))
      (max (reachOfNodes depth body) (reachOfNodes depth otherwise))
  | .scope bindings body =>
    max (reachOfAll depth (bindings.map (·.2))) (reachOfNodes depth body)
  | .assign _ value => depth value
  | .define _ parameters body =>
    max (reachOfAll depth (defaultsOf parameters)) (reachOfNodes depth body)

def reachOfNodes (depth : Expr → Nat) : List Node → Nat
  | [] => 0
  | n :: rest => max (n.reach depth) (reachOfNodes depth rest)

def reachOfBranches (depth : Expr → Nat) : List (Expr × List Node) → Nat
  | [] => 0
  | (test, body) :: rest =>
    max (max (depth test) (reachOfNodes depth body)) (reachOfBranches depth rest)

def reachOfAll (depth : Expr → Nat) : List Expr → Nat
  | [] => 0
  | e :: rest => max (depth e) (reachOfAll depth rest)

end

mutual

-- How many loops stand within one another, definitions counted on their own.
def Node.loopDepth : Node → Nat
  | .conditional branches otherwise => max (loopDepthOfBranches branches) (loopDepthOfAll otherwise)
  | .loop _ _ _ body otherwise => max (loopDepthOfAll body + 1) (loopDepthOfAll otherwise)
  | .scope _ body => loopDepthOfAll body
  | .define _ _ body => loopDepthOfAll body
  | _ => 0

def loopDepthOfAll : List Node → Nat
  | [] => 0
  | n :: rest => max n.loopDepth (loopDepthOfAll rest)

def loopDepthOfBranches : List (Expr × List Node) → Nat
  | [] => 0
  | (_, body) :: rest => max (loopDepthOfAll body) (loopDepthOfBranches rest)

end

mutual

-- How many blocks stand within one another; a loop with a test takes three.
def Node.blockDepth : Node → Nat
  | .conditional branches otherwise =>
    max (blockDepthOfBranches branches) (if otherwise.isEmpty then 0 else blockDepthOfAll otherwise + 1)
  | .loop _ _ test body otherwise =>
    max (max (blockDepthOfAll body + 1) (if test.isSome then 3 else 0))
      (if otherwise.isEmpty then 0 else blockDepthOfAll otherwise + 1)
  | .scope _ body => blockDepthOfAll body
  | .define _ _ body => blockDepthOfAll body + 1
  | _ => 0

def blockDepthOfAll : List Node → Nat
  | [] => 0
  | n :: rest => max n.blockDepth (blockDepthOfAll rest)

def blockDepthOfBranches : List (Expr × List Node) → Nat
  | [] => 0
  | (_, body) :: rest => max (blockDepthOfAll body + 1) (blockDepthOfBranches rest)

end

mutual

-- How deep statements stand within one another where each further branch of a condition stands within
-- the one before it.
def Node.nesting : Node → Nat
  | .conditional branches otherwise =>
    max (nestingOfBranches branches) (branches.length + nestingOfAll otherwise)
  | .loop _ _ _ body otherwise => max (nestingOfAll body) (nestingOfAll otherwise) + 1
  | .scope _ body => nestingOfAll body
  | .define _ _ body => nestingOfAll body + 1
  | _ => 1

def nestingOfAll : List Node → Nat
  | [] => 0
  | n :: rest => max n.nesting (nestingOfAll rest)

def nestingOfBranches : List (Expr × List Node) → Nat
  | [] => 0
  | (_, body) :: rest => max (nestingOfAll body) (nestingOfBranches rest) + 1

end

def maxNesting : Nat := 2900

def maxLoopDepth : Nat := 20

def maxBlockDepth : Nat := 98

def maxBrackets : Nat := 199

-- Expressions may be this deep where their names are looked for, and where they are made ready.
def maxNamedDepth : Nat := 490

def maxReadyDepth : Nat := 325

end BraceTemplate.Host

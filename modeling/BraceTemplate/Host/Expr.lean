import BraceTemplate.Data.Scalar

namespace BraceTemplate.Host

inductive Prefixed where
  | negative
  | positive
  | denied
  deriving DecidableEq, Inhabited

inductive Operator where
  | add | sub | mul | div | floordiv | mod | pow
  deriving DecidableEq, Inhabited

inductive Relation where
  | eq | ne | lt | le | gt | ge
  | isIn
  | notIn
  deriving DecidableEq, Inhabited

-- The expressions of the host language. `choice` without a third part has no value when its test
-- fails; the line is kept for the message that says so. `bounds` are those of a slice, where they
-- stand among other keys. What is `settled` has one value whatever the names that it mentioned.
inductive Expr where
  | literal (s : Scalar)
  | name (n : Text)
  | list (items : List Expr)
  | tuple (items : List Expr)
  | dict (entries : List (Expr × Expr))
  | unary (op : Prefixed) (e : Expr)
  | binary (op : Operator) (a b : Expr)
  | joined (parts : List Expr)
  | compare (first : Expr) (rest : List (Relation × Expr))
  | both (a b : Expr)
  | either (a b : Expr)
  | choice (test value : Expr) (otherwise : Option Expr) (line : Nat)
  | member (e : Expr) (name : Text)
  | item (e key : Expr)
  | slice (e : Expr) (start stop step : Option Expr)
  | bounds (start stop step : Option Expr)
  | settled (value : Expr) (names : List Text)
  | call (f : Expr) (args : List Expr) (named : List (Text × Expr)) (rest named' : Option Expr)
  | filter (e : Expr) (name : Text) (args : List Expr) (named : List (Text × Expr))
      (rest named' : Option Expr)
  | test (e : Expr) (name : Text) (args : List Expr) (named : List (Text × Expr))
      (rest named' : Option Expr)
  deriving Inhabited

-- What can be assigned to: names, attributes of a namespace, and tuples of those.
inductive Target where
  | name (n : Text)
  | member (name attr : Text)
  | tuple (items : List Target)
  deriving Inhabited

-- The parameters of a definition, those with a default value last.
structure Parameter where
  name : Text
  default : Option Expr
  deriving Inhabited

-- The parts of a host template.
inductive Node where
  | text (s : Text)
  | output (e : Expr)
  | perform (e : Expr)
  | conditional (branches : List (Expr × List Node)) (otherwise : List Node)
  | loop (target : Target) (items : Expr) (test : Option Expr) (body otherwise : List Node)
  | scope (bindings : List (Target × Expr)) (body : List Node)
  | assign (target : Target) (value : Expr)
  | define (name : Text) (parameters : List Parameter) (body : List Node)
  deriving Inhabited

end BraceTemplate.Host

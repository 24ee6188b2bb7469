import BraceTemplate.Host.Names
import BraceTemplate.Text.Basic
import BraceTemplate.Text.Compatible

namespace BraceTemplate.Host

-- The words that cannot be names of variables in the language that templates are run by.
def reservedWords : List Text :=
  (Text.split ' ' ("False None True and as assert async await break class continue def del elif " ++
    "else except finally for from global if import in is lambda nonlocal not or pass raise return " ++
    "try while with yield").toList).filter (!·.isEmpty)

def isReserved (name : Text) : Bool :=
  reservedWords.contains name

def repeats : List Text → Bool
  | [] => false
  | name :: rest => rest.contains name || repeats rest

-- Whether names are passed of which two are variants of each other. Beside a reserved word they may be.
def repeatsNames (names : List Text) : Bool :=
  !names.any isReserved && repeats (names.map compatible)

mutual

-- Whether an expression passes two values under one name, or has bounds where none can stand.
def Expr.misfits : Expr → Bool
  | .literal _ => false
  | .name _ => false
  | .list items => misfitsInAll items
  | .tuple items => misfitsInAll items
  | .dict entries => misfitsInEntries entries
  | .unary _ e => e.misfits
  | .binary _ a b => a.misfits || b.misfits
  | .joined parts => misfitsInAll parts
  | .compare first rest => first.misfits || misfitsInOperands rest
  | .both a b => a.misfits || b.misfits
  | .either a b => a.misfits || b.misfits
  | .choice test value otherwise _ => test.misfits || value.misfits || misfitsInSome otherwise
  | .member e _ => e.misfits
  | .item e key => e.misfits || key.misfits
  | .slice e start stop step =>
    e.misfits || misfitsInSome start || misfitsInSome stop || misfitsInSome step
  | .bounds .. => true
  | .settled value _ => value.misfits
  | .call f args named rest named' =>
    repeatsNames (named.map (·.1)) || f.misfits || misfitsInAll args || misfitsInNamed named ||
      misfitsInSome rest || misfitsInSome named'
  | .filter e _ args named rest named' =>
    repeatsNames (named.map (·.1)) || e.misfits || misfitsInAll args || misfitsInNamed named ||
      misfitsInSome rest || misfitsInSome named'
  | .test e _ args named rest named' =>
    repeatsNames (named.map (·.1)) || e.misfits || misfitsInAll args || misfitsInNamed named ||
      misfitsInSome rest || misfitsInSome named'

def misfitsInAll : List Expr → Bool
  | [] => false
  | e :: rest => e.misfits || misfitsInAll rest

def misfitsInEntries : List (Expr × Expr) → Bool
  | [] => false
  | (k, e) :: rest => k.misfits || e.misfits || misfitsInEntries rest

def misfitsInOperands : List (Relation × Expr) → Bool
  | [] => false
  | (_, e) :: rest => e.misfits || misfitsInOperands rest

def misfitsInNamed : List (Text × Expr) → Bool
  | [] => false
  | (_, e) :: rest => e.misfits || misfitsInNamed rest

def misfitsInSome : Option Expr → Bool
  | none => false
  | some e => e.misfits

end

mutual

-- The same for a part of a template, where definitions may not have two parameters of one name either.
def Node.misfits : Node → Bool
  | .text _ => false
  | .output e => e.misfits
  | .perform e => e.misfits
  | .conditional branches otherwise => misfitsInBranches branches || misfitsInNodes otherwise
  | .loop _ items test body otherwise =>
    items.misfits || misfitsInSome test || misfitsInNodes body || misfitsInNodes otherwise
  | .scope bindings body => bindings.any (·.2.misfits) || misfitsInNodes body
  | .assign _ value => value.misfits
  | .define _ parameters body =>
    repeats (parameters.map fun p => compatible p.name) ||
      misfitsInAll (defaultsOf parameters) || misfitsInNodes body

def misfitsInNodes : List Node → Bool
  | [] => false
  | n :: rest => n.misfits || misfitsInNodes rest

def misfitsInBranches : List (Expr × List Node) → Bool
  | [] => false
  | (test, body) :: rest => test.misfits || misfitsInNodes body || misfitsInBranches rest

end

end BraceTemplate.Host

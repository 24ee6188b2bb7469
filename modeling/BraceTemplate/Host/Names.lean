import BraceTemplate.Host.Expr

namespace BraceTemplate.Host

mutual

-- The names that an expression reads.
def Expr.names : Expr → List Text
  | .literal _ => []
  | .name n => [n]
  | .list items => namesOfAll items
  | .tuple items => namesOfAll items
  | .dict entries => namesOfEntries entries
  | .unary _ e => e.names
  | .binary _ a b => a.names ++ b.names
  | .joined parts => namesOfAll parts
  | .compare first rest => first.names ++ namesOfOperands rest
  | .both a b => a.names ++ b.names
  | .either a b => a.names ++ b.names
  | .choice test value otherwise _ => test.names ++ value.names ++ namesOfSome otherwise
  | .member e _ => e.names
  | .item e key => e.names ++ key.names
  | .slice e start stop step =>
    e.names ++ namesOfSome start ++ namesOfSome stop ++ namesOfSome step
  | .bounds start stop step => namesOfSome start ++ namesOfSome stop ++ namesOfSome step
  | .settled _ names => names
  | .call f args named rest named' =>
    f.names ++ namesOfAll args ++ namesOfNamed named ++ namesOfSome rest ++ namesOfSome named'
  | .filter e _ args named rest named' =>
    e.names ++ namesOfAll args ++ namesOfNamed named ++ namesOfSome rest ++ namesOfSome named'
  | .test e _ args named rest named' =>
    e.names ++ namesOfAll args ++ namesOfNamed named ++ namesOfSome rest ++ namesOfSome named'

def namesOfAll : List Expr → List Text
  | [] => []
  | e :: rest => e.names ++ namesOfAll rest

def namesOfEntries : List (Expr × Expr) → List Text
  | [] => []
  | (k, v) :: rest => k.names ++ v.names ++ namesOfEntries rest

def namesOfOperands : List (Relation × Expr) → List Text
  | [] => []
  | (_, e) :: rest => e.names ++ namesOfOperands rest

def namesOfNamed : List (Text × Expr) → List Text
  | [] => []
  | (_, e) :: rest => e.names ++ namesOfNamed rest

def namesOfSome : Option Expr → List Text
  | none => []
  | some e => e.names

end

mutual

-- The names that a target binds.
def Target.names : Target → List Text
  | .name n => [n]
  | .member _ _ => []
  | .tuple items => targetNames items

def targetNames : List Target → List Text
  | [] => []
  | t :: rest => t.names ++ targetNames rest

end

mutual

-- The namespaces whose attributes a target sets.
def Target.spaces : Target → List Text
  | .name _ => []
  | .member n _ => [n]
  | .tuple items => targetSpaces items

def targetSpaces : List Target → List Text
  | [] => []
  | t :: rest => t.spaces ++ targetSpaces rest

end

-- How a name occurs: it is read, assigned to, or bound as a parameter.
inductive Use where
  | load
  | store
  | parameter
  deriving DecidableEq, Inhabited

def usesOf (use : Use) (names : List Text) : List (Text × Use) :=
  names.map (·, use)

def loads (e : Expr) : List (Text × Use) :=
  usesOf .load e.names

def defaultsOf (parameters : List Parameter) : List Expr :=
  parameters.filterMap (·.default)

mutual

-- The occurrences of names in a part of a template, in the order in which they are looked at.
def Node.uses : Node → List (Text × Use)
  | .text _ => []
  | .output e => loads e
  | .perform e => loads e
  | .conditional branches otherwise => usesOfBranches branches ++ usesOfNodes otherwise
  | .loop target items test body otherwise =>
    usesOf .store target.names ++ loads items ++ usesOfNodes body ++ usesOfNodes otherwise ++
      usesOf .load (namesOfSome test)
  | .scope bindings body =>
    usesOf .parameter (bindings.flatMap (·.1.names)) ++ (bindings.flatMap fun b => loads b.2) ++
      usesOfNodes body
  | .assign target value => usesOf .store target.names ++ loads value
  | .define _ parameters body =>
    usesOf .parameter (parameters.map (·.name)) ++ (defaultsOf parameters).flatMap loads ++
      usesOfNodes body

def usesOfNodes : List Node → List (Text × Use)
  | [] => []
  | n :: rest => n.uses ++ usesOfNodes rest

def usesOfBranches : List (Expr × List Node) → List (Text × Use)
  | [] => []
  | (test, body) :: rest => loads test ++ usesOfNodes body ++ usesOfBranches rest

end

-- Whether the first occurrence of a name in some nodes reads it.
def readsFirst (name : Text) (nodes : List Node) : Bool :=
  match (usesOfNodes nodes).find? (·.1 == name) with
  | some (_, .load) => true
  | _ => false

-- Where the value of a name comes from when its frame is entered: it is passed by a call, bound by the
-- block itself, looked up among the data, taken over from an outer frame, or not there yet.
inductive Origin where
  | passed
  | bound
  | looked
  | inherited
  | unset
  deriving DecidableEq, Inhabited

-- The names of a frame with their origins, and those of them that are assigned to. Names are found
-- by looking at the whole of a block before it runs.
structure Slots where
  entries : List (Text × Origin)
  stored : List Text
  deriving Inhabited

namespace Slots

def empty : Slots := ⟨[], []⟩

def has (s : Slots) (name : Text) : Bool :=
  s.entries.any (·.1 == name)

def put (name : Text) (origin : Origin) : List (Text × Origin) → List (Text × Origin)
  | [] => [(name, origin)]
  | (n, o) :: rest => if n = name then (n, origin) :: rest else (n, o) :: put name origin rest

-- A name that is read belongs to the frame unless an outer one has it.
def load (outer : Text → Bool) (s : Slots) (name : Text) : Slots :=
  if s.has name || outer name then s else { s with entries := put name .looked s.entries }

-- A name that is assigned to belongs to the frame. On a branch it may keep the value it had.
def store (outer : Text → Bool) (branch : Bool) (s : Slots) (name : Text) : Slots :=
  if s.stored.contains name then s
  else
    let origin :=
      if branch then some (if outer name then Origin.inherited else .looked)
      else if s.has name then none
      else some (if outer name then .inherited else .unset)
    match origin with
    | some o => ⟨put name o s.entries, name :: s.stored⟩
    | none => { s with stored := name :: s.stored }

def declare (origin : Origin) (s : Slots) (name : Text) : Slots :=
  ⟨put name origin s.entries, name :: s.stored⟩

def declared (origin : Origin) (names : List Text) : Slots :=
  names.foldl (declare origin) empty

def loadAll (outer : Text → Bool) (s : Slots) (names : List Text) : Slots :=
  names.foldl (load outer) s

mutual

def visit (outer : Text → Bool) (branch : Bool) (s : Slots) : Node → Slots
  | .text _ => s
  | .output e => s.loadAll outer e.names
  | .perform e => s.loadAll outer e.names
  | .conditional branches otherwise =>
    visitAll outer true (visitBranches outer s branches) otherwise
  | .loop _ items _ _ _ => s.loadAll outer items.names
  | .scope bindings _ => s.loadAll outer (bindings.flatMap (·.2.names))
  | .assign target value =>
    let s := (s.loadAll outer value.names).loadAll outer target.spaces
    target.names.foldl (store outer branch) s
  | .define name _ _ => s.store outer branch name

def visitAll (outer : Text → Bool) (branch : Bool) (s : Slots) : List Node → Slots
  | [] => s
  | n :: rest => visitAll outer branch (visit outer branch s n) rest

def visitBranches (outer : Text → Bool) (s : Slots) : List (Expr × List Node) → Slots
  | [] => s
  | (test, body) :: rest =>
    visitBranches outer (visitAll outer true (s.loadAll outer test.names) body) rest

end

end Slots

-- A block that is being run. Its names live in a home that it shares with all blocks of the same
-- call; those of blocks at the same level are shared too.
structure Frame where
  home : Nat
  level : Nat
  slots : List (Text × Origin)
  deriving Inhabited

-- The blocks within one another, the innermost first.
abbrev Scope := List Frame

namespace Scope

-- The innermost block that a name belongs to, and where its value there comes from.
def find? (name : Text) : Scope → Option (Frame × Origin)
  | [] => none
  | frame :: rest =>
    match frame.slots.find? (·.1 == name) with
    | some (_, origin) => some (frame, origin)
    | none => find? name rest

def has (s : Scope) (name : Text) : Bool :=
  (s.find? name).isSome

end Scope

end BraceTemplate.Host

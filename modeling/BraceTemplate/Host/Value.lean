import BraceTemplate.Host.Error
import BraceTemplate.Host.Names
import BraceTemplate.Host.Table

namespace BraceTemplate.Host

-- A value that is not there. A strict one refuses every use, a lenient one is an empty text; `safe`
-- is false for one that must not be looked at.
structure Absence where
  strict : Bool
  safe : Bool
  message : Text
  deriving Inhabited

-- The parts of a mapping that can be listed.
inductive Part where
  | keys
  | values
  | items
  deriving DecidableEq, Inhabited

-- The functions that every template knows.
inductive Builtin where
  | range
  | dict
  | namespace
  deriving DecidableEq, Inhabited

-- The values of a running template. What can be changed lives in the store under an address. A
-- definition keeps the blocks around it, so it sees what their names stand for when it is called;
-- `ended` is what a name stands for once the block that bound it is over. The bounds of a slice are a
-- value only as part of a key.
inductive Value where
  | scalar (s : Scalar)
  | tuple (items : List Value)
  | set (frozen : Bool) (items : List Value)
  | view (entries : List (Value × Value))
  | ref (address : Nat)
  | part (part : Part) (address : Nat)
  | absent (a : Absence)
  | builtin (b : Builtin)
  | method (receiver : Value) (name : Text)
  | defined (name : Text) (parameters : List Parameter) (body : List Node) (scope : Scope)
  | bounds (start stop step : Value)
  | ended
  | self
  deriving Inhabited

namespace Value

def null : Value := .scalar .null
def bool (b : Bool) : Value := .scalar (.bool b)
def int (i : Int) : Value := .scalar (.int i)
def str (s : Text) : Value := .scalar (.str s)

-- A value that every use of refuses with a message.
def missing (message : Text) : Value :=
  .absent ⟨true, true, message⟩

end Value

-- The values that a call passes.
structure Passed where
  args : List Value
  named : List (Text × Value)
  deriving Inhabited

-- What a definition is made of.
structure Definition where
  parameters : List Parameter
  body : List Node
  scope : Scope
  deriving Inhabited

-- A place in something whose items are handed out one after the other. Lists and mappings are read
-- where they live, so changes to them are seen; `left` counts what is still to come: the terms of a
-- progression, or the entries that a mapping had when the walk began.
inductive Walk where
  | over
  | rest (items : List Value)
  | terms (next step : Int) (left : Nat)
  | list (address index : Nat)
  | listBack (address index : Nat)
  | entries (part : Part) (address slot size left : Nat)
  | entriesBack (part : Part) (address slot size : Nat)
  deriving Inhabited

-- What is done with each item of a source when it is asked for. The first two are not prepared yet:
-- they hold what was passed to them.
inductive Work where
  | mapped (p : Passed)
  | unique (caseSensitive path : Option Value)
  | follow (steps : List Value) (fallback : Option Value)
  | filter (name : Value) (p : Passed)
  | distinct (exact : Bool) (steps : List Value) (seen : List Datum)
  | passing (scope : Scope) (target : Target) (test : Expr)
  deriving Inhabited

-- What items are taken from: a value that was not asked yet, a walk under an address, or nothing more.
inductive Source where
  | fresh (v : Value)
  | walking (address : Nat)
  | spent
  deriving Inhabited

-- What is known of a loop from within. An item that was looked at before its turn is kept in `after`.
structure Loop where
  items : Value
  walk : Nat
  index : Nat
  length : Option Nat
  after : Option Value
  current : Option Value
  before : Option Value
  changed : Option (List Value)
  deriving Inhabited

-- What lives under an address: lists and mappings that can be changed, namespaces, the names of a
-- call, and what hands out items. A walk knows the name of its kind. A name may be without a value.
inductive Cell where
  | list (items : Array Value)
  | dict (table : Table Value)
  | namespace (table : Table Value)
  | names (values : List (Nat × Text × Option Value))
  | walk (kind : Text) (w : Walk)
  | generator (work : Work) (source : Source)
  | loop (l : Loop)
  deriving Inhabited

-- Everything that can be changed, and how many marks were given out.
structure Store where
  cells : Array Cell
  marks : Nat
  deriving Inhabited

namespace Store

def empty : Store := ⟨#[], 0⟩

def find? (s : Store) (address : Nat) : Option Cell :=
  s.cells[address]?

def new (s : Store) (c : Cell) : Nat × Store :=
  (s.cells.size, { s with cells := s.cells.push c })

def update (s : Store) (address : Nat) (c : Cell) : Store :=
  { s with cells := s.cells.setIfInBounds address c }

-- A scalar as a value; what is no number is given a mark of its own.
def marked (s : Store) (v : Scalar) : Value × Store :=
  let another : Value × Store := (.scalar (.nan s.marks), { s with marks := s.marks + 1 })
  match v with
  | .float x => if x.isNaN then another else (.scalar (.float x), s)
  | .nan _ => another
  | v => (.scalar v, s)

end Store

-- How the kinds of what lives under an address are named.
def kindOf : Cell → Text
  | .list _ => "list".toList
  | .dict _ => "dict".toList
  | .namespace _ => "Namespace".toList
  | .names _ => "cell".toList
  | .walk kind _ => kind
  | .generator _ _ => "generator".toList
  | .loop _ => "LoopContext".toList

def partKind : Part → Text
  | .keys => "dict_keys".toList
  | .values => "dict_values".toList
  | .items => "dict_items".toList

def listedPart {α : Type} (pair : α → α → α) (entries : List (α × α)) : Part → List α
  | .keys => entries.map (·.1)
  | .values => entries.map (·.2)
  | .items => entries.map fun (k, v) => pair k v

def shownPart (p : Part) (entries : List (Datum × Datum)) : Text :=
  let items := listedPart (fun k v => .tuple [k, v]) entries p
  partKind p ++ '(' :: Datum.inBrackets (items.map Datum.quoted) ++ [')']

mutual

-- The tree that a value stands for; `deref` gives the trees under addresses.
def Value.reifyWith (deref : Nat → Datum) : Value → Datum
  | .scalar s => .scalar s
  | .tuple items => .tuple (reifyItems deref items)
  | .set frozen items => .set frozen (reifyItems deref items)
  | .view entries => .view (reifyEntries deref entries)
  | .ref address => deref address
  | .part p address =>
    match deref address with
    | .dict entries => .other (partKind p) address (shownPart p entries)
    | d => d
  | .absent a =>
    .other (if a.strict then "StrictUndefined".toList else "Undefined".toList) 0
      "Undefined".toList
  | .builtin .range => .other "function".toList 0 "<function range>".toList
  | .builtin .dict => .other "type".toList 1 "<class 'dict'>".toList
  | .builtin .namespace => .other "type".toList 2 "<class 'jinja2.utils.Namespace'>".toList
  | .method _ name =>
    .other "builtin_function_or_method".toList 0 ("<built-in method ".toList ++ name ++ ['>'])
  | .defined name _ _ _ =>
    .other "Macro".toList 0 ("<Macro ".toList ++ Quoted.text name ++ ['>'])
  | .bounds start stop step =>
    let parts := [start.reifyWith deref, stop.reifyWith deref, step.reifyWith deref]
    .other "slice".toList 0
      ("slice(".toList ++ Text.join ", ".toList (parts.map Datum.quoted) ++ [')'])
  | .ended => .other "MissingType".toList 0 "missing".toList
  | .self => .other "TemplateReference".toList 0 "<TemplateReference None>".toList

def reifyItems (deref : Nat → Datum) : List Value → List Datum
  | [] => []
  | v :: rest => v.reifyWith deref :: reifyItems deref rest

def reifyEntries (deref : Nat → Datum) : List (Value × Value) → List (Datum × Datum)
  | [] => []
  | (k, v) :: rest => (k.reifyWith deref, v.reifyWith deref) :: reifyEntries deref rest

end

-- How a loop is shown: the number of the present round, and of how many.
def Loop.shown (l : Loop) : Text :=
  "<LoopContext ".toList ++ natText l.index ++ '/' :: natText (l.length.getD 0) ++ ['>']

-- The tree under an address. An address that is met again inside of itself is shown by dots.
def Store.deref (s : Store) : (budget : Nat) → (path : List Nat) → (address : Nat) → Datum
  | 0, _, address => .other [] address "...".toList
  | budget + 1, path, address =>
    match s.find? address with
    | none => .other [] address []
    | some cell =>
      let inner := s.deref budget (address :: path)
      match cell with
      | .list items =>
        if path.contains address then .other (kindOf cell) address "[...]".toList
        else .list (reifyItems inner items.toList)
      | .dict table =>
        if path.contains address then .other (kindOf cell) address "\x7b...\x7d".toList
        else .dict (reifyEntries inner table.pairs)
      | .namespace table =>
        if path.contains address then
          .other (kindOf cell) address "<Namespace \x7b...\x7d>".toList
        else
          .other (kindOf cell) address ("<Namespace ".toList ++
            (Datum.dict (reifyEntries inner table.pairs)).quoted ++ ['>'])
      | .loop l => .other (kindOf cell) address l.shown
      | cell => .other (kindOf cell) address ('<' :: kindOf cell ++ " object>".toList)

-- The tree that a value stands for at a moment.
def Store.reify (s : Store) (v : Value) : Datum :=
  v.reifyWith (s.deref (s.cells.size + 1) [])

-- What a key is compared by. Keys have no part that can be changed.
def Value.shape (key : Value) : Datum :=
  key.reifyWith fun address => .other [] address []

namespace Store

mutual

-- Puts a tree of data into the store.
def load (s : Store) : Datum → Value × Store
  | .scalar v => s.marked v
  | .list items =>
    let (values, s) := loadItems s items
    let (address, s) := s.new (.list values.toArray)
    (.ref address, s)
  | .tuple items => let (values, s) := loadItems s items; (.tuple values, s)
  | .set frozen items => let (values, s) := loadItems s items; (.set frozen values, s)
  | .dict entries =>
    let (loaded, s) := loadEntries s entries
    let (address, s) := s.new (.dict (.ofDistinct loaded))
    (.ref address, s)
  | .view entries =>
    let (loaded, s) := loadEntries s entries
    (.view (loaded.map fun e => (e.key, e.value)), s)
  | .other _ _ shown => (Value.missing shown, s)

def loadItems (s : Store) : List Datum → List Value × Store
  | [] => ([], s)
  | d :: rest =>
    let (v, s) := load s d
    let (values, s) := loadItems s rest
    (v :: values, s)

def loadEntries (s : Store) : List (Datum × Datum) → List (Entry Value) × Store
  | [] => ([], s)
  | (k, d) :: rest =>
    let (key, s) := load s k
    let (value, s) := load s d
    let (others, s) := loadEntries s rest
    (⟨key, key.shape, value⟩ :: others, s)

end

end Store

end BraceTemplate.Host

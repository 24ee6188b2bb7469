import BraceTemplate.Host.Value

namespace BraceTemplate.Host

-- A step of a run: it may change the store, and it may fail. What it changed before it failed stays
-- changed.
abbrev Step := ExceptT Error (StateM Store)

-- What a run can draw on: the data, the way to call a definition, and the way to do the work that
-- items are asked for with. Preparing work gives nothing when no item will ever come; doing it gives an
-- item or passes it over.
structure Setting where
  data : List (Text × Value)
  invoke : Definition → Passed → Step Value
  prepare : Work → Value → Step (Option Work)
  perform : Work → Value → Step (Option Value × Work)

abbrev Run := ReaderT Setting Step

-- A setting in which nothing can be called, and no work is done.
def Setting.still (data : List (Text × Value)) : Setting :=
  ⟨data, fun _ _ => throw .tooDeep, fun _ _ => throw .tooDeep, fun _ _ => throw .tooDeep⟩

namespace Run

def fail {α : Type} (e : Error) : Run α :=
  throw e

-- What every use of an absent value leads to.
def refuse {α : Type} (a : Absence) : Run α :=
  fail (if a.safe then .undefined a.message else .forbidden a.message)

-- The outcome of a run that stands alone, and the store after it.
def alone {α : Type} (r : Run α) (s : Store) : Except Error α × Store :=
  (r.run (.still [])).run.run s

def reify (v : Value) : Run Datum :=
  return (← get).reify v

def allocate (c : Cell) : Run Value := do
  let (address, s) := (← get).new c
  set s
  pure (.ref address)

def newList (items : List Value) : Run Value :=
  allocate (.list items.toArray)

def newWalk (kind : String) (w : Walk) : Run Nat := do
  let (address, s) := (← get).new (.walk kind.toList w)
  set s
  pure address

def newGenerator (work : Work) (v : Value) : Run Value :=
  allocate (.generator work (.fresh v))

def cell? (address : Nat) : Run (Option Cell) :=
  return (← get).find? address

def update (address : Nat) (c : Cell) : Run Unit :=
  modify fun s => s.update address c

-- A floating-point number as a value.
def float (x : Float) : Run Value := do
  let (v, s) := (← get).marked (.float x)
  set s
  pure v

-- Fails where a number in a tree is too long to be written.
def writable (d : Datum) : Run Unit :=
  if d.writable then pure () else fail .wrongValue

-- The text that a value is shown as inside of another one.
def shown (v : Value) : Run Text := do
  let d ← reify v
  writable d
  pure d.quoted

def tableAt (address : Nat) : Run (Table Value) := do
  match ← cell? address with
  | some (.dict table) => pure table
  | _ => pure .empty

-- The value as a key of a mapping: what can be changed is no key.
def asKey (v : Value) : Run Datum := do
  match v with
  | .absent a => if a.strict then refuse a else reify v
  | .bounds .. => fail .wrongType
  | .ref address =>
    match ← cell? address with
    | some (.list _) => fail .wrongType
    | some (.dict _) => fail .wrongType
    | _ => reify v
  | v =>
    let d ← reify v
    if d.hashable then pure d else fail .wrongType

-- Sets an entry of a mapping.
def withEntry (t : Table Value) (key value : Value) : Run (Table Value) := do
  let shape ← asKey key
  pure (t.set ⟨key, shape, value⟩)

def withEntries (t : Table Value) : List (Value × Value) → Run (Table Value)
  | [] => pure t
  | (k, v) :: rest => do withEntries (← withEntry t k v) rest

def newDict (entries : List (Value × Value)) : Run Value := do
  allocate (.dict (← withEntries .empty entries))

-- The entries of a mapping; `none` for everything else.
def mapping? (v : Value) : Run (Option (List (Value × Value))) := do
  match v with
  | .view entries => pure (some entries)
  | .ref address =>
    match ← cell? address with
    | some (.dict table) => pure (some table.pairs)
    | _ => pure none
  | _ => pure none

-- The value under a key of a read-only mapping.
def inView? (entries : List (Value × Value)) (shape : Datum) : Run (Option Value) := do
  let s ← get
  pure ((entries.find? fun entry => (s.reify entry.1).same shape).map (·.2))

end Run

end BraceTemplate.Host

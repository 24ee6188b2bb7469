import BraceTemplate.Host.Method
import BraceTemplate.Text.Compatible

namespace BraceTemplate.Host

namespace Run

def builtin? (name : Text) : Option Value :=
  if name = "range".toList then some (.builtin .range)
  else if name = "dict".toList then some (.builtin .dict)
  else if name = "namespace".toList then some (.builtin .namespace)
  else none

-- The value of a name outside of all blocks: data first, then what every template knows.
def context? (name : Text) : Run (Option Value) := do
  match (← read).data.find? (·.1 == name) with
  | some (_, v) => pure (some v)
  | none => pure (builtin? name)

def undefinedName (name : Text) : Value :=
  .missing (Quoted.text name ++ " is undefined".toList)

-- A home for the names of a call.
def newHome : Run Nat := do
  let (address, s) := (← get).new (.names [])
  set s
  pure address

def putName (level : Nat) (name : Text) (v : Option Value) :
    List (Nat × Text × Option Value) → List (Nat × Text × Option Value)
  | [] => [(level, name, v)]
  | (l, n, old) :: rest =>
    if l = level ∧ n = name then (l, n, v) :: rest else (l, n, old) :: putName level name v rest

-- Gives a name of a block a value, or takes it away. Names that are variants of each other are one.
def setName (frame : Frame) (name : Text) (v : Option Value) : Run Unit := do
  let v := match v with
    | some .ended => none
    | v => v
  match ← cell? frame.home with
  | some (.names values) =>
    update frame.home (.names (putName frame.level (compatible name) v values))
  | _ => pure ()

def valueOf? (frame : Frame) (name : Text) : Run (Option Value) := do
  let key := compatible name
  match ← cell? frame.home with
  | some (.names values) =>
    pure ((values.find? fun x => x.1 == frame.level && x.2.1 == key).bind (·.2.2))
  | _ => pure none

-- What a name stands for. One that was bound by a block keeps standing for something when the block is
-- over.
def readName (scope : Scope) (name : Text) : Run Value := do
  match scope.find? name with
  | none => return (← context? name).getD (undefinedName name)
  | some (frame, origin) =>
    match ← valueOf? frame name with
    | some v => pure v
    | none =>
      match origin with
      | .passed => pure .ended
      | .bound => pure .ended
      | _ => pure (undefinedName name)

-- The value of a name in the blocks around, if it has one there.
def inherited? (outer : Scope) (name : Text) : Run (Option Value) := do
  match outer.find? name with
  | some (frame, _) => valueOf? frame name
  | none => pure none

-- Gives the names of a block the values that they start with.
def enter (scope : Scope) : Run Unit := do
  match scope with
  | [] => pure ()
  | frame :: outer =>
    frame.slots.forM fun (name, origin) => do
      match origin with
      | .looked => setName frame name (← context? name)
      | .inherited => setName frame name (← inherited? outer name)
      | _ => pure ()
    frame.slots.forM fun (name, origin) =>
      if origin = .unset then setName frame name none else pure ()

-- Takes the values of the names of a block away.
def leave (frame : Frame) : Run Unit :=
  frame.slots.forM fun (name, _) => setName frame name none

-- Up to `count` items of a value, as many as a target takes; others may not be left.
def unpacked (v : Value) (count : Nat) : Run (List Value) := do
  let values ← take (← walkOf v) (count + 1) []
  if values.length = count then pure values else fail .wrongValue

-- Sets an attribute of a namespace.
def setAttribute (space : Value) (name : Text) (v : Value) : Run Unit := do
  match space with
  | .ref address =>
    match ← cell? address with
    | some (.namespace t) => update address (.namespace (← withEntry t (.str name) v))
    | _ => pure ()
  | _ => pure ()

mutual

-- Assigns a value to a target, its parts from the left.
def assign (scope : Scope) (v : Value) : Target → Run Unit
  | .name n =>
    match scope with
    | frame :: _ => setName frame n (some v)
    | [] => pure ()
  | .member n attr => do setAttribute (← readName scope n) attr v
  | .tuple targets => do assignAll scope (← unpacked v targets.length) targets

def assignAll (scope : Scope) : List Value → List Target → Run Unit
  | v :: values, t :: targets => do
    assign scope v t
    assignAll scope values targets
  | _, _ => pure ()

end

mutual

-- The value that a target has been assigned, put together again.
def assigned (scope : Scope) : Target → Run Value
  | .name n => readName scope n
  | .member n attr => do getAttribute (← readName scope n) attr
  | .tuple targets => do return .tuple (← assignedAll scope targets)

def assignedAll (scope : Scope) : List Target → Run (List Value)
  | [] => pure []
  | t :: rest => do
    let v ← assigned scope t
    let values ← assignedAll scope rest
    pure (v :: values)

end

-- Attributes can only be assigned to on namespaces.
def checkSpaces (scope : Scope) : List Text → Run Unit
  | [] => pure ()
  | name :: rest => do
    let isSpace ← match ← readName scope name with
      | .ref address => do
        match ← cell? address with
        | some (.namespace _) => pure true
        | _ => pure false
      | _ => pure false
    if isSpace then checkSpaces scope rest
    else fail (.refused "cannot assign attribute on non-namespace object".toList)

end Run

end BraceTemplate.Host

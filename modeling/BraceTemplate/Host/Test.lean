import BraceTemplate.Host.Arguments

namespace BraceTemplate.Host.Run

def isNumber (v : Value) : Bool :=
  match v with
  | .scalar (.planar _) => true
  | .scalar s => s.number?.isSome
  | _ => false

def isText (v : Value) : Bool :=
  match v with
  | .scalar (.str _) => true
  | .scalar (.safe _) => true
  | _ => false

def isAbsent (v : Value) : Bool :=
  match v with
  | .absent _ => true
  | _ => false

-- Whether the items of a value can be handed out.
def isIterable (v : Value) : Run Bool := do
  match v with
  | .absent a => if a.strict then refuse a else pure true
  | .ref address =>
    match ← cell? address with
    | some (.namespace _) => pure false
    | _ => pure true
  | .part .. => pure true
  | .self => pure true
  | v => pure (hasFixedItems v)

-- Whether a value knows its length and gives items for keys or positions.
def isSequence (v : Value) : Run Bool := do
  match v with
  | .absent a => pure !a.strict
  | .set .. => pure false
  | .ref address =>
    match ← cell? address with
    | some (.list _) => pure true
    | some (.dict _) => pure true
    | _ => pure false
  | v => pure (hasFixedItems v)

-- Whether the remainder of a division is the given one.
def leaves (v divisor : Value) (rest : Int) : Run Bool := do
  same (← binary .mod v divisor) (.int rest)

def compared (r : Relation) (v : Value) (p : Passed) : Run Bool := do
  match ← p.plain 1 1 with
  | [x] => relation r v x
  | _ => fail .wrongType

def tests : List (String × (Value → Passed → Run Bool)) := [
  ("defined", fun v p => bare p (pure !isAbsent v)),
  ("undefined", fun v p => bare p (pure (isAbsent v))),
  ("none", fun v p => bare p (pure (match v with | .scalar .null => true | _ => false))),
  ("number", fun v p => bare p (pure (isNumber v))),
  ("odd", fun v p => bare p (leaves v (.int 2) 1)),
  ("even", fun v p => bare p (leaves v (.int 2) 0)),
  ("string", fun v p => bare p (pure (isText v))),
  ("mapping", fun v p => bare p do return (← mapping? v).isSome),
  ("iterable", fun v p => bare p (isIterable v)),
  ("divisibleby", fun v p => do
    match ← p.bind ["num"] with
    | [some n] => leaves v n 0
    | _ => fail .wrongType),
  ("boolean", fun v p =>
    bare p (pure (match v with | .scalar (.bool _) => true | _ => false))),
  ("true", fun v p =>
    bare p (pure (match v with | .scalar (.bool b) => b | _ => false))),
  ("false", fun v p =>
    bare p (pure (match v with | .scalar (.bool b) => !b | _ => false))),
  ("integer", fun v p =>
    bare p (pure (match v with | .scalar (.int _) => true | _ => false))),
  ("float", fun v p =>
    bare p (pure (match v with
    | .scalar (.float _) => true
    | .scalar (.nan _) => true
    | _ => false))),
  ("sequence", fun v p => bare p (isSequence v)),
  ("eq", compared .eq), ("equalto", compared .eq), ("ne", compared .ne),
  ("lt", compared .lt), ("lessthan", compared .lt), ("le", compared .le),
  ("gt", compared .gt), ("greaterthan", compared .gt), ("ge", compared .ge),
  ("in", compared .isIn)]

-- The test of a name.
def test? (name : Text) : Option (Value → Passed → Run Bool) :=
  (tests.find? fun entry => entry.1.toList == name).map (·.2)

end BraceTemplate.Host.Run

import BraceTemplate.Host.Eval

namespace BraceTemplate.Host

namespace Run

-- A run that may find that there is nothing to be had.
abbrev Folding := OptionT Run

-- What fails has no outcome.
def guarded {α : Type} (r : Folding α) : Folding α :=
  OptionT.mk do return (← attempt (fun _ => true) r.run).join

-- An item of a value under a key, the bounds of a slice among them.
def itemOrPart (v key : Value) : Run Value := do
  match key with
  | .bounds start stop step =>
    match ← attempt isWrongType (slice v start stop step) with
    | some part => pure part
    | none => noElement v key
  | key => getItem v key

-- The filters whose outcome depends on more than what they are applied to.
def isOpen (name : Text) : Bool :=
  name = "map".toList

-- What is passed to a filter or test; of values under one name the last counts.
def collected (args : List Value) (named : List (Text × Value)) (rest named' : Option Value) :
    Run Passed := do
  let more ← restItems rest
  let others ← match named' with
    | some v => namedFrom v
    | none => pure []
  pure ⟨args ++ more, (named ++ others).foldl (fun all (n, v) => putNamed n v all) []⟩

def closedFilter (name : Text) : Folding (Value → Passed → Run Value) :=
  if isOpen name then failure else OptionT.mk (pure (filter? name))

mutual

-- The value of an expression that names nothing and calls nothing. Most operations that fail leave it
-- without one; where an expression is only put together from its parts the failure is its own.
def constant : Expr → Folding Value
  | .literal (.float x) => float x
  | .literal s => pure (.scalar s)
  | .name _ => failure
  | .list items => do newList (← constants items)
  | .tuple items => do return .tuple (← constants items)
  | .dict entries => do newDict (← constantEntries entries)
  | .unary op e => guarded do unary op (← constant e)
  | .binary op a b => guarded do
    let x ← constant a
    let y ← constant b
    binary op x y
  | .joined parts => do return .str (← constantTexts parts).flatten
  | .compare first rest => do
    let x ← constant first
    guarded do return .bool (← constantOperands x rest)
  | .both a b => do
    let x ← constant a
    if ← truth x then constant b else pure x
  | .either a b => do
    let x ← constant a
    if ← truth x then pure x else constant b
  | .choice test value otherwise _ => do
    if ← truth (← constant test) then constant value
    else
      match ← constantSome otherwise with
      | some v => pure v
      | none => failure
  | .member e name => guarded do getAttribute (← constant e) name
  | .item e key => guarded do
    let v ← constant e
    let k ← constant key
    itemOrPart v k
  | .slice e start stop step => guarded do
    let v ← constant e
    let a ← constantSome start
    let b ← constantSome stop
    let c ← constantSome step
    itemOrPart v (.bounds (a.getD .null) (b.getD .null) (c.getD .null))
  | .bounds start stop step => do
    let a ← constantSome start
    let b ← constantSome stop
    let c ← constantSome step
    pure (.bounds (a.getD .null) (b.getD .null) (c.getD .null))
  | .settled value _ => constant value
  | .call .. => failure
  | .filter e name args named rest named' => do
    let f ← closedFilter name
    let given ← constants args
    let names ← constantNamed named
    let p ← guarded do
      let more ← constantSome rest
      let others ← constantSome named'
      collected given names more others
    let v ← constant e
    guarded (f v p)
  | .test e name args named rest named' => do
    let f ← OptionT.mk (pure (test? name))
    let given ← constants args
    let names ← constantNamed named
    let p ← guarded do
      let more ← constantSome rest
      let others ← constantSome named'
      collected given names more others
    let v ← constant e
    guarded do return .bool (← f v p)

def constants : List Expr → Folding (List Value)
  | [] => pure []
  | e :: rest => do
    let v ← constant e
    let values ← constants rest
    pure (v :: values)

def constantEntries : List (Expr × Expr) → Folding (List (Value × Value))
  | [] => pure []
  | (k, e) :: rest => do
    let key ← constant k
    let v ← constant e
    let entries ← constantEntries rest
    pure ((key, v) :: entries)

def constantTexts : List Expr → Folding (List Text)
  | [] => pure []
  | e :: rest => do
    let s ← text (← constant e)
    let others ← constantTexts rest
    pure (s :: others)

-- A comparison that fails settles the outcome, whatever comes after it.
def constantOperands (left : Value) : List (Relation × Expr) → Folding Bool
  | [] => pure true
  | (r, e) :: rest => do
    let right ← constant e
    if ← relation r left right then constantOperands right rest else pure false

def constantNamed : List (Text × Expr) → Folding (List (Text × Value))
  | [] => pure []
  | (name, e) :: rest => do
    let v ← constant e
    let values ← constantNamed rest
    pure ((name, v) :: values)

def constantSome : Option Expr → Folding (Option Value)
  | none => pure none
  | some e => some <$> constant e

end

-- How a value is written down, if it can be.
def literalOf? : (depth : Nat) → Value → Run (Option Expr)
  | 0, _ => pure none
  | depth + 1, v => do
    let all := fun (values : List Value) => do
      return (← values.mapM (literalOf? depth)).mapM id
    match v with
    | .scalar (.nan _) => pure (some (.literal (.float (0.0 / 0.0))))
    | .scalar (.planar _) => pure none
    | .scalar (.bytes _) => pure none
    | .scalar (.date _) => pure none
    | .scalar (.moment _) => pure none
    | .scalar s => pure (some (.literal s))
    | .tuple items => return (← all items).map .tuple
    | .ref address =>
      match ← cell? address with
      | some (.list items) => return (← all items.toList).map .list
      | some (.dict t) =>
        match ← all (t.pairs.map (·.1)), ← all (t.pairs.map (·.2)) with
        | some keys, some values => pure (some (.dict (keys.zip values)))
        | _, _ => pure none
      | _ => pure none
    | _ => pure none

-- An expression that has a value that can be written down, as that value.
def folded (e : Expr) : Run Expr := do
  match ← (constant e).run with
  | none => pure e
  | some v =>
    match ← literalOf? maxDepth v with
    | none => pure e
    | some value => pure (if e.names.isEmpty then value else .settled value e.names)

mutual

-- An expression with all its parts folded, from the inside out.
def simplified : Expr → Run Expr
  | .list items => do folded (.list (← simplifiedAll items))
  | .tuple items => do folded (.tuple (← simplifiedAll items))
  | .dict entries => do folded (.dict (← simplifiedEntries entries))
  | .unary op e => do folded (.unary op (← simplified e))
  | .binary op a b => do
    let a ← simplified a
    let b ← simplified b
    folded (.binary op a b)
  | .joined parts => do folded (.joined (← simplifiedAll parts))
  | .compare first rest => do
    let first ← simplified first
    folded (.compare first (← simplifiedOperands rest))
  | .both a b => do
    let a ← simplified a
    let b ← simplified b
    folded (.both a b)
  | .either a b => do
    let a ← simplified a
    let b ← simplified b
    folded (.either a b)
  | .choice test value otherwise line => do
    let test ← simplified test
    let value ← simplified value
    folded (.choice test value (← simplifiedSome otherwise) line)
  | .member e name => do folded (.member (← simplified e) name)
  | .item e key => do
    let e ← simplified e
    let key ← simplified key
    folded (.item e key)
  | .slice e start stop step => do
    let e ← simplified e
    let start ← simplifiedSome start
    let stop ← simplifiedSome stop
    let step ← simplifiedSome step
    folded (.slice e start stop step)
  | .bounds start stop step => do
    let start ← simplifiedSome start
    let stop ← simplifiedSome stop
    let step ← simplifiedSome step
    pure (.bounds start stop step)
  | .call f args named rest named' => do
    let f ← simplified f
    let args ← simplifiedAll args
    let named ← simplifiedNamed named
    let rest ← simplifiedSome rest
    let named' ← simplifiedSome named'
    pure (.call f args named rest named')
  | .filter e name args named rest named' => do
    let e ← simplified e
    let args ← simplifiedAll args
    let named ← simplifiedNamed named
    let rest ← simplifiedSome rest
    let named' ← simplifiedSome named'
    folded (.filter e name args named rest named')
  | .test e name args named rest named' => do
    let e ← simplified e
    let args ← simplifiedAll args
    let named ← simplifiedNamed named
    let rest ← simplifiedSome rest
    let named' ← simplifiedSome named'
    folded (.test e name args named rest named')
  | e => pure e

def simplifiedAll : List Expr → Run (List Expr)
  | [] => pure []
  | e :: rest => do
    let e ← simplified e
    let rest ← simplifiedAll rest
    pure (e :: rest)

def simplifiedEntries : List (Expr × Expr) → Run (List (Expr × Expr))
  | [] => pure []
  | (k, e) :: rest => do
    let k ← simplified k
    let e ← simplified e
    let rest ← simplifiedEntries rest
    pure ((k, e) :: rest)

def simplifiedOperands : List (Relation × Expr) → Run (List (Relation × Expr))
  | [] => pure []
  | (r, e) :: rest => do
    let e ← simplified e
    let rest ← simplifiedOperands rest
    pure ((r, e) :: rest)

def simplifiedNamed : List (Text × Expr) → Run (List (Text × Expr))
  | [] => pure []
  | (name, e) :: rest => do
    let e ← simplified e
    let rest ← simplifiedNamed rest
    pure ((name, e) :: rest)

def simplifiedSome : Option Expr → Run (Option Expr)
  | none => pure none
  | some e => some <$> simplified e

end

end Run

end BraceTemplate.Host

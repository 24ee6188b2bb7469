import BraceTemplate.Host.Check
import BraceTemplate.Host.Depth
import BraceTemplate.Host.Scope
import BraceTemplate.Host.Test

namespace BraceTemplate.Host

namespace Run

-- Calls a value.
def call (f : Value) (p : Passed) : Run Value := do
  match f with
  | .absent a => refuse a
  | .builtin b => callBuiltin b p
  | .method receiver name => callMethod receiver name p
  | .defined _ parameters body scope => (← read).invoke ⟨parameters, body, scope⟩ p
  | _ => fail .wrongType

-- The names and values of a mapping that is passed as named arguments.
def namedFrom (v : Value) : Run (List (Text × Value)) := do
  match v with
  | .absent a => refuse a
  | v =>
    match ← mapping? v with
    | none => fail .wrongType
    | some entries => entries.mapM fun (k, x) => return (← asText k, x)

def putNamed (name : Text) (v : Value) : List (Text × Value) → List (Text × Value)
  | [] => [(name, v)]
  | (n, old) :: rest => if n = name then (n, v) :: rest else (n, old) :: putNamed name v rest

-- What a call passes. A name may not be passed twice; but where one of the written names is reserved,
-- the last value counts, and names are taken as they are spelled.
def gathered (args : List Value) (named others : List (Text × Value)) : Run Passed :=
  if named.any (isReserved ·.1) then
    pure ⟨args, (named ++ others).foldl (fun all n => putNamed n.1 n.2 all) []⟩
  else
    let all := named.map (fun n => (compatible n.1, n.2)) ++ others
    if repeats (all.map (·.1)) then fail .wrongType else pure ⟨args, all⟩

def passed (args rest : List Value) (named : List (Text × Value)) (named' : Option Value) :
    Run Passed := do
  let others ← match named' with
    | some v => namedFrom v
    | none => pure []
  gathered (args ++ rest) named others

def restItems (v : Option Value) : Run (List Value) :=
  match v with
  | some v => items v
  | none => pure []

def noSuch (kind : String) (name : Text) : Error :=
  .refused ("No ".toList ++ kind.toList ++ " named ".toList ++ Quoted.text name ++
    " found.".toList)

def applyFilter (name : Text) (v : Value) (p : Passed) : Run Value :=
  match filter? name with
  | some f => f v p
  | none => fail (if p.named.isEmpty then noSuch "filter" name else .wrongType)

def applyTest (name : Text) (v : Value) (p : Passed) : Run Value :=
  match test? name with
  | some f => do return .bool (← f v p)
  | none => fail (if p.named.isEmpty then noSuch "test" name else .wrongType)

def noChoice (line : Nat) : Value :=
  .absent ⟨false, true, "the inline if-expression on line ".toList ++ natText line ++
    " evaluated to false and no else section was defined.".toList⟩

-- The value of a number, a text and so on that is written down. Not every float has a numeral.
def written (s : Scalar) : Run Value :=
  match s with
  | .float x => if isFinite x then pure (.scalar s) else fail .noNumeral
  | .nan _ => fail .noNumeral
  | s => pure (.scalar s)

mutual

-- The value of an expression in a scope. Operands are evaluated from left to right, and only those
-- that are needed.
def eval (scope : Scope) : Expr → Run Value
  | .literal s => written s
  | .name n => readName scope n
  | .list items => do newList (← evalAll scope items)
  | .tuple items => do return .tuple (← evalAll scope items)
  | .dict entries => do newDict (← evalEntries scope entries)
  | .unary op e => do unary op (← eval scope e)
  | .binary op a b => do
    let x ← eval scope a
    let y ← eval scope b
    binary op x y
  | .joined parts => do return .str (← texts (← evalAll scope parts)).flatten
  | .compare first rest => do
    let x ← eval scope first
    return .bool (← evalOperands scope x rest)
  | .both a b => do
    let x ← eval scope a
    if ← truth x then eval scope b else pure x
  | .either a b => do
    let x ← eval scope a
    if ← truth x then pure x else eval scope b
  | .choice test value otherwise line => do
    if ← truth (← eval scope test) then eval scope value
    else return (← evalSome scope otherwise).getD (noChoice line)
  | .member e name => do getAttribute (← eval scope e) name
  | .item e key => do
    let x ← eval scope e
    let k ← eval scope key
    getItem x k
  | .slice e start stop step => do
    let x ← eval scope e
    let a ← evalSome scope start
    let b ← evalSome scope stop
    let c ← evalSome scope step
    slice x (a.getD .null) (b.getD .null) (c.getD .null)
  | .bounds start stop step => do
    let a ← evalSome scope start
    let b ← evalSome scope stop
    let c ← evalSome scope step
    pure (.bounds (a.getD .null) (b.getD .null) (c.getD .null))
  | .settled value _ => eval scope value
  | .call f args named rest named' => do
    let g ← eval scope f
    let given ← evalAll scope args
    let more ← restItems (← evalSome scope rest)
    let names ← evalNamed scope named
    call g (← passed given more names (← evalSome scope named'))
  | .filter e name args named rest named' => do
    let v ← eval scope e
    let given ← evalAll scope args
    let more ← restItems (← evalSome scope rest)
    let names ← evalNamed scope named
    applyFilter name v (← passed given more names (← evalSome scope named'))
  | .test e name args named rest named' => do
    let v ← eval scope e
    let given ← evalAll scope args
    let more ← restItems (← evalSome scope rest)
    let names ← evalNamed scope named
    applyTest name v (← passed given more names (← evalSome scope named'))

def evalAll (scope : Scope) : List Expr → Run (List Value)
  | [] => pure []
  | e :: rest => do
    let v ← eval scope e
    let values ← evalAll scope rest
    pure (v :: values)

def evalEntries (scope : Scope) : List (Expr × Expr) → Run (List (Value × Value))
  | [] => pure []
  | (k, e) :: rest => do
    let key ← eval scope k
    let v ← eval scope e
    let entries ← evalEntries scope rest
    pure ((key, v) :: entries)

def evalNamed (scope : Scope) : List (Text × Expr) → Run (List (Text × Value))
  | [] => pure []
  | (name, e) :: rest => do
    let v ← eval scope e
    let values ← evalNamed scope rest
    pure ((name, v) :: values)

def evalOperands (scope : Scope) (left : Value) : List (Relation × Expr) → Run Bool
  | [] => pure true
  | (r, e) :: rest => do
    let right ← eval scope e
    if ← relation r left right then evalOperands scope right rest else pure false

def evalSome (scope : Scope) : Option Expr → Run (Option Value)
  | none => pure none
  | some e => do return some (← eval scope e)

end

-- The home of the call that a scope belongs to.
def homeOf (scope : Scope) : Run Nat :=
  match scope with
  | frame :: _ => pure frame.home
  | [] => newHome

def loopName : Text := "loop".toList

-- The block around the test of a loop; it has a home of its own.
def testScope (scope : Scope) (target : Target) (test : Expr) : Run Scope := do
  let slots := (Slots.declared .bound target.names).loadAll (Scope.has scope) test.names
  let inner := ⟨← newHome, scope.length, slots.entries⟩ :: scope
  enter inner
  pure inner

-- What a loop goes through: a value, or those of its items that pass a test.
def sourceOf (scope : Scope) (target : Target) (test : Option Expr) (v : Value) : Run Value :=
  match test with
  | some e => newGenerator (.passing scope target e) v
  | none => pure v

def startLoop (isLoop : Bool) (source : Value) : Run Nat :=
  if isLoop then newLoop source else walkOf source

-- One round of a loop, whose text comes before those of the rounds that are done.
def roundWith (inner : Scope) (target : Target) (body : Run Text) (done : List Text) (x : Value) :
    Run (List Text) := do
  assign inner x target
  enter inner
  let s ← body
  pure (s :: done)

-- What a block puts out that binds nothing.
def within (frame : Frame) (outer : Scope) (body : Run Text) : Run Text := do
  enter (frame :: outer)
  let s ← body
  leave frame
  pure s

mutual

-- What a part of a template puts out. The names that it sets belong to the innermost block, so they are
-- not seen outside of it.
def exec (scope : Scope) : Node → Run Text
  | .text s => pure s
  | .output e => do text (← eval scope e)
  | .perform e => do
    let _ ← eval scope e
    pure []
  | .conditional branches otherwise => do
    match ← execBranches scope branches with
    | some s => pure s
    | none => execAll scope otherwise
  | .assign target value => do
    checkSpaces scope target.spaces
    assign scope (← eval scope value) target
    pure []
  | .define name parameters body => do
    assign scope (.defined name parameters body scope) (.name name)
    pure []
  | .scope bindings body => do
    let slots := (Slots.declared .bound (bindings.flatMap (·.1.names))).visitAll (Scope.has scope)
      false body
    let frame : Frame := ⟨← homeOf scope, scope.length, slots.entries⟩
    enter (frame :: scope)
    for (target, value) in bindings do
      assign (frame :: scope) (← eval scope value) target
    let s ← execAll (frame :: scope) body
    leave frame
    pure s
  | .loop target items test body otherwise => do
    let home ← homeOf scope
    let v ← eval scope items
    let source ← sourceOf scope target test v
    let isLoop := readsFirst loopName body
    let names := if isLoop then loopName :: target.names else target.names
    let slots := (Slots.declared .bound names).visitAll (Scope.has scope) false body
    let frame : Frame := ⟨home, scope.length, slots.entries⟩
    let inner := frame :: scope
    let walk ← startLoop isLoop source
    let target := if isLoop then .tuple [target, .name loopName] else target
    let done ← foldAll (roundWith inner target (execAll inner body)) walk []
    leave frame
    if done.isEmpty then
      let slots := Slots.visitAll (Scope.has scope) false .empty otherwise
      let frame : Frame := ⟨home, scope.length, slots.entries⟩
      within frame scope (execAll (frame :: scope) otherwise)
    else pure done.reverse.flatten

def execAll (scope : Scope) : List Node → Run Text
  | [] => pure []
  | n :: rest => do
    let s ← exec scope n
    let tail ← execAll scope rest
    pure (s ++ tail)

-- The first branch whose test holds.
def execBranches (scope : Scope) : List (Expr × List Node) → Run (Option Text)
  | [] => pure none
  | (test, body) :: rest => do
    if ← truth (← eval scope test) then some <$> execAll scope body
    else execBranches scope rest

end

-- The value that a call gives to a parameter: the next one in order, or the one of its name.
def given (p : Passed) (parameters : List Parameter) : List (Text × Option Value) :=
  parameters.zipIdx.map fun (x, i) =>
    (x.name, if i < p.args.length then p.args[i]? else (p.named.find? (·.1 == x.name)).map (·.2))

def defaultOf (scope : Scope) (x : Parameter) : Run Value :=
  match x.default with
  | some e => eval scope e
  | none => pure (.missing ("parameter ".toList ++ Quoted.text x.name ++ " was not provided".toList))

-- A block in which some parameters are not there yet.
def lacking (frame : Frame) (waiting : List Text) : Frame :=
  { frame with slots := frame.slots.map fun (n, o) => (n, if waiting.contains n then .unset else o) }

-- Gives the parameters that a call leaves out their default values, from the left. Those that are yet to
-- come are not there for the ones before them.
def withDefaults (frame : Frame) (outer : Scope) : List Parameter → Run Unit
  | [] => pure ()
  | x :: rest => do
    if (← valueOf? frame x.name).isNone then
      let waiting := x.name :: rest.map (·.name)
      setName frame x.name (some (← defaultOf (lacking frame waiting :: outer) x))
    withDefaults frame outer rest

-- The names by which the body of a definition may ask for what a call passes beyond its parameters.
def callerName : Text := "caller".toList
def namedName : Text := "kwargs".toList
def restName : Text := "varargs".toList

def asksFor (d : Definition) (name : Text) : Bool :=
  readsFirst name d.body && !d.parameters.any (·.name == name)

-- The caller that a call passes by its name.
def callerOf (spare : List (Text × Value)) : Value :=
  let nobody := Value.missing "No caller defined".toList
  match spare.find? (·.1 == callerName) with
  | some (_, .scalar .null) => nobody
  | some (_, v) => v
  | none => nobody

-- What a call passes by names that no parameter takes.
def spareNamed (d : Definition) (p : Passed) : List (Text × Value) :=
  let names := d.parameters.map (·.name)
  let positional := names.take p.args.length
  p.named.filter fun n => positional.contains n.1 || !names.contains n.1

def keptNamed (d : Definition) (p : Passed) : List (Text × Value) :=
  (spareNamed d p).filter fun n => !asksFor d callerName || n.1 != callerName

-- The block that the body of a definition runs in.
def slotsOf (d : Definition) : Slots :=
  let extra := [callerName, namedName, restName].filter (asksFor d)
  let slots := (Slots.declared .passed (extra ++ d.parameters.map (·.name))).loadAll (Scope.has d.scope)
    ((defaultsOf d.parameters).flatMap Expr.names)
  slots.visitAll (Scope.has d.scope) false d.body

-- Gives the body what it asks for beyond its parameters.
def putExtra (frame : Frame) (d : Definition) (p : Passed) : Run Unit := do
  if asksFor d callerName then setName frame callerName (some (callerOf (spareNamed d p)))
  if asksFor d namedName then
    setName frame namedName (some (← newDict ((keptNamed d p).map fun (k, v) => (.str k, v))))
  if asksFor d restName then
    setName frame restName (some (.tuple (p.args.drop d.parameters.length)))

def runBody (d : Definition) (p : Passed) : Run Value := do
  let frame : Frame := ⟨← newHome, d.scope.length, (slotsOf d).entries⟩
  putExtra frame d p
  (given p d.parameters).forM fun (n, v) => setName frame n v
  enter (frame :: d.scope)
  withDefaults frame d.scope d.parameters
  return .str (← execAll (frame :: d.scope) d.body)

-- Runs the body of a definition within the blocks around it.
def invoke (d : Definition) (p : Passed) : Run Value :=
  if !(keptNamed d p).isEmpty && !asksFor d namedName then fail .wrongType
  else if d.parameters.length < p.args.length && !asksFor d restName then fail .wrongType
  else runBody d p

-- Makes work ready when the first item is asked for.
def prepare (work : Work) (v : Value) : Run (Option Work) := do
  match work with
  | .passing scope target test =>
    return some (.passing (← testScope scope target test) target test)
  | work => prepareWork work v

-- Does work on an item: the test of a loop keeps it or passes it over.
def perform (work : Work) (v : Value) : Run (Option Value × Work) := do
  match work with
  | .passing scope target test =>
    assign scope v target
    if ← truth (← eval scope test) then return (some (← assigned scope target), work)
    else pure (none, work)
  | work => performWork work v

end Run

-- Definitions may call one another this deep.
def maxCallDepth : Nat := 195

-- A setting whose definitions may call one another `depth` levels deep.
def Setting.ofDepth (data : List (Text × Value)) : (depth : Nat) → Setting
  | 0 => .still data
  | depth + 1 =>
    let inner := Setting.ofDepth data depth
    ⟨data, fun d p => (Run.invoke d p).run inner, fun w v => (Run.prepare w v).run inner,
      fun w v => (Run.perform w v).run inner⟩

end BraceTemplate.Host

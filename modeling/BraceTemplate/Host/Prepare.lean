import BraceTemplate.Host.Constant

namespace BraceTemplate.Host

def noKnown (kind : String) (name : Text) : Error :=
  .unprepared ("No ".toList ++ kind.toList ++ " named ".toList ++ Quoted.text name ++ ['.'])

namespace Run

-- Fails where a number is too long to be written down.
def legible (s : Scalar) : Run Unit :=
  if s.writable then pure () else fail .wrongValue

-- The magnitude of a negative number that is written down.
def magnitudeOf? : Expr → Option Expr
  | .literal (.int i) => if i < 0 then some (.literal (.int (-i))) else none
  | .literal (.float x) => if isNegative x then some (.literal (.float (-x))) else none
  | .settled value names => (magnitudeOf? value).map (.settled · names)
  | _ => none

mutual

-- Checks that every filter and every test is known, unless they stand on a branch that may not be
-- taken. A power binds closer than the sign of a number that is written in front of it.
def checked (soft : Bool) : Expr → Run Expr
  | .literal s => do
    legible s
    pure (.literal s)
  | .name n => pure (.name n)
  | .list items => do return .list (← checkedAll soft items)
  | .tuple items => do return .tuple (← checkedAll soft items)
  | .dict entries => do return .dict (← checkedEntries soft entries)
  | .unary op e => do return .unary op (← checked soft e)
  | .binary op a b => do
    let a ← checked soft a
    let b ← checked soft b
    match op, magnitudeOf? a with
    | .pow, some m => pure (.unary .negative (.binary .pow m b))
    | _, _ => pure (.binary op a b)
  | .joined parts => do return .joined (← checkedAll soft parts)
  | .compare first rest => do
    let first ← checked soft first
    return .compare first (← checkedOperands soft rest)
  | .both a b => do
    let a ← checked soft a
    return .both a (← checked soft b)
  | .either a b => do
    let a ← checked soft a
    return .either a (← checked soft b)
  | .choice test value otherwise line => do
    let value ← checked true value
    let test ← checked true test
    return .choice test value (← checkedSome true otherwise) line
  | .member e name => do return .member (← checked soft e) name
  | .item e key => do
    let e ← checked soft e
    return .item e (← checked soft key)
  | .slice e start stop step => do
    let e ← checked soft e
    let start ← checkedSome soft start
    let stop ← checkedSome soft stop
    return .slice e start stop (← checkedSome soft step)
  | .bounds start stop step => do
    let start ← checkedSome soft start
    let stop ← checkedSome soft stop
    return .bounds start stop (← checkedSome soft step)
  | .settled value names => do return .settled (← checked soft value) names
  | .call f args named rest named' => do
    let f ← checked soft f
    let args ← checkedAll soft args
    let named ← checkedNamed soft named
    let rest ← checkedSome soft rest
    return .call f args named rest (← checkedSome soft named')
  | .filter e name args named rest named' => do
    if (filter? name).isNone && !soft then fail (noKnown "filter" name)
    else
      let e ← checked soft e
      let args ← checkedAll soft args
      let named ← checkedNamed soft named
      let rest ← checkedSome soft rest
      return .filter e name args named rest (← checkedSome soft named')
  | .test e name args named rest named' => do
    if (test? name).isNone && !soft then fail (noKnown "test" name)
    else
      let e ← checked soft e
      let args ← checkedAll soft args
      let named ← checkedNamed soft named
      let rest ← checkedSome soft rest
      return .test e name args named rest (← checkedSome soft named')

def checkedAll (soft : Bool) : List Expr → Run (List Expr)
  | [] => pure []
  | e :: rest => do
    let e ← checked soft e
    return e :: (← checkedAll soft rest)

def checkedEntries (soft : Bool) : List (Expr × Expr) → Run (List (Expr × Expr))
  | [] => pure []
  | (k, e) :: rest => do
    let k ← checked soft k
    let e ← checked soft e
    return (k, e) :: (← checkedEntries soft rest)

def checkedOperands (soft : Bool) : List (Relation × Expr) → Run (List (Relation × Expr))
  | [] => pure []
  | (r, e) :: rest => do
    let e ← checked soft e
    return (r, e) :: (← checkedOperands soft rest)

def checkedNamed (soft : Bool) : List (Text × Expr) → Run (List (Text × Expr))
  | [] => pure []
  | (name, e) :: rest => do
    let e ← checked soft e
    return (name, e) :: (← checkedNamed soft rest)

def checkedSome (soft : Bool) : Option Expr → Run (Option Expr)
  | none => pure none
  | some e => some <$> checked soft e

end

mutual

-- An expression made ready to be evaluated. Lists and the like stay what they are, their parts are
-- made ready one after the other.
def ready (soft : Bool) : Expr → Run Expr
  | .list items => do return .list (← readyAll soft items)
  | .tuple items => do return .tuple (← readyAll soft items)
  | .dict entries => do return .dict (← readyEntries soft entries)
  | e => do
    if maxReadyDepth < e.depth then fail .tooDeep else checked soft (← simplified e)

def readyAll (soft : Bool) : List Expr → Run (List Expr)
  | [] => pure []
  | e :: rest => do
    let e ← ready soft e
    return e :: (← readyAll soft rest)

def readyEntries (soft : Bool) : List (Expr × Expr) → Run (List (Expr × Expr))
  | [] => pure []
  | (k, e) :: rest => do
    let k ← ready soft k
    let e ← ready soft e
    return (k, e) :: (← readyEntries soft rest)

end

def readySome (soft : Bool) : Option Expr → Run (Option Expr)
  | none => pure none
  | some e => some <$> ready soft e

def readyBindings (soft : Bool) : List (Target × Expr) → Run (List (Target × Expr))
  | [] => pure []
  | (t, e) :: rest => do
    let e ← ready soft e
    return (t, e) :: (← readyBindings soft rest)

def readyParameters : List Parameter → Run (List Parameter)
  | [] => pure []
  | p :: rest => do
    let default ← readySome false p.default
    return { p with default } :: (← readyParameters rest)

-- The parameter by which a definition asks for its caller has to have a default value.
def checkCaller (parameters : List Parameter) (body : List Node) : Run Unit :=
  if readsFirst callerName body &&
      parameters.any (fun p => p.name == callerName && p.default.isNone) then
    fail (.unprepared ("When defining macros or call blocks the special \"caller\" argument must ".toList
      ++ "be omitted or be given a default.".toList))
  else pure ()

-- The name by which the body of a loop asks for the loop cannot be assigned to.
def checkLoopName (loop : Node) : Run Unit :=
  if loop.uses.contains (loopName, .store) then
    fail (.unprepared "Can't assign to special loop variable in for-loop".toList)
  else pure ()

-- The text that is put out for an expression whatever the data.
def constantOutput (e : Expr) : Run Node := do
  match ← (constant e).run with
  | some v =>
    let s ← text v
    pure (if e.names.isEmpty then .text s else .output (.settled (.literal (.str s)) e.names))
  | none => pure (.output e)

-- What is put out in a row is made ready together.
def readyOutputs (soft : Bool) : List Node → Run (List Node)
  | [] => pure []
  | .output e :: rest => do
    let e ← ready soft e
    return .output e :: (← readyOutputs soft rest)
  | n :: rest => do return n :: (← readyOutputs soft rest)

mutual

-- A part of a template made ready to run. Filters and tests on the branches of a condition need not be
-- known, but those in the blocks within do.
def readyNode (soft : Bool) : Node → Run Node
  | .text s => pure (.text s)
  | .output e => do return .output (← ready soft e)
  | .perform e => do return .perform (← ready soft e)
  | .conditional branches otherwise => do
    let branches ← readyBranches branches
    return .conditional branches (← readyNodes true [] otherwise)
  | .loop target items test body otherwise => do
    let test ← readySome false test
    checkLoopName (.loop target items test body otherwise)
    let items ← ready soft items
    let body ← readyNodes false [] body
    return .loop target items test body (← readyNodes false [] otherwise)
  | .scope bindings body => do
    let bindings ← readyBindings soft bindings
    return .scope bindings (← readyNodes false [] body)
  | .assign target value => do return .assign target (← ready soft value)
  | .define name parameters body => do
    checkCaller parameters body
    let parameters ← readyParameters parameters
    return .define name parameters (← readyNodes false [] body)

-- The parts of a block, those in `row` being put out in a row before them.
def readyNodes (soft : Bool) (row : List Node) : List Node → Run (List Node)
  | [] => readyOutputs soft row.reverse
  | .text s :: rest => readyNodes soft (.text s :: row) rest
  | .output e :: rest => do readyNodes soft ((← constantOutput e) :: row) rest
  | n :: rest => do
    let outputs ← readyOutputs soft row.reverse
    let n ← readyNode soft n
    return outputs ++ n :: (← readyNodes soft [] rest)

def readyBranches : List (Expr × List Node) → Run (List (Expr × List Node))
  | [] => pure []
  | (test, body) :: rest => do
    let test ← ready true test
    let body ← readyNodes true [] body
    return (test, body) :: (← readyBranches rest)

end

end Run

-- Makes the parts of a template ready to run. Nothing is known of the data yet.
def prepare (nodes : List Node) : Except Error (List Node) :=
  (((Run.readyNodes false [] nodes).run (.ofDepth [] maxCallDepth)).run.run .empty).1

end BraceTemplate.Host

import BraceTemplate.Host.Expr
import BraceTemplate.Host.Token

namespace BraceTemplate.Host

-- What a reading goes by: the room that is left for what is nested, and the number of line ends in the
-- whole text.
structure Outlook where
  room : Nat
  lineEnds : Nat

-- Readers take what they need off the front of a list of tokens, or find it malformed.
abbrev Reader := ReaderT Outlook (StateT (List Token) (Except Error))

namespace Reader

def reject {α : Type} : Reader α :=
  throw .malformed

-- Reads what is nested where that takes up some of the room.
def within {α : Type} (cost : Nat) (r : Reader α) : Reader α := do
  if (← read).room < cost then throw .tooDeep
  else withReader (fun o => { o with room := o.room - cost }) r

-- What brackets around an expression take up, and those of a call or a subscript behind one.
def bracketCost : Nat := 13

def callCost : Nat := 14

-- What a statement within another one takes up.
def statementCost : Nat := 4

-- Fails where a fault stands next.
def expectSound (tokens : List Token) : Reader Unit :=
  match tokens with
  | ⟨.fault e, _⟩ :: _ => throw e
  | _ => pure ()

def peek : Reader (Option TokenKind) :=
  return (← get).head?.map (·.kind)

def peekSecond : Reader (Option TokenKind) := do
  let rest := (← get).tail
  expectSound rest
  pure (rest.head?.map (·.kind))

def skip : Reader Unit := do
  let rest := (← get).tail
  expectSound rest
  set rest

-- The text from the next token on.
def ahead : Reader Text :=
  return ((← get).head?.map (·.ahead)).getD []

def lineEndsIn (s : Text) : Nat :=
  s.count '\n'

-- The number of the line on which the rest of the text starts.
def lineOf (rest : Text) : Reader Nat :=
  return (← read).lineEnds - lineEndsIn rest + 1

def isMark (m : Mark) : Option TokenKind → Bool
  | some (.mark n) => m = n
  | _ => false

def isWord (w : String) : Option TokenKind → Bool
  | some (.name n) => n = w.toList
  | _ => false

def isTagEnd : Option TokenKind → Bool
  | some .closeOutput => true
  | some .closeStatement => true
  | _ => false

-- Whether the mark, the word stands next; if so it is taken.
def takeMark (m : Mark) : Reader Bool := do
  if isMark m (← peek) then skip; pure true else pure false

def takeWord (w : String) : Reader Bool := do
  if isWord w (← peek) then skip; pure true else pure false

def expectMark (m : Mark) : Reader Unit := do
  if !(← takeMark m) then reject

def expectWord (w : String) : Reader Unit := do
  if !(← takeWord w) then reject

def expectName : Reader Text := do
  match ← peek with
  | some (.name n) => skip; pure n
  | _ => reject

def expectStatementEnd : Reader Unit := do
  match ← peek with
  | some .closeStatement => skip
  | _ => reject

def expectOutputEnd : Reader Unit := do
  match ← peek with
  | some .closeOutput => skip
  | _ => reject

-- Operands joined from the left by the operators that `op?` knows.
def leftChain (op? : Option TokenKind → Option Operator) (operand : Reader Expr) :
    (fuel : Nat) → Expr → Reader Expr
  | 0, left => pure left
  | fuel + 1, left => do
    match op? (← peek) with
    | none => pure left
    | some op =>
      skip
      let right ← operand
      leftChain op? operand fuel (.binary op left right)

def additive? : Option TokenKind → Option Operator
  | some (.mark .add) => some .add
  | some (.mark .sub) => some .sub
  | _ => none

def multiplicative? : Option TokenKind → Option Operator
  | some (.mark .mul) => some .mul
  | some (.mark .div) => some .div
  | some (.mark .floordiv) => some .floordiv
  | some (.mark .mod) => some .mod
  | _ => none

def power? : Option TokenKind → Option Operator
  | some (.mark .pow) => some .pow
  | _ => none

def relation? : Option TokenKind → Option Relation
  | some (.mark .eq) => some .eq
  | some (.mark .ne) => some .ne
  | some (.mark .lt) => some .lt
  | some (.mark .le) => some .le
  | some (.mark .gt) => some .gt
  | some (.mark .ge) => some .ge
  | _ => none

-- Operands joined by a word.
def wordChain (word : String) (join : Expr → Expr → Expr) (operand : Reader Expr) :
    (fuel : Nat) → Expr → Reader Expr
  | 0, left => pure left
  | fuel + 1, left => do
    if ← takeWord word then
      let right ← operand
      wordChain word join operand fuel (join left right)
    else pure left

def joinedChain (operand : Reader Expr) : (fuel : Nat) → Reader (List Expr)
  | 0 => pure []
  | fuel + 1 => do
    if ← takeMark .tilde then
      let part ← operand
      let rest ← joinedChain operand fuel
      pure (part :: rest)
    else pure []

-- Comparisons after a first operand.
def relationChain (operand : Reader Expr) : (fuel : Nat) → Reader (List (Relation × Expr))
  | 0 => pure []
  | fuel + 1 => do
    let first ← peek
    let relation ←
      if let some r := relation? first then skip; pure (some r)
      else if isWord "in" first then skip; pure (some Relation.isIn)
      else if isWord "not" first then
        if isWord "in" (← peekSecond) then skip; skip; pure (some Relation.notIn) else pure none
      else pure none
    match relation with
    | none => pure []
    | some r =>
      let e ← operand
      let rest ← relationChain operand fuel
      pure ((r, e) :: rest)

-- String literals next to each other are one.
def textsFrom : (fuel : Nat) → Reader Text
  | 0 => pure []
  | fuel + 1 => do
    match ← peek with
    | some (.text s) =>
      skip
      let rest ← textsFrom fuel
      pure (s ++ rest)
    | _ => pure []

-- The names joined to one by dots, as filters and tests may have them.
def dottedName : (fuel : Nat) → Text → Reader Text
  | 0, n => pure n
  | fuel + 1, n => do
    if ← takeMark .dot then
      let m ← expectName
      dottedName fuel (n ++ '.' :: m)
    else pure n

-- Items with commas between them, up to a closing mark; a comma may follow the last.
def commaItems {α : Type} (close : Mark) (item : Reader α) : (fuel : Nat) → Reader (List α)
  | 0 => reject
  | fuel + 1 => do
    if ← takeMark close then pure []
    else
      let first ← item
      if ← takeMark .comma then
        let rest ← commaItems close item fuel
        pure (first :: rest)
      else
        expectMark close
        pure [first]

structure Arguments where
  args : List Expr
  named : List (Text × Expr)
  rest : Option Expr
  named' : Option Expr
  deriving Inhabited

-- The arguments of a call after its parenthesis: plain ones first, then named ones.
def argumentsFrom (expr : Reader Expr) : (fuel : Nat) → Arguments → Reader Arguments
  | 0, _ => reject
  | fuel + 1, acc => do
    if ← takeMark .rightParen then pure acc
    else
      let first ← peek
      let second ← match first with
        | some (.name _) => peekSecond
        | _ => pure none
      let acc ←
        if isMark .mul first then
          if acc.rest.isSome || acc.named'.isSome then reject
          skip
          pure { acc with rest := some (← expr) }
        else if isMark .pow first then
          if acc.named'.isSome then reject
          skip
          pure { acc with named' := some (← expr) }
        else
          match first, isMark .assign second with
          | some (.name key), true =>
            if acc.named'.isSome then reject
            skip
            skip
            pure { acc with named := acc.named ++ [(key, ← expr)] }
          | _, _ =>
            if acc.rest.isSome || acc.named'.isSome || !acc.named.isEmpty then reject
            pure { acc with args := acc.args ++ [← expr] }
      if ← takeMark .comma then argumentsFrom expr fuel acc
      else
        expectMark .rightParen
        pure acc

-- Where the items of a tuple without parentheses end.
def atTupleEnd (stop : List String) : Reader Bool := do
  let t ← peek
  pure (isTagEnd t || isMark .rightParen t || stop.any (isWord · t))

-- Items of a tuple: an item, and more after commas. The flag tells whether a comma was read.
def tupleItems {α : Type} (stop : List String) (item : Reader α) :
    (fuel : Nat) → Reader (List α × Bool)
  | 0 => reject
  | fuel + 1 => do
    if ← atTupleEnd stop then pure ([], false)
    else
      let first ← item
      if ← takeMark .comma then
        let (rest, _) ← tupleItems stop item fuel
        pure (first :: rest, true)
      else pure ([first], false)

-- One item stands for itself; several, or one with a comma, are a tuple. Nothing at all is a tuple
-- only between parentheses.
def asTuple (parenthesised : Bool) : List Expr × Bool → Reader Expr
  | ([e], false) => pure e
  | ([], _) => if parenthesised then pure (.tuple []) else reject
  | (items, _) => pure (.tuple items)

def constant? (n : Text) : Option Scalar :=
  if n = "true".toList ∨ n = "True".toList then some (.bool true)
  else if n = "false".toList ∨ n = "False".toList then some (.bool false)
  else if n = "none".toList ∨ n = "None".toList then some .null
  else none

-- Whether what follows a test without parentheses is its argument.
def startsArgument (t : Option TokenKind) : Bool :=
  match t with
  | some (.name n) => n != "else".toList && n != "or".toList && n != "and".toList
  | some (.text _) => true
  | some (.int _) => true
  | some (.float _) => true
  | t => isMark .leftParen t || isMark .leftBracket t || isMark .leftBrace t

-- What stands at one place between brackets: an index, or the bounds of a slice.
def subscribed (expr : Reader Expr) : Reader Expr := do
  let atEnd := fun t => isMark .rightBracket t || isMark .comma t
  let start ←
    if isMark .colon (← peek) then pure none
    else pure (some (← expr))
  match start, isMark .colon (← peek) with
  | some e, false => pure e
  | start, _ =>
    skip
    let t ← peek
    let stop ← if isMark .colon t || atEnd t then pure none else pure (some (← expr))
    if ← takeMark .colon then
      if atEnd (← peek) then pure (.bounds start stop none)
      else return .bounds start stop (some (← expr))
    else pure (.bounds start stop none)

-- The places between brackets, commas between them.
def subscripts (expr : Reader Expr) : (fuel : Nat) → Reader (List Expr)
  | 0 => reject
  | fuel + 1 => do
    let first ← subscribed expr
    if ← takeMark .rightBracket then pure [first]
    else
      expectMark .comma
      let rest ← subscripts expr fuel
      pure (first :: rest)

mutual

-- An expression with its inline conditions.
def expr : (fuel : Nat) → Reader Expr
  | 0 => reject
  | fuel + 1 => do
    let start ← ahead
    let first ← disjunction fuel
    conditions fuel start first

def conditions : (fuel : Nat) → (start : Text) → Expr → Reader Expr
  | 0, _, _ => reject
  | fuel + 1, start, value => do
    if ← takeWord "if" then
      let test ← disjunction fuel
      let otherwise ← if ← takeWord "else" then pure (some (← within 1 (expr fuel))) else pure none
      let next ← ahead
      conditions fuel next (.choice test value otherwise (← lineOf start))
    else pure value

def disjunction : (fuel : Nat) → Reader Expr
  | 0 => reject
  | fuel + 1 => do
    let first ← conjunction fuel
    wordChain "or" .either (conjunction fuel) fuel first

def conjunction : (fuel : Nat) → Reader Expr
  | 0 => reject
  | fuel + 1 => do
    let first ← denial fuel
    wordChain "and" .both (denial fuel) fuel first

def denial : (fuel : Nat) → Reader Expr
  | 0 => reject
  | fuel + 1 => do
    if ← takeWord "not" then
      let e ← within 1 (denial fuel)
      pure (.unary .denied e)
    else comparison fuel

def comparison : (fuel : Nat) → Reader Expr
  | 0 => reject
  | fuel + 1 => do
    let first ← sum fuel
    match ← relationChain (sum fuel) fuel with
    | [] => pure first
    | rest => pure (.compare first rest)

def sum : (fuel : Nat) → Reader Expr
  | 0 => reject
  | fuel + 1 => do
    let first ← concatenation fuel
    leftChain additive? (concatenation fuel) fuel first

def concatenation : (fuel : Nat) → Reader Expr
  | 0 => reject
  | fuel + 1 => do
    let first ← product fuel
    match ← joinedChain (product fuel) fuel with
    | [] => pure first
    | rest => pure (.joined (first :: rest))

def product : (fuel : Nat) → Reader Expr
  | 0 => reject
  | fuel + 1 => do
    let first ← power fuel
    leftChain multiplicative? (power fuel) fuel first

def power : (fuel : Nat) → Reader Expr
  | 0 => reject
  | fuel + 1 => do
    let first ← signed fuel true
    leftChain power? (signed fuel true) fuel first

-- A sign binds closer than the filters behind it.
def signed : (fuel : Nat) → (filters : Bool) → Reader Expr
  | 0, _ => reject
  | fuel + 1, filters => do
    let e ←
      if ← takeMark .sub then pure (Expr.unary .negative (← within 1 (signed fuel false)))
      else if ← takeMark .add then pure (Expr.unary .positive (← within 1 (signed fuel false)))
      else primary fuel
    let e ← postfixed fuel e
    if filters then filtered fuel e else pure e

def primary : (fuel : Nat) → Reader Expr
  | 0 => reject
  | fuel + 1 => do
    match ← peek with
    | some (.name n) =>
      skip
      match constant? n with
      | some s => pure (.literal s)
      | none => pure (.name n)
    | some (.text _) => pure (.literal (.str (← textsFrom fuel)))
    | some (.int n) => skip; pure (.literal (.int n))
    | some (.float x) => skip; pure (.literal (.float x))
    | some (.mark .leftParen) =>
      skip
      let items ← within bracketCost (tupleItems [] (expr fuel) fuel)
      let e ← asTuple true items
      expectMark .rightParen
      pure e
    | some (.mark .leftBracket) =>
      skip
      pure (.list (← within bracketCost (commaItems .rightBracket (expr fuel) fuel)))
    | some (.mark .leftBrace) =>
      skip
      pure (.dict (← within bracketCost (commaItems .rightBrace (entry fuel) fuel)))
    | _ => reject

def entry : (fuel : Nat) → Reader (Expr × Expr)
  | 0 => reject
  | fuel + 1 => do
    let key ← expr fuel
    expectMark .colon
    let value ← expr fuel
    pure (key, value)

-- Attributes, subscripts and calls behind an expression.
def postfixed : (fuel : Nat) → Expr → Reader Expr
  | 0, _ => reject
  | fuel + 1, e => do
    match ← peek with
    | some (.mark .dot) =>
      skip
      match ← peek with
      | some (.name n) => skip; postfixed fuel (.member e n)
      | some (.int n) => skip; postfixed fuel (.item e (.literal (.int n)))
      | _ => reject
    | some (.mark .leftBracket) =>
      skip
      let e ← subscript fuel e
      postfixed fuel e
    | some (.mark .leftParen) =>
      skip
      let a ← within callCost (argumentsFrom (expr fuel) fuel default)
      postfixed fuel (.call e a.args a.named a.rest a.named')
    | _ => pure e

-- What stands between brackets after an expression: a slice, an index, or several of them.
def subscript : (fuel : Nat) → Expr → Reader Expr
  | 0, _ => reject
  | fuel + 1, e => do
    if ← takeMark .rightBracket then pure (.item e (.tuple []))
    else
      match ← within callCost (subscripts (expr fuel) fuel) with
      | [.bounds start stop step] => pure (.slice e start stop step)
      | [key] => pure (.item e key)
      | keys => pure (.item e (.tuple keys))

-- Filters, tests and calls behind an expression.
def filtered : (fuel : Nat) → Expr → Reader Expr
  | 0, _ => reject
  | fuel + 1, e => do
    match ← peek with
    | some (.mark .pipe) =>
      skip
      let name ← dottedName fuel (← expectName)
      let a ← if ← takeMark .leftParen then within callCost (argumentsFrom (expr fuel) fuel default)
        else pure default
      filtered fuel (.filter e name a.args a.named a.rest a.named')
    | some (.mark .leftParen) =>
      skip
      let a ← within callCost (argumentsFrom (expr fuel) fuel default)
      filtered fuel (.call e a.args a.named a.rest a.named')
    | some (.name n) =>
      if n = "is".toList then
        skip
        let e ← tested fuel e
        filtered fuel e
      else pure e
    | _ => pure e

def tested : (fuel : Nat) → Expr → Reader Expr
  | 0, _ => reject
  | fuel + 1, e => do
    let denied ← takeWord "not"
    let name ← dottedName fuel (← expectName)
    let next ← peek
    let a ←
      if ← takeMark .leftParen then within callCost (argumentsFrom (expr fuel) fuel default)
      else if startsArgument next then
        if isWord "is" next then reject
        let first ← primary fuel
        let arg ← postfixed fuel first
        pure { (default : Arguments) with args := [arg] }
      else pure default
    let result := Expr.test e name a.args a.named a.rest a.named'
    pure (if denied then .unary .denied result else result)

end

-- An expression, or several with commas between them.
def tuple (fuel : Nat) : Reader Expr := do
  let items ← tupleItems [] (expr fuel) fuel
  asTuple false items

-- The same without inline conditions.
def plainTuple (stop : List String) (fuel : Nat) : Reader Expr := do
  let items ← tupleItems stop (disjunction fuel) fuel
  asTuple false items

-- What an expression is assigned to, when it can be.
def targetOf? : Expr → Option Target
  | .name n => some (.name n)
  | .tuple items => (targetsOf? items).map .tuple
  | _ => none
where
  targetsOf? : List Expr → Option (List Target)
    | [] => some []
    | e :: rest => do
      let first ← targetOf? e
      let others ← targetsOf? rest
      some (first :: others)

-- One target: a name, an attribute where `attributes` allows it, or targets between parentheses.
def targetItem (attributes : Bool) (fuel : Nat) : Reader Target := do
  let e ← primary fuel
  match e, attributes with
  | .name n, true =>
    if ← takeMark .dot then
      let attr ← expectName
      pure (.member n attr)
    else pure (.name n)
  | e, _ =>
    match targetOf? e with
    | some t => pure t
    | none => reject

-- Targets with commas between them.
def target (attributes : Bool) (stop : List String) (fuel : Nat) : Reader Target := do
  match ← tupleItems stop (targetItem attributes fuel) fuel with
  | ([t], false) => pure t
  | ([], _) => reject
  | (items, _) => pure (.tuple items)

-- The parameters of a definition, the opening parenthesis being read already. After the first
-- default value all have one.
def parametersFrom (fuel : Nat) : (count : Nat) → (first defaults : Bool) → Reader (List Parameter)
  | 0, _, _ => reject
  | count + 1, first, defaults => do
    if ← takeMark .rightParen then pure []
    else
      if !first then expectMark .comma
      let name ← expectName
      if (constant? name).isSome then reject
      if ← takeMark .assign then
        let value ← expr fuel
        let rest ← parametersFrom fuel count false true
        pure (⟨name, some value⟩ :: rest)
      else if defaults then reject
      else
        let rest ← parametersFrom fuel count false false
        pure (⟨name, none⟩ :: rest)

-- The bindings of a scope, up to the end of the statement.
def bindingsFrom (fuel : Nat) : (count : Nat) → (first : Bool) → Reader (List (Target × Expr))
  | 0, _ => reject
  | count + 1, first => do
    match ← peek with
    | some .closeStatement => pure []
    | _ =>
      if !first then expectMark .comma
      let t ← target false [] fuel
      expectMark .assign
      let value ← expr fuel
      let rest ← bindingsFrom fuel count false
      pure ((t, value) :: rest)

mutual

-- The nodes up to a statement that starts with one of the words in `stop`, which is left in place
-- behind its delimiter. Without such words, up to the end of the template.
def nodes : (fuel : Nat) → (stop : List String) → Reader (List Node)
  | 0, _ => reject
  | fuel + 1, stop => do
    match ← peek with
    | none => if stop.isEmpty then pure [] else reject
    | some (.data s) =>
      skip
      let rest ← nodes fuel stop
      pure (.text s :: rest)
    | some .openOutput =>
      skip
      let e ← tuple fuel
      expectOutputEnd
      let rest ← nodes fuel stop
      pure (.output e :: rest)
    | some .openStatement =>
      skip
      let t ← peek
      if stop.any (isWord · t) then pure []
      else
        let first ← statement fuel
        expectStatementEnd
        let rest ← nodes fuel stop
        pure (first ++ rest)
    | _ => reject

-- The body of a statement: the end of its tag and the nodes up to one of the words.
def body : (fuel : Nat) → (stop : List String) → Reader (List Node)
  | 0, _ => reject
  | fuel + 1, stop => do
    let _ ← takeMark .colon
    expectStatementEnd
    within statementCost (nodes fuel stop)

def statement : (fuel : Nat) → Reader (List Node)
  | 0 => reject
  | fuel + 1 => do
    let word ← expectName
    if word = "if".toList then
      let (branches, otherwise) ← conditional fuel
      pure [.conditional branches otherwise]
    else if word = "for".toList then
      let t ← target false ["in"] fuel
      expectWord "in"
      let items ← plainTuple ["recursive"] fuel
      let test ← if ← takeWord "if" then pure (some (← expr fuel)) else pure none
      let inner ← body fuel ["endfor", "else"]
      if ← takeWord "else" then
        let otherwise ← body fuel ["endfor"]
        skip
        pure [.loop t items test inner otherwise]
      else
        skip
        pure [.loop t items test inner []]
    else if word = "with".toList then
      let bindings ← bindingsFrom fuel fuel true
      let inner ← body fuel ["endwith"]
      skip
      pure [.scope bindings inner]
    else if word = "set".toList then
      let t ← target true [] fuel
      expectMark .assign
      let value ← tuple fuel
      pure [.assign t value]
    else if word = "do".toList then
      let e ← tuple fuel
      pure [.perform e]
    else if word = "print".toList then
      let items ← printed fuel true
      pure (items.map .output)
    else if word = "macro".toList then
      let name ← expectName
      if (constant? name).isSome then reject
      expectMark .leftParen
      let parameters ← parametersFrom fuel fuel true false
      let inner ← body fuel ["endmacro"]
      skip
      pure [.define name parameters inner]
    else reject

-- Expressions to be put out, up to the end of the statement.
def printed : (fuel : Nat) → (first : Bool) → Reader (List Expr)
  | 0, _ => reject
  | fuel + 1, first => do
    match ← peek with
    | some .closeStatement => pure []
    | _ =>
      if !first then expectMark .comma
      let e ← expr fuel
      let rest ← printed fuel false
      pure (e :: rest)

-- The branches of a condition, each with its test, and what is left for the case that none holds.
def conditional : (fuel : Nat) → Reader (List (Expr × List Node) × List Node)
  | 0 => reject
  | fuel + 1 => do
    let test ← plainTuple [] fuel
    let inner ← body fuel ["elif", "else", "endif"]
    if ← takeWord "elif" then
      let (branches, otherwise) ← conditional fuel
      pure ((test, inner) :: branches, otherwise)
    else if ← takeWord "else" then
      let otherwise ← body fuel ["endif"]
      skip
      pure ([(test, inner)], otherwise)
    else
      skip
      pure ([(test, inner)], [])

end

end Reader

-- The room that a template has.
def templateRoom : Nat := 971

-- The nodes that a text spells out. Line ends of every kind are the same.
def nodesOfText (source : Text) : Except Error (List Node) := do
  let s := normalNewlines source
  let tokens := Token.scan s
  let all : Reader (List Node) := do
    Reader.expectSound tokens
    Reader.nodes (20 * tokens.length + 20) []
  let (nodes, rest) ← (all.run ⟨templateRoom, Reader.lineEndsIn s⟩).run tokens
  if rest.isEmpty then pure nodes else throw .malformed

end BraceTemplate.Host

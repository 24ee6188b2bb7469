import BraceTemplate.Data.Arrange
import BraceTemplate.Data.Dump
import BraceTemplate.Data.Pretty
import BraceTemplate.Host.Arguments
import BraceTemplate.Number.Numeral
import BraceTemplate.Text.Search
import BraceTemplate.Number.Based

namespace BraceTemplate.Host.Run

def null : Value := .null

def flag (v : Option Value) : Run Bool :=
  match v with
  | some v => truth v
  | none => pure false

-- Applies a change to the text of a value; safe text stays safe.
def onText (change : Text → Text) (v : Value) : Run Value := do
  match v with
  | .scalar (.safe s) => pure (.scalar (.safe (change s)))
  | v => return .str (change (← text v))

def escaped (v : Value) : Run Value := do
  match v with
  | .scalar (.safe s) => pure (.scalar (.safe s))
  | v => return .scalar (.safe (escape (← text v)))

def safe (v : Value) : Run Value := do
  return .scalar (.safe (← text v))

def breaksTitle (c : Char) : Bool :=
  isBlank c || c == '-' || c == '(' || c == '\x7b' || c == '[' || c == '<'

-- Every word with a capital first and the rest in lower case. Words are what blanks, hyphens and
-- opening brackets separate.
def titleFrom (word : Text) : Text → Text
  | [] => titleWord word.reverse
  | c :: rest =>
    if breaksTitle c then titleWord word.reverse ++ c :: titleFrom [] rest
    else titleFrom (c :: word) rest
where
  titleWord : Text → Text
    | [] => []
    | c :: rest => upperChar c ++ lowerText rest

-- How many times to replace; a negative number sets no bound.
def replaceBound (count : Option Value) : Run (Option Nat) := do
  match count with
  | none => pure none
  | some (.scalar .null) => pure none
  | some n =>
    let i ← asSize n
    pure (if i < 0 then none else some i.toNat)

def replaced (v : Value) (p : Passed) : Run Value := do
  match ← p.bind ["old", "new", "count"] with
  | some old :: some new :: count =>
    let s ← text v
    let old ← text old
    let new ← text new
    let bound ← replaceBound count.head?.join
    return .str (Text.replaceUpTo old new bound s)
  | _ => fail .wrongType

def texts : List Value → Run (List Text)
  | [] => pure []
  | v :: rest => do
    let first ← text v
    let others ← texts rest
    pure (first :: others)

-- Follows a path from every item, where one is given.
def pathSteps? (path : Option Value) : Run (Option (List Value)) := do
  match path with
  | none => pure none
  | some (.scalar .null) => pure none
  | some path => some <$> attributeSteps path

-- The texts of the items that are left, or of what is reached from them, with a mark between them.
def joinedBy (mark : Text) (walk : Nat) (steps : List Value) : Run Value := do
  let pieces ← foldAll (fun acc x => return (← text (← follow none steps x)) :: acc) walk []
  return .str (Text.join mark pieces.reverse)

def joined (v : Value) (p : Passed) : Run Value := do
  match ← p.bind ["d", "attribute"] with
  | [sep, path] =>
    match ← pathSteps? path with
    | none =>
      let mark ← text (sep.getD (.str []))
      joinedBy mark (← walkOf v) []
    | some steps =>
      let walk ← walkOf v
      joinedBy (← text (sep.getD (.str []))) walk steps
  | _ => fail .wrongType

def firstItem (v : Value) : Run Value := do
  return (← advance (← walkOf v)).getD (.missing "No first item, sequence was empty.".toList)

def reversePartKind : Part → String
  | .keys => "dict_reversekeyiterator"
  | .values => "dict_reversevalueiterator"
  | .items => "dict_reverseitemiterator"

def entriesBackwards (p : Part) (address : Nat) : Run Nat := do
  let t ← tableAt address
  newWalk (reversePartKind p) (.entriesBack p address t.slots.size t.size)

-- A walk from the last item to the first, where a value can be read that way.
def backwards? (v : Value) : Run (Option Nat) := do
  match v with
  | .absent a => if a.strict then refuse a else some <$> newWalk "reversed" .over
  | .set .. => pure none
  | .scalar (.range start stop step) =>
    let count := rangeLength start stop step
    some <$> newWalk "range_iterator" (.terms (start + step * (count - 1)) (-step) count)
  | .scalar s =>
    match scalarItems? s with
    | some items => some <$> newWalk "reversed" (.rest items.reverse)
    | none => pure none
  | .tuple items => some <$> newWalk "reversed" (.rest items.reverse)
  | .view entries =>
    some <$> newWalk (reversePartKind .keys) (.rest (entries.map (·.1)).reverse)
  | .part p address => some <$> entriesBackwards p address
  | .ref address =>
    match ← cell? address with
    | some (.list items) => some <$> newWalk "list_reverseiterator" (.listBack address items.size)
    | some (.dict _) => some <$> entriesBackwards .keys address
    | _ => pure none
  | _ => pure none

def lastItem (v : Value) : Run Value := do
  match ← backwards? v with
  | some walk =>
    return (← advance walk).getD (.missing "No last item, sequence was empty.".toList)
  | none => fail .wrongType

-- The outcome of a run, or nothing where it fails for one of some reasons.
def attempt {α : Type} (excused : Error → Bool) (r : Run α) : Run (Option α) :=
  tryCatch (some <$> r) fun e => if excused e then pure none else fail e

def isWrongType (e : Error) : Bool :=
  e = .wrongType

def isWrong (e : Error) : Bool :=
  e = .wrongType ∨ e = .wrongValue

def reversedItems (v : Value) : Run Value := do
  match ← backwards? v with
  | some walk => pure (.ref walk)
  | none =>
    match ← attempt isWrongType (items v) with
    | some all => newList all.reverse
    | none => fail (.badFilterArgument "argument must be iterable".toList)

def reversed (v : Value) : Run Value := do
  match v with
  | .scalar (.str s) => pure (.str s.reverse)
  | .scalar (.safe s) => pure (.scalar (.safe s.reverse))
  | v => reversedItems v

-- Texts and bytes are no sums.
def isWritten : Value → Bool
  | .scalar s => isFormat s
  | _ => false

def summed (v : Value) (p : Passed) : Run Value := do
  match ← p.bind ["attribute", "start"] with
  | [path, start] =>
    let steps ← pathSteps? path
    let walk ← walkOf v
    let total := start.getD (.int 0)
    if isWritten total then fail .wrongType
    else foldAll (fun sum x => do binary .add sum (← follow none (steps.getD []) x)) walk total
  | _ => fail .wrongType

-- What items are compared by: an attribute of theirs, texts without regard to case unless asked.
def keyOf (caseSensitive : Bool) (steps : List Value) (v : Value) : Run Value := do
  let k ← follow none steps v
  pure (if caseSensitive then k else ignoringCase k)

-- The greatest or least item; the first of several.
def extremeItem (better : Relation) (v : Value) (p : Passed) : Run Value := do
  match ← p.bind ["case_sensitive", "attribute"] with
  | [caseSensitive, path] =>
    let walk ← walkOf v
    match ← advance walk with
    | none => pure (.missing "No aggregated item, sequence was empty.".toList)
    | some first =>
      let exact ← flag caseSensitive
      let key := keyOf exact (← attributeSteps (path.getD null))
      let pick := fun (best : Value × Value) (x : Value) => do
        let k ← key x
        if ← ordered better k best.2 then pure (x, k) else pure best
      return (← foldAll pick walk (first, ← key first)).1
  | _ => fail .wrongType

-- The order of lists of keys: by the first keys that differ.
def keysBefore (as bs : List Value) : Run Bool := do
  match ← difference? same as bs with
  | some (a, b) => before a b
  | none => pure (decide (as.length < bs.length))

-- Whether to arrange from the last to the first; only integers tell.
def direction (v : Option Value) : Run Bool := do
  match v with
  | none => pure false
  | some v =>
    let i ← asIndex v
    if -(countBound : Int) ≤ i ∧ i < countBound then pure (i != 0) else fail .tooLarge

def arranged {κ : Type} (less : κ → κ → Run Bool) (descending : Bool) (keyed : List (κ × Value)) :
    Run (List Value) := do
  let less := fun (a b : κ × Value) => less a.1 b.1
  let sorted ← if descending then Arrange.sortDown less keyed else Arrange.sort less keyed
  pure (sorted.map (·.2))

-- The paths of all keys that items are sorted by, commas between them.
def sortPaths (v : Value) : Run (List (List Value)) := do
  match v with
  | .scalar (.str s) => (Text.split ',' s).mapM fun part => attributeSteps (.str part)
  | .scalar (.safe s) => (Text.split ',' s).mapM fun part => attributeSteps (.scalar (.safe part))
  | v => return [← attributeSteps v]

def sorted (v : Value) (p : Passed) : Run Value := do
  match ← p.bind ["reverse", "case_sensitive", "attribute"] with
  | [descending, caseSensitive, path] =>
    let exact ← flag caseSensitive
    let parts ← sortPaths (path.getD null)
    let all ← items v
    let descending ← direction descending
    let keyed ← all.mapM fun x => do
      let keys ← parts.mapM fun steps => keyOf exact steps x
      pure (keys, x)
    newList (← arranged keysBefore descending keyed)
  | _ => fail .wrongType

-- Whether entries are sorted by their keys rather than by their values.
def sortsByKey (by' : Value) : Run Bool := do
  if ← same by' (.str "key".toList) then pure true
  else if ← same by' (.str "value".toList) then pure false
  else fail (.badFilterArgument "You can only sort by either \"key\" or \"value\"".toList)

-- Only mappings have entries that can be sorted.
def entriesToSort (v : Value) : Run (List (Value × Value)) := do
  match v with
  | .absent a => refuse a
  | v =>
    match ← mapping? v with
    | none => fail .noAttribute
    | some entries => pure entries

-- An entry as a pair, and what it is sorted by.
def keyedEntry (caseSensitive : Option Value) (byKey : Bool) (e : Value × Value) : Run (Value × Value) := do
  let key := if byKey then e.1 else e.2
  pure (if ← flag caseSensitive then key else ignoringCase key, .tuple [e.1, e.2])

def dictSorted (v : Value) (p : Passed) : Run Value := do
  match ← p.bind ["case_sensitive", "by", "reverse"] with
  | [caseSensitive, by', descending] =>
    let byKey ← sortsByKey (by'.getD (.str "key".toList))
    let entries ← entriesToSort v
    let descending ← direction descending
    let keyed ← entries.mapM (keyedEntry caseSensitive byKey)
    newList (← arranged before descending keyed)
  | _ => fail .wrongType

-- The items without those that are like one before them. Nothing is looked at before it is asked for.
def unique (v : Value) (p : Passed) : Run Value := do
  match ← p.bind ["case_sensitive", "attribute"] with
  | [caseSensitive, path] => newGenerator (.unique caseSensitive path) v
  | _ => fail .wrongType

-- The integer of a numeral in a base.
def readIn? (base : Int) (s : Text) : Option Int :=
  if base = 10 then readInt? s else if base < 0 then none else readBase? base.toNat s

-- The integer in a value: of a text by its digits, else by the number it stands for, cut off.
def toWholeIn (base : Option Int) (v : Value) : Run Int :=
  match v with
  | .scalar (.str s) => readOr (base.bind fun b => readIn? b s)
  | .scalar (.safe s) => readOr (base.bind fun b => readIn? b s)
  | v => toWhole v

def toInt (v : Value) (p : Passed) : Run Value := do
  match ← p.bind ["default", "base"] with
  | [fallback, base] =>
    let base := index? (base.getD (.int 10))
    match ← attempt isWrong (toWholeIn base v) with
    | some i => pure (.int i)
    | none =>
      let cut := do wholeOf (.float (← toReal v))
      match ← attempt (fun e => isWrong e || e = .tooLarge) cut with
      | some i => pure (.int i)
      | none => pure (fallback.getD (.int 0))
  | _ => fail .wrongType

def isReal : Value → Bool
  | .scalar (.float _) => true
  | .scalar (.nan _) => true
  | _ => false

def toFloat (v : Value) (p : Passed) : Run Value := do
  match ← p.bind ["default"] with
  | [fallback] =>
    if isReal v then pure v
    else
      match ← attempt isWrong (toReal v) with
      | some x => float x
      | none => pure (fallback.getD (.scalar (.float 0.0)))
  | _ => fail .wrongType

def magnitudeOf (s : Scalar) : Run Value :=
  match s.number? with
  | some (.int i) => pure (.int i.natAbs)
  | some (.float x) => float x.abs
  | none => fail .wrongType

def magnitude (v : Value) : Run Value := do
  match v with
  | .absent a => refuse a
  | .scalar (.planar z) =>
    let x := z.magnitude
    if isFinite z.re && isFinite z.im && !isFinite x then fail .tooLarge else float x
  | .scalar s => magnitudeOf s
  | _ => fail .wrongType

def orDefault (v : Value) (p : Passed) : Run Value := do
  match ← p.bind ["default_value", "boolean"] with
  | [fallback, boolean] =>
    let fallback := fallback.getD (.str [])
    match v with
    | .absent _ => pure fallback
    | v => if ← flag boolean then return if ← truth v then v else fallback else pure v
  | _ => fail .wrongType

def dumped (v : Value) (p : Passed) : Run Value := do
  match ← p.bind ["indent"] with
  | [indent] =>
    let indent ← asIndex (indent.getD (.int 0))
    let d ← reify v
    writable d
    if d.endless then fail .tooDeep else pure (.str (d.dump indent))
  | _ => fail .wrongType

def pretty (v : Value) : Run Value := do
  let d ← reify v
  writable d
  pure (.str d.pretty)

-- A text without the characters of a set at its ends, or without blanks.
def trimmedBy (chars v : Value) : Run Value :=
  match chars with
  | .scalar .null => onText Text.trim v
  | .scalar (.str set) => onText (Text.trimSet set) v
  | .scalar (.safe set) => onText (Text.trimSet set) v
  | _ => fail .wrongType

def trimmed (v : Value) (p : Passed) : Run Value := do
  match ← p.bind ["chars"] with
  | [chars] =>
    let _ ← text v
    trimmedBy (chars.getD null) v
  | _ => fail .wrongType

def filters : List (String × (Value → Passed → Run Value)) := [
  ("e", fun v p => bare p (escaped v)),
  ("escape", fun v p => bare p (escaped v)),
  ("safe", fun v p => bare p (safe v)),
  ("upper", fun v p => bare p (onText upperText v)),
  ("lower", fun v p => bare p (onText lowerText v)),
  ("capitalize", fun v p => bare p (onText capitalizeText v)),
  ("title", fun v p => bare p do return .str (titleFrom [] (← text v))),
  ("trim", trimmed),
  ("replace", replaced),
  ("length", fun v p => bare p do return .int (← length v)),
  ("count", fun v p => bare p do return .int (← length v)),
  ("join", joined),
  ("first", fun v p => bare p (firstItem v)),
  ("last", fun v p => bare p (lastItem v)),
  ("sum", summed),
  ("max", extremeItem .gt),
  ("min", extremeItem .lt),
  ("default", orDefault),
  ("d", orDefault),
  ("sort", sorted),
  ("reverse", fun v p => bare p (reversed v)),
  ("list", fun v p => bare p do newList (← items v)),
  ("unique", unique),
  ("map", fun v p => newGenerator (.mapped p) v),
  ("dictsort", dictSorted),
  ("string", fun v p => bare p (onText id v)),
  ("int", toInt),
  ("float", toFloat),
  ("abs", fun v p => bare p (magnitude v)),
  ("dump", dumped),
  ("pformat", fun v p => bare p (pretty v)),
  ("pairs", fun v p => bare p (pairs v)),
  ("values", fun v p => bare p (values v))]

-- The filter of a name.
def filter? (name : Text) : Option (Value → Passed → Run Value) :=
  (filters.find? fun entry => entry.1.toList == name).map (·.2)

-- The filter that a value names.
def filterNamed? (name : Value) : Option (Value → Passed → Run Value) :=
  match name with
  | .scalar (.str s) => filter? s
  | .scalar (.safe s) => filter? s
  | _ => none

def noFilter (name : Value) : Run Value := do
  let message := "No filter named ".toList ++ (← shown name) ++ ['.']
  match name with
  | .absent a =>
    fail (.refused (message ++ " (".toList ++ a.message ++
      "; did you forget to quote the callable name?)".toList))
  | _ => fail (.refused message)

-- Applies a filter that is named by a value.
def applyNamed (name v : Value) (p : Passed) : Run Value := do
  let _ ← asKey name
  match filterNamed? name with
  | some f => f v p
  | none => noFilter name

-- An attribute of every item; a value may stand for one that is missing.
def attributeMapping (named : List (Text × Value)) (path : Value) : Run Work := do
  let rest := named.filter fun n => n.1 != "attribute".toList && n.1 != "default".toList
  match rest with
  | (name, _) :: _ =>
    fail (.badFilterArgument ("Unexpected keyword argument ".toList ++ Quoted.text name))
  | [] =>
    let fallback := match (named.find? (·.1 == "default".toList)).map (·.2) with
      | some (.scalar .null) => none
      | f => f
    return .follow (← attributeSteps path) fallback

-- An attribute of every item, or a filter applied to every item.
def mapping (p : Passed) : Run Work := do
  match p.args, p.named.find? (·.1 == "attribute".toList) with
  | [], some (_, path) => attributeMapping p.named path
  | name :: args, _ => pure (.filter name ⟨args, p.named⟩)
  | [], none => fail (.badFilterArgument "map requires a filter argument".toList)

-- Makes work ready when the first item is asked for. What is false is never mapped.
def prepareWork (work : Work) (v : Value) : Run (Option Work) := do
  match work with
  | .mapped p => if ← truth v then some <$> mapping p else pure none
  | .unique caseSensitive path =>
    let exact ← flag caseSensitive
    return some (.distinct exact (← attributeSteps (path.getD null)) [])
  | work => pure (some work)

-- Does work on an item.
def performWork (work : Work) (v : Value) : Run (Option Value × Work) := do
  match work with
  | .follow steps fallback => return (some (← follow fallback steps v), work)
  | .filter name p => return (some (← applyNamed name v p), work)
  | .distinct exact steps seen =>
    let key ← asKey (← keyOf exact steps v)
    if seen.any (·.same key) then pure (none, work)
    else pure (some v, .distinct exact steps (key :: seen))
  | work => pure (some v, work)

end BraceTemplate.Host.Run

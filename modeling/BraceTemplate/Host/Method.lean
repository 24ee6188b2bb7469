import BraceTemplate.Host.Filter

namespace BraceTemplate.Host.Run

-- Gives texts back as the receiver was: plain or safe.
def likeText (isSafe : Bool) (s : Text) : Value :=
  if isSafe then .scalar (.safe s) else .str s

-- The safe text that a value is put into safe text as.
def safeText (v : Value) : Run Text := do
  match v with
  | .scalar (.safe s) => pure s
  | v => return escape (← text v)

-- The text of a value that is put into plain or safe text.
def partText (isSafe : Bool) (v : Value) : Run Text :=
  if isSafe then safeText v else asText v

def windowBound (v : Option Value) : Run (Option Int) :=
  match v with
  | some v => sliceBound v
  | none => pure none

-- The part of a text between two optional positions, and where it starts; `none` when it starts
-- past the end.
def window (s : Text) (start stop : Option Value) : Run (Option (Nat × Text)) := do
  let a ← windowBound start
  let b ← windowBound stop
  if (a.getD 0) > s.length then pure none
  else
    match sliceRange? s.length a b none with
    | some (first, last, _) =>
      pure (if last < first then none
        else some (first.toNat, (s.drop first.toNat).take (last - first).toNat))
    | none => pure none

def cutBound (v : Option Value) : Run (Option Nat) := do
  match v with
  | none => pure none
  | some v =>
    let i ← asSize v
    pure (if i < 0 then none else some i.toNat)

-- The pieces of a text between marks, or its words.
def piecesOf (s : Text) (sep : Option Value) (count : Nat) : Run (List Text) := do
  match sep with
  | none => pure (Text.wordsUpTo (s.length + 1) count s)
  | some (.scalar .null) => pure (Text.wordsUpTo (s.length + 1) count s)
  | some v =>
    let mark ← asText v
    if mark.isEmpty then fail .wrongValue
    else pure (Text.splitOn mark (s.length + 1) count s)

def splitText (isSafe : Bool) (s : Text) (p : Passed) : Run Value := do
  match ← p.bind ["sep", "maxsplit"] with
  | [sep, bound] =>
    let bound ← cutBound bound
    let pieces ← piecesOf s sep (bound.getD (s.length + 1))
    newList (pieces.map (likeText isSafe))
  | _ => fail .wrongType

def joinTexts (isSafe : Bool) (s : Text) (all : List Value) : Run Value := do
  let pieces ← all.mapM (partText isSafe)
  pure (likeText isSafe (Text.join s pieces))

-- Whether a text that is offered, or one of those in a tuple, fits. Texts behind it are not looked at.
def offered (fits : Text → Bool) (v : Value) : Run Bool :=
  match v with
  | .tuple items => anyFits items
  | v => return fits (← asText v)
where
  anyFits : List Value → Run Bool
    | [] => pure false
    | v :: rest => do if fits (← asText v) then pure true else anyFits rest

-- A text without the characters of a set at its sides, or without blanks.
def strippedOf (side : Text → (Char → Bool) → Text) (s : Text) (v : Value) : Run Text :=
  match v with
  | .scalar .null => pure (side s isBlank)
  | v => do
    let set ← asText v
    pure (side s set.contains)

def stripped (side : Text → (Char → Bool) → Text) (s : Text) (p : Passed) : Run Text := do
  match ← p.plain 0 1 with
  | [] => pure (side s isBlank)
  | v :: _ => strippedOf side s v

-- Whether a part of a text fits to what is offered.
def tested (fits : Text → Text → Bool) (s : Text) (p : Passed) : Run Value := do
  match ← p.plain 1 3 with
  | v :: bounds =>
    let found ← window s bounds.head? bounds.tail.head?
    return .bool (← offered (fun t => found.any fun w => fits t w.2) v)
  | _ => fail .wrongType

-- What is found in a part of a text.
def searched (found : Text → Option (Nat × Text) → Run Value) (s : Text) (p : Passed) : Run Value := do
  match ← p.plain 1 3 with
  | v :: bounds =>
    let mark ← asText v
    found mark (← window s bounds.head? bounds.tail.head?)
  | _ => fail .wrongType

def foundAt (mark : Text) : Option (Nat × Text) → Run Value
  | some (start, part) =>
    pure (.int (((Text.indexOf? mark part).map fun n => ((start + n : Nat) : Int)).getD (-1)))
  | none => pure (.int (-1))

def surelyAt (mark : Text) : Option (Nat × Text) → Run Value
  | some (start, part) =>
    match Text.indexOf? mark part with
    | some n => pure (.int (start + n : Nat))
    | none => fail .wrongValue
  | none => fail .wrongValue

def timesIn (mark : Text) : Option (Nat × Text) → Run Value
  | some (_, part) => pure (.int (Text.occurrences mark part))
  | none => pure (.int 0)

-- What is done with the one value that is passed.
def onOne {α : Type} (p : Passed) (f : Value → Run α) : Run α := do
  match ← p.plain 1 1 with
  | [v] => f v
  | _ => fail .wrongType

def replacedIn (isSafe : Bool) (s : Text) (p : Passed) : Run Value := do
  match ← p.plain 2 3 with
  | old :: new :: bound =>
    let new ← partText isSafe new
    let old ← asText old
    pure (likeText isSafe (Text.replaceUpTo old new (← cutBound bound.head?) s))
  | _ => fail .wrongType

def textMethod (isSafe : Bool) (s : Text) (name : String) (p : Passed) : Run Value :=
  let like := likeText isSafe
  match name with
  | "upper" => bare p (pure (like (upperText s)))
  | "lower" => bare p (pure (like (lowerText s)))
  | "capitalize" => bare p (pure (like (capitalizeText s)))
  | "strip" => like <$> stripped (fun s f => Text.dropTail f (s.dropWhile f)) s p
  | "lstrip" => like <$> stripped (fun s f => s.dropWhile f) s p
  | "rstrip" => like <$> stripped (fun s f => Text.dropTail f s) s p
  | "split" => splitText isSafe s p
  | "join" => onOne p fun v => do joinTexts isSafe s (← items v)
  | "startswith" => tested (fun t part => t.isPrefixOf part) s p
  | "endswith" => tested (fun t part => t.isSuffixOf part) s p
  | "find" => searched foundAt s p
  | "index" => searched surelyAt s p
  | "count" => searched timesIn s p
  | "replace" => replacedIn isSafe s p
  | "isdigit" => bare p (pure (.bool (!s.isEmpty && s.all isDigitLike)))
  | _ => fail .wrongType

def indexBound (v : Option Value) : Run (Option Int) :=
  match v with
  | some v => some <$> asIndex v
  | none => pure none

-- The position of an item in a part of a list.
def indexIn (items : List Value) (x : Value) (start stop : Option Value) : Run Nat := do
  let a ← indexBound start
  let b ← indexBound stop
  match sliceRange? items.length a b none with
  | some (first, last, _) =>
    search first.toNat ((items.drop first.toNat).take (last - first).toNat)
  | none => fail .wrongValue
where
  search (n : Nat) : List Value → Run Nat
    | [] => fail .wrongValue
    | y :: rest => do if ← sameItem y x then pure n else search (n + 1) rest

def countIn (x : Value) : List Value → Run Nat
  | [] => pure 0
  | y :: rest => do
    let here ← sameItem y x
    let others ← countIn x rest
    pure (if here then others + 1 else others)

-- Puts an item behind those that a list has at the moment.
def pushTo (address : Nat) (v : Value) : Run Unit := do
  match ← cell? address with
  | some (.list items) => update address (.list (items.push v))
  | _ => pure ()

-- Whether the items of a value are known before a list grows by them.
def knownTo (address : Nat) : Value → Bool
  | .tuple _ => true
  | .ref other => other == address
  | _ => false

def extendList (address : Nat) (v : Value) : Run Unit := do
  if knownTo address v then (← items v).forM (pushTo address)
  else foldAll (fun _ x => pushTo address x) (← walkOf v) ()

-- Which item is taken out of a list: the last one, unless another is named.
def poppedIndex (p : Passed) : Run Int := do
  match ← p.plain 0 1 with
  | [v] => asSize v
  | _ => pure (-1)

def removeAt (address : Nat) (all : Array Value) (n : Nat) : Run Unit :=
  update address (.list (all.extract 0 n ++ all.extract (n + 1) all.size))

def popped (address : Nat) (all : Array Value) (p : Passed) : Run Value := do
  match position? all.size (← poppedIndex p) with
  | some n =>
    removeAt address all n
    pure ((all[n]?).getD null)
  | none => fail .noItem

def inserted (address : Nat) (all : Array Value) (p : Passed) : Run Value := do
  match ← p.plain 2 2 with
  | [at', v] =>
    match sliceRange? all.size (some (← asSize at')) none none with
    | some (n, _, _) =>
      update address (.list ((all.extract 0 n.toNat).push v ++ all.extract n.toNat all.size))
      pure null
    | none => pure null
  | _ => fail .wrongType

-- Where an item is in a part of a sequence that may be told by bounds.
def placeIn (all : List Value) (p : Passed) : Run Value := do
  match ← p.plain 1 3 with
  | v :: bounds => return .int (← indexIn all v bounds.head? bounds.tail.head?)
  | _ => fail .wrongType

-- A list is sorted by its items themselves: other keys would have to be called for.
def sortedBy (address : Nat) (all : Array Value) (key : Value) (descending : Option Value) : Run Value := do
  let descending ← direction descending
  match key with
  | .scalar .null =>
    let sorted ← arranged before descending (all.toList.map fun v => (v, v))
    update address (.list sorted.toArray)
    pure null
  | _ => fail .wrongType

def sortedIn (address : Nat) (all : Array Value) (p : Passed) : Run Value := do
  match ← (Passed.bind ⟨[], p.named⟩ ["key", "reverse"]) with
  | [key, descending] =>
    if p.args.isEmpty then sortedBy address all (key.getD null) descending else fail .wrongType
  | _ => fail .wrongType

def listMethod (address : Nat) (all : Array Value) (name : String) (p : Passed) : Run Value :=
  match name with
  | "append" => onOne p fun v => do update address (.list (all.push v)); pure null
  | "extend" => onOne p fun v => do extendList address v; pure null
  | "index" => placeIn all.toList p
  | "count" => onOne p fun v => return .int (← countIn v all.toList)
  | "pop" => popped address all p
  | "insert" => inserted address all p
  | "remove" => onOne p fun v => do removeAt address all (← indexIn all.toList v none none); pure null
  | "reverse" => bare p do update address (.list all.reverse); pure null
  | "clear" => bare p do update address (.list #[]); pure null
  | "copy" => bare p (newList all.toList)
  | "sort" => sortedIn address all p
  | _ => fail .wrongType

-- A value under a key, or another one in its stead.
def lookupOr (find? : Datum → Run (Option Value)) (p : Passed) : Run Value := do
  match ← p.plain 1 2 with
  | key :: fallback => return (← find? (← asKey key)).getD (fallback.headD null)
  | _ => fail .wrongType

-- Adds the entries of a mapping or of a sequence of pairs, one after the other.
def withAll (t : Table Value) (v : Value) : Run (Table Value) := do
  match v with
  | .absent a => refuse a
  | v =>
    match ← mapping? v with
    | some entries => withEntries t entries
    | none =>
      let add := fun t x => do
        let (k, v) ← pairOf x
        withEntry t k v
      foldAll add (← walkOf v) t

def withArgs (t : Table Value) (args : List Value) : Run (Table Value) := do
  match ← Passed.plain ⟨args, []⟩ 0 1 with
  | [v] => withAll t v
  | _ => pure t

-- Adds what a call passes: the entries of one value at most, and then names.
def withPassed (t : Table Value) (p : Passed) : Run (Table Value) := do
  let t ← withArgs t p.args
  withEntries t (p.named.map fun (k, v) => (.str k, v))

-- What is given for a key that is not there.
def standIn (key : Value) : List Value → Run Value
  | v :: _ => pure v
  | [] => do fail (.noKey (← shown key))

def poppedKey (address : Nat) (t : Table Value) (p : Passed) : Run Value := do
  match ← p.plain 1 2 with
  | key :: fallback =>
    if t.isEmpty then standIn key fallback
    else
      let shape ← asKey key
      match t.find? shape with
      | some v =>
        update address (.dict (t.erase shape))
        pure v
      | none => standIn key fallback
  | _ => fail .wrongType

def poppedLast (address : Nat) (t : Table Value) : Run Value := do
  match t.popLast? with
  | some (e, t) =>
    update address (.dict t)
    pure (.tuple [e.key, e.value])
  | none => fail (.noKey "'popitem(): dictionary is empty'".toList)

def setDefault (address : Nat) (t : Table Value) (p : Passed) : Run Value := do
  match ← p.plain 1 2 with
  | key :: fallback =>
    match t.find? (← asKey key) with
    | some v => pure v
    | none =>
      let v := fallback.headD null
      update address (.dict (← withEntry t key v))
      pure v
  | _ => fail .wrongType

def dictMethod (address : Nat) (t : Table Value) (name : String) (p : Passed) : Run Value :=
  match name with
  | "get" => lookupOr (fun shape => pure (t.find? shape)) p
  | "keys" => bare p (pure (.part .keys address))
  | "values" => bare p (pure (.part .values address))
  | "items" => bare p (pure (.part .items address))
  | "clear" => bare p do update address (.dict .empty); pure null
  | "copy" => bare p (allocate (.dict (.ofDistinct t.entries)))
  | "update" => do update address (.dict (← withPassed t p)); pure null
  | "pop" => poppedKey address t p
  | "popitem" => bare p (poppedLast address t)
  | "setdefault" => setDefault address t p
  | _ => fail .wrongType

def partOf (v : Value) (p : Part) : Run Value :=
  match v with
  | .ref address => pure (.part p address)
  | _ => fail .wrongType

-- What a copy of a read-only mapping gives. It can be changed, but nothing else knows of it.
def ofCopy (copy : Value) (name : String) : Run Value :=
  match name with
  | "keys" => partOf copy .keys
  | "values" => partOf copy .values
  | "items" => partOf copy .items
  | "copy" => pure copy
  | _ => fail .wrongType

def viewMethod (entries : List (Value × Value)) (name : String) (p : Passed) : Run Value :=
  match name with
  | "get" => lookupOr (inView? entries) p
  | name => bare p do ofCopy (← newDict entries) name

-- Whether a loop was asked about the same values the last time.
def sameAsBefore (l : Loop) (args : List Value) : Run Bool :=
  match l.changed with
  | some old => same (.tuple old) (.tuple args)
  | none => pure false

-- One of some values, as many rounds as there are of them.
def cycled (l : Loop) (args : List Value) : Run Value :=
  match args with
  | first :: rest => pure (((first :: rest)[(l.index - 1) % (rest.length + 1)]?).getD null)
  | [] => fail .wrongType

def changedSince (address : Nat) (l : Loop) (args : List Value) : Run Value := do
  if ← sameAsBefore l args then pure (.bool false)
  else
    update address (.loop { l with changed := some args })
    pure (.bool true)

def loopMethod (address : Nat) (l : Loop) (name : String) (p : Passed) : Run Value :=
  if !p.named.isEmpty then fail .wrongType
  else
    match name with
    | "cycle" => cycled l p.args
    | "changed" => changedSince address l p.args
    | _ => fail .wrongType

def tupleMethod (all : List Value) (name : String) (p : Passed) : Run Value := do
  match name with
  | "index" => placeIn all p
  | "count" => onOne p fun v => return .int (← countIn v all)
  | _ => fail .wrongType

-- Calls an operation of a value.
def callMethod (receiver : Value) (name : Text) (p : Passed) : Run Value := do
  let name := String.ofList name
  match receiver with
  | .scalar (.str s) => textMethod false s name p
  | .scalar (.safe s) => textMethod true s name p
  | .scalar (.date d) =>
    if name = "isoformat" then bare p (pure (.str d.text)) else fail .wrongType
  | .tuple all => tupleMethod all name p
  | .view entries => viewMethod entries name p
  | .ref address =>
    match ← cell? address with
    | some (.list all) => listMethod address all name p
    | some (.dict t) => dictMethod address t name p
    | some (.loop l) => loopMethod address l name p
    | _ => fail .wrongType
  | _ => fail .wrongType

-- The longest range that a template may make.
def maxRange : Nat := 100000

def newRange (start stop step : Int) : Run Value :=
  if step = 0 then fail .wrongValue
  else if maxRange < rangeLength start stop step then fail .tooLarge
  else pure (.scalar (.range start stop step))

def rangeOf : List Int → Run Value
  | [stop] => newRange 0 stop 1
  | [start, stop] => newRange start stop 1
  | [start, stop, step] => newRange start stop step
  | _ => fail .wrongType

-- Calls one of the functions that every template knows.
def callBuiltin (b : Builtin) (p : Passed) : Run Value := do
  match b with
  | .range => rangeOf (← (← p.plain 1 3).mapM asIndex)
  | .dict => do allocate (.dict (← withPassed .empty p))
  | .namespace => do allocate (.namespace (← withPassed .empty p))

end BraceTemplate.Host.Run

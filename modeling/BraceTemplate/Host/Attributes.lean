import BraceTemplate.Host.Walk

namespace BraceTemplate.Host

-- Words separated by blanks.
def wordsOf (s : String) : List Text :=
  (Text.split ' ' s.toList).filter (!·.isEmpty)

-- Names that every value answers to, all of them hidden from templates.
def commonHidden : List Text := wordsOf <|
  "__class__ __delattr__ __dir__ __doc__ __eq__ __format__ __ge__ __getattribute__ __getstate__ " ++
  "__gt__ __hash__ __init__ __init_subclass__ __le__ __lt__ __ne__ __new__ __reduce__ " ++
  "__reduce_ex__ __repr__ __setattr__ __sizeof__ __str__ __subclasshook__"

def textHidden : List Text := wordsOf <|
  "__add__ __contains__ __getitem__ __getnewargs__ __iter__ __len__ __mod__ __mul__ __rmod__ " ++
  "__rmul__"

def listHidden : List Text := wordsOf <|
  "__add__ __class_getitem__ __contains__ __delitem__ __getitem__ __iadd__ __imul__ __iter__ " ++
  "__len__ __mul__ __reversed__ __rmul__ __setitem__"

def dictHidden : List Text := wordsOf <|
  "__class_getitem__ __contains__ __delitem__ __getitem__ __ior__ __iter__ __len__ __or__ " ++
  "__reversed__ __ror__ __setitem__"

def tupleHidden : List Text := wordsOf <|
  "__add__ __class_getitem__ __contains__ __getitem__ __getnewargs__ __iter__ __len__ __mul__ " ++
  "__rmul__"

def floatHidden : List Text := wordsOf <|
  "__abs__ __add__ __bool__ __ceil__ __divmod__ __float__ __floor__ __floordiv__ __getformat__ " ++
  "__getnewargs__ __int__ __mod__ __mul__ __neg__ __pos__ __pow__ __radd__ __rdivmod__ " ++
  "__rfloordiv__ __rmod__ __rmul__ __round__ __rpow__ __rsub__ __rtruediv__ __sub__ __truediv__ " ++
  "__trunc__"

def intHidden : List Text := wordsOf <|
  "__abs__ __add__ __and__ __bool__ __ceil__ __divmod__ __float__ __floor__ __floordiv__ " ++
  "__getnewargs__ __index__ __int__ __invert__ __lshift__ __mod__ __mul__ __neg__ __or__ __pos__ " ++
  "__pow__ __radd__ __rand__ __rdivmod__ __rfloordiv__ __rlshift__ __rmod__ __rmul__ __ror__ " ++
  "__round__ __rpow__ __rrshift__ __rshift__ __rsub__ __rtruediv__ __rxor__ __sub__ __truediv__ " ++
  "__trunc__ __xor__"

def planarHidden : List Text := wordsOf <|
  "__abs__ __add__ __bool__ __complex__ __getnewargs__ __mul__ __neg__ __pos__ __pow__ __radd__ " ++
  "__rmul__ __rpow__ __rsub__ __rtruediv__ __sub__ __truediv__"

def setHidden : List Text := wordsOf <|
  "__and__ __class_getitem__ __contains__ __iter__ __len__ __or__ __rand__ __ror__ __rsub__ " ++
  "__rxor__ __sub__ __xor__"

def rangeHidden : List Text := wordsOf <|
  "__bool__ __contains__ __getitem__ __iter__ __len__ __reversed__"

def functionHidden : List Text := wordsOf <|
  "__annotations__ __builtins__ __call__ __closure__ __code__ __defaults__ __dict__ __get__ " ++
  "__globals__ __kwdefaults__ __module__ __name__ __qualname__"

def definedHidden : List Text := wordsOf <|
  "__call__ __dict__ __module__ __weakref__ _argument_count _default_autoescape _environment " ++
  "_func _invoke"

def loopHidden : List Text := wordsOf <|
  "__call__ __dict__ __iter__ __len__ __module__ __next__ __weakref__ _after _before _current " ++
  "_iterable _iterator _last_changed_value _length _peek_next _recurse _to_iterator _undefined"

-- The operations that texts, lists, mappings and so on can be called for.
def textMethods : List Text := wordsOf <|
  "capitalize casefold center count encode endswith expandtabs find format format_map index " ++
  "isalnum isalpha isascii isdecimal isdigit isidentifier islower isnumeric isprintable isspace " ++
  "istitle isupper join ljust lower lstrip maketrans partition removeprefix removesuffix replace " ++
  "rfind rindex rjust rpartition rsplit rstrip split splitlines startswith strip swapcase title " ++
  "translate upper zfill"

def listMethods : List Text := wordsOf <|
  "append clear copy count extend index insert pop remove reverse sort"

def dictMethods : List Text := wordsOf <|
  "clear copy fromkeys get items keys pop popitem setdefault update values"

def viewMethods : List Text := wordsOf "copy get items keys values"

def tupleMethods : List Text := wordsOf "count index"

def intMethods : List Text := wordsOf <|
  "as_integer_ratio bit_count bit_length conjugate from_bytes to_bytes"

def floatMethods : List Text := wordsOf "as_integer_ratio conjugate fromhex hex is_integer"

def setMethods : List Text := wordsOf <|
  "copy difference intersection isdisjoint issubset issuperset symmetric_difference union"

def openSetMethods : List Text := wordsOf <|
  "add clear difference_update discard intersection_update pop remove " ++
  "symmetric_difference_update update"

-- Attributes of a value, beside its operations, that have a value of their own.
def dateParts (d : Date) : List (Text × Value) := [
  ("year".toList, .int d.year), ("month".toList, .int d.month), ("day".toList, .int d.day)]

def momentParts (m : Moment) : List (Text × Value) :=
  dateParts m.date ++ [
    ("hour".toList, .int m.hour), ("minute".toList, .int m.minute),
    ("second".toList, .int m.second), ("microsecond".toList, .int m.micro)]

def integerParts (i : Int) : List (Text × Value) := [
  ("real".toList, .int i), ("imag".toList, .int 0), ("numerator".toList, .int i),
  ("denominator".toList, .int 1)]

def floatParts (x : Scalar) : List (Text × Value) := [
  ("real".toList, .scalar x), ("imag".toList, .scalar (.float 0.0))]

def generatorMethods : List Text := wordsOf "close send throw"

def generatorHidden : List Text := wordsOf <|
  "__del__ __iter__ __name__ __next__ __qualname__ gi_code gi_frame"

def loopMethods : List Text := wordsOf "changed cycle"

-- What a value answers to: attributes with values, operations, and hidden names.
structure Attributes where
  parts : List (Text × Value)
  methods : List Text
  hidden : List Text

def scalarAttributes : Scalar → Attributes
  | .null => ⟨[], [], ["__bool__".toList]⟩
  | .bool b => ⟨integerParts (if b then 1 else 0), intMethods, intHidden⟩
  | .int i => ⟨integerParts i, intMethods, intHidden⟩
  | .float x => ⟨floatParts (.float x), floatMethods, floatHidden⟩
  | .nan i => ⟨floatParts (.nan i), floatMethods, floatHidden⟩
  | .planar z =>
    ⟨[("real".toList, .scalar (.float z.re)), ("imag".toList, .scalar (.float z.im))],
      wordsOf "conjugate", planarHidden⟩
  | .str _ => ⟨[], textMethods, textHidden⟩
  | .safe _ => ⟨[], "striptags".toList :: "unescape".toList :: textMethods,
      "__html__".toList :: textHidden⟩
  | .bytes _ => ⟨[], "decode".toList :: "hex".toList :: textMethods, textHidden⟩
  | .range start stop step =>
    ⟨[("start".toList, .int start), ("stop".toList, .int stop), ("step".toList, .int step)],
      tupleMethods, rangeHidden⟩
  | .date d => ⟨dateParts d, wordsOf "ctime isoformat isoweekday strftime toordinal weekday", []⟩
  | .moment m =>
    ⟨momentParts m, wordsOf "ctime date isoformat isoweekday strftime time timestamp weekday", []⟩

def attributes (v : Value) (cell : Option Cell) : Attributes :=
  match v with
  | .scalar s => scalarAttributes s
  | .tuple _ => ⟨[], tupleMethods, tupleHidden⟩
  | .set frozen _ => ⟨[], if frozen then setMethods else setMethods ++ openSetMethods, setHidden⟩
  | .view _ => ⟨[], viewMethods, dictHidden⟩
  | .ref _ =>
    match cell with
    | some (.list _) => ⟨[], listMethods, listHidden⟩
    | some (.dict _) => ⟨[], dictMethods, dictHidden⟩
    | some (.namespace t) => ⟨named t, [], []⟩
    | some (.generator _ _) => ⟨[], generatorMethods, generatorHidden⟩
    | some (.loop _) => ⟨[], loopMethods, loopHidden⟩
    | _ => ⟨[], [], wordsOf "__iter__ __length_hint__ __next__ __setstate__"⟩
  | .part .values _ => ⟨[("mapping".toList, .null)], [], wordsOf "__iter__ __len__ __reversed__"⟩
  | .part .. =>
    ⟨[("mapping".toList, .null)], wordsOf "isdisjoint",
      "__contains__".toList :: "__iter__".toList :: "__len__".toList :: setHidden⟩
  | .builtin _ => ⟨[], [], functionHidden⟩
  | .method .. => ⟨[], [], wordsOf "__call__ __name__ __qualname__ __self__"⟩
  | .defined name parameters .. =>
    ⟨[("name".toList, .str name),
      ("arguments".toList, .tuple (parameters.map fun p => .str p.name))], [], definedHidden⟩
  | .bounds start stop step =>
    ⟨[("start".toList, start), ("stop".toList, stop), ("step".toList, step)], wordsOf "indices", []⟩
  | .absent _ => ⟨[], [], []⟩
  | .ended => ⟨[], [], []⟩
  | .self => ⟨[], [], []⟩
where
  named (t : Table Value) : List (Text × Value) :=
    t.pairs.filterMap fun (k, v) =>
      match k with
      | .scalar (.str s) => some (s, v)
      | .scalar (.safe s) => some (s, v)
      | _ => none

namespace Run

-- How the kind of a value is named in messages.
def kindName (v : Value) : Run Text := do
  match v with
  | .scalar .null => pure "None".toList
  | .scalar (.safe _) => pure "markupsafe.Markup object".toList
  | .scalar (.date _) => pure "datetime.date object".toList
  | .scalar (.moment _) => pure "datetime.datetime object".toList
  | .ref address =>
    match ← cell? address with
    | some (.namespace _) => pure "jinja2.utils.Namespace object".toList
    | some (.loop _) => pure "jinja2.runtime.LoopContext object".toList
    | _ => return (← reify v).typeName ++ " object".toList
  | .defined .. => pure "jinja2.runtime.Macro object".toList
  | .self => pure "jinja2.runtime.TemplateReference object".toList
  | v => return (← reify v).typeName ++ " object".toList

-- The absent value that a look-up without success gives.
def noAttributeAs (v : Value) (shown : Text) : Run Value := do
  match v with
  | .ended => pure (.missing (shown ++ " is undefined".toList))
  | v =>
    let kind ← kindName v
    pure (.missing (Quoted.text kind ++ " has no attribute ".toList ++ shown))

def noAttribute (v : Value) (name : Text) : Run Value :=
  noAttributeAs v (Quoted.text name)

def noElement (v key : Value) : Run Value := do
  match v, key with
  | v, .scalar (.str name) => noAttribute v name
  | v, .scalar (.safe name) => noAttributeAs v (Scalar.safe name).quoted
  | .ended, key => noAttributeAs .ended (← reify key).quoted
  | v, key =>
    let kind ← kindName v
    let element ← reify key
    pure (.missing (kind ++ " has no element ".toList ++ element.quoted))

-- What is known of a loop from within: where it stands, and what comes before and after.
def loopPart? (address : Nat) (l : Loop) (name : String) : Run (Option Value) := do
  let size := do return (((← length (.ref address)) : Nat) : Int)
  match name with
  | "index" => pure (some (.int l.index))
  | "index0" => pure (some (.int (l.index - 1 : Int)))
  | "length" => return some (.int (← size))
  | "revindex" => return some (.int ((← size) - (l.index - 1 : Int)))
  | "revindex0" => return some (.int ((← size) - l.index))
  | "first" => pure (some (.bool (l.index == 1)))
  | "last" => return some (.bool (← loopNext address l).isNone)
  | "depth" => pure (some (.int 1))
  | "depth0" => pure (some (.int 0))
  | "previtem" =>
    let none' := Value.missing "there is no previous item".toList
    pure (some (if l.index == 1 then none' else l.before.getD none'))
  | "nextitem" =>
    return some ((← loopNext address l).getD (.missing "there is no next item".toList))
  | _ => pure none

def hiddenAttribute (v : Value) (name : Text) : Run Value := do
  let kind := (← reify v).typeName
  pure (.absent ⟨true, false, "access to attribute ".toList ++ Quoted.text name ++ " of ".toList ++
    Quoted.text kind ++ " object is unsafe.".toList⟩)

def isNamespace : Option Cell → Bool
  | some (.namespace _) => true
  | _ => false

-- Attributes of a value that stay as they are.
def plainAttribute? (v : Value) (cell : Option Cell) (name : Text) : Run (Option Value) := do
  let known := attributes v cell
  match known.parts.find? (·.1 == name) with
  | some (_, value) =>
    if name.head? == some '_' then some <$> hiddenAttribute v name else pure (some value)
  | none =>
    if known.methods.contains name then pure (some (.method v name))
    else if known.hidden.contains name || name == "__class__".toList ||
        (!isNamespace cell && commonHidden.contains name) then
      some <$> hiddenAttribute v name
    else pure none

-- The attribute of a value, if it has one of the name. Hidden attributes are found, but not given.
def attribute? (v : Value) (name : Text) : Run (Option Value) := do
  match v with
  | .absent a =>
    if commonHidden.contains name then some <$> hiddenAttribute v name
    else if name.take 2 == ['_', '_'] && name.reverse.take 2 == ['_', '_'] then pure none
    else refuse a
  | .ref address =>
    let cell ← cell? address
    match cell with
    | some (.loop l) =>
      match ← loopPart? address l (String.ofList name) with
      | some x => pure (some x)
      | none => plainAttribute? v cell name
    | cell => plainAttribute? v cell name
  | v => plainAttribute? v none name

-- A position in a sequence of `size` items; negative ones count from the end.
def position? (size : Nat) (i : Int) : Option Nat :=
  if 0 ≤ i then if i < size then some i.toNat else none
  else if -i ≤ size then some (size - i.natAbs) else none

def index? : Value → Option Int
  | .scalar (.int i) => some i
  | .scalar (.bool b) => some (if b then 1 else 0)
  | _ => none

def listItem? (items : Array Value) (key : Value) : Option Value := do
  let i ← index? key
  let n ← position? items.size i
  items[n]?

def textItem? (s : Text) (key : Value) : Option Text := do
  let i ← index? key
  let n ← position? s.length i
  (s[n]?).map ([·])

-- What a key is compared by; a key that is none leads to nothing.
def keyShape? (key : Value) : Run (Option Datum) := do
  match key with
  | .absent a => if a.strict then refuse a else some <$> reify key
  | .ref address =>
    match ← cell? address with
    | some (.list _) => pure none
    | some (.dict _) => pure none
    | _ => some <$> reify key
  | key =>
    let shape ← reify key
    pure (if shape.hashable then some shape else none)

-- The item of a value under a key or at a position, if there is one.
def item? (v key : Value) : Run (Option Value) := do
  match v with
  | .absent a => refuse a
  | .scalar (.str s) => pure ((textItem? s key).map .str)
  | .scalar (.safe s) => pure ((textItem? s key).map fun c => .scalar (.safe c))
  | .scalar (.bytes bs) => pure (listItem? (bs.map fun b => Value.int b.toNat).toArray key)
  | .scalar (.range start stop step) =>
    match index? key with
    | some i =>
      pure ((position? (rangeLength start stop step) i).map fun n => .int (start + step * n))
    | none => pure none
  | .tuple items => pure (listItem? items.toArray key)
  | .view entries =>
    match ← keyShape? key with
    | some shape => inView? entries shape
    | none => pure none
  | .ref address =>
    match ← cell? address with
    | some (.list items) => pure (listItem? items key)
    | some (.dict t) => return (← keyShape? key).bind t.find?
    | _ => pure none
  | _ => pure none

-- A subscript: the item, or the attribute of that name.
def getItem (v key : Value) : Run Value := do
  match ← item? v key with
  | some x => pure x
  | none =>
    let name? := match key with
      | .scalar (.str s) => some s
      | .scalar (.safe s) => some s
      | _ => none
    match name? with
    | some name =>
      match ← attribute? v name with
      | some x => pure x
      | none => noElement v key
    | none => noElement v key

-- An attribute: the attribute itself, or the item under that name.
def getAttribute (v : Value) (name : Text) : Run Value := do
  match ← attribute? v name with
  | some x => pure x
  | none =>
    match ← item? v (.str name) with
    | some x => pure x
    | none => noAttribute v name

-- Where a slice of a sequence of `size` items starts and stops, and its step; a step of zero is
-- none.
def sliceRange? (size : Nat) (start stop step : Option Int) : Option (Int × Int × Int) :=
  let step := step.getD 1
  let clamp := fun (low high i : Int) =>
    let i := if i < 0 then i + size else i
    if i < low then low else if high < i then high else i
  if step = 0 then none
  else if 0 < step then
    some ((start.map (clamp 0 size)).getD 0, (stop.map (clamp 0 size)).getD size, step)
  else
    some ((start.map (clamp (-1) (size - 1))).getD (size - 1),
      (stop.map (clamp (-1) (size - 1))).getD (-1), step)

def sliceBound (v : Value) : Run (Option Int) := do
  match v with
  | .scalar .null => pure none
  | v =>
    match index? v with
    | some i => pure (some i)
    | none => fail .wrongType

def sliceOf (size : Nat) (start stop step : Value) : Run (Int × Int × Int) := do
  let a ← sliceBound start
  let b ← sliceBound stop
  let c ← sliceBound step
  match sliceRange? size a b c with
  | some found => pure found
  | none => fail .wrongValue

def pick {α : Type} (items : List α) (range : Int × Int × Int) : List α :=
  let all := items.toArray
  (rangeItems range.1 range.2.1 range.2.2).filterMap fun i => all[i.toNat]?

-- Part of a sequence, of the same kind.
def slice (v : Value) (start stop step : Value) : Run Value := do
  match v with
  | .absent a => refuse a
  | .scalar (.str s) => return .str (pick s (← sliceOf s.length start stop step))
  | .scalar (.safe s) => return .scalar (.safe (pick s (← sliceOf s.length start stop step)))
  | .scalar (.bytes bs) => return .scalar (.bytes (pick bs (← sliceOf bs.length start stop step)))
  | .tuple items => return .tuple (pick items (← sliceOf items.length start stop step))
  | .scalar (.range first last stride) =>
    let (a, b, c) ← sliceOf (rangeLength first last stride) start stop step
    pure (.scalar (.range (first + stride * a) (first + stride * b) (stride * c)))
  | .ref address =>
    match ← cell? address with
    | some (.list items) =>
      newList (pick items.toList (← sliceOf items.size start stop step))
    | _ => fail .wrongType
  | _ => fail .wrongType

end Run

end BraceTemplate.Host

import BraceTemplate.Host.Walk

namespace BraceTemplate.Host

-- Whether a relation holds between what stands in an order to each other.
def Relation.admits : Relation → Ordering → Bool
  | .lt, o => o == .lt
  | .le, o => o != .gt
  | .gt, o => o == .gt
  | .ge, o => o != .lt
  | _, _ => false

namespace Run

-- Whether two values are the very same thing. Such values count as equal wherever one of them is part
-- of something else.
def identical : Value → Value → Bool
  | .scalar (.nan i), .scalar (.nan j) => i == j
  | .ref i, .ref j => i == j
  | _, _ => false

-- The first items of two lists that differ.
def difference? (same : Value → Value → Run Bool) : List Value → List Value →
    Run (Option (Value × Value))
  | x :: xs, y :: ys => do
    let equal ← if identical x y then pure true else same x y
    if equal then difference? same xs ys else pure (some (x, y))
  | _, _ => pure none

-- Whether every entry has an equal one among those of another mapping.
def entriesWithin (same : Value → Value → Run Bool) (others : List (Value × Value)) :
    List (Value × Value) → Run Bool
  | [] => pure true
  | (k, v) :: rest => do
    match ← inView? others (← reify k) with
    | none => pure false
    | some w =>
      let equal ← if identical w v then pure true else same w v
      if equal then entriesWithin same others rest else pure false

-- The members of what can be compared like a set.
def members? (v : Value) : Run (Option (List Value)) := do
  match v with
  | .set _ items => pure (some items)
  | .part .values _ => pure none
  | .part p address => return some (listedEntries p (← tableAt address))
  | _ => pure none

-- Whether `x` is a member of what can be compared like a set.
def isMember (same : Value → Value → Run Bool) (x v : Value) : Run Bool := do
  match v with
  | .set _ items =>
    let key ← asKey (match x with | .set _ members => .set true members | x => x)
    let s ← get
    pure (items.any fun y => (s.reify y).same key)
  | .part .keys address => do
    let key ← asKey x
    return ((← tableAt address).find? key).isSome
  | .part .items address =>
    match x with
    | .tuple [k, a] =>
      match (← tableAt address).find? (← asKey k) with
      | some b => if identical a b then pure true else same a b
      | none => pure false
    | _ => pure false
  | _ => pure false

def allMembers (same : Value → Value → Run Bool) (v : Value) : List Value → Run Bool
  | [] => pure true
  | x :: rest => do if ← isMember same x v then allMembers same v rest else pure false

-- Values may be this deep where they are compared.
def maxDepth : Nat := 900

def listed? (v : Value) : Run (Option (Array Value)) := do
  match v with
  | .ref address =>
    match ← cell? address with
    | some (.list items) => pure (some items)
    | _ => pure none
  | _ => pure none

-- Equality of what is neither a list nor a mapping on both sides.
def sameMembers (same : Value → Value → Run Bool) (a b : Value) : Run Bool := do
  match ← members? a, ← members? b with
  | some xs, some ys =>
    if xs.length ≠ ys.length then pure false
    else allMembers same b xs
  | _, _ =>
    match a, b with
    | .part .., .part .. => pure false
    | a, b => return (← reify a).same (← reify b)

def sameMappings (same : Value → Value → Run Bool) (a b : Value) : Run Bool := do
  match ← mapping? a, ← mapping? b with
  | some xs, some ys =>
    if xs.length ≠ ys.length then pure false
    else entriesWithin same ys xs
  | _, _ => sameMembers same a b

-- Equality of values of different kinds, or made of others that can be changed.
def sameParts (same : Value → Value → Run Bool) (a b : Value) : Run Bool := do
  if identical a b then pure true
  else
    match ← listed? a, ← listed? b with
    | some xs, some ys =>
      if xs.size ≠ ys.size then pure false
      else return (← difference? same xs.toList ys.toList).isNone
    | _, _ => sameMappings same a b

-- Equality of values that are at most `depth` levels deep. An absent value cannot be compared.
def sameIn : (depth : Nat) → Value → Value → Run Bool
  | 0, _, _ => fail .tooDeep
  | depth + 1, a, b => do
    match a, b with
    | .absent x, .absent y =>
      if x.strict then refuse x else if y.strict then refuse y else pure true
    | .absent x, _ => if x.strict then refuse x else pure false
    | _, .absent y => if y.strict then refuse y else pure false
    | .scalar s, .scalar t => pure (s.same t)
    | .tuple xs, .tuple ys =>
      match ← difference? (sameIn depth) xs ys with
      | some _ => pure false
      | none => pure (xs.length == ys.length)
    | a, b => sameParts (sameIn depth) a b

def same (a b : Value) : Run Bool :=
  sameIn maxDepth a b

-- Equality of something with a part of something.
def sameItem (a b : Value) : Run Bool :=
  if identical a b then pure true else same a b

-- Sequences are ordered by their first items that differ.
def orderSequences (r : Relation) (order : Value → Value → Run Bool) (xs ys : List Value) : Run Bool := do
  match ← difference? same xs ys with
  | some (x, y) => order x y
  | none => pure (r.admits (compare xs.length ys.length))

-- Sets are ordered by inclusion.
def orderMembers (r : Relation) (a b : Value) : Run Bool := do
  match ← members? a, ← members? b with
  | some xs, some ys =>
    let n := xs.length
    let m := ys.length
    match r with
    | .lt => if n < m then allMembers same b xs else pure false
    | .le => if n ≤ m then allMembers same b xs else pure false
    | .gt => if m < n then allMembers same a ys else pure false
    | _ => if m ≤ n then allMembers same a ys else pure false
  | _, _ => fail .wrongType

def orderParts (r : Relation) (order : Value → Value → Run Bool) (a b : Value) : Run Bool := do
  match ← listed? a, ← listed? b with
  | some xs, some ys => orderSequences r order xs.toList ys.toList
  | _, _ => orderMembers r a b

-- The order of values.
def orderIn (r : Relation) : (depth : Nat) → Value → Value → Run Bool
  | 0, _, _ => fail .tooDeep
  | depth + 1, a, b =>
    match a, b with
    | .absent x, _ => refuse x
    | _, .absent y => refuse y
    | .scalar s, .scalar t =>
      match s.order? t with
      | some o => pure (o.any r.admits)
      | none => fail .wrongType
    | .tuple xs, .tuple ys => orderSequences r (orderIn r depth) xs ys
    | a, b => orderParts r (orderIn r depth) a b

def ordered (r : Relation) (a b : Value) : Run Bool :=
  orderIn r maxDepth a b

-- Whether `a` comes before `b`.
def before (a b : Value) : Run Bool :=
  ordered .lt a b

def anySame (x : Value) : List Value → Run Bool
  | [] => pure false
  | y :: rest => do if ← sameItem y x then pure true else anySame x rest

-- Whether an item that is equal is handed out; what was handed out before it is gone.
def anyHandedOut (x : Value) (walk : Nat) : (fuel : Nat) → Run Bool
  | 0 => fail .endless
  | fuel + 1 => do
    match ← advance walk with
    | none => pure false
    | some y => if ← sameItem y x then pure true else anyHandedOut x walk fuel

-- Whether bytes stand somewhere in others.
def bytesWithin (part : List UInt8) : List UInt8 → Bool
  | [] => part.isEmpty
  | b :: rest => part.isPrefixOf (b :: rest) || bytesWithin part rest

def isTerm (x start stop step : Int) : Bool :=
  if 0 < step then start ≤ x && x < stop && (x - start) % step == 0
  else stop < x && x ≤ start && (start - x) % (-step) == 0

-- Whether a number that is not written as a whole one amounts to a term.
def amountsToTerm (x : Scalar) (start stop step : Int) : Bool :=
  match x.onLine with
  | .float y =>
    match Float.truncated? y with
    | some i => floatOfInt i == y && isTerm i start stop step
    | none => false
  | _ => false

-- Whether `x` is among the items of `v`; for a text, whether it is a part of it.
def isIn (x v : Value) : Run Bool := do
  let inText := fun (s : Text) =>
    match x with
    | .scalar (.str t) => pure (Text.holds t s)
    | .scalar (.safe t) => pure (Text.holds t s)
    | _ => fail .wrongType
  match v with
  | .scalar (.str s) => inText s
  | .scalar (.safe s) => inText s
  | .scalar (.bytes bs) =>
    match x with
    | .scalar (.bytes part) => pure (bytesWithin part bs)
    | .scalar (.int i) => if 0 ≤ i ∧ i < 256 then pure (bs.any (·.toNat == i.toNat)) else fail .wrongValue
    | .scalar (.bool b) => pure (bs.any (·.toNat == if b then 1 else 0))
    | _ => fail .wrongType
  | .scalar (.range start stop step) =>
    match x with
    | .scalar (.int i) => pure (isTerm i start stop step)
    | .scalar (.bool b) => pure (isTerm (if b then 1 else 0) start stop step)
    | .absent a =>
      if a.strict && rangeLength start stop step ≠ 0 then refuse a else pure false
    | .scalar s => pure (amountsToTerm s start stop step)
    | _ => pure false
  | .view entries => return (← inView? entries (← asKey x)).isSome
  | .set .. => isMember same x v
  | .tuple items => anySame x items
  | .part .values address => anySame x (listedEntries .values (← tableAt address))
  | .part .. => isMember same x v
  | .ref address =>
    match ← cell? address with
    | some (.dict t) => return (t.find? (← asKey x)).isSome
    | some (.list items) => anySame x items.toList
    | _ => anyHandedOut x (← walkOf v) maxSearch
  | v => anyHandedOut x (← walkOf v) maxSearch

def relation (r : Relation) (a b : Value) : Run Bool := do
  match r with
  | .eq => same a b
  | .ne => return !(← same a b)
  | .isIn => isIn a b
  | .notIn => return !(← isIn a b)
  | r => ordered r a b

end Run

end BraceTemplate.Host

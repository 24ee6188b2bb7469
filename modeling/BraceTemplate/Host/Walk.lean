import BraceTemplate.Host.Run

namespace BraceTemplate.Host.Run

def listedEntries (p : Part) (t : Table Value) : List Value :=
  listedPart (fun k v => .tuple [k, v]) t.pairs p

def listedEntry (p : Part) (e : Entry Value) : Value :=
  match p with
  | .keys => e.key
  | .values => e.value
  | .items => .tuple [e.key, e.value]

def scalarItems? : Scalar → Option (List Value)
  | .str s => some (s.map fun c => .str [c])
  | .safe s => some (s.map fun c => .str [c])
  | .bytes bs => some (bs.map fun b => .int b.toNat)
  | .range start stop step => some ((rangeItems start stop step).map .int)
  | _ => none

-- The items of a value that cannot be changed.
def fixedItems? : Value → Option (List Value)
  | .scalar s => scalarItems? s
  | .tuple items => some items
  | .set _ items => some items
  | .view entries => some (entries.map (·.1))
  | _ => none

-- Whether a value that cannot be changed is made of items.
def hasFixedItems : Value → Bool
  | .scalar (.range _ _ _) => true
  | v => (fixedItems? v).isSome

-- Starts to walk through a value. What hands out items itself is asked where it stands.
def walkOf (v : Value) : Run Nat := do
  match v with
  | .ref address =>
    match ← cell? address with
    | some (.list _) => newWalk "list_iterator" (.list address 0)
    | some (.dict t) => newWalk "dict_keyiterator" (.entries .keys address 0 t.size t.size)
    | some (.walk _ _) => pure address
    | some (.generator _ _) => pure address
    | some (.loop _) => pure address
    | _ => fail .wrongType
  | .scalar (.range start stop step) =>
    newWalk "range_iterator" (.terms start step (rangeLength start stop step))
  | .part p address =>
    let n := (← tableAt address).size
    newWalk "dict_iterator" (.entries p address 0 n n)
  | .absent a => if a.strict then refuse a else newWalk "generator" .over
  | v =>
    match fixedItems? v with
    | some items => newWalk "iterator" (.rest items)
    | none => fail .wrongType

-- The next item of a walk, which moves on. A walk that came to its end stays there; a mapping that has
-- grown or shrunk cannot be walked on, nor one in which more entries turn up than it had.
def stepWalk (address : Nat) (kind : Text) (w : Walk) : Run (Option Value) := do
  let go := fun (next : Walk) (v : Value) => do
    update address (.walk kind next)
    pure (some v)
  let stop := do
    update address (.walk kind .over)
    pure none
  match w with
  | .over => pure none
  | .rest [] => stop
  | .rest (v :: items) => go (.rest items) v
  | .terms _ _ 0 => stop
  | .terms n step (left + 1) => go (.terms (n + step) step left) (.int n)
  | .list source index =>
    match ← cell? source with
    | some (.list items) =>
      match items[index]? with
      | some v => go (.list source (index + 1)) v
      | none => stop
    | _ => stop
  | .listBack source index =>
    match ← cell? source with
    | some (.list items) =>
      match index, items[index - 1]? with
      | n + 1, some v => go (.listBack source n) v
      | _, _ => stop
    | _ => stop
  | .entries p source slot size left =>
    let t ← tableAt source
    if t.size ≠ size then fail .changedWhileRead
    else
      match t.next? slot, left with
      | some (e, next), left + 1 => go (.entries p source next size left) (listedEntry p e)
      | some _, 0 => fail .changedWhileRead
      | none, _ => stop
  | .entriesBack p source slot size =>
    let t ← tableAt source
    if t.size ≠ size then fail .changedWhileRead
    else
      match t.previous? slot with
      | some (e, next) => go (.entriesBack p source next size) (listedEntry p e)
      | none => stop

-- A search for the next item gives up after so many that were passed over.
def maxSearch : Nat := 10000000

-- The first item that work on the items of a source gives. Work that fails or comes to an end is not
-- taken up again.
def search (next : Run (Option Value)) (address walk : Nat) : (fuel : Nat) → Work →
    Run (Option Value)
  | 0, _ => fail .endless
  | fuel + 1, work => do
    match ← next with
    | none => pure none
    | some v =>
      match ← (← read).perform work v with
      | (some x, work) =>
        update address (.generator work (.walking walk))
        pure (some x)
      | (none, work) => search next address walk fuel work

-- The next item from what hands out items, which may in turn ask others, `reach` of them at most.
-- A loop hands out its item and itself.
def pull : (reach : Nat) → (address : Nat) → Run (Option Value)
  | 0, _ => fail .tooDeep
  | reach + 1, address => do
    match ← cell? address with
    | some (.walk kind w) => stepWalk address kind w
    | some (.generator work source) =>
      update address (.generator work .spent)
      match source with
      | .spent => pure none
      | .walking walk => search (pull reach walk) address walk maxSearch work
      | .fresh v =>
        match ← (← read).prepare work v with
        | none => pure none
        | some work =>
          let walk ← walkOf v
          search (pull reach walk) address walk maxSearch work
    | some (.loop l) =>
      let found ← match l.after with
        | some v => pure (some v)
        | none => pull reach l.walk
      match found with
      | none => pure none
      | some v =>
        update address (.loop { l with
          index := l.index + 1, after := none, before := l.current, current := some v })
        pure (some (.tuple [v, .ref address]))
    | _ => pure none

-- What hands out items asks no more than so many others in turn.
def maxReach : Nat := 10000000

-- The next item, and the place moved on.
def advance (address : Nat) : Run (Option Value) :=
  pull maxReach address

-- Up to `count` items from a place on.
def take (address : Nat) : (count : Nat) → (acc : List Value) → Run (List Value)
  | 0, acc => pure acc.reverse
  | count + 1, acc => do
    match ← advance address with
    | none => pure acc.reverse
    | some v => take address count (v :: acc)

-- Goes through the items that are left, fewer than `fuel` of them.
def foldItems {σ : Type} (step : σ → Value → Run σ) (walk : Nat) : (fuel : Nat) → σ → Run σ
  | 0, _ => fail .endless
  | fuel + 1, acc => do
    match ← advance walk with
    | none => pure acc
    | some v =>
      let acc ← step acc v
      foldItems step walk fuel acc

-- How many items a walk has left, as far as that is known before they are handed out.
def leftOf (w : Walk) : Run Nat := do
  match w with
  | .over => pure 0
  | .rest items => pure items.length
  | .terms _ _ left => pure left
  | .list source index =>
    match ← cell? source with
    | some (.list items) => pure (items.size - index)
    | _ => pure 0
  | .listBack _ index => pure index
  | .entries _ _ _ _ left => pure left
  | .entriesBack _ _ _ size => pure size

def itemsLeft (address : Nat) : Run Nat := do
  match ← cell? address with
  | some (.walk _ w) => leftOf w
  | some (.loop l) =>
    match ← cell? l.walk with
    | some (.walk _ w) => leftOf w
    | _ => pure 0
  | _ => pure 0

-- Goes through the items that are left. What goes on handing out items is given up at some point.
def foldAll {σ : Type} (step : σ → Value → Run σ) (walk : Nat) (acc : σ) : Run σ := do
  foldItems step walk (maxSearch + (← itemsLeft walk)) acc

-- All items that are left.
def drain (address : Nat) : Run (List Value) :=
  take address maxSearch []

-- The items that a value is made of, in order. What hands out items hands out those that are left.
def items (v : Value) : Run (List Value) := do
  match v with
  | .ref address =>
    match ← cell? address with
    | some (.list items) => pure items.toList
    | some (.dict t) => pure (listedEntries .keys t)
    | _ => drain (← walkOf v)
  | .part p address => return listedEntries p (← tableAt address)
  | v =>
    match fixedItems? v with
    | some items => pure items
    | none => drain (← walkOf v)

-- The number of items of a value that knows it without handing them out; loops are asked by `ofLoop`.
def lengthWith (ofLoop : Nat → Run Nat) (v : Value) : Run (Option Nat) := do
  match v with
  | .scalar (.range start stop step) => pure (some (rangeLength start stop step))
  | .ref address =>
    match ← cell? address with
    | some (.list items) => pure (some items.size)
    | some (.dict t) => pure (some t.size)
    | some (.loop _) => some <$> ofLoop address
    | _ => pure none
  | .part _ address => return some (← tableAt address).size
  | .absent a => if a.strict then refuse a else pure (some 0)
  | v => pure ((fixedItems? v).map List.length)

-- How many rounds a loop has. It is counted when first asked for; what cannot be counted is handed out
-- for that, and kept.
def loopLength : (reach : Nat) → (address : Nat) → Run Nat
  | 0, _ => fail .tooDeep
  | reach + 1, address => do
    match ← cell? address with
    | some (.loop l) =>
      match l.length with
      | some n => pure n
      | none =>
        match ← lengthWith (loopLength reach) l.items with
        | some n =>
          update address (.loop { l with length := some n })
          pure n
        | none =>
          let rest ← drain l.walk
          let walk ← newWalk "list_iterator" (.rest rest)
          let n := rest.length + l.index + (if l.after.isSome then 1 else 0)
          update address (.loop { l with walk, length := some n })
          pure n
    | _ => pure 0

def length? (v : Value) : Run (Option Nat) :=
  lengthWith (loopLength maxReach) v

def length (v : Value) : Run Nat := do
  match ← length? v with
  | some n => pure n
  | none => fail .wrongType

-- A loop over a value.
def newLoop (v : Value) : Run Nat := do
  let walk ← walkOf v
  match ← allocate (.loop ⟨v, walk, 0, none, none, none, none, none⟩) with
  | .ref address => pure address
  | _ => pure walk

-- The item of the next round, looked at before its turn.
def loopNext (address : Nat) (l : Loop) : Run (Option Value) := do
  match l.after with
  | some v => pure (some v)
  | none =>
    let found ← advance l.walk
    update address (.loop { l with after := found })
    pure found

def truth (v : Value) : Run Bool := do
  match v with
  | .scalar s => pure s.truth
  | .ref address =>
    match ← cell? address with
    | some (.list items) => pure (!items.isEmpty)
    | some (.dict t) => pure (!t.isEmpty)
    | some (.loop _) => return (← length v) != 0
    | _ => pure true
  | .tuple items => pure (!items.isEmpty)
  | .set _ items => pure (!items.isEmpty)
  | .view entries => pure (!entries.isEmpty)
  | .part _ address => return !(← tableAt address).isEmpty
  | .absent a => if a.strict then refuse a else pure false
  | _ => pure true

-- The text that a value is put out as.
def text (v : Value) : Run Text := do
  match v with
  | .absent a => if a.strict then refuse a else pure []
  | .scalar s => if s.writable then pure s.printed else fail .wrongValue
  | v =>
    match v with
    | .ref address =>
      match ← cell? address with
      | some (.loop _) => let _ ← length v
      | _ => pure ()
    | _ => pure ()
    let d ← reify v
    writable d
    pure d.printed

-- A pair of values that is handed over in one.
def pairOf (v : Value) : Run (Value × Value) := do
  match ← items v with
  | [k, x] => pure (k, x)
  | _ => fail .wrongValue

-- Pairs of the keys and values of a mapping, of the positions and items of anything else.
def pairs (v : Value) : Run Value := do
  match ← mapping? v with
  | some entries => newList (entries.map fun (k, x) => .tuple [k, x])
  | none =>
    let values ← items v
    newList (values.zipIdx.map fun (x, i) => .tuple [.int i, x])

-- The values of a mapping; anything else as it is.
def values (v : Value) : Run Value := do
  match ← mapping? v with
  | some entries => newList (entries.map (·.2))
  | none => pure v

end BraceTemplate.Host.Run

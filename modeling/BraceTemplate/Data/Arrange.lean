namespace BraceTemplate.Arrange

variable {m : Type → Type} [Monad m] {α : Type}

-- How many items go on in the same direction after `last`: each before the one that precedes it when
-- `falling`, none of them otherwise.
def leadLength (before : α → α → m Bool) (falling : Bool) (last : α) : List α → m Nat
  | [] => pure 0
  | x :: rest => do
    if (← before x last) == falling then
      let more ← leadLength before falling x rest
      pure (more + 1)
    else pure 0

-- Where an item belongs between two places of an arranged array: behind all that do not come after it.
def place (before : α → α → m Bool) (x : α) (done : Array α) (lo hi : Nat) : m Nat :=
  if lo < hi then do
    let mid := lo + (hi - lo) / 2
    match done[mid]? with
    | none => pure lo
    | some y =>
      if ← before x y then place before x done lo mid else place before x done (mid + 1) hi
  else pure lo
termination_by hi - lo

def insertAll (before : α → α → m Bool) : Array α → List α → m (Array α)
  | done, [] => pure done
  | done, x :: rest => do
    let n ← place before x done 0 done.size
    insertAll before ((done.extract 0 n).push x ++ done.extract n done.size) rest

-- Arranges few items: what stands in order at the front is kept, or turned round if it falls, and the
-- others are put in one by one.
def few (before : α → α → m Bool) : List α → m (List α)
  | x :: y :: rest => do
    let falling ← before y x
    let count ← leadLength before falling y rest
    let lead := x :: y :: rest.take count
    let lead := if falling then lead.reverse else lead
    let done ← insertAll before lead.toArray (rest.drop count)
    pure done.toList
  | items => pure items

-- Joins two arranged lists; of equal items those of the first come first.
def merge (before : α → α → m Bool) : (fuel : Nat) → (acc : List α) → List α → List α → m (List α)
  | 0, acc, xs, ys => pure (acc.reverse ++ xs ++ ys)
  | _, acc, [], ys => pure (acc.reverse ++ ys)
  | _, acc, xs, [] => pure (acc.reverse ++ xs)
  | fuel + 1, acc, x :: xs, y :: ys => do
    if ← before y x then merge before fuel (y :: acc) (x :: xs) ys
    else merge before fuel (x :: acc) xs (y :: ys)

def fewLimit : Nat := 64

def halves (before : α → α → m Bool) : (fuel : Nat) → List α → m (List α)
  | 0, items => few before items
  | fuel + 1, items =>
    if items.length < fewLimit then few before items
    else do
      let n := items.length / 2
      let first ← halves before fuel (items.take n)
      let second ← halves before fuel (items.drop n)
      merge before items.length [] first second

-- Items arranged so that each stands behind those that come before it. Items of which neither comes
-- before the other keep their order. An order that contradicts itself leaves few items as binary
-- insertion does.
def sort (before : α → α → m Bool) (items : List α) : m (List α) :=
  halves before items.length items

-- The same from the last to the first, equal items still in the order that they had.
def sortDown (before : α → α → m Bool) (items : List α) : m (List α) := do
  let done ← sort before items.reverse
  pure done.reverse

end BraceTemplate.Arrange

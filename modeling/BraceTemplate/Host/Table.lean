import BraceTemplate.Data.Datum

namespace BraceTemplate.Host

-- An entry of a mapping: the key as it was given and what it is compared by, and the value.
structure Entry (α : Type) where
  key : α
  shape : Datum
  value : α
  deriving Inhabited

-- A mapping that can be changed. Entries stand in slots in the order in which they were added; one that
-- is taken out leaves a hole. When there is no room for another entry the holes are closed.
structure Table (α : Type) where
  slots : Array (Option (Entry α))
  room : Nat
  deriving Inhabited

namespace Table

variable {α : Type}

-- The least power of two, eight at least, that is no less than `n`.
def places (n : Nat) : Nat :=
  if n ≤ 8 then 8 else Nat.pow 2 (Nat.log2 (n - 1) + 1)

-- The room for further entries when `used` entries have just been put together.
def roomBeside (used : Nat) : Nat :=
  2 * places (3 * used) / 3 - used

-- The room that is left when `n` entries have been added to an empty mapping.
def roomAfter : Nat → Nat
  | 0 => roomBeside 0
  | n + 1 => (match roomAfter n with | 0 => roomBeside n | room => room) - 1

def empty : Table α :=
  ⟨#[], roomAfter 0⟩

def entries (t : Table α) : List (Entry α) :=
  t.slots.toList.filterMap id

def size (t : Table α) : Nat :=
  t.entries.length

def isEmpty (t : Table α) : Bool :=
  t.slots.all Option.isNone

-- The keys and values in order.
def pairs (t : Table α) : List (α × α) :=
  t.entries.map fun e => (e.key, e.value)

def holds (shape : Datum) : Option (Entry α) → Bool
  | some e => e.shape.same shape
  | none => false

def slot? (t : Table α) (shape : Datum) : Option Nat :=
  t.slots.findIdx? (holds shape)

def find? (t : Table α) (shape : Datum) : Option α :=
  ((t.slots.find? (holds shape)).join).map (·.value)

-- Adds an entry behind all others.
def add (t : Table α) (e : Entry α) : Table α :=
  if t.room = 0 then
    let kept := t.entries
    ⟨((kept.map some).toArray).push (some e), roomBeside kept.length - 1⟩
  else ⟨t.slots.push (some e), t.room - 1⟩

-- Sets an entry: an equal key keeps its place and its spelling, a new one goes last.
def set (t : Table α) (e : Entry α) : Table α :=
  match t.slot? e.shape with
  | some n =>
    { t with slots := t.slots.modify n fun old => old.map fun o => { o with value := e.value } }
  | none => t.add e

def erase (t : Table α) (shape : Datum) : Table α :=
  match t.slot? shape with
  | some n => { t with slots := t.slots.setIfInBounds n none }
  | none => t

-- The last entry, and the mapping without it and without the holes behind it.
def popLast? (t : Table α) : Option (Entry α × Table α) := do
  let e ← t.entries.getLast?
  let n ← t.slot? e.shape
  some (e, { t with slots := t.slots.extract 0 n })

-- A mapping of entries whose keys all differ.
def ofDistinct (entries : List (Entry α)) : Table α :=
  ⟨(entries.map some).toArray, roomAfter entries.length⟩

-- The first entry from a slot on, and the slot behind it.
def next? (t : Table α) (n : Nat) : Option (Entry α × Nat) :=
  (t.slots.toList.drop n).zipIdx.findSome? fun (e, i) => e.map fun e => (e, n + i + 1)

-- The last entry before a slot, and its own slot.
def previous? (t : Table α) (n : Nat) : Option (Entry α × Nat) :=
  (t.slots.toList.take n).zipIdx.reverse.findSome? fun (e, i) => e.map fun e => (e, i)

end Table

end BraceTemplate.Host

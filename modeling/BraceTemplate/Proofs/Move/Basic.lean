import BraceTemplate.Data.Dump
import BraceTemplate.Data.Pretty
import BraceTemplate.Host.Value

namespace BraceTemplate

namespace Host

-- How a store is put behind other cells. Its addresses count on from the cells below. Marks from a floor on
-- are counted on too; those under it stand for what was there before.
structure Move where
  below : Array Cell
  floor : Nat
  marks : Nat

namespace Move

def address (m : Move) (a : Nat) : Nat :=
  m.below.size + a

def mark (m : Move) (i : Nat) : Nat :=
  if i < m.floor then i else i + m.marks

variable {m : Move}

@[simp]
theorem address_inj {a b : Nat} : m.address a = m.address b ↔ a = b := by
  simp [address]

@[simp]
theorem mark_inj {i j : Nat} : m.mark i = m.mark j ↔ i = j := by
  unfold mark
  split <;> split <;> omega

@[simp]
theorem address_beq {a b : Nat} : (m.address a == m.address b) = (a == b) := by
  rw [Bool.eq_iff_iff]
  simp

@[simp]
theorem mark_beq {i j : Nat} : (m.mark i == m.mark j) = (i == j) := by
  rw [Bool.eq_iff_iff]
  simp

theorem mark_succ {i : Nat} (h : m.floor ≤ i) : m.mark (i + 1) = m.mark i + 1 := by
  unfold mark
  rw [if_neg (by omega), if_neg (by omega)]
  omega

end Move

-- What holds addresses or marks, and how it reads when they are counted anew.
class Movable (α : Type) where
  moved : Move → α → α

export Movable (moved)

-- What holds neither addresses nor marks.
class Plain (α : Type) : Prop

section Containers

variable {α β ε : Type} {m : Move}

instance (priority := low) [Plain α] : Movable α := ⟨fun _ x => x⟩

instance : Plain Unit := ⟨⟩
instance : Plain Bool := ⟨⟩
instance : Plain Nat := ⟨⟩
instance : Plain Int := ⟨⟩
instance : Plain Float := ⟨⟩
instance : Plain Text := ⟨⟩

instance [Movable α] : Movable (List α) := ⟨fun m => List.map (moved m)⟩
instance [Movable α] : Movable (Array α) := ⟨fun m => Array.map (moved m)⟩
instance [Movable α] : Movable (Option α) := ⟨fun m => Option.map (moved m)⟩
instance [Movable α] [Movable β] : Movable (α × β) := ⟨fun m p => (moved m p.1, moved m p.2)⟩
instance [Movable α] : Movable (Except ε α) := ⟨fun m => Except.map (moved m)⟩

@[simp]
theorem moved_plain [Plain α] (x : α) : moved m x = x := rfl

@[simp]
theorem moved_plain_eq_id [Plain α] : (moved m : α → α) = id := rfl

@[simp]
theorem moved_list [Movable α] (xs : List α) : moved m xs = xs.map (moved m) := rfl

@[simp]
theorem moved_array [Movable α] (xs : Array α) : moved m xs = xs.map (moved m) := rfl

@[simp]
theorem moved_option [Movable α] (x : Option α) : moved m x = x.map (moved m) := rfl

@[simp]
theorem moved_pair [Movable α] [Movable β] (x : α) (y : β) :
    moved m (x, y) = (moved m x, moved m y) := rfl

@[simp]
theorem fst_moved [Movable α] [Movable β] (p : α × β) : (moved m p).1 = moved m p.1 := rfl

@[simp]
theorem snd_moved [Movable α] [Movable β] (p : α × β) : (moved m p).2 = moved m p.2 := rfl

end Containers

end Host

namespace Scalar

variable {m : Host.Move}

-- A mark is all that a scalar can hold of the two.
def moved (m : Host.Move) : Scalar → Scalar
  | .nan i => .nan (m.mark i)
  | s => s

instance : Host.Movable Scalar := ⟨Scalar.moved⟩

@[simp]
theorem moved_eq (s : Scalar) : Host.moved m s = s.moved m := rfl

@[simp]
theorem typeName_moved (s : Scalar) : (s.moved m).typeName = s.typeName := by
  cases s <;> rfl

@[simp]
theorem quoted_moved (s : Scalar) : (s.moved m).quoted = s.quoted := by
  cases s <;> rfl

@[simp]
theorem printed_moved (s : Scalar) : (s.moved m).printed = s.printed := by
  cases s <;> rfl

@[simp]
theorem writable_moved (s : Scalar) : (s.moved m).writable = s.writable := by
  cases s <;> rfl

@[simp]
theorem number?_moved (s : Scalar) : (s.moved m).number? = s.number? := by
  cases s <;> rfl

@[simp]
theorem text?_moved (s : Scalar) : (s.moved m).text? = s.text? := by
  cases s <;> rfl

@[simp]
theorem truth_moved (s : Scalar) : (s.moved m).truth = s.truth := by
  cases s <;> rfl

@[simp]
theorem number?_onLine_moved (s : Scalar) : (s.moved m).onLine.number? = s.onLine.number? := by
  cases s <;> rfl

@[simp]
theorem same_moved (a b : Scalar) : (a.moved m).same (b.moved m) = a.same b := by
  unfold same
  rw [number?_onLine_moved, number?_onLine_moved]
  cases a <;> cases b <;> rfl

-- Marks tell the same things apart when they are counted anew.
@[simp]
theorem alike_moved (a b : Scalar) : (a.moved m).alike (b.moved m) = a.alike b := by
  have hsame := same_moved (m := m) a b
  cases a <;> cases b <;> first | exact hsame | simp [alike, moved]

@[simp]
theorem order?_moved (a b : Scalar) : (a.moved m).order? (b.moved m) = a.order? b := by
  unfold order?
  rw [number?_moved, number?_moved]
  cases a <;> cases b <;> rfl

@[simp]
theorem before?_moved (a b : Scalar) : (a.moved m).before? (b.moved m) = a.before? b := by
  rw [before?, before?, order?_moved]

end Scalar

namespace Datum

variable {m : Host.Move}

-- The kinds of what lives under no address: it has the same identity everywhere.
def fixedKinds : List Text :=
  ["StrictUndefined".toList, "Undefined".toList, "function".toList, "type".toList,
    "builtin_function_or_method".toList, "Macro".toList, "slice".toList, "MissingType".toList,
    "TemplateReference".toList]

mutual

def moved (m : Host.Move) : Datum → Datum
  | .scalar s => .scalar (s.moved m)
  | .list items => .list (movedItems m items)
  | .tuple items => .tuple (movedItems m items)
  | .set frozen items => .set frozen (movedItems m items)
  | .dict entries => .dict (movedEntries m entries)
  | .view entries => .view (movedEntries m entries)
  | .other kind identity shown =>
    .other kind (if fixedKinds.contains kind then identity else m.address identity) shown

def movedItems (m : Host.Move) : List Datum → List Datum
  | [] => []
  | d :: rest => d.moved m :: movedItems m rest

def movedEntries (m : Host.Move) : List (Datum × Datum) → List (Datum × Datum)
  | [] => []
  | (k, d) :: rest => (k.moved m, d.moved m) :: movedEntries m rest

end

instance : Host.Movable Datum := ⟨Datum.moved⟩

@[simp]
theorem moved_eq (d : Datum) : Host.moved m d = d.moved m := rfl

theorem movedItems_eq (items : List Datum) : movedItems m items = Host.moved m items := by
  induction items with
  | nil => rfl
  | cons d rest ih => rw [movedItems, ih]; rfl

theorem movedEntries_eq (entries : List (Datum × Datum)) :
    movedEntries m entries = Host.moved m entries := by
  induction entries with
  | nil => rfl
  | cons e rest ih => rw [movedEntries, ih]; rfl

-- What lives under no address stays where it is.
theorem moved_fixed {kind : Text} (h : kind ∈ fixedKinds) (identity : Nat) (shown : Text) :
    (other kind identity shown).moved m = other kind identity shown := by
  rw [moved, if_pos (List.contains_iff_mem.mpr h)]

theorem moved_loose {kind : Text} (h : kind ∉ fixedKinds) (address : Nat) (shown : Text) :
    (other kind address shown).moved m = other kind (m.address address) shown := by
  rw [moved, if_neg (mt List.contains_iff_mem.mp h)]

mutual

@[simp]
theorem quoted_moved : ∀ d : Datum, (d.moved m).quoted = d.quoted
  | .scalar s => s.quoted_moved
  | .list items => congrArg inBrackets (quotedItems_moved items)
  | .tuple items => congrArg inParens (quotedItems_moved items)
  | .set frozen items => congrArg (ofSet frozen) (quotedItems_moved items)
  | .dict entries => congrArg inBraces (quotedEntries_moved entries)
  | .view entries =>
    congrArg (fun shown => "mappingproxy(".toList ++ inBraces shown ++ [')']) (quotedEntries_moved entries)
  | .other .. => rfl

theorem quotedItems_moved : ∀ items, quotedItems (movedItems m items) = quotedItems items
  | [] => rfl
  | d :: rest => by rw [movedItems, quotedItems, quotedItems, quoted_moved d, quotedItems_moved rest]

@[simp]
theorem quotedEntries_moved : ∀ entries, quotedEntries (movedEntries m entries) = quotedEntries entries
  | [] => rfl
  | (k, d) :: rest => by
    rw [movedEntries, quotedEntries, quotedEntries, quoted_moved k, quoted_moved d, quotedEntries_moved rest]

end

@[simp]
theorem printed_moved (d : Datum) : (d.moved m).printed = d.printed := by
  cases d with
  | scalar s => exact s.printed_moved
  | view entries => exact congrArg inBraces (quotedEntries_moved entries)
  | _ => exact quoted_moved _

mutual

@[simp]
theorem endless_moved : ∀ d : Datum, (d.moved m).endless = d.endless
  | .scalar _ => rfl
  | .list items => endlessItems_moved items
  | .tuple items => endlessItems_moved items
  | .set _ items => endlessItems_moved items
  | .dict entries => endlessEntries_moved entries
  | .view entries => endlessEntries_moved entries
  | .other .. => rfl

theorem endlessItems_moved : ∀ items, endlessItems (movedItems m items) = endlessItems items
  | [] => rfl
  | d :: rest => by rw [movedItems, endlessItems, endlessItems, endless_moved d, endlessItems_moved rest]

theorem endlessEntries_moved : ∀ entries, endlessEntries (movedEntries m entries) = endlessEntries entries
  | [] => rfl
  | (k, d) :: rest => by
    rw [movedEntries, endlessEntries, endlessEntries, endless_moved k, endless_moved d,
      endlessEntries_moved rest]

end

mutual

@[simp]
theorem writable_moved : ∀ d : Datum, (d.moved m).writable = d.writable
  | .scalar s => s.writable_moved
  | .list items => writableItems_moved items
  | .tuple items => writableItems_moved items
  | .set _ items => writableItems_moved items
  | .dict entries => writableEntries_moved entries
  | .view entries => writableEntries_moved entries
  | .other .. => rfl

theorem writableItems_moved : ∀ items, writableItems (movedItems m items) = writableItems items
  | [] => rfl
  | d :: rest => by rw [movedItems, writableItems, writableItems, writable_moved d, writableItems_moved rest]

theorem writableEntries_moved : ∀ entries, writableEntries (movedEntries m entries) = writableEntries entries
  | [] => rfl
  | (k, d) :: rest => by
    rw [movedEntries, writableEntries, writableEntries, writable_moved k, writable_moved d,
      writableEntries_moved rest]

end

mutual

@[simp]
theorem hashable_moved : ∀ d : Datum, (d.moved m).hashable = d.hashable
  | .scalar _ => rfl
  | .list _ => rfl
  | .tuple items => hashableItems_moved items
  | .set .. => rfl
  | .dict _ => rfl
  | .view _ => rfl
  | .other .. => rfl

theorem hashableItems_moved : ∀ items, hashableItems (movedItems m items) = hashableItems items
  | [] => rfl
  | d :: rest => by rw [movedItems, hashableItems, hashableItems, hashable_moved d, hashableItems_moved rest]

end

@[simp]
theorem typeName_moved (d : Datum) : (d.moved m).typeName = d.typeName := by
  cases d with
  | scalar s => exact s.typeName_moved
  | set frozen items => cases frozen <;> rfl
  | _ => rfl

theorem length_movedItems (items : List Datum) : (movedItems m items).length = items.length := by
  rw [movedItems_eq, Host.moved_list, List.length_map]

theorem length_movedEntries (entries : List (Datum × Datum)) :
    (movedEntries m entries).length = entries.length := by
  rw [movedEntries_eq, Host.moved_list, List.length_map]

-- What is the same stays the same, and what differs stays different.
mutual

@[simp]
theorem same_moved : ∀ a b : Datum, (a.moved m).same (b.moved m) = a.same b
  | .scalar a, b => by cases b <;> simp [moved, same]
  | .list as, b => by cases b <;> simp [moved, same, sameItems_moved as]
  | .tuple as, b => by cases b <;> simp [moved, same, sameItems_moved as]
  | .set _ as, b => by cases b <;> simp [moved, same, length_movedItems, allIn_moved as]
  | .dict as, b => by cases b <;> simp [moved, same, length_movedEntries, allEntriesIn_moved as]
  | .view as, b => by cases b <;> simp [moved, same, length_movedEntries, allEntriesIn_moved as]
  | .other kind i _, b => by
    cases b with
    | other kind' j _ =>
        rw [moved, moved, same, same]
        by_cases h : kind = kind'
        · subst h
          split <;> simp
        · rw [beq_false_of_ne h, Bool.false_and, Bool.false_and]
    | _ => simp [moved, same]

theorem sameItems_moved : ∀ as bs, sameItems (movedItems m as) (movedItems m bs) = sameItems as bs
  | [], [] => rfl
  | [], _ :: _ => by simp [movedItems, sameItems]
  | _ :: _, [] => by simp [movedItems, sameItems]
  | a :: as, b :: bs => by
    rw [movedItems, movedItems, sameItems, sameItems, same_moved a b, sameItems_moved as bs]

theorem allIn_moved : ∀ as bs, allIn (movedItems m as) (movedItems m bs) = allIn as bs
  | [], _ => by rw [movedItems, allIn, allIn]
  | a :: as, bs => by
    rw [movedItems, allIn, allIn, allIn_moved as bs, movedItems_eq, Host.moved_list, List.any_map]
    congr 2
    funext b
    exact same_moved a b

theorem allEntriesIn_moved : ∀ as bs,
    allEntriesIn (movedEntries m as) (movedEntries m bs) = allEntriesIn as bs
  | [], _ => by rw [movedEntries, allEntriesIn, allEntriesIn]
  | (k, d) :: as, bs => by
    rw [movedEntries, allEntriesIn, allEntriesIn, allEntriesIn_moved as bs, movedEntries_eq, Host.moved_list,
      List.any_map]
    congr 2
    funext e
    exact congr (congrArg _ (same_moved k e.1)) (same_moved d e.2)

end

mutual

@[simp]
theorem before?_moved : ∀ a b : Datum, (a.moved m).before? (b.moved m) = a.before? b
  | .scalar a, b => by cases b <;> simp [moved, before?]
  | .list as, b => by cases b <;> simp [moved, before?, itemsBefore?_moved as]
  | .tuple as, b => by cases b <;> simp [moved, before?, itemsBefore?_moved as]
  | .set _ as, b => by cases b <;> simp [moved, before?, length_movedItems, allIn_moved as]
  | .dict as, b => by cases b <;> simp [moved, before?]
  | .view as, b => by cases b <;> simp [moved, before?]
  | .other .., b => by cases b <;> simp [moved, before?]

theorem itemsBefore?_moved : ∀ as bs,
    itemsBefore? (movedItems m as) (movedItems m bs) = itemsBefore? as bs
  | [], [] => rfl
  | [], _ :: _ => rfl
  | _ :: _, [] => rfl
  | a :: as, b :: bs => by
    rw [movedItems, movedItems, itemsBefore?, itemsBefore?, same_moved a b, before?_moved a b,
      itemsBefore?_moved as bs]

end

end Datum

end BraceTemplate

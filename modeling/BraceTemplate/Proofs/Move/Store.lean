import BraceTemplate.Proofs.Move.Basic
import BraceTemplate.Proofs.Tree.Outcome
import Mathlib.Data.List.Perm.Subperm

namespace BraceTemplate.Host

variable {m : Move}

-- The names of a call live under an address.
instance : Movable Frame := ⟨fun m frame => { frame with home := m.address frame.home }⟩

namespace Value

mutual

def moved (m : Move) : Value → Value
  | .scalar s => .scalar (s.moved m)
  | .tuple items => .tuple (movedItems m items)
  | .set frozen items => .set frozen (movedItems m items)
  | .view entries => .view (movedEntries m entries)
  | .ref address => .ref (m.address address)
  | .part p address => .part p (m.address address)
  | .absent a => .absent a
  | .builtin b => .builtin b
  | .method receiver name => .method (receiver.moved m) name
  | .defined name parameters body scope => .defined name parameters body (Movable.moved m scope)
  | .bounds start stop step => .bounds (start.moved m) (stop.moved m) (step.moved m)
  | .ended => .ended
  | .self => .self

def movedItems (m : Move) : List Value → List Value
  | [] => []
  | v :: rest => v.moved m :: movedItems m rest

def movedEntries (m : Move) : List (Value × Value) → List (Value × Value)
  | [] => []
  | (k, v) :: rest => (k.moved m, v.moved m) :: movedEntries m rest

end

instance : Movable Value := ⟨Value.moved⟩

@[simp]
theorem movedItems_eq (items : List Value) : movedItems m items = items.map (Movable.moved m) := by
  induction items with
  | nil => rfl
  | cons v rest ih => rw [movedItems, ih]; rfl

@[simp]
theorem movedEntries_eq (entries : List (Value × Value)) :
    movedEntries m entries = entries.map (Movable.moved m) := by
  induction entries with
  | nil => rfl
  | cons e rest ih => rw [movedEntries, ih]; rfl

end Value

section Values

variable (s : Scalar) (items : List Value) (entries : List (Value × Value)) (a : Nat) (v w u : Value)
  (name : Text)

@[simp]
theorem moved_scalar : moved m (Value.scalar s) = .scalar (s.moved m) := rfl

@[simp]
theorem moved_null : moved m Value.null = .null := rfl

@[simp]
theorem moved_bool (b : Bool) : moved m (Value.bool b) = .bool b := rfl

@[simp]
theorem moved_int (i : Int) : moved m (Value.int i) = .int i := rfl

@[simp]
theorem moved_str (s : Text) : moved m (Value.str s) = .str s := rfl

@[simp]
theorem moved_missing (message : Text) : moved m (Value.missing message) = .missing message := rfl

@[simp]
theorem moved_tuple : moved m (Value.tuple items) = .tuple (items.map (moved m)) :=
  congrArg Value.tuple (Value.movedItems_eq items)

@[simp]
theorem moved_set (frozen : Bool) : moved m (Value.set frozen items) = .set frozen (items.map (moved m)) :=
  congrArg (Value.set frozen) (Value.movedItems_eq items)

@[simp]
theorem moved_view : moved m (Value.view entries) = .view (entries.map (moved m)) :=
  congrArg Value.view (Value.movedEntries_eq entries)

@[simp]
theorem moved_ref : moved m (Value.ref a) = .ref (m.address a) := rfl

@[simp]
theorem moved_part (p : Part) : moved m (Value.part p a) = .part p (m.address a) := rfl

@[simp]
theorem moved_absent (a : Absence) : moved m (Value.absent a) = .absent a := rfl

@[simp]
theorem moved_builtin (b : Builtin) : moved m (Value.builtin b) = .builtin b := rfl

@[simp]
theorem moved_method : moved m (Value.method v name) = .method (moved m v) name := rfl

@[simp]
theorem moved_defined (parameters : List Parameter) (body : List Node) (scope : Scope) :
    moved m (Value.defined name parameters body scope) = .defined name parameters body (moved m scope) := rfl

@[simp]
theorem moved_bounds : moved m (Value.bounds v w u) = .bounds (moved m v) (moved m w) (moved m u) := rfl

@[simp]
theorem moved_ended : moved m Value.ended = .ended := rfl

@[simp]
theorem moved_self : moved m Value.self = .self := rfl

end Values

instance : Plain Part := ⟨⟩
instance : Plain Expr := ⟨⟩
instance : Plain Node := ⟨⟩
instance : Plain Target := ⟨⟩
instance : Plain Parameter := ⟨⟩

namespace Table

variable {α : Type} [Movable α] (t : Table α) (shape : Datum)

instance : Movable (Entry α) := ⟨fun m e => ⟨moved m e.key, e.shape.moved m, moved m e.value⟩⟩

instance : Movable (Table α) := ⟨fun m t => { t with slots := moved m t.slots }⟩

@[simp]
theorem moved_entry (k v : α) : moved m (⟨k, shape, v⟩ : Entry α) = ⟨moved m k, shape.moved m, moved m v⟩ := rfl

@[simp]
theorem key_moved (e : Entry α) : (moved m e).key = moved m e.key := rfl

@[simp]
theorem value_moved (e : Entry α) : (moved m e).value = moved m e.value := rfl

@[simp]
theorem moved_mk (slots : Array (Option (Entry α))) (room : Nat) :
    moved m (⟨slots, room⟩ : Table α) = ⟨slots.map (Option.map (moved m)), room⟩ := rfl

@[simp]
theorem slots_moved : (moved m t).slots = t.slots.map (Option.map (moved m)) := rfl

@[simp]
theorem room_moved : (moved m t).room = t.room := rfl

@[simp]
theorem moved_empty : moved m (empty : Table α) = empty := by
  simp [empty]

@[simp]
theorem entries_moved : (moved m t).entries = t.entries.map (moved m) := by
  rw [entries, slots_moved, Array.toList_map, List.filterMap_map, entries, List.map_filterMap]
  rfl

@[simp]
theorem size_moved : (moved m t).size = t.size := by
  rw [size, size, entries_moved, List.length_map]

@[simp]
theorem isEmpty_moved : (moved m t).isEmpty = t.isEmpty := by
  rw [isEmpty, slots_moved, Array.all_map, isEmpty]
  congr 1
  funext e
  cases e <;> rfl

@[simp]
theorem pairs_moved : (moved m t).pairs = t.pairs.map (moved m) := by
  rw [pairs, pairs, entries_moved, List.map_map, List.map_map]
  rfl

-- Keys are told apart as before.
theorem holds_moved : holds (α := α) (shape.moved m) ∘ Option.map (moved m) = holds shape := by
  funext e
  cases e with
  | none => rfl
  | some e => exact Datum.same_moved e.shape shape

@[simp]
theorem slot?_moved : (moved m t).slot? (shape.moved m) = t.slot? shape := by
  rw [slot?, slots_moved, Array.findIdx?_map, holds_moved, slot?]

@[simp]
theorem find?_moved : (moved m t).find? (shape.moved m) = (t.find? shape).map (moved m) := by
  rw [find?, slots_moved, Array.find?_map, holds_moved, find?]
  rcases t.slots.find? (holds shape) with _ | _ | e <;> rfl

@[simp]
theorem add_moved (e : Entry α) : (moved m t).add (moved m e) = moved m (t.add e) := by
  unfold add
  rw [room_moved, entries_moved]
  split <;> simp

@[simp]
theorem set_moved (e : Entry α) : (moved m t).set (moved m e) = moved m (t.set e) := by
  unfold set
  have hslot : (moved m t).slot? (moved m e).shape = t.slot? e.shape := slot?_moved t e.shape
  rw [hslot]
  cases t.slot? e.shape with
  | none => exact add_moved t e
  | some n =>
      simp only [moved_mk, slots_moved]
      congr 1
      apply Array.ext_getElem?
      intro i
      simp only [Array.getElem?_modify, Array.getElem?_map]
      split
      · rcases t.slots[i]? with _ | _ | o <;> rfl
      · rfl

@[simp]
theorem erase_moved : (moved m t).erase (shape.moved m) = moved m (t.erase shape) := by
  unfold erase
  rw [slot?_moved]
  cases t.slot? shape with
  | none => rfl
  | some n => simp

theorem popLast?_moved : (moved m t).popLast? = t.popLast?.map (moved m) := by
  unfold popLast?
  rw [entries_moved, List.getLast?_map]
  rcases t.entries.getLast? with _ | e
  · rfl
  · change ((moved m t).slot? (e.shape.moved m)).bind _ = _
    rw [slot?_moved]
    cases h : t.slot? e.shape with
    | none => simp [h]
    | some n => simp [h]

@[simp]
theorem ofDistinct_moved (entries : List (Entry α)) :
    ofDistinct (entries.map (moved m)) = moved m (ofDistinct entries) := by
  simp [ofDistinct, Function.comp_def]

theorem next?_moved (n : Nat) : (moved m t).next? n = (t.next? n).map (moved m) := by
  rw [next?, next?, slots_moved, Array.toList_map, ← List.map_drop, List.zipIdx_map, List.findSome?_map,
    List.map_findSome?]
  congr 1
  funext ⟨e, i⟩
  cases e <;> rfl

theorem previous?_moved (n : Nat) : (moved m t).previous? n = (t.previous? n).map (moved m) := by
  rw [previous?, previous?, slots_moved, Array.toList_map, ← List.map_take, List.zipIdx_map, ← List.map_reverse,
    List.findSome?_map, List.map_findSome?]
  congr 1
  funext ⟨e, i⟩
  cases e <;> rfl

end Table

section Cells

instance : Movable Passed := ⟨fun m p => ⟨moved m p.args, moved m p.named⟩⟩

instance : Movable Definition := ⟨fun m d => { d with scope := moved m d.scope }⟩

def Walk.moved (m : Move) : Walk → Walk
  | .over => .over
  | .rest items => .rest (Movable.moved m items)
  | .terms next step left => .terms next step left
  | .list address index => .list (m.address address) index
  | .listBack address index => .listBack (m.address address) index
  | .entries part address slot size left => .entries part (m.address address) slot size left
  | .entriesBack part address slot size => .entriesBack part (m.address address) slot size

instance : Movable Walk := ⟨Walk.moved⟩

def Work.moved (m : Move) : Work → Work
  | .mapped p => .mapped (Movable.moved m p)
  | .unique caseSensitive path => .unique (Movable.moved m caseSensitive) (Movable.moved m path)
  | .follow steps fallback => .follow (Movable.moved m steps) (Movable.moved m fallback)
  | .filter name p => .filter (Movable.moved m name) (Movable.moved m p)
  | .distinct exact steps seen => .distinct exact (Movable.moved m steps) (Movable.moved m seen)
  | .passing scope target test => .passing (Movable.moved m scope) target test

instance : Movable Work := ⟨Work.moved⟩

def Source.moved (m : Move) : Source → Source
  | .fresh v => .fresh (Movable.moved m v)
  | .walking address => .walking (m.address address)
  | .spent => .spent

instance : Movable Source := ⟨Source.moved⟩

instance : Movable Loop := ⟨fun m l =>
  { l with
    items := moved m l.items, walk := m.address l.walk, after := moved m l.after
    current := moved m l.current, before := moved m l.before, changed := moved m l.changed }⟩

def Cell.moved (m : Move) : Cell → Cell
  | .list items => .list (Movable.moved m items)
  | .dict table => .dict (Movable.moved m table)
  | .namespace table => .namespace (Movable.moved m table)
  | .names values => .names (Movable.moved m values)
  | .walk kind w => .walk kind (Movable.moved m w)
  | .generator work source => .generator (Movable.moved m work) (Movable.moved m source)
  | .loop l => .loop (Movable.moved m l)

instance : Movable Cell := ⟨Cell.moved⟩

section

variable (t : Table Value) (a i n k : Nat) (p : Part) (w : Work)

@[simp]
theorem moved_listCell (items : Array Value) : moved m (Cell.list items) = .list (items.map (moved m)) := rfl

@[simp]
theorem moved_dictCell : moved m (Cell.dict t) = .dict (moved m t) := rfl

@[simp]
theorem moved_namespaceCell : moved m (Cell.namespace t) = .namespace (moved m t) := rfl

@[simp]
theorem moved_namesCell (values : List (Nat × Text × Option Value)) :
    moved m (Cell.names values) = .names (values.map (moved m)) := rfl

@[simp]
theorem moved_walkCell (kind : Text) (w : Walk) : moved m (Cell.walk kind w) = .walk kind (moved m w) := rfl

@[simp]
theorem moved_generatorCell (source : Source) :
    moved m (Cell.generator w source) = .generator (moved m w) (moved m source) := rfl

@[simp]
theorem moved_loopCell (l : Loop) : moved m (Cell.loop l) = .loop (moved m l) := rfl

@[simp]
theorem moved_loop (v : Value) (length : Option Nat) (after current before : Option Value)
    (changed : Option (List Value)) :
    moved m (⟨v, a, i, length, after, current, before, changed⟩ : Loop) =
      ⟨moved m v, m.address a, i, length, after.map (moved m), current.map (moved m), before.map (moved m),
        changed.map (List.map (moved m))⟩ := rfl

@[simp]
theorem moved_over : moved m Walk.over = .over := rfl

@[simp]
theorem moved_rest (items : List Value) : moved m (Walk.rest items) = .rest (items.map (moved m)) := rfl

@[simp]
theorem moved_terms (next step : Int) : moved m (Walk.terms next step n) = .terms next step n := rfl

@[simp]
theorem moved_listWalk : moved m (Walk.list a i) = .list (m.address a) i := rfl

@[simp]
theorem moved_listBack : moved m (Walk.listBack a i) = .listBack (m.address a) i := rfl

@[simp]
theorem moved_entriesWalk : moved m (Walk.entries p a i n k) = .entries p (m.address a) i n k := rfl

@[simp]
theorem moved_entriesBack : moved m (Walk.entriesBack p a i n) = .entriesBack p (m.address a) i n := rfl

@[simp]
theorem moved_fresh (v : Value) : moved m (Source.fresh v) = .fresh (moved m v) := rfl

@[simp]
theorem moved_walking : moved m (Source.walking a) = .walking (m.address a) := rfl

@[simp]
theorem moved_spent : moved m Source.spent = .spent := rfl

end

@[simp]
theorem kindOf_moved (c : Cell) : kindOf (moved m c) = kindOf c := by
  cases c <;> rfl

-- A cell of a kind that only cells have.
def Cell.Loose (c : Cell) : Prop :=
  kindOf c ∉ Datum.fixedKinds

end Cells

namespace Store

-- A store behind the cells below.
instance : Movable Store := ⟨fun m s => ⟨m.below ++ s.cells.map (moved m), m.mark s.marks⟩⟩

-- A store that can be put behind other cells.
structure Fits (m : Move) (s : Store) : Prop where
  marks : m.floor ≤ s.marks
  kinds : ∀ a c, s.find? a = some c → c.Loose

variable (s : Store) (c : Cell) (a : Nat)

@[simp]
theorem find?_moved : (moved m s).find? (m.address a) = (s.find? a).map (moved m) := by
  change (m.below ++ s.cells.map (moved m))[m.below.size + a]? = s.cells[a]?.map (moved m)
  rw [Array.getElem?_append_right (Nat.le_add_right ..), Nat.add_sub_cancel_left, Array.getElem?_map]

@[simp]
theorem new_moved : (moved m s).new (moved m c) = (m.address (s.new c).1, moved m (s.new c).2) := by
  change (_, (⟨_, _⟩ : Store)) = (_, ⟨_, _⟩)
  simp [new, Move.address, moved]

@[simp]
theorem update_moved : (moved m s).update (m.address a) (moved m c) = moved m (s.update a c) := by
  change (⟨_, _⟩ : Store) = ⟨_, _⟩
  congr 1
  change (m.below ++ s.cells.map (moved m)).setIfInBounds (m.below.size + a) (moved m c) = _
  rw [Array.setIfInBounds_append_right (Nat.le_add_right ..), Nat.add_sub_cancel_left]
  simp [update]

variable {s} {c}

theorem Fits.new (h : s.Fits m) (hc : c.Loose) : (s.new c).2.Fits m where
  marks := h.marks
  kinds a c' ha := by
    have ha' : (s.cells.push c)[a]? = some c' := ha
    rw [Array.getElem?_push] at ha'
    split at ha'
    · exact Option.some.inj ha' ▸ hc
    · exact h.kinds a c' ha'

theorem Fits.update (h : s.Fits m) (hc : c.Loose) (a : Nat) : (s.update a c).Fits m where
  marks := h.marks
  kinds b c' hb := by
    have hb' : (s.cells.setIfInBounds a c)[b]? = some c' := hb
    rw [Array.getElem?_setIfInBounds] at hb'
    split at hb'
    · split at hb'
      · exact Option.some.inj hb' ▸ hc
      · cases hb'
    · exact h.kinds b c' hb'

-- A scalar from outside gets the same mark.
theorem marked_moved (h : s.Fits m) (v : Scalar) :
    (moved m s).marked v = (moved m (s.marked v).1, moved m (s.marked v).2) := by
  have hmark := Move.mark_succ h.marks
  have hanother : ((.scalar (.nan (moved m s).marks), { moved m s with marks := (moved m s).marks + 1 }) :
      Value × Store) = (.scalar (.nan (m.mark s.marks)), moved m { s with marks := s.marks + 1 }) :=
    congrArg (fun marks => ((.scalar (.nan (m.mark s.marks)), ⟨_, marks⟩) : Value × Store)) hmark.symm
  cases v with
  | float x =>
      unfold marked
      dsimp only
      split
      · exact hanother
      · rfl
  | nan i => exact hanother
  | _ => rfl

theorem Fits.marked (h : s.Fits m) (v : Scalar) : (s.marked v).2.Fits m := by
  have hanother : ({ s with marks := s.marks + 1 } : Store).Fits m := ⟨Nat.le_succ_of_le h.marks, h.kinds⟩
  cases v with
  | float x =>
      unfold Store.marked
      dsimp only
      split
      · exact hanother
      · exact h
  | nan i => exact hanother
  | _ => exact h

end Store

section Reify

variable {inner inner' : Nat → Datum}

theorem partKind_loose (p : Part) : partKind p ∉ Datum.fixedKinds := by
  cases p <;> decide

theorem shownPart_moved (p : Part) (entries : List (Datum × Datum)) :
    shownPart p (Datum.movedEntries m entries) = shownPart p entries := by
  have hpair : ∀ k d : Datum, (Datum.tuple [k.moved m, d.moved m]).quoted = (Datum.tuple [k, d]).quoted :=
    fun k d => Datum.quoted_moved (.tuple [k, d])
  rw [Datum.movedEntries_eq]
  cases p <;> simp [shownPart, listedPart, Function.comp_def, hpair]

mutual

-- A value stands for the same tree, if what lies under addresses does.
theorem reifyWith_moved (h : ∀ a, inner' (m.address a) = (inner a).moved m) :
    ∀ v : Value, (v.moved m).reifyWith inner' = (v.reifyWith inner).moved m
  | .scalar _ => rfl
  | .tuple items => congrArg Datum.tuple (reifyItems_moved h items)
  | .set frozen items => congrArg (Datum.set frozen) (reifyItems_moved h items)
  | .view entries => congrArg Datum.view (reifyEntries_moved h entries)
  | .ref a => h a
  | .part p a => by
    rw [Value.moved, Value.reifyWith, Value.reifyWith, h a]
    cases inner a with
    | dict entries =>
        rw [Datum.moved]
        dsimp only
        rw [shownPart_moved, Datum.moved_loose (partKind_loose p)]
    | _ => rfl
  | .absent a => by
    refine (Datum.moved_fixed ?_ _ _).symm
    split <;> decide
  | .builtin b => by cases b <;> exact (Datum.moved_fixed (by decide) _ _).symm
  | .method .. => (Datum.moved_fixed (by decide) _ _).symm
  | .defined .. => (Datum.moved_fixed (by decide) _ _).symm
  | .bounds start stop step => by
    rw [Value.moved, Value.reifyWith, Value.reifyWith, Datum.moved_fixed (by decide), reifyWith_moved h start,
      reifyWith_moved h stop, reifyWith_moved h step]
    simp
  | .ended => (Datum.moved_fixed (by decide) _ _).symm
  | .self => (Datum.moved_fixed (by decide) _ _).symm

theorem reifyItems_moved (h : ∀ a, inner' (m.address a) = (inner a).moved m) : ∀ items,
    reifyItems inner' (Value.movedItems m items) = Datum.movedItems m (reifyItems inner items)
  | [] => rfl
  | v :: rest => by
    rw [Value.movedItems, reifyItems, reifyItems, Datum.movedItems, reifyWith_moved h v, reifyItems_moved h rest]

theorem reifyEntries_moved (h : ∀ a, inner' (m.address a) = (inner a).moved m) : ∀ entries,
    reifyEntries inner' (Value.movedEntries m entries) = Datum.movedEntries m (reifyEntries inner entries)
  | [] => rfl
  | (k, v) :: rest => by
    rw [Value.movedEntries, reifyEntries, reifyEntries, Datum.movedEntries, reifyWith_moved h k,
      reifyWith_moved h v, reifyEntries_moved h rest]

end

namespace Store

variable {s : Store} {path : List Nat}

-- Addresses on a path are all different, so a path is never longer than there are cells.
theorem length_path_le (hpath : path.Nodup) (hlt : ∀ p ∈ path, p < s.cells.size) :
    path.length ≤ s.cells.size := by
  have hsub : path ⊆ List.range s.cells.size := fun p hp => List.mem_range.mpr (hlt p hp)
  simpa using (List.subperm_of_subset hpath hsub).length_le

theorem contains_map_address (path : List Nat) (a : Nat) :
    (path.map m.address).contains (m.address a) = path.contains a := by
  induction path with
  | nil => rfl
  | cons p rest ih => simp

-- A cell that is met again inside of itself is cut off; another one is shown by its tree.
theorem cutOff_moved {kind shown : Text} {tree tree' : Datum} (hkind : kind ∉ Datum.fixedKinds) (a : Nat)
    (h : path.contains a = false → tree' = tree.moved m) :
    (if (path.map m.address).contains (m.address a) then .other kind (m.address a) shown else tree') =
      (if path.contains a then .other kind a shown else tree).moved m := by
  rw [contains_map_address]
  cases hnew : path.contains a with
  | true => exact (Datum.moved_loose hkind _ _).symm
  | false => exact h hnew

-- The tree under an address is the same behind other cells. A budget that is no shorter than what is left of
-- the cells is never used up, so it does not matter which.
theorem deref_moved (h : s.Fits m) (budget budget' : Nat) (hpath : path.Nodup)
    (hlt : ∀ p ∈ path, p < s.cells.size) (hbudget : s.cells.size < budget + path.length)
    (hbudget' : s.cells.size < budget' + path.length) (a : Nat) :
    (moved m s).deref budget' (path.map m.address) (m.address a) = (s.deref budget path a).moved m := by
  induction budget generalizing budget' path a with
  | zero =>
      have := length_path_le hpath hlt
      omega
  | succ budget ih =>
      cases budget' with
      | zero =>
          have := length_path_le hpath hlt
          omega
      | succ budget' =>
          rw [deref, deref, find?_moved]
          cases hcell : s.find? a with
          | none => exact (Datum.moved_loose (by decide) _ _).symm
          | some c =>
              have hloose := h.kinds a c hcell
              have hinner : path.contains a = false → ∀ b,
                  (moved m s).deref budget' (m.address a :: path.map m.address) (m.address b) =
                    (s.deref budget (a :: path) b).moved m := by
                intro hnew b
                have hnot : a ∉ path := by simpa using hnew
                refine ih budget' (List.nodup_cons.mpr ⟨hnot, hpath⟩) ?_ ?_ ?_ b
                · simpa using ⟨lt_of_find? hcell, hlt⟩
                · simp only [List.length_cons]
                  omega
                · simp only [List.length_cons]
                  omega
              cases c with
              | list items =>
                  refine cutOff_moved hloose a fun hnew => ?_
                  change Datum.list (reifyItems _ (Array.map (moved m) items).toList) = _
                  rw [Array.toList_map, ← Value.movedItems_eq, reifyItems_moved (hinner hnew)]
                  rfl
              | dict table =>
                  refine cutOff_moved hloose a fun hnew => ?_
                  rw [Table.pairs_moved, ← Value.movedEntries_eq, reifyEntries_moved (hinner hnew)]
                  rfl
              | «namespace» table =>
                  refine cutOff_moved hloose a fun hnew => ?_
                  rw [Table.pairs_moved, ← Value.movedEntries_eq, reifyEntries_moved (hinner hnew)]
                  refine Eq.trans ?_ (Datum.moved_loose hloose _ _).symm
                  exact congrArg (fun shown => Datum.other _ _ ("<Namespace ".toList ++ shown ++ ['>']))
                    (Datum.quoted_moved (.dict _))
              | _ => exact (Datum.moved_loose hloose _ _).symm

@[simp]
theorem reify_moved (h : s.Fits m) (v : Value) : (moved m s).reify (moved m v) = (s.reify v).moved m := by
  refine reifyWith_moved (fun a => ?_) v
  have hsize : s.cells.size < ((moved m s).cells.size + 1) + ([] : List Nat).length := by
    change s.cells.size < (m.below ++ s.cells.map (moved m)).size + 1 + 0
    rw [Array.size_append, Array.size_map]
    omega
  exact deref_moved h (s.cells.size + 1) _ .nil (by simp) (by simp) hsize a

end Store

end Reify

end BraceTemplate.Host

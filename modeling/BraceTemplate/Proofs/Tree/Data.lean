import BraceTemplate.Host.Value

namespace BraceTemplate

namespace Scalar

-- Nothing, truth values, whole numbers and texts.
def isPlain : Scalar → Bool
  | .null => true
  | .bool _ => true
  | .int _ => true
  | .str _ => true
  | _ => false

end Scalar

namespace Datum

theorem same_str (x y : Text) : Datum.same (.str x) (.str y) = (x == y) := by
  simp only [Datum.same, Datum.str, Scalar.alike, Scalar.same, Scalar.onLine, Scalar.number?,
    Scalar.text?]

mutual

-- Data of lists, and of mappings from texts, within one another.
def isPlain : Datum → Bool
  | .scalar s => s.isPlain
  | .list items => plainItems items
  | .dict entries => plainEntries entries
  | _ => false

def plainItems : List Datum → Bool
  | [] => true
  | item :: rest => item.isPlain && plainItems rest

def plainEntries : List (Datum × Datum) → Bool
  | [] => true
  | (key, value) :: rest => isText key && value.isPlain && plainEntries rest

def isText : Datum → Bool
  | .scalar (.str _) => true
  | _ => false

end

theorem isText_iff {d : Datum} : d.isText = true ↔ ∃ s, d = .str s := by
  cases d with
  | scalar c => cases c <;> simp [isText, Datum.str]
  | _ => simp [isText, Datum.str]

end Datum

namespace Host

-- Cells that were there stay as they are.
structure Store.Grows (s s' : Store) : Prop where
  size : s.cells.size ≤ s'.cells.size
  cells : ∀ address < s.cells.size, s'.find? address = s.find? address

namespace Store

variable {s s' s'' : Store}

theorem Grows.refl (s : Store) : s.Grows s := ⟨Nat.le_refl _, fun _ _ => rfl⟩

theorem Grows.trans (h : s.Grows s') (h' : s'.Grows s'') : s.Grows s'' where
  size := Nat.le_trans h.size h'.size
  cells address ha := (h'.cells address (Nat.lt_of_lt_of_le ha h.size)).trans (h.cells address ha)

theorem grows_new (s : Store) (c : Cell) : s.Grows (s.new c).2 where
  size := by simp [new]
  cells address ha := by simp [new, find?, Array.getElem?_push, Nat.ne_of_lt ha]

theorem find?_new (s : Store) (c : Cell) : (s.new c).2.find? s.cells.size = some c := by
  simp [new, find?]

section Table

theorem pairs_ofDistinct (es : List (Entry Value)) :
    (Table.ofDistinct es).pairs = es.map fun e => (e.key, e.value) := by
  simp [Table.pairs, Table.entries, Table.ofDistinct]

theorem isEmpty_ofDistinct (es : List (Entry Value)) :
    (Table.ofDistinct es).isEmpty = es.isEmpty := by
  cases es <;> simp [Table.isEmpty, Table.ofDistinct]

theorem contains_eq_false {path : List Nat} {bound address : Nat} (hpath : ∀ p ∈ path, bound ≤ p)
    (ha : address < bound) : path.contains address = false := by
  rw [List.contains_eq_mem, decide_eq_false_iff_not]
  exact fun hm => Nat.not_le_of_lt ha (hpath address hm)

theorem le_of_mem_cons {path : List Nat} {bound address : Nat} (hpath : ∀ p ∈ path, bound ≤ p)
    (ha : address < bound) : ∀ p ∈ address :: path, address ≤ p := by
  intro p hp
  rcases List.mem_cons.mp hp with rfl | hp
  · exact Nat.le_refl p
  · exact Nat.le_of_lt (Nat.lt_of_lt_of_le ha (hpath p hp))

end Table

mutual

-- A value that stands for a tree of data, where all that it reaches in the store lies below a bound.
def Holds (s : Store) : Nat → Value → Datum → Prop
  | _, v, .scalar c => v = .scalar c ∧ c.isPlain = true
  | bound, v, .list items =>
    ∃ address vs, v = .ref address ∧ address < bound ∧
      s.find? address = some (.list vs.toArray) ∧ HoldsAll s address vs items
  | bound, v, .dict entries =>
    ∃ address loaded, v = .ref address ∧ address < bound ∧
      s.find? address = some (.dict (.ofDistinct loaded)) ∧ HoldsEntries s address loaded entries
  | _, _, _ => False

def HoldsAll (s : Store) : Nat → List Value → List Datum → Prop
  | _, vs, [] => vs = []
  | bound, vs, d :: rest => ∃ v others, vs = v :: others ∧ Holds s bound v d ∧ HoldsAll s bound others rest

def HoldsEntries (s : Store) : Nat → List (Entry Value) → List (Datum × Datum) → Prop
  | _, es, [] => es = []
  | bound, es, (k, d) :: rest =>
    ∃ e others, es = e :: others ∧ Holds s bound e.key k ∧ Holds s bound e.value d ∧
      HoldsEntries s bound others rest

end

mutual

theorem Holds.mono {bound bound' : Nat} (hb : bound ≤ bound')
    (hs : ∀ address < bound, s'.find? address = s.find? address) {v : Value} (d : Datum)
    (h : s.Holds bound v d) : s'.Holds bound' v d := by
  cases d with
  | scalar c => exact h
  | list items =>
      obtain ⟨address, vs, rfl, ha, hcell, hitems⟩ := h
      exact ⟨address, vs, rfl, Nat.lt_of_lt_of_le ha hb, (hs address ha).trans hcell,
        HoldsAll.mono (Nat.le_refl _) (fun a h => hs a (Nat.lt_trans h ha)) items hitems⟩
  | dict entries =>
      obtain ⟨address, loaded, rfl, ha, hcell, hentries⟩ := h
      exact ⟨address, loaded, rfl, Nat.lt_of_lt_of_le ha hb, (hs address ha).trans hcell,
        HoldsEntries.mono (Nat.le_refl _) (fun a h => hs a (Nat.lt_trans h ha)) entries hentries⟩
  | _ => exact h.elim

theorem HoldsAll.mono {bound bound' : Nat} (hb : bound ≤ bound')
    (hs : ∀ address < bound, s'.find? address = s.find? address) {vs : List Value}
    (items : List Datum) (h : s.HoldsAll bound vs items) : s'.HoldsAll bound' vs items := by
  cases items with
  | nil => exact h
  | cons d rest =>
      obtain ⟨v, others, rfl, hv, hothers⟩ := h
      exact ⟨v, others, rfl, Holds.mono hb hs d hv, HoldsAll.mono hb hs rest hothers⟩

theorem HoldsEntries.mono {bound bound' : Nat} (hb : bound ≤ bound')
    (hs : ∀ address < bound, s'.find? address = s.find? address) {es : List (Entry Value)}
    (entries : List (Datum × Datum)) (h : s.HoldsEntries bound es entries) :
    s'.HoldsEntries bound' es entries := by
  cases entries with
  | nil => exact h
  | cons entry rest =>
      obtain ⟨e, others, rfl, hk, hv, hothers⟩ := h
      exact ⟨e, others, rfl, Holds.mono hb hs entry.1 hk, Holds.mono hb hs entry.2 hv,
        HoldsEntries.mono hb hs rest hothers⟩

end

-- What is held is still held when the store has grown.
theorem Grows.holds (h : s.Grows s') {v : Value} {d : Datum} (hd : s.Holds s.cells.size v d) :
    s'.Holds s'.cells.size v d :=
  hd.mono h.size h.cells

mutual

-- Putting a tree of data into a store gives a value that stands for it.
theorem load_plain (d : Datum) (hd : d.isPlain = true) (s : Store) :
    s.Grows (s.load d).2 ∧ (s.load d).2.Holds (s.load d).2.cells.size (s.load d).1 d := by
  cases d with
  | scalar c =>
      have hload : s.load (.scalar c) = (.scalar c, s) := by
        cases c <;> first | rfl | exact absurd hd Bool.false_ne_true
      rw [hload]
      exact ⟨.refl s, rfl, hd⟩
  | list items =>
      obtain ⟨hgrows, hitems⟩ := loadItems_plain items hd s
      have hnew := grows_new (s.loadItems items).2 (.list (s.loadItems items).1.toArray)
      exact ⟨hgrows.trans hnew, _, _, rfl, by simp [load, new], find?_new _ _,
        hitems.mono (Nat.le_refl _) hnew.cells⟩
  | dict entries =>
      obtain ⟨hgrows, hentries⟩ := loadEntries_plain entries hd s
      have hnew := grows_new (s.loadEntries entries).2 (.dict (.ofDistinct (s.loadEntries entries).1))
      exact ⟨hgrows.trans hnew, _, _, rfl, by simp [load, new], find?_new _ _,
        hentries.mono (Nat.le_refl _) hnew.cells⟩
  | _ => exact absurd hd Bool.false_ne_true

theorem loadItems_plain (items : List Datum) (hd : Datum.plainItems items = true) (s : Store) :
    s.Grows (s.loadItems items).2 ∧
      (s.loadItems items).2.HoldsAll (s.loadItems items).2.cells.size (s.loadItems items).1 items := by
  cases items with
  | nil => exact ⟨.refl s, rfl⟩
  | cons d rest =>
      simp only [Datum.plainItems, Bool.and_eq_true] at hd
      obtain ⟨hfirst, hv⟩ := load_plain d hd.1 s
      obtain ⟨hothers, hvs⟩ := loadItems_plain rest hd.2 (s.load d).2
      exact ⟨hfirst.trans hothers, _, _, rfl, hothers.holds hv, hvs⟩

theorem loadEntries_plain (entries : List (Datum × Datum)) (hd : Datum.plainEntries entries = true)
    (s : Store) :
    s.Grows (s.loadEntries entries).2 ∧
      (s.loadEntries entries).2.HoldsEntries (s.loadEntries entries).2.cells.size
        (s.loadEntries entries).1 entries := by
  cases entries with
  | nil => exact ⟨.refl s, rfl⟩
  | cons entry rest =>
      obtain ⟨k, d⟩ := entry
      simp only [Datum.plainEntries, Bool.and_eq_true] at hd
      obtain ⟨⟨hk, hd⟩, hrest⟩ := hd
      obtain ⟨key, rfl⟩ := Datum.isText_iff.mp hk
      obtain ⟨hfirst, hv⟩ := load_plain d hd s
      obtain ⟨hothers, hvs⟩ := loadEntries_plain rest hrest (s.load d).2
      exact ⟨hfirst.trans hothers, _, _, rfl, ⟨rfl, rfl⟩, hothers.holds hv, hvs⟩

end

mutual

-- The tree that a value stands for is the one that it holds, as long as there is room to go down and
-- nothing on the way down comes again.
theorem Holds.reify {bound budget : Nat} (hb : bound ≤ budget) {path : List Nat}
    (hpath : ∀ p ∈ path, bound ≤ p) {v : Value} (d : Datum) (h : s.Holds bound v d) :
    v.reifyWith (s.deref budget path) = d := by
  cases d with
  | scalar c =>
      obtain ⟨rfl, -⟩ := h
      rw [Value.reifyWith]
  | list items =>
      obtain ⟨address, vs, rfl, ha, hcell, hitems⟩ := h
      obtain ⟨budget, rfl⟩ : ∃ n, budget = n + 1 := ⟨budget - 1, by omega⟩
      have hnot : path.contains address = false := contains_eq_false hpath ha
      have hinner : reifyItems (s.deref budget (address :: path)) vs = items :=
        HoldsAll.reify (by omega) (le_of_mem_cons hpath ha) items hitems
      rw [Value.reifyWith, deref, hcell]
      simp only [hnot, Bool.false_eq_true, if_false, hinner]
  | dict entries =>
      obtain ⟨address, loaded, rfl, ha, hcell, hentries⟩ := h
      obtain ⟨budget, rfl⟩ : ∃ n, budget = n + 1 := ⟨budget - 1, by omega⟩
      have hnot : path.contains address = false := contains_eq_false hpath ha
      have hinner : reifyEntries (s.deref budget (address :: path))
          (loaded.map fun e => (e.key, e.value)) = entries :=
        HoldsEntries.reify (by omega) (le_of_mem_cons hpath ha) entries hentries
      rw [Value.reifyWith, deref, hcell]
      simp only [hnot, Bool.false_eq_true, if_false, pairs_ofDistinct, hinner]
  | _ => exact h.elim

theorem HoldsAll.reify {bound budget : Nat} (hb : bound ≤ budget) {path : List Nat}
    (hpath : ∀ p ∈ path, bound ≤ p) {vs : List Value} (items : List Datum)
    (h : s.HoldsAll bound vs items) : reifyItems (s.deref budget path) vs = items := by
  cases items with
  | nil =>
      obtain rfl := h
      rfl
  | cons d rest =>
      obtain ⟨v, others, rfl, hv, hothers⟩ := h
      rw [reifyItems, Holds.reify hb hpath d hv, HoldsAll.reify hb hpath rest hothers]

theorem HoldsEntries.reify {bound budget : Nat} (hb : bound ≤ budget) {path : List Nat}
    (hpath : ∀ p ∈ path, bound ≤ p) {es : List (Entry Value)} (entries : List (Datum × Datum))
    (h : s.HoldsEntries bound es entries) :
    reifyEntries (s.deref budget path) (es.map fun e => (e.key, e.value)) = entries := by
  cases entries with
  | nil =>
      obtain rfl := h
      rfl
  | cons entry rest =>
      obtain ⟨k, d⟩ := entry
      obtain ⟨e, others, rfl, hk, hv, hothers⟩ := h
      rw [List.map_cons, reifyEntries, Holds.reify hb hpath k hk, Holds.reify hb hpath d hv,
        HoldsEntries.reify hb hpath rest hothers]

end

end Store

end Host

end BraceTemplate

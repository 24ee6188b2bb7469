import BraceTemplate.Proofs.Dotted.Prepare
import BraceTemplate.Proofs.Shown.Render

namespace BraceTemplate

open Host

namespace Host

namespace Store

variable {s s' : Store} {d : Datum} {v : Value}

-- A value that a tree of data was put into the store as, some time before.
def Loaded (s : Store) (d : Datum) (v : Value) : Prop :=
  ∃ before : Store, v = (before.load d).1 ∧ (before.load d).2.Grows s

theorem Grows.loaded (hs : s.Grows s') (h : s.Loaded d v) : s'.Loaded d v := by
  obtain ⟨before, rfl, hgrows⟩ := h
  exact ⟨before, rfl, hgrows.trans hs⟩

theorem loaded_load (d : Datum) (s : Store) : (s.load d).2.Loaded d (s.load d).1 :=
  ⟨s, rfl, .refl _⟩

theorem Loaded.keeps (h : s.Loaded d v) : s.Keeps d v := by
  obtain ⟨before, rfl, hgrows⟩ := h
  exact hgrows.keeps ⟨⟨before, rfl⟩, before.marks, (puts_load d before).settles⟩

theorem loaded_loadItems (items : List Datum) (s : Store) :
    List.Forall₂ (s.loadItems items).2.Loaded items (s.loadItems items).1 := by
  induction items generalizing s with
  | nil => exact .nil
  | cons d rest ih =>
      have hgrows := (puts_loadItems rest (s.load d).2).grows
      exact .cons (hgrows.loaded (loaded_load d s)) (ih (s.load d).2)

-- An entry of a mapping that was put into a store: a key is compared by its own shape.
structure LoadedEntry (s : Store) (entry : Datum × Datum) (e : Entry Value) : Prop where
  key : ∃ before : Store, e.shape = (before.load entry.1).1.shape
  value : s.Loaded entry.2 e.value

theorem loaded_loadEntries (entries : List (Datum × Datum)) (s : Store) :
    List.Forall₂ (s.loadEntries entries).2.LoadedEntry entries (s.loadEntries entries).1 := by
  induction entries generalizing s with
  | nil => exact .nil
  | cons entry rest ih =>
      obtain ⟨k, d⟩ := entry
      have hgrows := (puts_loadEntries rest ((s.load k).2.load d).2).grows
      exact .cons ⟨⟨s, rfl⟩, hgrows.loaded (loaded_load d _)⟩ (ih _)

theorem find?_of_grows_new {c : Cell} (h : (s.new c).2.Grows s') : s'.find? s.cells.size = some c := by
  have hlt : s.cells.size < (s.new c).2.cells.size := by simp [Store.new]
  rw [h.cells _ hlt, find?_new]

theorem Loaded.list {items : List Datum} (h : s.Loaded (.list items) v) :
    ∃ address values, v = .ref address ∧ s.find? address = some (.list values.toArray) ∧
      List.Forall₂ s.Loaded items values := by
  obtain ⟨before, rfl, hgrows⟩ := h
  refine ⟨_, _, rfl, find?_of_grows_new hgrows, ?_⟩
  have hall := (grows_new _ _).trans hgrows
  exact (loaded_loadItems items before).imp fun _ _ h => hall.loaded h

theorem Loaded.dict {entries : List (Datum × Datum)} (h : s.Loaded (.dict entries) v) :
    ∃ address loaded, v = .ref address ∧ s.find? address = some (.dict (.ofDistinct loaded)) ∧
      List.Forall₂ s.LoadedEntry entries loaded := by
  obtain ⟨before, rfl, hgrows⟩ := h
  refine ⟨_, _, rfl, find?_of_grows_new hgrows, ?_⟩
  have hall := (grows_new _ _).trans hgrows
  exact (loaded_loadEntries entries before).imp fun _ _ h => ⟨h.key, hall.loaded h.value⟩

end Store

theorem Table.find?_ofDistinct (loaded : List (Entry Value)) (shape : Datum) :
    (Table.ofDistinct loaded).find? shape = (loaded.find? (·.shape.same shape)).map (·.value) := by
  have hslots : (loaded.map some).find? (holds shape) = (loaded.find? (·.shape.same shape)).map some :=
    List.find?_map
  rw [find?, ofDistinct, List.find?_toArray, hslots]
  cases loaded.find? (·.shape.same shape) <;> rfl

section Keys

variable {s : Store} {entries : List (Datum × Datum)} {loaded : List (Entry Value)}

theorem same_str_of_isNan {c : Scalar} (hc : c.isNan = true) (t : Text) :
    (Datum.scalar c).same (.str t) = false := by
  rw [Datum.str, Datum.same]
  cases c with
  | float x => rfl
  | nan n => rfl
  | _ => cases hc

-- What a key is compared by is equal to a text where the key is.
theorem same_shape_load (k : Datum) (t : Text) (s : Store) :
    (s.load k).1.shape.same (.str t) = k.same (.str t) := by
  cases k with
  | scalar c =>
      rw [Store.load, Store.marked_eq]
      by_cases hc : c.isNan = true
      · rw [if_pos hc, Value.shape, Value.reifyWith, same_str_of_isNan rfl, same_str_of_isNan hc]
      · rw [if_neg hc, Value.shape, Value.reifyWith]
  | _ => simp [Store.load, Value.shape, Value.reifyWith, Value.missing, Datum.same, Datum.str]

-- What stands under a text in a mapping stands under it in the store as well.
theorem find?_loaded {t : Text} {d : Datum} (hall : List.Forall₂ s.LoadedEntry entries loaded)
    (hd : Datum.lookup? entries (.str t) = some d) :
    ∃ v, (Table.ofDistinct loaded).find? (.str t) = some v ∧ s.Loaded d v := by
  rw [Table.find?_ofDistinct]
  induction hall with
  | nil => cases hd
  | @cons entry e entries loaded hentry _ ih =>
      obtain ⟨before, hshape⟩ := hentry.key
      have hsame : e.shape.same (.str t) = entry.1.same (.str t) := by
        rw [hshape, same_shape_load]
      cases hkey : entry.1.same (.str t) with
      | true =>
          simp only [Datum.lookup?, List.find?_cons, hkey, Option.map_some, Option.some.injEq] at hd
          simp only [List.find?_cons, hsame.trans hkey, Option.map_some]
          exact ⟨e.value, rfl, hd ▸ hentry.value⟩
      | false =>
          simp only [Datum.lookup?, List.find?_cons, hkey] at hd
          simp only [List.find?_cons, hsame.trans hkey]
          exact ih hd

end Keys

open Run

theorem listItem?_index (values : Array Value) (n : Nat) :
    listItem? values (.scalar (Key.index n).scalar) = values[n]? := by
  have hindex : index? (.scalar (Key.index n).scalar) = some (n : Int) := rfl
  rw [listItem?, hindex, Option.bind_eq_bind, Option.bind_some, position?, if_pos (Int.natCast_nonneg n)]
  split_ifs with hn
  · rfl
  · simp only [Nat.cast_lt, not_lt] at hn
    exact (Array.getElem?_eq_none hn).symm

section Steps

variable {s : Store} {g : Setting} {d d' : Datum} {v : Value} {key : Key}

-- A step down into data is one down into the value that the data was put into the store as.
theorem Store.Loaded.gives_item? (h : s.Loaded d v) (hpart : d.part? key = some d') (g : Setting) :
    ∃ v', Gives (item? v (.scalar key.scalar)) g s (some v') s ∧ s.Loaded d' v' := by
  unfold Datum.part? at hpart
  split at hpart
  · next items n =>
      obtain ⟨address, values, rfl, hcell, hall⟩ := h.list
      obtain ⟨hn, rfl⟩ := List.getElem?_eq_some_iff.mp hpart
      have hn' : n < values.length := hall.length_eq ▸ hn
      refine ⟨values[n], (gives_cell? address).bind ?_, (List.forall₂_iff_get.mp hall).2 n hn hn'⟩
      rw [hcell]
      have hitem : listItem? values.toArray (.scalar (Key.index n).scalar) = some values[n] := by
        rw [listItem?_index, List.getElem?_toArray, List.getElem?_eq_getElem hn']
      exact congrArg (fun v? => (Except.ok v?, s)) hitem
  · next entries t =>
      obtain ⟨address, loaded, rfl, hcell, hall⟩ := h.dict
      obtain ⟨v', hfind, hloaded⟩ := find?_loaded hall hpart
      refine ⟨v', (gives_cell? address).bind ?_, hloaded⟩
      rw [hcell]
      have hshape : Gives (keyShape? (.scalar (Key.name t).scalar)) g s (some (.str t)) s := by
        have hreify : s.reify (.scalar (Key.name t).scalar) = .str t := by
          rw [Store.reify, Value.reifyWith]
          rfl
        exact (gives_reify hreify).bind (gives_pure _)
      refine hshape.bind ?_
      rw [Option.bind_some, hfind]
      exact gives_pure _
  · cases hpart

theorem Store.Loaded.gives_getItem (h : s.Loaded d v) (hpart : d.part? key = some d') (g : Setting) :
    ∃ v', Gives (getItem v (.scalar key.scalar)) g s v' s ∧ s.Loaded d' v' := by
  obtain ⟨v', hitem, hloaded⟩ := h.gives_item? hpart g
  exact ⟨v', hitem.bind (gives_pure _), hloaded⟩

theorem gives_written (key : Key) : Gives (written key.scalar) g s (.scalar key.scalar) s := by
  cases key <;> exact gives_pure _

-- Keys that are applied to an expression one after the other lead where they lead in the data.
theorem gives_subscribed {scope : Scope} {keys : List Key} {e : Expr}
    (hread : Gives (Run.eval scope e) g s v s) (h : s.Loaded d v)
    (hfollow : keys.foldlM Datum.part? d = some d') :
    ∃ v', Gives (Run.eval scope (Key.subscribed e keys)) g s v' s ∧ s.Loaded d' v' := by
  induction keys generalizing e v d with
  | nil =>
      obtain rfl : d = d' := Option.some.inj hfollow
      exact ⟨v, hread, h⟩
  | cons key keys ih =>
      rw [List.foldlM_cons, Option.bind_eq_bind, Option.bind_eq_some_iff] at hfollow
      obtain ⟨part, hpart, hrest⟩ := hfollow
      obtain ⟨v', hitem, hloaded⟩ := h.gives_getItem hpart g
      have hstep : Gives (Run.eval scope (.item e (.literal key.scalar))) g s v' s :=
        hread.bind ((gives_written key).bind hitem)
      exact ih hstep hloaded hrest

end Steps

end Host

theorem Datum.foldlM_keys {p : Dotted} {d : Datum} : p.keys.foldlM part? d = d.follow p.segments :=
  List.foldlM_map

end BraceTemplate

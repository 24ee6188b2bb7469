import BraceTemplate.Proofs.Tree.Values
import Mathlib.Data.List.Forall2

namespace BraceTemplate.Host

open Run

-- The items that a walk under an address still hands out.
inductive Store.Pending (s : Store) (w : Nat) : List Value → Prop where
  | rest {kind : Text} {items : List Value} (h : s.find? w = some (.walk kind (.rest items))) :
      Pending s w items
  | list {kind : Text} {source index : Nat} {items : Array Value}
      (h : s.find? w = some (.walk kind (.list source index)))
      (hs : s.find? source = some (.list items)) : Pending s w (items.toList.drop index)

namespace Store

variable {s s' s'' : Store} {home level w : Nat} {vs : List Value} {v : Value}

theorem IsHome.ne_of_find? (hs : s.IsHome home) {a : Nat} {c : Cell} (h : s.find? a = some c)
    (hc : ∀ values, c ≠ .names values) : a ≠ home := by
  rintro rfl
  obtain ⟨values, hv⟩ := hs
  exact hc values (Option.some.inj (h.symm.trans hv))

theorem Pending.lt (h : s.Pending w vs) : w < s.cells.size := by
  cases h with
  | rest h => exact lt_of_find? h
  | list h => exact lt_of_find? h

-- What runs in between does not touch a walk.
theorem Pending.after (h : s.Pending w vs) (hs : s.IsHome home) (h' : After home level s s') :
    s'.Pending w vs := by
  cases h with
  | rest h =>
      exact .rest ((h'.cells w (lt_of_find? h) (hs.ne_of_find? h (by simp))).trans h)
  | list h hsource =>
      exact .list ((h'.cells w (lt_of_find? h) (hs.ne_of_find? h (by simp))).trans h)
        ((h'.cells _ (lt_of_find? hsource) (hs.ne_of_find? hsource (by simp))).trans hsource)

-- A change of a cell that came later is no change of what was there.
theorem After.update (h : After home level s s') (hs : s.IsHome home) (hw : s.cells.size ≤ w)
    (c : Cell) : After home level s (s'.update w c) := by
  have hne : ∀ address < s.cells.size, address ≠ w := fun a ha => by omega
  have hhome : (s'.update w c).find? home = s'.find? home :=
    find?_update_of_ne (hne home hs.lt) c
  refine ⟨?_, fun address ha hno => ?_, fun hs => ?_, fun l hl x => ?_⟩
  · rw [size_update]
    exact h.size
  · rw [find?_update_of_ne (hne address ha)]
    exact h.cells address ha hno
  · obtain ⟨values, hv⟩ := h.isHome hs
    exact ⟨values, hhome.trans hv⟩
  · rw [named_congr hhome]
    exact h.named l hl x

end Store

section Advance

variable {g : Setting} {s s' : Store} {w : Nat} {vs : List Value} {v : Value}

theorem gives_advance_walk {kind : Text} {walk : Walk} {s' : Store} {v? : Option Value}
    (h : s.find? w = some (.walk kind walk)) (hstep : Gives (stepWalk w kind walk) g s v? s') :
    Gives (advance w) g s v? s' := by
  refine (gives_cell? w).bind ?_
  rw [h]
  exact hstep

-- The next item, after which the walk holds the others.
theorem gives_advance (h : s.Pending w (v :: vs)) :
    ∃ c, Gives (advance w) g s (some v) (s.update w c) ∧ (s.update w c).Pending w vs := by
  generalize hitems : v :: vs = all at h
  cases h with
  | rest h =>
      subst hitems
      exact ⟨_, gives_advance_walk h ((gives_update w _).bind (gives_pure _)),
        .rest (Store.find?_update_self (Store.lt_of_find? h) _)⟩
  | @list kind source index items h hs =>
      have hne : source ≠ w := by
        rintro rfl
        simp [h] at hs
      have hv : items[index]? = some v := by
        rw [← Array.getElem?_toList, ← List.head?_drop, ← hitems, List.head?_cons]
      have hvs : vs = items.toList.drop (index + 1) := by
        rw [← List.tail_drop, ← hitems, List.tail_cons]
      refine ⟨.walk kind (.list source (index + 1)), gives_advance_walk h ?_, ?_⟩
      · refine (gives_cell? source).bind ?_
        rw [hs]
        simp only [hv]
        exact (gives_update w _).bind (gives_pure _)
      · rw [hvs]
        exact .list (Store.find?_update_self (Store.lt_of_find? h) _)
          ((Store.find?_update_of_ne hne _).trans hs)

theorem gives_advance_end (h : s.Pending w []) :
    ∃ c, Gives (advance w) g s none (s.update w c) := by
  generalize hitems : [] = all at h
  cases h with
  | rest h =>
      subst hitems
      exact ⟨_, gives_advance_walk h ((gives_update w _).bind (gives_pure _))⟩
  | @list kind source index items h hs =>
      have hv : items[index]? = none := by
        rw [← Array.getElem?_toList, ← List.head?_drop, ← hitems, List.head?_nil]
      refine ⟨.walk kind .over, gives_advance_walk h ?_⟩
      refine (gives_cell? source).bind ?_
      rw [hs]
      simp only [hv]
      exact (gives_update w _).bind (gives_pure _)

theorem gives_itemsLeft (h : s.Pending w vs) : Gives (itemsLeft w) g s vs.length s := by
  cases h with
  | rest h =>
      refine (gives_cell? w).bind ?_
      rw [h]
      exact gives_pure _
  | @list kind source index items h hs =>
      refine (gives_cell? w).bind ?_
      rw [h]
      refine (gives_cell? source).bind ?_
      rw [hs, List.length_drop, Array.length_toList]
      exact gives_pure _

end Advance

-- A walk that has been started: it is not older than the store from which it was started.
structure Starts (home level : Nat) (s : Store) (w : Nat) (vs : List Value) (s' : Store) : Prop where
  after : Store.After home level s s'
  fresh : s.cells.size ≤ w
  pending : s'.Pending w vs

section Start

variable {g : Setting} {s : Store} {home : Nat} (level : Nat)

theorem gives_newList (items : List Value) :
    Gives (newList items) g s (.ref s.cells.size) (s.new (.list items.toArray)).2 := rfl

theorem gives_newWalk (kind : String) (walk : Walk) :
    Gives (newWalk kind walk) g s s.cells.size (s.new (.walk kind.toList walk)).2 := rfl

theorem starts_rest (hs : s.IsHome home) (kind : Text) (items : List Value) :
    Starts home level s s.cells.size items (s.new (.walk kind (.rest items))).2 where
  after := (Store.grows_new s _).after hs
  fresh := Nat.le_refl _
  pending := .rest (Store.find?_new s _)

theorem gives_walkOf_list (hs : s.IsHome home) {a : Nat} {items : Array Value}
    (ha : s.find? a = some (.list items)) :
    ∃ w s', Gives (walkOf (.ref a)) g s w s' ∧ Starts home level s w items.toList s' := by
  have hgrows := Store.grows_new s (.walk "list_iterator".toList (.list a 0))
  refine ⟨_, _, (gives_cell? a).bind ?_, hgrows.after hs, Nat.le_refl _,
    .list (Store.find?_new s _) ((hgrows.cells a (Store.lt_of_find? ha)).trans ha)⟩
  rw [ha]
  exact gives_newWalk _ _

-- A list that is made to be walked through.
theorem gives_walkOf_newList (hs : s.IsHome home) (items : List Value) :
    ∃ w s', Gives (newList items >>= walkOf) g s w s' ∧ Starts home level s w items s' := by
  have hafter : Store.After home level s (s.new (.list items.toArray)).2 :=
    (Store.grows_new s _).after hs
  obtain ⟨w, s', hwalk, hstarts⟩ := gives_walkOf_list (g := g) level (hafter.isHome hs)
    (Store.find?_new s (.list items.toArray))
  exact ⟨w, s', (gives_newList items).bind hwalk, hafter.trans hstarts.after,
    Nat.le_trans hafter.size hstarts.fresh, hstarts.pending⟩

end Start

-- What a round of a loop is given for an entry: the value, or the key and the value.
def Item (s₀ : Store) : Binder → Value → Datum × Datum → Prop
  | .value _, x, entry => s₀.Holds s₀.cells.size x entry.2
  | .pair _ _, x, entry => ∃ k v, x = .tuple [k, v] ∧ s₀.Holds s₀.cells.size k entry.1 ∧
      s₀.Holds s₀.cells.size v entry.2

section Items

variable {s₀ : Store} {bound : Nat} (hb : bound ≤ s₀.cells.size)

include hb

-- Items of a sequence with their positions.
theorem items_positions {vs : List Value} {items : List Datum} (h : s₀.HoldsAll bound vs items)
    (n : Nat) :
    List.Forall₂ (fun v entry => s₀.Holds s₀.cells.size v.1 entry.2 ∧ entry.1 = .int v.2)
      (vs.zipIdx n) ((items.zipIdx n).map fun (d, i) => (Datum.int i, d)) := by
  induction items generalizing vs n with
  | nil =>
      obtain rfl := h
      exact .nil
  | cons d rest ih =>
      obtain ⟨v, others, rfl, hv, hothers⟩ := h
      exact .cons ⟨hv.mono hb (fun _ _ => rfl), rfl⟩ (ih hothers (n + 1))

theorem items_value (x : Text) {vs : List Value} {items : List Datum}
    (h : s₀.HoldsAll bound vs items) :
    List.Forall₂ (Item s₀ (.value x)) vs (items.zipIdx.map fun (d, i) => (Datum.int i, d)) := by
  have hmap : vs = vs.zipIdx.map Prod.fst := (List.zipIdx_map_fst 0 vs).symm
  rw [hmap, List.forall₂_map_left_iff]
  exact (items_positions hb h 0).imp fun v entry hv => hv.1

theorem items_pair (k x : Text) {vs : List Value} {items : List Datum}
    (h : s₀.HoldsAll bound vs items) :
    List.Forall₂ (Item s₀ (.pair k x)) (vs.zipIdx.map fun (v, i) => .tuple [.int i, v])
      (items.zipIdx.map fun (d, i) => (Datum.int i, d)) := by
  rw [List.forall₂_map_left_iff]
  exact (items_positions hb h 0).imp fun v entry hv =>
    ⟨_, _, rfl, hv.2 ▸ ⟨rfl, rfl⟩, hv.1⟩

-- Entries of a mapping.
theorem items_entries {es : List (Entry Value)} {entries : List (Datum × Datum)}
    (h : s₀.HoldsEntries bound es entries) :
    List.Forall₂ (fun e entry => s₀.Holds s₀.cells.size e.key entry.1 ∧
      s₀.Holds s₀.cells.size e.value entry.2) es entries := by
  induction entries generalizing es with
  | nil =>
      obtain rfl := h
      exact .nil
  | cons entry rest ih =>
      obtain ⟨e, others, rfl, hk, hv, hothers⟩ := h
      exact .cons ⟨hk.mono hb (fun _ _ => rfl), hv.mono hb (fun _ _ => rfl)⟩ (ih hothers)

end Items

-- The characters of a text are texts.
theorem holdsAll_chars (s₀ : Store) (bound : Nat) (t : Text) :
    s₀.HoldsAll bound (t.map fun c => .str [c]) (t.map fun c => .str [c]) := by
  induction t with
  | nil => rfl
  | cons c rest ih => exact ⟨_, _, rfl, ⟨rfl, rfl⟩, ih⟩

-- What a loop goes through: the values of a mapping or of anything else, or its pairs.
def sourceOf : Binder → Value → Run Value
  | .value _ => values
  | .pair _ _ => pairs

section Source

variable {s₀ s : Store} {g : Setting} {home level : Nat} {v : Value} {d : Datum}

theorem meets_starts {binder : Binder} {r : Run Nat} {vs : List Value} {entries : List (Datum × Datum)}
    (h : ∃ w s', Gives r g s w s' ∧ Starts home level s w vs s')
    (hitems : List.Forall₂ (Item s₀ binder) vs entries) :
    Meets r g s (.ok entries) fun w entries s' =>
      ∃ vs, Starts home level s w vs s' ∧ List.Forall₂ (Item s₀ binder) vs entries := by
  obtain ⟨w, s', hrun, hstarts⟩ := h
  exact hrun.meets ⟨vs, hstarts, hitems⟩

theorem gives_mapping?_list {a : Nat} {items : Array Value} (ha : s.find? a = some (.list items)) :
    Gives (mapping? (.ref a)) g s none s := by
  refine (gives_cell? a).bind ?_
  rw [ha]
  exact gives_pure _

theorem gives_mapping?_dict {a : Nat} {es : List (Entry Value)}
    (ha : s.find? a = some (.dict (.ofDistinct es))) :
    Gives (mapping? (.ref a)) g s (some (es.map fun e => (e.key, e.value))) s := by
  refine (gives_cell? a).bind ?_
  rw [ha, ← Store.pairs_ofDistinct]
  exact gives_pure _

theorem meets_source_list (hs : s.IsHome home) (binder : Binder) {a : Nat} {vs : List Value}
    {items : List Datum} (ha : a < s₀.cells.size) (hcell : s.find? a = some (.list vs.toArray))
    (hitems : s₀.HoldsAll a vs items) :
    Meets (sourceOf binder (.ref a) >>= walkOf) g s (Tree.entries (.list items)) fun w entries s' =>
      ∃ vs, Starts home level s w vs s' ∧ List.Forall₂ (Item s₀ binder) vs entries := by
  have hmapping := gives_mapping?_list (g := g) hcell
  cases binder with
  | value x =>
      obtain ⟨w, s', hwalk, hstarts⟩ := gives_walkOf_list (g := g) level hs hcell
      have hvalues : Gives (values (.ref a)) g s (.ref a) s := hmapping.bind (gives_pure _)
      exact meets_starts ⟨w, s', hvalues.bind hwalk, hstarts⟩ (items_value (Nat.le_of_lt ha) x hitems)
  | pair k x =>
      obtain ⟨w, s', hwalk, hstarts⟩ := gives_walkOf_newList (g := g) level hs
        (vs.zipIdx.map fun (v, i) => .tuple [.int i, v])
      have hall : Gives (Run.items (.ref a)) g s vs s := by
        refine (gives_cell? a).bind ?_
        rw [hcell]
        exact gives_pure _
      exact meets_starts ⟨w, s', hmapping.bind_bind (hall.bind_bind hwalk), hstarts⟩
        (items_pair (Nat.le_of_lt ha) k x hitems)

theorem meets_source_dict (hs : s.IsHome home) (binder : Binder) {a : Nat} {es : List (Entry Value)}
    {entries : List (Datum × Datum)} (ha : a < s₀.cells.size)
    (hcell : s.find? a = some (.dict (.ofDistinct es))) (hentries : s₀.HoldsEntries a es entries) :
    Meets (sourceOf binder (.ref a) >>= walkOf) g s (Tree.entries (.dict entries))
      fun w entries s' => ∃ vs, Starts home level s w vs s' ∧
        List.Forall₂ (Item s₀ binder) vs entries := by
  have hmapping := gives_mapping?_dict (g := g) hcell
  have hitems := items_entries (Nat.le_of_lt ha) hentries
  cases binder with
  | value x =>
      obtain ⟨w, s', hwalk, hstarts⟩ := gives_walkOf_newList (g := g) level hs
        ((es.map fun e => (e.key, e.value)).map (·.2))
      refine meets_starts ⟨w, s', hmapping.bind_bind hwalk, hstarts⟩ ?_
      rw [List.map_map, List.forall₂_map_left_iff]
      exact hitems.imp fun e entry he => he.2
  | pair k x =>
      obtain ⟨w, s', hwalk, hstarts⟩ := gives_walkOf_newList (g := g) level hs
        ((es.map fun e => (e.key, e.value)).map fun e => .tuple [e.1, e.2])
      refine meets_starts ⟨w, s', hmapping.bind_bind hwalk, hstarts⟩ ?_
      rw [List.map_map, List.forall₂_map_left_iff]
      exact hitems.imp fun e entry he => ⟨_, _, rfl, he.1, he.2⟩

theorem meets_source_text (hs : s.IsHome home) (binder : Binder) (t : Text) :
    Meets (sourceOf binder (.str t) >>= walkOf) g s (Tree.entries (.str t))
      fun w entries s' => ∃ vs, Starts home level s w vs s' ∧
        List.Forall₂ (Item s₀ binder) vs entries := by
  have hchars := holdsAll_chars s₀ 0 t
  have hentries : Tree.entries (.str t) =
      .ok ((t.map fun c => Datum.str [c]).zipIdx.map fun (d, i) => (Datum.int i, d)) := by
    simp [Tree.entries, Datum.str, List.zipIdx_map]
  rw [hentries]
  cases binder with
  | value x =>
      exact meets_starts ⟨_, _, gives_newWalk _ _, starts_rest level hs _ _⟩
        (items_value (Nat.zero_le _) x hchars)
  | pair k x =>
      obtain ⟨w, s', hwalk, hstarts⟩ := gives_walkOf_newList (g := g) level hs
        ((t.map fun c => Value.str [c]).zipIdx.map fun (v, i) => .tuple [.int i, v])
      exact meets_starts ⟨w, s', hwalk, hstarts⟩ (items_pair (Nat.zero_le _) k x hchars)

-- A loop goes through the entries of what it is given, and nothing else can be gone through.
theorem meets_source (hs : s.IsHome home) (hg : s₀.Grows s) (binder : Binder)
    (h : s₀.Holds s₀.cells.size v d) :
    Meets (sourceOf binder v >>= walkOf) g s (Tree.entries d) fun w entries s' =>
      ∃ vs, Starts home level s w vs s' ∧ List.Forall₂ (Item s₀ binder) vs entries := by
  cases d with
  | scalar c =>
      obtain ⟨rfl, hc⟩ := h
      cases c with
      | str t => exact meets_source_text hs binder t
      | null => cases binder <;> exact meets_fail _
      | bool b => cases binder <;> exact meets_fail _
      | int i => cases binder <;> exact meets_fail _
      | _ => exact absurd hc Bool.false_ne_true
  | list items =>
      obtain ⟨a, vs, rfl, ha, hcell, hitems⟩ := h
      exact meets_source_list hs binder ha (hg.find?_of_lt ha hcell) hitems
  | dict entries =>
      obtain ⟨a, es, rfl, ha, hcell, hentries⟩ := h
      exact meets_source_dict hs binder ha (hg.find?_of_lt ha hcell) hentries
  | _ => exact h.elim

end Source

section Rounds

variable {s₀ s₁ s : Store} {g : Setting} {home level w : Nat} {vs : List Value}

-- All items of a walk that is younger than some store, as far as that store can tell.
theorem gives_take (h : s.Pending w vs) {count : Nat} (hcount : vs.length < count)
    (hs : s₁.IsHome home) (hafter : Store.After home level s₁ s) (hw : s₁.cells.size ≤ w)
    (acc : List Value) :
    ∃ s', Gives (take w count acc) g s (acc.reverse ++ vs) s' ∧ Store.After home level s₁ s' := by
  induction vs generalizing s count acc with
  | nil =>
      obtain ⟨count, rfl⟩ : ∃ n, count = n + 1 := ⟨count - 1, by omega⟩
      obtain ⟨c, hrun⟩ := gives_advance_end (g := g) h
      refine ⟨_, hrun.bind ?_, hafter.update hs hw c⟩
      rw [List.append_nil]
      exact gives_pure _
  | cons v rest ih =>
      obtain ⟨count, rfl⟩ : ∃ n, count = n + 1 := ⟨count - 1, by omega⟩
      obtain ⟨c, hrun, hpending⟩ := gives_advance (g := g) h
      obtain ⟨s', htake, hafter'⟩ := ih hpending (by simpa using hcount)
        (hafter.update hs hw c) (v :: acc)
      refine ⟨s', hrun.bind ?_, hafter'⟩
      simpa using htake

-- A pair is taken apart.
theorem gives_unpacked (level : Nat) (hs : s.IsHome home) (k v : Value) :
    ∃ s', Gives (unpacked (.tuple [k, v]) 2) g s [k, v] s' ∧ Store.After home level s s' := by
  have hstarts := starts_rest level hs "iterator".toList [k, v]
  have hcount : [k, v].length < 3 := Nat.lt_succ_self 2
  obtain ⟨s', htake, hafter⟩ := gives_take (g := g) hstarts.pending hcount hs hstarts.after
    hstarts.fresh []
  refine ⟨s', Gives.bind (a := s.cells.size) ?_ (htake.bind (gives_pure _)), hafter⟩
  exact gives_newWalk _ _

variable {round : List Text → Value → Run (List Text)} {binder : Binder}
  {body : Datum × Datum → Except Error Text} {entries : List (Datum × Datum)}

-- The rounds of a loop: when each comes out as expected, so do all of them.
theorem meets_foldItems (hs : s₁.IsHome home) (hw : s₁.cells.size ≤ w)
    (hround : ∀ done x entry s, Store.After home level s₁ s → Item s₀ binder x entry →
      Meets (round done x) g s (body entry) fun a b s' =>
        a = b :: done ∧ Store.After home level s s')
    (hitems : List.Forall₂ (Item s₀ binder) vs entries) {fuel : Nat} (hfuel : vs.length < fuel)
    (hpending : s.Pending w vs) (hafter : Store.After home level s₁ s) (done : List Text) :
    Meets (foldItems round w fuel done) g s (entries.mapM body) fun a b s' =>
      a = b.reverse ++ done ∧ Store.After home level s₁ s' := by
  induction hitems generalizing s fuel done with
  | nil =>
      obtain ⟨fuel, rfl⟩ : ∃ n, fuel = n + 1 := ⟨fuel - 1, by omega⟩
      obtain ⟨c, hrun⟩ := gives_advance_end (g := g) hpending
      rw [List.mapM_nil]
      exact hrun.bind_meets ((gives_pure _).meets ⟨rfl, hafter.update hs hw c⟩)
  | @cons x entry rest others hitem hrest ih =>
      obtain ⟨fuel, rfl⟩ : ∃ n, fuel = n + 1 := ⟨fuel - 1, by omega⟩
      obtain ⟨c, hrun, hothers⟩ := gives_advance (g := g) hpending
      have hmoved := hafter.update hs hw c
      rw [List.mapM_cons]
      refine hrun.bind_meets ((hround done x entry _ hmoved hitem).bind ?_)
      rintro _ t s' ⟨rfl, hstep⟩
      have hnext := ih (by simpa using hfuel) (hothers.after (hmoved.isHome hs) hstep)
        (hmoved.trans hstep) (t :: done)
      have hlast : foldItems round w fuel (t :: done) =
          foldItems round w fuel (t :: done) >>= pure := (bind_pure _).symm
      rw [hlast]
      refine hnext.bind ?_
      rintro _ ts s'' ⟨rfl, hall⟩
      exact (gives_pure _).meets ⟨by simp, hall⟩

theorem meets_foldAll (hs : s₁.IsHome home) (hw : s₁.cells.size ≤ w)
    (hround : ∀ done x entry s, Store.After home level s₁ s → Item s₀ binder x entry →
      Meets (round done x) g s (body entry) fun a b s' =>
        a = b :: done ∧ Store.After home level s s')
    (hitems : List.Forall₂ (Item s₀ binder) vs entries) (hpending : s.Pending w vs)
    (hafter : Store.After home level s₁ s) :
    Meets (foldAll round w []) g s (entries.mapM body) fun a b s' =>
      a = b.reverse ∧ Store.After home level s₁ s' := by
  refine (gives_itemsLeft hpending).bind_meets ?_
  have hfuel : vs.length < maxSearch + vs.length := Nat.lt_add_of_pos_left (by decide)
  have h := meets_foldItems hs hw hround hitems hfuel hpending hafter []
  simpa using h

end Rounds

end BraceTemplate.Host

import BraceTemplate.Host.Template
import BraceTemplate.Proofs.Move.Eval
import BraceTemplate.Render.Renderer
import BraceTemplate.Yaml.Load
import Mathlib.Data.List.Induction

namespace BraceTemplate.Host

variable {m : Move}

theorem Matches.eq {α : Type} {x y : Except Error α} (h : Matches (fun a b => b = a) x y) : y = x := by
  cases x with
  | error e =>
      cases y with
      | error e' => exact congrArg Except.error h
      | ok b => exact h.elim
  | ok a =>
      cases y with
      | error e' => exact h.elim
      | ok b => exact congrArg Except.ok h

theorem Step.mirrors_throw {α : Type} [Movable α] (e : Error) : Step.Mirrors m (throw e : Step α) (throw e) :=
  fun _ hs => ⟨rfl, rfl, hs⟩

-- At every depth what can be drawn on does the same. Whatever is called runs one level deeper.
theorem Setting.mirrors_ofDepth (data : List (Text × Value)) (depth : Nat) :
    Setting.Mirrors m (.ofDepth data depth) (.ofDepth (moved m data) depth) := by
  induction depth with
  | zero =>
      exact ⟨rfl, fun _ _ => Step.mirrors_throw _, fun _ _ => Step.mirrors_throw _,
        fun _ _ => Step.mirrors_throw _⟩
  | succ depth ih =>
      refine ⟨rfl, fun d p => ?_, fun w v => ?_, fun w v => ?_⟩
      · exact Run.mirrors_invoke d p _ _ ih
      · exact Run.mirrors_prepare w v _ _ ih
      · exact Run.mirrors_perform w v _ _ ih

namespace Template

variable (t : Template)

theorem mirrors_body : Run.Mirrors m t.body t.body := by
  unfold body
  dsimp only
  generalize Slots.entries _ = slots
  refine Run.mirrors_newHome.bind fun home => ?_
  have hrest : Run.Mirrors m
      (do Run.enter [⟨home, 0, slots⟩]; Run.execAll [⟨home, 0, slots⟩] t.nodes)
      (do Run.enter [⟨m.address home, 0, slots⟩]; Run.execAll [⟨m.address home, 0, slots⟩] t.nodes) :=
    (Run.mirrors_enter [⟨home, 0, slots⟩]).bind fun _ => Run.mirrors_execAll [⟨home, 0, slots⟩] t.nodes
  have hself := Run.mirrors_setName (m := m) ⟨home, 0, slots⟩ selfName (some .self)
  exact Run.MirrorsBy.ite (hself.bind fun _ => hrest) hrest

variable {s : Store} (data : List (Text × Value))

-- A template puts out the same text for data behind other cells, or fails with the same error. What it leaves
-- in the store is the same behind those cells.
theorem run_moved (hs : s.Fits m) :
    t.run (moved m data) (moved m s) = ((t.run data s).1, moved m (t.run data s).2) ∧
      (t.run data s).2.Fits m := by
  obtain ⟨houtcome, hstore, hfits⟩ := t.mirrors_body _ _ (Setting.mirrors_ofDepth data maxCallDepth) s hs
  exact ⟨Prod.ext houtcome.eq hstore, hfits⟩

end Template

end BraceTemplate.Host

namespace BraceTemplate

namespace Host

variable {m : Move}

@[simp]
theorem shape_moved (v : Value) : (moved m v).shape = v.shape.moved m :=
  reifyWith_moved (fun _ => (Datum.moved_loose (by decide) _ _).symm) v

namespace Store

-- A scalar that was put into a store keeps its mark where only later marks are counted on.
theorem marked_settled {s : Store} {v : Scalar} (h : (s.marked v).2.marks ≤ m.floor) :
    moved m (s.marked v).1 = (s.marked v).1 := by
  have hanother : s.marks + 1 ≤ m.floor → moved m (Value.scalar (.nan s.marks)) = .scalar (.nan s.marks) := by
    intro hmarks
    rw [moved_scalar, Scalar.moved, Move.mark, if_pos (by omega)]
  cases v with
  | float x =>
      unfold marked at h ⊢
      dsimp only at h ⊢
      split at h
      · next hnan =>
          rw [if_pos hnan]
          exact hanother h
      · next hnan =>
          rw [if_neg hnan]
          rfl
  | nan i => exact hanother h
  | _ => rfl

theorem marks_le_marked (s : Store) (v : Scalar) : s.marks ≤ (s.marked v).2.marks := by
  cases v with
  | float x =>
      unfold marked
      dsimp only
      split <;> simp
  | nan i => exact Nat.le_succ _
  | _ => exact Nat.le_refl _

mutual

theorem Fits.load {s : Store} (h : s.Fits m) : ∀ d, (s.load d).2.Fits m
  | .scalar v => h.marked v
  | .list items => (h.loadItems items).new (Run.loose_list _)
  | .tuple items => h.loadItems items
  | .set _ items => h.loadItems items
  | .dict entries => (h.loadEntries entries).new (Run.loose_dict _)
  | .view entries => h.loadEntries entries
  | .other .. => h

theorem Fits.loadItems {s : Store} (h : s.Fits m) : ∀ items, (s.loadItems items).2.Fits m
  | [] => h
  | d :: rest => (h.load d).loadItems rest

theorem Fits.loadEntries {s : Store} (h : s.Fits m) : ∀ entries, (s.loadEntries entries).2.Fits m
  | [] => h
  | (k, d) :: rest => ((h.load k).load d).loadEntries rest

end

-- What comes from outside is put behind other cells as it is put into an empty store.
mutual

theorem load_moved {s : Store} (h : s.Fits m) : ∀ d, (moved m s).load d = (moved m (s.load d).1, moved m (s.load d).2)
  | .scalar v => marked_moved h v
  | .list items => by
    have hnew := (s.loadItems items).2.new_moved (m := m) (.list (s.loadItems items).1.toArray)
    rw [moved_listCell, List.map_toArray] at hnew
    rw [load, load, loadItems_moved h items]
    simp only [hnew, moved_ref]
  | .tuple items => by
    rw [load, load, loadItems_moved h items]
    simp only [moved_tuple]
  | .set frozen items => by
    rw [load, load, loadItems_moved h items]
    simp only [moved_set]
  | .dict entries => by
    have hnew := (s.loadEntries entries).2.new_moved (m := m) (.dict (.ofDistinct (s.loadEntries entries).1))
    rw [moved_dictCell, ← Table.ofDistinct_moved] at hnew
    rw [load, load, loadEntries_moved h entries]
    simp only [hnew, moved_ref]
  | .view entries => by
    rw [load, load, loadEntries_moved h entries]
    simp only [moved_view, List.map_map]
    rfl
  | .other .. => rfl

theorem loadItems_moved {s : Store} (h : s.Fits m) : ∀ items,
    (moved m s).loadItems items = ((s.loadItems items).1.map (moved m), moved m (s.loadItems items).2)
  | [] => rfl
  | d :: rest => by
    rw [loadItems, loadItems, load_moved h d]
    simp only [loadItems_moved (h.load d) rest, List.map_cons]

theorem loadEntries_moved {s : Store} (h : s.Fits m) : ∀ entries,
    (moved m s).loadEntries entries = ((s.loadEntries entries).1.map (moved m), moved m (s.loadEntries entries).2)
  | [] => rfl
  | (k, d) :: rest => by
    rw [loadEntries, loadEntries, load_moved h k]
    simp only [load_moved (h.load k) d, loadEntries_moved ((h.load k).load d) rest, shape_moved,
      List.map_cons, Table.moved_entry]

end

end Store

end Host

namespace Bindings

variable {α : Type} [Host.Movable α] {m : Host.Move}

-- Names come from outside, so only values are moved.
def movedEntries (m : Host.Move) (entries : List (Datum × α)) : List (Datum × α) :=
  entries.map fun e => (e.1, Host.moved m e.2)

instance : Host.Movable (Bindings α) := ⟨fun m b => ⟨movedEntries m b.entries⟩⟩

theorem insertEntry_moved (name : Datum) (v : α) (entries : List (Datum × α)) :
    Datum.insertEntry name (Host.moved m v) (movedEntries m entries) =
      movedEntries m (Datum.insertEntry name v entries) := by
  induction entries with
  | nil => rfl
  | cons e rest ih =>
      unfold movedEntries at ih ⊢
      rw [List.map_cons, Datum.insertEntry, Datum.insertEntry, ih]
      split <;> rfl

theorem merged_moved (b : Bindings α) (entries : List (Datum × α)) :
    (Host.moved m b).merged (movedEntries m entries) = Host.moved m (b.merged entries) := by
  induction entries generalizing b with
  | nil => rfl
  | cons e rest ih =>
      have hassign : (Host.moved m b).assign e.1 (Host.moved m e.2) = Host.moved m (b.assign e.1 e.2) :=
        congrArg Bindings.mk (insertEntry_moved e.1 e.2 b.entries)
      change ((Host.moved m b).assign e.1 (Host.moved m e.2)).merged (movedEntries m rest) = _
      rw [hassign]
      exact ih (b.assign e.1 e.2)

end Bindings

namespace Renderer

open Host

variable {m : Move} (r : Renderer)

theorem named_moved (entries : List (Datum × Value)) :
    named (Bindings.movedEntries m entries) = (named entries).map (moved m) := by
  induction entries with
  | nil => rfl
  | cons e rest ih =>
      obtain ⟨name, v⟩ := e
      cases name with
      | scalar name =>
          cases name with
          | str name =>
              change (do return (name, moved m v) :: (← named (Bindings.movedEntries m rest))) =
                (do return (name, v) :: (← named rest) : Except Error _).map (moved m)
              rw [ih]
              cases named rest <;> rfl
          | _ => rfl
      | _ => rfl

-- What is rendered, and what is remembered of it, is the same for bindings behind other cells.
theorem render_moved (source : Datum) (bindings : Bindings Value) {s : Store} (hs : s.Fits m) :
    r.render source (moved m bindings) (moved m s) =
        ((r.render source bindings s).1, (r.render source bindings s).2.1,
          moved m (r.render source bindings s).2.2) ∧
      (r.render source bindings s).2.2.Fits m := by
  unfold render
  split
  · exact ⟨rfl, hs⟩
  · split
    · next text _ =>
        rcases r.load text with ⟨e | loaded, r'⟩
        · exact ⟨rfl, hs⟩
        · have hnamed := named_moved (m := m) bindings.entries
          change named (moved m bindings).entries = _ at hnamed
          dsimp only
          rw [hnamed]
          cases named bindings.entries with
          | error e => exact ⟨rfl, hs⟩
          | ok data =>
              obtain ⟨hrun, hfits⟩ := loaded.template.run_moved data hs
              refine ⟨?_, hfits⟩
              dsimp only [Except.map]
              rw [hrun]
    · exact ⟨rfl, hs⟩

-- What is remembered hangs on the compiled text alone.
theorem render_remembers (source : Datum) (bindings bindings' : Bindings Value) (s s' : Store) :
    (r.render source bindings s).2.1 = (r.render source bindings' s').2.1 := by
  unfold render
  split
  · rfl
  · split
    · next text _ =>
        rcases r.load text with ⟨e | loaded, r'⟩
        · rfl
        · dsimp only
          cases named bindings.entries <;> cases named bindings'.entries <;> rfl
    · rfl

end Renderer

end BraceTemplate

namespace BraceTemplate.Yaml

open Host

variable {m : Move}

instance : Movable Building := ⟨fun m b => ⟨moved m b.store, moved m b.built⟩⟩

namespace Build

-- A step of building that does behind other cells what another one does.
def Mirrors {α : Type} [Movable α] (m : Move) (x y : Build α) : Prop :=
  ∀ b : Building, b.store.Fits m →
    y.run (moved m b) = (moved m (x.run b).1, moved m (x.run b).2) ∧ (x.run b).2.store.Fits m

section Steps

variable {α β γ : Type} [Movable α] [Movable β]

theorem mirrors_pure {a a' : α} (h : a' = moved m a) : Mirrors m (pure a) (pure a') :=
  fun b hb => ⟨congrArg (·, moved m b) h, hb⟩

theorem Mirrors.bind {x y : Build α} {f g : α → Build β} (h : Mirrors m x y)
    (hf : ∀ a, Mirrors m (f a) (g (moved m a))) : Mirrors m (x >>= f) (y >>= g) := by
  intro b hb
  obtain ⟨hrun, hfits⟩ := h b hb
  change (g (y.run (moved m b)).1).run (y.run (moved m b)).2 = _ ∧ _
  rw [hrun]
  exact hf _ _ hfits

-- What follows may look at all that is built so far.
theorem mirrors_get_bind {f g : Building → Build α} (h : ∀ b, b.store.Fits m → Mirrors m (f b) (g (moved m b))) :
    Mirrors m (get >>= f) (get >>= g) :=
  fun b hb => h b hb b hb

theorem Mirrors.mapM_same {f : γ → Build α} (h : ∀ c, Mirrors m (f c) (f c)) (items : List γ) :
    Mirrors m (items.mapM f) (items.mapM f) := by
  induction items with
  | nil => exact mirrors_pure rfl
  | cons c rest ih =>
      rw [List.mapM_cons]
      exact (h c).bind fun a => ih.bind fun as => mirrors_pure rfl

end Steps

section Values

variable (id : Nat)

theorem mirrors_remember (v : Value) : Mirrors m (remember id v) (remember id (moved m v)) := by
  intro b hb
  have hbuilt : (b.built.map (Option.map (moved m))).setIfInBounds id (some (moved m v)) =
      (b.built.setIfInBounds id (some v)).map (Option.map (moved m)) := by
    rw [Array.map_setIfInBounds]
    rfl
  exact ⟨congrArg (fun built => (moved m v, (⟨moved m b.store, built⟩ : Building))) hbuilt, hb⟩

theorem mirrors_scalar (s : Scalar) : Mirrors m (scalar id s) (scalar id s) := by
  refine Mirrors.bind (fun b hb => ?_) (mirrors_remember id)
  have hmarked := Store.marked_moved hb s
  exact ⟨congrArg (fun p : Value × Store => (p.1, (⟨p.2, moved m b.built⟩ : Building))) hmarked, hb.marked s⟩

variable {full : Build Cell}

-- What is done with a collection once it has an address.
def fill (id : Nat) (full : Build Cell) (address : Nat) : Build Value := do
  let v ← remember id (.ref address)
  let cell ← full
  modify fun b => { b with store := b.store.update address cell }
  pure v

theorem run_collection (empty : Cell) (b : Building) :
    (collection id empty full).run b =
      (fill id full (b.store.new empty).1).run { b with store := (b.store.new empty).2 } :=
  rfl

theorem mirrors_fill (hfull : Mirrors m full full) (hloose : ∀ b : Building, (full.run b).1.Loose) (a : Nat) :
    Mirrors m (fill id full a) (fill id full (m.address a)) := by
  refine (mirrors_remember id (.ref a)).bind fun v b hb => ?_
  obtain ⟨hrun, hfits⟩ := hfull b hb
  refine ⟨?_, hfits.update (hloose b) a⟩
  change (moved m v, (⟨((full.run (moved m b)).2.store.update (m.address a) (full.run (moved m b)).1),
    (full.run (moved m b)).2.built⟩ : Building)) = _
  rw [hrun]
  have hupdate := (full.run b).2.store.update_moved (m := m) (full.run b).1 a
  exact congrArg (fun store => (moved m v, (⟨store, moved m (full.run b).2.built⟩ : Building))) hupdate

theorem mirrors_collection {empty : Cell} (hempty : empty.Loose) (hmoved : moved m empty = empty)
    (hfull : Mirrors m full full) (hloose : ∀ b : Building, (full.run b).1.Loose) :
    Mirrors m (collection id empty full) (collection id empty full) := by
  intro b hb
  have hnew := b.store.new_moved (m := m) empty
  rw [hmoved] at hnew
  obtain ⟨hrun, hfits⟩ := mirrors_fill id hfull hloose _ ⟨(b.store.new empty).2, b.built⟩ (hb.new hempty)
  refine ⟨?_, hfits⟩
  rw [run_collection]
  change (fill id full ((moved m b.store).new empty).1).run ⟨((moved m b.store).new empty).2, moved m b.built⟩ = _
  rw [hnew]
  exact hrun

end Values

section Keys

variable (key : Scalar) (v : Value)

theorem insert_moved (all : List (Entry Value)) :
    byKey.insert (key.moved m) (moved m v) (all.map (moved m)) = (byKey.insert key v all).map (moved m) := by
  induction all with
  | nil => rfl
  | cons e rest ih =>
      have hsame : (moved m e).shape.same (.scalar (key.moved m)) = e.shape.same (.scalar key) :=
        Datum.same_moved e.shape (.scalar key)
      rw [List.map_cons, byKey.insert, byKey.insert, hsame, ih]
      split <;> rfl

theorem byKey_concat (entries : List (Value × Value)) (k : Value) :
    byKey (entries ++ [(k, v)]) = match k with
      | .scalar key => byKey.insert key v (byKey entries)
      | _ => byKey entries := by
  rw [byKey, List.foldl_append]
  rfl

theorem byKey_moved (entries : List (Value × Value)) :
    byKey (entries.map (moved m)) = (byKey entries).map (moved m) := by
  induction entries using List.reverseRecOn with
  | nil => rfl
  | append_singleton entries e ih =>
      obtain ⟨k, v⟩ := e
      rw [List.map_append, List.map_singleton, moved_pair, byKey_concat, byKey_concat, ih]
      cases k with
      | scalar key => exact insert_moved key v (byKey entries)
      | _ => rfl

theorem keys_byKey_moved (entries : List (Value × Value)) :
    (byKey (entries.map (moved m))).map (·.key) = ((byKey entries).map (·.key)).map (moved m) := by
  rw [byKey_moved, List.map_map, List.map_map]
  rfl

end Keys

theorem getD_built_moved (b : Building) (id : Nat) :
    (moved m b).built.getD id none = (b.built.getD id none).map (moved m) := by
  change (b.built.map (Option.map (moved m))).getD id none = _
  rw [Array.getD_eq_getD_getElem?, Array.getElem?_map, Array.getD_eq_getD_getElem?]
  cases b.built[id]? <;> rfl

-- By induction on the depth: the parts of a node are built one level deeper. The nodes themselves hold no
-- addresses, so only what was built before differs.
theorem mirrors_build (s : Surveying) (depth id : Nat) : Mirrors m (build s depth id) (build s depth id) := by
  induction depth generalizing id with
  | zero => exact mirrors_pure rfl
  | succ depth ih =>
      rw [build]
      refine mirrors_get_bind fun b hb => ?_
      rw [getD_built_moved]
      cases b.built.getD id none with
      | some v => exact mirrors_pure rfl
      | none =>
          cases s.scalars.getD id none with
          | some v => exact mirrors_scalar id v
          | none =>
              -- The kinds of nodes: pairs, other sequences, a set, another mapping, and a scalar.
              dsimp only [Option.map_none]
              split
              · refine mirrors_collection id (Run.loose_list _) (by simp) ?_ fun b => Run.loose_list _
                refine (Mirrors.mapM_same (fun e => ?_) _).bind fun all => mirrors_pure (by simp)
                exact (ih e.1).bind fun key => (ih e.2).bind fun v => mirrors_pure (by simp)
              · refine mirrors_collection id (Run.loose_list _) (by simp) ?_ fun b => Run.loose_list _
                exact (Mirrors.mapM_same ih _).bind fun all => mirrors_pure (by simp)
              · refine (Mirrors.mapM_same (fun e => ?_) _).bind fun all => ?_
                · exact (ih e.1).bind fun key => mirrors_pure (by simp)
                · rw [moved_list, keys_byKey_moved, ← moved_set]
                  exact mirrors_remember id _
              · refine mirrors_collection id (Run.loose_dict _) (by simp) ?_ fun b => Run.loose_dict _
                refine (Mirrors.mapM_same (fun e => ?_) _).bind fun all => mirrors_pure ?_
                · exact (ih e.1).bind fun key => (ih e.2).bind fun v => mirrors_pure (by simp)
                · rw [moved_list, byKey_moved, Table.ofDistinct_moved]
                  rfl
              · exact mirrors_pure rfl

end Build

-- A document is read into a store behind other cells as it is read into the store alone.
theorem load_moved {store later : Store} {s : Text} {v : Value} (h : store.Fits m)
    (hload : load s store = .ok (v, later)) :
    load s (moved m store) = .ok (moved m v, moved m later) ∧ later.Fits m := by
  unfold load at hload ⊢
  cases hdocument : Document.ofText? s with
  | error fault =>
      rw [hdocument] at hload
      cases hload
  | ok document? =>
      rw [hdocument] at hload
      cases document? with
      | none =>
          cases hload
          exact ⟨rfl, h⟩
      | some d =>
          change d.survey >>= _ = _ at hload
          change d.survey >>= _ = _ ∧ _
          cases hsurvey : d.survey with
          | error fault =>
              rw [hsurvey] at hload
              cases hload
          | ok surveying =>
              rw [hsurvey] at hload
              cases hload
              obtain ⟨hrun, hfits⟩ := Build.mirrors_build surveying (d.nodes.size + 1) d.root
                ⟨store, .replicate d.nodes.size none⟩ h
              have hnone : moved m (Array.replicate d.nodes.size (none : Option Value)) =
                  .replicate d.nodes.size none := by
                simp
              refine ⟨?_, hfits⟩
              change (Build.build surveying (d.nodes.size + 1) d.root).run
                ⟨moved m store, moved m (Array.replicate d.nodes.size none)⟩ = _ at hrun
              rw [hnone] at hrun
              exact congrArg (fun p : Value × Building => Except.ok (p.1, p.2.store)) hrun

-- What a store holds already, with a store of nothing else behind it.
def behind (store : Store) : Move :=
  ⟨store.cells, 0, store.marks⟩

theorem moved_behind (store : Store) : moved (behind store) Store.empty = store := by
  have hcells : store.cells ++ Array.map (moved (behind store)) #[] = store.cells := by
    simp
  have hmark : (behind store).mark 0 = store.marks := by
    simp [Move.mark, behind]
  exact congr (congrArg Store.mk hcells) hmark

-- The value that a document gets in a store stands for the same tree as alone.
theorem exists_load_of_loadDatum {s : Text} {d : Datum} (h : loadDatum s = .ok d) (store : Store) :
    ∃ v later, load s store = .ok (v, later) ∧ later.reify v = d.moved (behind store) := by
  have hempty : Store.empty.Fits (behind store) := ⟨Nat.le_refl 0, by simp [Store.empty, Store.find?]⟩
  unfold loadDatum at h
  cases hload : load s .empty with
  | error fault =>
      rw [hload] at h
      cases h
  | ok p =>
      obtain ⟨v, later⟩ := p
      rw [hload] at h
      cases h
      obtain ⟨hmoved, hfits⟩ := load_moved hempty hload
      rw [moved_behind] at hmoved
      exact ⟨_, _, hmoved, Store.reify_moved hfits v⟩

end BraceTemplate.Yaml

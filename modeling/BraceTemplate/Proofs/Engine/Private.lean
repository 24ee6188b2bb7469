import BraceTemplate.Proofs.Engine.Transparent
import BraceTemplate.Proofs.Move.Load

namespace BraceTemplate

open Host (Move Movable Store Value moved)

namespace Engine

-- What can be done with an engine. Others who have its cache may change it and look at it.
inductive Action where
  | call (fs : FileSystem) (call : Call)
  | addPath (name : Text) (root : Path) (priority : Int)
  | removePath (name : Text)
  | listPaths
  | setTypes (types : List Text)
  | setCache (cache : Option Cache)
  | changeCache (change : Cache → Cache)
  | lookAtCache
  | extension
  | extend (x : Extension)

inductive Reply where
  | answer (a : Answer)
  | paths (registry : Registry)
  | cache (held : Option Cache)
  | extension (x : Text)

-- An action that binds nothing but scalars.
def Action.isPlain : Action → Bool
  | .call _ (.assign entries) => entries.all fun e => match e.2 with | .scalar _ => true | _ => false
  | _ => true

def act (e : Engine) : Action → Reply × Engine
  | .call fs call =>
    let (a, e) := e.answer fs call
    (.answer a, e)
  | .addPath name root priority => (.answer .done, e.addPath name root priority)
  | .removePath name => (.answer .done, e.removePath name)
  | .listPaths => (.paths e.registry, e)
  | .setTypes types => (.answer .done, e.setTypes types)
  | .setCache cache => (.answer .done, e.setCache cache)
  | .changeCache change => (.answer .done, e.setCache (e.shelf.cache.map change))
  | .lookAtCache => (.cache e.shelf.cache, e)
  | .extension => (.extension e.extension, e)
  | .extend x => (.answer .done, e.extend x)

-- The replies to actions one after the other, and the engine behind them.
def actAll (e : Engine) : List Action → List Reply × Engine
  | [] => ([], e)
  | a :: rest =>
    let (first, e) := e.act a
    let (others, e) := actAll e rest
    (first :: others, e)

theorem length_actAll (e : Engine) (actions : List Action) : (e.actAll actions).1.length = actions.length := by
  induction actions generalizing e with
  | nil => rfl
  | cons a rest ih => exact congrArg (· + 1) (ih _)

theorem actAll_append (e : Engine) (before after : List Action) :
    (e.actAll (before ++ after)).1 = (e.actAll before).1 ++ ((e.actAll before).2.actAll after).1 := by
  induction before generalizing e with
  | nil => rfl
  | cons a rest ih => exact congrArg _ (ih _)

-- What the renderer makes of compiled text with data for this time alone.
def rendered (e : Engine) (source : Datum) (data : List (Datum × Datum)) :
    Except Host.Error Text × Renderer × Store :=
  e.renderer.render source (e.bindings.merged (stored e.store data).1) (stored e.store data).2

-- What comes of rendering what was fetched.
def present (e : Engine) (fetched : Fetched) (data : List (Datum × Datum)) : Rendering × Engine :=
  match fetched.outcome with
  | .error cause => (⟨.error (.compile cause), fetched.warnings⟩, e)
  | .ok artifact =>
    let (outcome, renderer, store) := e.rendered artifact.source data
    (⟨outcome.mapError EngineError.run, fetched.warnings⟩, { e with renderer, store })

theorem render_eq_present (e : Engine) (identity : Text) (make : Unit → Except CompileError Text)
    (data : List (Datum × Datum)) :
    e.render identity make data =
      { e with shelf := (e.shelf.fetch identity make).2 }.present (e.shelf.fetch identity make).1 data := by
  unfold render present
  rcases e.shelf.fetch identity make with ⟨⟨_ | artifact, n, warnings⟩, shelf⟩ <;> rfl

-- An engine whose bound values live behind other cells.
instance : Movable Engine := ⟨fun m e => { e with bindings := moved m e.bindings, store := moved m e.store }⟩

section Moved

variable {m : Move} {e : Engine}

theorem stored_moved {s : Store} (h : s.Fits m) (entries : List (Datum × Datum)) :
    stored (moved m s) entries =
        (Bindings.movedEntries m (stored s entries).1, moved m (stored s entries).2) ∧
      (stored s entries).2.Fits m := by
  induction entries generalizing s with
  | nil => exact ⟨rfl, h⟩
  | cons entry rest ih =>
      obtain ⟨hrest, hfits⟩ := ih (h.load entry.2)
      refine ⟨?_, hfits⟩
      rw [stored, stored, Store.load_moved h entry.2]
      simp only [hrest]
      rfl

theorem make_moved (m : Move) (e : Engine) (fs : FileSystem) : (moved m e).make fs = e.make fs :=
  make_congr fs rfl

theorem rendered_moved (h : e.store.Fits m) (source : Datum) (data : List (Datum × Datum)) :
    (moved m e).rendered source data =
        ((e.rendered source data).1, (e.rendered source data).2.1, moved m (e.rendered source data).2.2) ∧
      (e.rendered source data).2.2.Fits m := by
  obtain ⟨hstored, hfits⟩ := stored_moved h data
  have hrender := e.renderer.render_moved source (e.bindings.merged (stored e.store data).1) hfits
  rw [← Bindings.merged_moved] at hrender
  unfold rendered
  change e.renderer.render source ((moved m e.bindings).merged (stored (moved m e.store) data).1)
    (stored (moved m e.store) data).2 = _ ∧ _
  rw [hstored]
  exact hrender

theorem present_moved (h : e.store.Fits m) (fetched : Fetched) (data : List (Datum × Datum)) :
    (moved m e).present fetched data = ((e.present fetched data).1, moved m (e.present fetched data).2) ∧
      (e.present fetched data).2.store.Fits m := by
  unfold present
  cases fetched.outcome with
  | error cause => exact ⟨rfl, h⟩
  | ok artifact =>
      obtain ⟨hrendered, hfits⟩ := rendered_moved h artifact.source data
      dsimp only
      rw [hrendered]
      exact ⟨rfl, hfits⟩

theorem render_moved (h : e.store.Fits m) (identity : Text) (make : Unit → Except CompileError Text)
    (data : List (Datum × Datum)) :
    (moved m e).render identity make data =
        ((e.render identity make data).1, moved m (e.render identity make data).2) ∧
      (e.render identity make data).2.store.Fits m := by
  rw [render_eq_present, render_eq_present]
  exact present_moved (e := { e with shelf := (e.shelf.fetch identity make).2 }) h _ data

theorem answer_moved (h : e.store.Fits m) (fs : FileSystem) (call : Call) :
    (moved m e).answer fs call = ((e.answer fs call).1, moved m (e.answer fs call).2) ∧
      (e.answer fs call).2.store.Fits m := by
  cases call with
  | assign entries =>
      obtain ⟨hstored, hfits⟩ := stored_moved h entries
      refine ⟨congrArg (Prod.mk Answer.done) ?_, hfits⟩
      change (⟨_, _, _, (moved m e.bindings).merged (stored (moved m e.store) entries).1,
        (stored (moved m e.store) entries).2⟩ : Engine) = _
      rw [hstored, Bindings.merged_moved]
      rfl
  | setDebug debug => exact ⟨rfl, h⟩
  | resolve reference => exact ⟨rfl, h⟩
  | compile asked =>
      refine ⟨?_, h⟩
      change (Answer.compiled ((moved m e).make fs asked), moved m e) = _
      rw [make_moved]
      rfl
  | render asked data key =>
      obtain ⟨hrender, hfits⟩ := render_moved h (identityOr key asked.identity) (fun _ => e.make fs asked) data
      rw [answer_render, answer_render, make_moved, hrender]
      exact ⟨rfl, hfits⟩

-- An engine whose values live behind other cells replies the same, and its values stay behind those cells.
theorem act_moved (h : e.store.Fits m) (a : Action) :
    (moved m e).act a = ((e.act a).1, moved m (e.act a).2) ∧ (e.act a).2.store.Fits m := by
  cases a with
  | call fs call =>
      obtain ⟨hanswer, hfits⟩ := answer_moved h fs call
      refine ⟨?_, hfits⟩
      rw [act, hanswer]
      rfl
  | _ => exact ⟨rfl, h⟩

theorem actAll_moved (h : e.store.Fits m) (actions : List Action) :
    ((moved m e).actAll actions).1 = (e.actAll actions).1 := by
  induction actions generalizing e with
  | nil => rfl
  | cons a rest ih =>
      obtain ⟨hact, hfits⟩ := act_moved h a
      rw [actAll, actAll, hact]
      exact congrArg (List.cons (e.act a).1) (ih hfits)

end Moved

-- An engine whose bindings hold no more than the marks that were given out: nothing in its store matters
-- to them.
structure Bare (e : Engine) : Prop where
  kinds : ∀ a c, e.store.find? a = some c → c.Loose
  settled : ∀ m : Move, e.store.marks ≤ m.floor → moved m e.bindings = e.bindings

theorem bare_ofSettings (s : Settings) (cache : Option Cache) : (ofSettings s cache).Bare where
  kinds a c h := by simp [ofSettings, Store.find?, Store.empty] at h
  settled _ _ := rfl

-- How a store is watched: marks from a floor on are counted, but nothing moves.
def watch (floor : Nat) : Move := ⟨#[], floor, 0⟩

section Bare

variable {e e' : Engine}

theorem Bare.fits (h : e.Bare) : e.store.Fits (watch e.store.marks) := ⟨Nat.le_refl _, h.kinds⟩

theorem Bare.of_fits (h : e.Bare) (hbindings : e'.bindings = e.bindings)
    (hfits : e'.store.Fits (watch e.store.marks)) : e'.Bare where
  kinds := hfits.kinds
  settled m hm := hbindings ▸ h.settled m (Nat.le_trans hfits.marks hm)

-- Scalars that are bound hold no more than their marks.
theorem stored_settled {m : Move} {s : Store} {entries : List (Datum × Datum)}
    (hscalars : ∀ entry ∈ entries, ∃ v, entry.2 = .scalar v) (h : (stored s entries).2.marks ≤ m.floor) :
    s.marks ≤ (stored s entries).2.marks ∧
      Bindings.movedEntries m (stored s entries).1 = (stored s entries).1 := by
  induction entries generalizing s with
  | nil => exact ⟨Nat.le_refl _, rfl⟩
  | cons entry rest ih =>
      obtain ⟨name, d⟩ := entry
      obtain ⟨⟨v, rfl⟩, hrest⟩ := List.forall_mem_cons.mp hscalars
      obtain ⟨hmarks, hsettled⟩ := ih hrest h
      have hv : moved m (s.marked v).1 = (s.marked v).1 := Store.marked_settled (Nat.le_trans hmarks h)
      refine ⟨Nat.le_trans (Store.marks_le_marked s v) hmarks, ?_⟩
      exact List.cons_eq_cons.mpr ⟨congrArg (Prod.mk name) hv, hsettled⟩

theorem Bare.assign (h : e.Bare) {entries : List (Datum × Datum)}
    (hscalars : ∀ entry ∈ entries, ∃ v, entry.2 = .scalar v) : (e.assign entries).Bare where
  kinds := (stored_moved h.fits entries).2.kinds
  settled m hm := by
    obtain ⟨hmarks, hsettled⟩ := stored_settled hscalars hm
    have hmerged := Bindings.merged_moved (m := m) e.bindings (stored e.store entries).1
    rw [hsettled, h.settled m (Nat.le_trans hmarks hm)] at hmerged
    exact hmerged.symm

theorem bindings_render (e : Engine) (identity : Text) (make : Unit → Except CompileError Text)
    (data : List (Datum × Datum)) : (e.render identity make data).2.bindings = e.bindings := by
  rw [render_eq_present]
  unfold present
  split <;> rfl

theorem Bare.act (h : e.Bare) {a : Action} (ha : a.isPlain = true) : (e.act a).2.Bare := by
  have hfits := (act_moved h.fits a).2
  cases a with
  | call fs call =>
      cases call with
      | assign entries =>
          refine h.assign fun entry hmem => ?_
          have hscalar := List.all_eq_true.mp ha entry hmem
          split at hscalar
          · next v hv => exact ⟨v, hv⟩
          · exact absurd hscalar Bool.false_ne_true
      | render asked data key =>
          refine h.of_fits ?_ hfits
          change (e.answer fs (.render asked data key)).2.bindings = _
          rw [answer_render]
          exact bindings_render e _ _ data
      | _ => exact h.of_fits rfl hfits
  | _ => exact h.of_fits rfl hfits

theorem Bare.actAll (h : e.Bare) {actions : List Action} (hplain : ∀ a ∈ actions, a.isPlain = true) :
    (e.actAll actions).2.Bare := by
  induction actions generalizing e with
  | nil => exact h
  | cons a rest ih =>
      obtain ⟨ha, hrest⟩ := List.forall_mem_cons.mp hplain
      exact ih (h.act ha) hrest

-- What a rendering leaves behind outside of the store has nothing to do with the data.
theorem render_remembers (e : Engine) (identity : Text) (make : Unit → Except CompileError Text)
    (data data' : List (Datum × Datum)) (store : Store) :
    { (e.render identity make data).2 with store } = { (e.render identity make data').2 with store } := by
  rw [render_eq_present, render_eq_present]
  unfold present
  cases (e.shelf.fetch identity make).1.outcome with
  | error cause => rfl
  | ok artifact =>
      unfold rendered
      dsimp only
      rw [e.renderer.render_remembers]

-- Whatever the data of a rendering is, the engine behind it is one and the same engine, moved behind cells
-- that nothing leads to any more.
theorem Bare.exists_render_eq_moved (h : e.Bare) (identity : Text) (make : Unit → Except CompileError Text) :
    ∃ left : Engine, ∀ data, ∃ m : Move, left.store.Fits m ∧
      (e.render identity make data).2 = moved m left := by
  refine ⟨{ (e.render identity make []).2 with store := ⟨#[], e.store.marks⟩ }, fun data => ?_⟩
  rw [e.render_remembers identity make [] data]
  have hmarks := (render_moved h.fits identity make data).2.marks
  have hbindings := e.bindings_render identity make data
  generalize (e.render identity make data).2 = after at hmarks hbindings
  refine ⟨⟨after.store.cells, e.store.marks, after.store.marks - e.store.marks⟩, ⟨Nat.le_refl _, ?_⟩, ?_⟩
  · intro a c ha
    simp [Store.find?] at ha
  · obtain ⟨compiler, shelf, renderer, bindings, ⟨cells, marks⟩⟩ := after
    obtain rfl : bindings = e.bindings := hbindings
    have hstore : (⟨cells, marks⟩ : Store) =
        moved ⟨cells, e.store.marks, marks - e.store.marks⟩ ⟨#[], e.store.marks⟩ := by
      change _ = (⟨cells ++ #[].map _, Move.mark _ _⟩ : Store)
      simp only [Move.mark, watch] at hmarks ⊢
      rw [if_neg (Nat.lt_irrefl _), Nat.add_sub_cancel' hmarks]
      simp
    have hsettled := h.settled ⟨cells, e.store.marks, marks - e.store.marks⟩ (Nat.le_refl _)
    exact congr (congrArg (Engine.mk compiler shelf renderer) hsettled.symm) hstore

end Bare

end Engine

end BraceTemplate

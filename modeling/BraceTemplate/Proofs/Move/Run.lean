import BraceTemplate.Proofs.Move.Arrange
import BraceTemplate.Proofs.Move.Store

namespace BraceTemplate.Host

-- Two outcomes with the same error, or with values that belong together.
def Matches {α β : Type} (R : α → β → Prop) : Except Error α → Except Error β → Prop
  | .ok a, .ok b => R a b
  | .error e, .error e' => e' = e
  | _, _ => False

-- A step that does behind other cells what another one does: it comes out the same and leaves the same
-- store.
def Step.MirrorsBy {α β : Type} (m : Move) (R : α → β → Prop) (x : Step α) (y : Step β) : Prop :=
  ∀ s : Store, s.Fits m →
    Matches R (x.run.run s).1 (y.run.run (moved m s)).1 ∧
      (y.run.run (moved m s)).2 = moved m (x.run.run s).2 ∧ (x.run.run s).2.Fits m

-- What comes of two steps that belong together: the same error, or the same value behind other cells.
abbrev Step.Mirrors {α : Type} [Movable α] (m : Move) (x y : Step α) : Prop :=
  Step.MirrorsBy m (fun a b => b = moved m a) x y

structure Setting.Mirrors (m : Move) (g g' : Setting) : Prop where
  data : g'.data = moved m g.data
  invoke : ∀ d p, Step.Mirrors m (g.invoke d p) (g'.invoke (moved m d) (moved m p))
  prepare : ∀ w v, Step.Mirrors m (g.prepare w v) (g'.prepare (moved m w) (moved m v))
  perform : ∀ w v, Step.Mirrors m (g.perform w v) (g'.perform (moved m w) (moved m v))

namespace Run

variable {α β γ δ ε : Type} {m : Move}

def MirrorsBy (m : Move) (R : α → β → Prop) (r : Run α) (r' : Run β) : Prop :=
  ∀ g g' : Setting, g.Mirrors m g' → Step.MirrorsBy m R (r.run g) (r'.run g')

-- A run that does behind other cells what another one does.
abbrev Mirrors [Movable α] (m : Move) (r r' : Run α) : Prop :=
  MirrorsBy m (fun a b => b = moved m a) r r'

-- The same for runs that give addresses.
abbrev MirrorsAt (m : Move) (r r' : Run Nat) : Prop :=
  MirrorsBy m (fun a b => b = m.address a) r r'

section Bind

variable {R : α → β → Prop} {S : γ → δ → Prop}

theorem mirrorsBy_pure {a : α} {b : β} (h : R a b) : MirrorsBy m R (pure a) (pure b) :=
  fun _ _ _ _ hs => ⟨h, rfl, hs⟩

theorem MirrorsBy.bind {r : Run α} {r' : Run β} {f : α → Run γ} {f' : β → Run δ} (h : MirrorsBy m R r r')
    (hf : ∀ a b, R a b → MirrorsBy m S (f a) (f' b)) : MirrorsBy m S (r >>= f) (r' >>= f') := by
  intro g g' hg s hs
  obtain ⟨houtcome, hstore, hfits⟩ := h g g' hg s hs
  change Matches S (outcome (r >>= f) g s).1 (outcome (r' >>= f') g' (moved m s)).1 ∧
    (outcome (r' >>= f') g' (moved m s)).2 = moved m (outcome (r >>= f) g s).2 ∧
    (outcome (r >>= f) g s).2.Fits m
  change Matches R (outcome r g s).1 (outcome r' g' (moved m s)).1 at houtcome
  change (outcome r' g' (moved m s)).2 = moved m (outcome r g s).2 at hstore
  change (outcome r g s).2.Fits m at hfits
  rw [outcome_bind, outcome_bind]
  rcases hr : outcome r g s with ⟨e | a, s₁⟩ <;> rcases hr' : outcome r' g' (moved m s) with ⟨e' | b, s₂⟩ <;>
    rw [hr] at houtcome hstore hfits <;> rw [hr'] at houtcome hstore
  · exact ⟨houtcome, hstore, hfits⟩
  · exact houtcome.elim
  · exact houtcome.elim
  · obtain rfl : s₂ = moved m s₁ := hstore
    exact hf a b houtcome g g' hg s₁ hfits

-- Runs that belong together can be put together in step.
def alongside (m : Move) : Arrange.Alongside Run Run where
  rel R r r' := MirrorsBy m R r r'
  pure h := mirrorsBy_pure h
  bind h hf := h.bind hf

theorem mirrors_fail (e : Error) : MirrorsBy m R (fail e) (fail e) :=
  fun _ _ _ _ hs => ⟨rfl, rfl, hs⟩

theorem mirrors_refuse (a : Absence) : MirrorsBy m R (refuse a) (refuse a) :=
  mirrors_fail _

theorem MirrorsAt.bind {r r' : Run Nat} {f : Nat → Run γ} {f' : Nat → Run δ} (h : MirrorsAt m r r')
    (hf : ∀ a, MirrorsBy m S (f a) (f' (m.address a))) : MirrorsBy m S (r >>= f) (r' >>= f') :=
  MirrorsBy.bind h fun a _ hb => hb ▸ hf a

theorem MirrorsBy.ite {c : Prop} [Decidable c] {r q : Run α} {r' q' : Run β} (h : MirrorsBy m R r r')
    (h' : MirrorsBy m R q q') : MirrorsBy m R (if c then r else q) (if c then r' else q') := by
  split
  · exact h
  · exact h'

-- What follows may look at the whole store, or at what the run can draw on.
theorem mirrors_get_bind {f : Store → Run α} {f' : Store → Run β}
    (hf : ∀ s, s.Fits m → MirrorsBy m R (f s) (f' (moved m s))) : MirrorsBy m R (get >>= f) (get >>= f') :=
  fun g g' hg s hs => hf s hs g g' hg s hs

theorem mirrors_read_bind {f : Setting → Run α} {f' : Setting → Run β}
    (hf : ∀ g g' : Setting, g.Mirrors m g' → MirrorsBy m R (f g) (f' g')) :
    MirrorsBy m R (read >>= f) (read >>= f') :=
  fun g g' hg => hf g g' hg g g' hg

theorem outcome_tryCatch (r : Run α) (f : Error → Run α) (g : Setting) (s : Store) :
    outcome (tryCatch r f) g s = match outcome r g s with
      | (.ok a, s') => (.ok a, s')
      | (.error e, s') => outcome (f e) g s' := by
  change ExceptT.tryCatch (r g) (fun e => f e g) s = match r g s with
    | (.ok a, s') => (.ok a, s')
    | (.error e, s') => f e g s'
  unfold ExceptT.tryCatch ExceptT.mk
  simp only [bind, StateT.bind]
  rcases r g s with ⟨_ | _, _⟩ <;> rfl

variable [Movable α]

theorem mirrors_pure {a b : α} (h : b = moved m a) : Mirrors m (pure a) (pure b) :=
  mirrorsBy_pure h

theorem Mirrors.bind {r r' : Run α} {f : α → Run γ} {f' : α → Run δ} (h : Mirrors m r r')
    (hf : ∀ a, MirrorsBy m S (f a) (f' (moved m a))) : MirrorsBy m S (r >>= f) (r' >>= f') :=
  MirrorsBy.bind h fun a _ hb => hb ▸ hf a

theorem Mirrors.map [Movable γ] {r r' : Run α} {f f' : α → γ} (h : Mirrors m r r')
    (hf : ∀ a, f' (moved m a) = moved m (f a)) : Mirrors m (f <$> r) (f' <$> r') := by
  rw [map_eq_pure_bind, map_eq_pure_bind]
  exact h.bind fun a => mirrors_pure (hf a)

theorem mirrors_lift {x y : Step α} (h : Step.Mirrors m x y) :
    Mirrors m (liftM x : Run α) (liftM y) :=
  fun _ _ _ => h

theorem Mirrors.recover {r r' : Run α} {f f' : Error → Run α} (h : Mirrors m r r')
    (hf : ∀ e, Mirrors m (f e) (f' e)) : Mirrors m (tryCatch r f) (tryCatch r' f') := by
  intro g g' hg s hs
  obtain ⟨houtcome, hstore, hfits⟩ := h g g' hg s hs
  change Matches _ (outcome (tryCatch r f) g s).1 (outcome (tryCatch r' f') g' (moved m s)).1 ∧
    (outcome (tryCatch r' f') g' (moved m s)).2 = moved m (outcome (tryCatch r f) g s).2 ∧
    (outcome (tryCatch r f) g s).2.Fits m
  change Matches _ (outcome r g s).1 (outcome r' g' (moved m s)).1 at houtcome
  change (outcome r' g' (moved m s)).2 = moved m (outcome r g s).2 at hstore
  change (outcome r g s).2.Fits m at hfits
  rw [outcome_tryCatch, outcome_tryCatch]
  rcases hr : outcome r g s with ⟨e | a, s₁⟩ <;> rcases hr' : outcome r' g' (moved m s) with ⟨e' | b, s₂⟩ <;>
    rw [hr] at houtcome hstore hfits <;> rw [hr'] at houtcome hstore
  · obtain rfl : e' = e := houtcome
    obtain rfl : s₂ = moved m s₁ := hstore
    exact hf e' g g' hg s₁ hfits
  · exact houtcome.elim
  · exact houtcome.elim
  · exact ⟨houtcome, hstore, hfits⟩

-- What follows a choice between two runs follows either of them.
theorem Mirrors.ite_bind {c : Prop} [Decidable c] {r r' q q' : Run α} {f : α → Run γ} {f' : α → Run δ}
    (h : Mirrors m r r') (h' : Mirrors m q q') (hf : ∀ a, MirrorsBy m S (f a) (f' (moved m a))) :
    MirrorsBy m S (if c then r >>= f else q >>= f) (if c then r' >>= f' else q' >>= f') := by
  split
  · exact h.bind hf
  · exact h'.bind hf

-- What follows looks at what two runs find; it is the same wherever either finds nothing.
theorem Mirrors.both [Movable ε] {r r' : Run (Option α)} {q q' : Run (Option ε)} {f : Option α → Option ε → Run γ}
    {f' : Option α → Option ε → Run δ} (h : Mirrors m r r') (h' : Mirrors m q q')
    (hf : ∀ a b, MirrorsBy m S (f (some a) (some b)) (f' (some (moved m a)) (some (moved m b))))
    (hnone : ∀ b?, MirrorsBy m S (f none b?) (f' none (moved m b?)))
    (hnone' : ∀ a, MirrorsBy m S (f (some a) none) (f' (some (moved m a)) none)) :
    MirrorsBy m S (do f (← r) (← q)) (do f' (← r') (← q')) := by
  refine h.bind fun a? => h'.bind fun b? => ?_
  cases a? with
  | none => exact hnone b?
  | some a =>
      cases b? with
      | none => exact hnone' a
      | some b => exact hf a b

theorem Mirrors.mapM [Movable γ] {f f' : α → Run γ} (h : ∀ a, Mirrors m (f a) (f' (moved m a))) (items : List α) :
    Mirrors m (items.mapM f) ((items.map (moved m)).mapM f') := by
  induction items with
  | nil => exact mirrors_pure rfl
  | cons a rest ih =>
      rw [List.map_cons, List.mapM_cons, List.mapM_cons]
      exact (h a).bind fun b => ih.bind fun bs => mirrors_pure rfl

theorem Mirrors.mapM_same [Movable γ] {f : β → Run γ} (h : ∀ b, Mirrors m (f b) (f b)) (items : List β) :
    Mirrors m (items.mapM f) (items.mapM f) := by
  induction items with
  | nil => exact mirrors_pure rfl
  | cons b rest ih =>
      rw [List.mapM_cons]
      exact (h b).bind fun c => ih.bind fun cs => mirrors_pure rfl

theorem Mirrors.forM {f f' : α → Run Unit} (h : ∀ a, Mirrors m (f a) (f' (moved m a))) (items : List α) :
    Mirrors m (items.forM f) ((items.map (moved m)).forM f') := by
  induction items with
  | nil => exact mirrors_pure rfl
  | cons a rest ih => exact (h a).bind fun _ => ih

-- The same is done for every item on both sides.
theorem Mirrors.forM_same {f f' : β → Run Unit} (h : ∀ b, Mirrors m (f b) (f' b)) (items : List β) :
    Mirrors m (items.forM f) (items.forM f') := by
  induction items with
  | nil => exact mirrors_pure rfl
  | cons b rest ih => exact (h b).bind fun _ => ih

end Bind

section Store

variable (v : Value) (a : Nat) (items : List Value) (entries : List (Value × Value))

theorem mirrors_reify : Mirrors m (reify v) (reify (moved m v)) :=
  mirrors_get_bind fun _ hs => mirrors_pure (Store.reify_moved hs v)

theorem mirrors_cell? : Mirrors m (cell? a) (cell? (m.address a)) :=
  mirrors_get_bind fun s _ => mirrors_pure (s.find?_moved a)

-- What is found in the store is of a kind of its own.
theorem mirrors_cell?_bind {R : α → β → Prop} {f : Option Cell → Run α} {f' : Option Cell → Run β}
    (hf : ∀ c?, (∀ c, c? = some c → c.Loose) → MirrorsBy m R (f c?) (f' (c?.map (moved m)))) :
    MirrorsBy m R (cell? a >>= f) (cell? (m.address a) >>= f') := by
  intro g g' hg s hs
  have hfind := hf (s.find? a) (hs.kinds a) g g' hg s hs
  rw [← Store.find?_moved] at hfind
  exact hfind

theorem mirrors_update {c : Cell} (hc : c.Loose) :
    Mirrors m (update a c) (update (m.address a) (moved m c)) :=
  fun _ _ _ s hs => ⟨rfl, s.update_moved c a, hs.update hc a⟩

theorem mirrors_allocate {c : Cell} (hc : c.Loose) : Mirrors m (allocate c) (allocate (moved m c)) := by
  intro g g' hg s hs
  have hnew := s.new_moved (m := m) c
  refine ⟨?_, ?_, hs.new hc⟩
  · exact congrArg (fun p => Value.ref p.1) hnew
  · exact congrArg Prod.snd hnew

theorem loose_list (items : Array Value) : (Cell.list items).Loose := by
  change "list".toList ∉ _
  decide

theorem loose_dict (table : Table Value) : (Cell.dict table).Loose := by
  change "dict".toList ∉ _
  decide

theorem loose_namespace (table : Table Value) : (Cell.namespace table).Loose := by
  change "Namespace".toList ∉ _
  decide

theorem loose_names (values : List (Nat × Text × Option Value)) : (Cell.names values).Loose := by
  change "cell".toList ∉ _
  decide

theorem loose_generator (work : Work) (source : Source) : (Cell.generator work source).Loose := by
  change "generator".toList ∉ _
  decide

theorem loose_loop (l : Loop) : (Cell.loop l).Loose := by
  change "LoopContext".toList ∉ _
  decide

theorem mirrors_newList : Mirrors m (newList items) (newList (items.map (moved m))) := by
  have h := mirrors_allocate (m := m) (loose_list items.toArray)
  have harray : moved m (Cell.list items.toArray) = .list (items.map (moved m)).toArray :=
    congrArg Cell.list List.map_toArray
  rw [harray] at h
  exact h

-- A list whose items are made from what is moved.
theorem mirrors_newList_map {α : Type} [Movable α] {f : α → Value} (hf : ∀ x, f (moved m x) = moved m (f x))
    (items : List α) : Mirrors m (newList (items.map f)) (newList ((items.map (moved m)).map f)) := by
  have hmap : (items.map (moved m)).map f = (items.map f).map (moved m) := by
    simp [hf]
  rw [hmap]
  exact mirrors_newList (items.map f)

-- A cell that is put into the store gets the next address there.
theorem mirrorsAt_new {c : Cell} (hc : c.Loose) :
    MirrorsAt m (do let found := (← get).new c; set found.2; pure found.1)
      (do let found := (← get).new (moved m c); set found.2; pure found.1) := by
  intro g g' hg s hs
  have hnew := s.new_moved (m := m) c
  refine ⟨?_, ?_, hs.new hc⟩
  · exact congrArg Prod.fst hnew
  · exact congrArg Prod.snd hnew

theorem mirrors_newWalk (kind : String) (hkind : kind.toList ∉ Datum.fixedKinds) (w : Walk) :
    MirrorsAt m (newWalk kind w) (newWalk kind (moved m w)) :=
  mirrorsAt_new (c := .walk kind.toList w) hkind

theorem mirrors_newGenerator (work : Work) :
    Mirrors m (newGenerator work v) (newGenerator (moved m work) (moved m v)) :=
  mirrors_allocate (loose_generator work (.fresh v))

theorem mirrors_float (x : Float) : Mirrors m (float x) (float x) := by
  intro g g' hg s hs
  have hmarked := Store.marked_moved hs (.float x)
  exact ⟨congrArg Prod.fst hmarked, congrArg Prod.snd hmarked, hs.marked (.float x)⟩

theorem mirrors_writable (d : Datum) : Mirrors m (writable d) (writable (d.moved m)) := by
  rw [writable, writable, Datum.writable_moved]
  exact (mirrors_pure rfl).ite (mirrors_fail _)

theorem mirrors_shown : Mirrors m (shown v) (shown (moved m v)) :=
  (mirrors_reify v).bind fun d => (mirrors_writable d).bind fun _ => mirrors_pure d.quoted_moved

theorem mirrors_tableAt : Mirrors m (tableAt a) (tableAt (m.address a)) := by
  refine (mirrors_cell? a).bind fun c? => ?_
  rcases c? with _ | _ | _ | _ | _ | _ | _ | _ <;> exact mirrors_pure (by simp)

theorem mirrors_asKey : Mirrors m (asKey v) (asKey (moved m v)) := by
  have hplain : Mirrors m (do let d ← reify v; if d.hashable then pure d else fail .wrongType)
      (do let d ← reify (moved m v); if d.hashable then pure d else fail .wrongType) := by
    refine (mirrors_reify v).bind fun d => ?_
    rw [Datum.moved_eq, Datum.hashable_moved]
    exact (mirrors_pure rfl).ite (mirrors_fail _)
  cases v with
  | absent a => exact (mirrors_refuse a).ite (mirrors_reify _)
  | bounds start stop step => exact mirrors_fail _
  | ref a =>
      refine (mirrors_cell? a).bind fun c? => ?_
      rcases c? with _ | _ | _ | _ | _ | _ | _ | _ <;> first | exact mirrors_fail _ | exact mirrors_reify (.ref a)
  | _ => exact hplain

theorem mirrors_withEntry (t : Table Value) (key : Value) :
    Mirrors m (withEntry t key v) (withEntry (moved m t) (moved m key) (moved m v)) :=
  (mirrors_asKey key).bind fun shape => mirrors_pure (t.set_moved ⟨key, shape, v⟩)

theorem mirrors_withEntries (t : Table Value) :
    Mirrors m (withEntries t entries) (withEntries (moved m t) (entries.map (moved m))) := by
  induction entries generalizing t with
  | nil => exact mirrors_pure rfl
  | cons e rest ih => exact (mirrors_withEntry e.2 t e.1).bind ih

theorem mirrors_newDict : Mirrors m (newDict entries) (newDict (entries.map (moved m))) := by
  refine Mirrors.bind ?_ fun t => mirrors_allocate (loose_dict t)
  simpa using mirrors_withEntries (m := m) entries .empty

-- Values that are passed by name, as entries under texts.
theorem asEntries_moved (named : List (Text × Value)) :
    (named.map (moved m)).map (fun n => (Value.str n.1, n.2)) =
      (named.map fun n => (Value.str n.1, n.2)).map (moved m) := by
  simp [Function.comp_def]

theorem mirrors_mapping? : Mirrors m (mapping? v) (mapping? (moved m v)) := by
  cases v with
  | view entries => exact mirrors_pure (by simp)
  | ref a =>
      refine (mirrors_cell? a).bind fun c? => ?_
      rcases c? with _ | _ | _ | _ | _ | _ | _ | _ <;> exact mirrors_pure (by simp)
  | _ => exact mirrors_pure rfl

theorem mirrors_inView? (shape : Datum) :
    Mirrors m (inView? entries shape) (inView? (entries.map (moved m)) (shape.moved m)) := by
  refine mirrors_get_bind fun s hs => mirrors_pure ?_
  rw [List.find?_map, moved_option, Option.map_map, Option.map_map]
  have hkey : ((fun e : Value × Value => ((moved m s).reify e.1).same (shape.moved m)) ∘ moved m) =
      fun e => (s.reify e.1).same shape := by
    funext e
    simp [Store.reify_moved hs]
  rw [hkey]
  rfl

end Store

end Run

end BraceTemplate.Host

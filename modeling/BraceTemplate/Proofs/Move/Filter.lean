import BraceTemplate.Host.Filter
import BraceTemplate.Proofs.Move.Arithmetic

namespace BraceTemplate.Host

variable {m : Move}

namespace Passed

@[simp]
theorem args_moved (p : Passed) : (moved m p).args = p.args.map (moved m) := rfl

@[simp]
theorem named_moved (p : Passed) : (moved m p).named = p.named.map (moved m) := rfl

-- Values that are passed by name are found under the same names.
theorem find?_named_moved (named : List (Text × Value)) (name : Text) :
    (named.map (moved m)).find? (·.1 == name) = (named.find? (·.1 == name)).map (moved m) := by
  rw [List.find?_map]
  rfl

theorem bindRest_moved (named : List (Text × Value)) (parameters : List String) :
    bindRest (named.map (moved m)) parameters = (bindRest named parameters).map (moved m) := by
  induction parameters with
  | nil => rfl
  | cons p rest ih =>
      rw [bindRest, ih, find?_named_moved, bindRest, List.map_cons]
      congr 1
      cases named.find? (·.1 == p.toList) <;> rfl

theorem mirrors_bind (p : Passed) (parameters : List String) :
    Run.Mirrors m (p.bind parameters) ((moved m p).bind parameters) := by
  have hnames : ∀ free : List String,
      ((p.named.map (moved m)).any fun n => !free.any fun f => f.toList == n.1) =
        p.named.any fun n => !free.any fun f => f.toList == n.1 := by
    intro free
    rw [List.any_map]
    rfl
  unfold bind
  rw [args_moved, named_moved, List.length_map]
  dsimp only
  rw [hnames]
  refine (Run.mirrors_fail _).ite (Run.mirrors_pure ?_)
  rw [bindRest_moved]
  simp [Function.comp_def]

theorem mirrors_plain (p : Passed) (least most : Nat) :
    Run.Mirrors m (p.plain least most) ((moved m p).plain least most) := by
  unfold plain
  rw [args_moved, named_moved, List.length_map, List.isEmpty_map]
  exact (Run.mirrors_pure rfl).ite (Run.mirrors_fail _)

end Passed

namespace Run

section Arguments

variable {α : Type} (v : Value) (p : Passed)

theorem mirrors_bare {R : α → α → Prop} {r r' : Run α} (h : MirrorsBy m R r r') :
    MirrorsBy m R (bare p r) (bare (moved m p) r') := by
  unfold bare
  rw [Passed.args_moved, Passed.named_moved, List.isEmpty_map, List.isEmpty_map]
  exact h.ite (mirrors_fail _)

theorem mirrors_asText : Mirrors m (asText v) (asText (moved m v)) := by
  cases v with
  | scalar s => cases s <;> first | exact mirrors_pure rfl | exact mirrors_fail _
  | _ => exact mirrors_fail _

theorem mirrors_asIndex : Mirrors m (asIndex v) (asIndex (moved m v)) := by
  unfold asIndex
  rw [index?_moved]
  cases index? v with
  | none => exact mirrors_fail _
  | some i => exact mirrors_pure rfl

theorem mirrors_asSize : Mirrors m (asSize v) (asSize (moved m v)) :=
  (mirrors_asIndex v).bind fun _ => (mirrors_pure rfl).ite (mirrors_fail _)

-- The steps of a path are scalars without marks.
theorem mirrors_attributeSteps : Mirrors m (attributeSteps v) (attributeSteps (moved m v)) := by
  have hstep : ∀ (like : Text → Value), (∀ s, moved m (like s) = like s) → ∀ s : Text,
      Mirrors m (attributeSteps.stepOf like s) (attributeSteps.stepOf like s) := by
    intro like hlike s
    unfold attributeSteps.stepOf
    refine MirrorsBy.ite ?_ (mirrors_pure (hlike s).symm)
    cases readInt? s with
    | none => exact mirrors_fail _
    | some i => exact mirrors_pure rfl
  cases v with
  | scalar s =>
      cases s with
      | null => exact mirrors_pure rfl
      | str s => exact Mirrors.mapM_same (hstep _ fun _ => rfl) _
      | safe s => exact Mirrors.mapM_same (hstep _ fun _ => rfl) _
      | _ => exact mirrors_pure rfl
  | _ => exact mirrors_pure rfl

theorem mirrors_follow (fallback : Option Value) (steps : List Value) :
    Mirrors m (follow fallback steps v) (follow (fallback.map (moved m)) (steps.map (moved m)) (moved m v)) := by
  induction steps generalizing v with
  | nil => exact mirrors_pure rfl
  | cons step rest ih =>
      refine (mirrors_getItem v step).bind fun next => ?_
      cases next with
      | absent a =>
          cases fallback with
          | none => exact ih (.absent a)
          | some f => exact ih f
      | _ => cases fallback <;> exact ih _

@[simp]
theorem ignoringCase_moved : ignoringCase (moved m v) = moved m (ignoringCase v) := by
  cases v with
  | scalar s => cases s <;> rfl
  | _ => rfl

end Arguments

section Filters

variable (v w : Value) (p : Passed)

theorem mirrors_flag (v? : Option Value) : Mirrors m (flag v?) (flag (v?.map (moved m))) := by
  cases v? with
  | none => exact mirrors_pure rfl
  | some v => exact mirrors_truth v

theorem mirrors_onText (change : Text → Text) : Mirrors m (onText change v) (onText change (moved m v)) := by
  have htext : ∀ v : Value, Mirrors m (do return Value.str (change (← text v)))
      (do return Value.str (change (← text (moved m v)))) :=
    fun v => (mirrors_text v).bind fun s => mirrors_pure rfl
  cases v with
  | scalar s =>
      cases s with
      | safe s => exact mirrors_pure rfl
      | _ => exact htext (.scalar _)
  | _ => exact htext _

theorem mirrors_escaped : Mirrors m (escaped v) (escaped (moved m v)) := by
  have htext : ∀ v : Value, Mirrors m (do return Value.scalar (.safe (escape (← text v))))
      (do return Value.scalar (.safe (escape (← text (moved m v))))) :=
    fun v => (mirrors_text v).bind fun s => mirrors_pure rfl
  cases v with
  | scalar s =>
      cases s with
      | safe s => exact mirrors_pure rfl
      | _ => exact htext (.scalar _)
  | _ => exact htext _

theorem mirrors_safe : Mirrors m (safe v) (safe (moved m v)) :=
  (mirrors_text v).bind fun _ => mirrors_pure rfl

theorem mirrors_replaceBound (v? : Option Value) :
    Mirrors m (replaceBound v?) (replaceBound (v?.map (moved m))) := by
  have hbound : ∀ v : Value, Mirrors m (do let i ← asSize v; pure (if i < 0 then none else some i.toNat))
      (do let i ← asSize (moved m v); pure (if i < 0 then none else some i.toNat)) :=
    fun v => (mirrors_asSize v).bind fun i => mirrors_pure (by simp)
  cases v? with
  | none => exact mirrors_pure rfl
  | some v =>
      cases v with
      | scalar s =>
          cases s with
          | null => exact mirrors_pure rfl
          | _ => exact hbound (.scalar _)
      | _ => exact hbound _

theorem mirrors_replaced : Mirrors m (replaced v p) (replaced (moved m v) (moved m p)) := by
  refine (p.mirrors_bind _).bind fun found => ?_
  rcases found with _ | ⟨_ | old, _ | ⟨_ | new, count⟩⟩
  · exact mirrors_fail _
  · exact mirrors_fail _
  · exact mirrors_fail _
  · exact mirrors_fail _
  · exact mirrors_fail _
  · exact mirrors_fail _
  · refine (mirrors_text v).bind fun s => (mirrors_text old).bind fun old => (mirrors_text new).bind fun new => ?_
    have hcount : (count.map (moved m)).head?.join = count.head?.join.map (moved m) := by
      rcases count with _ | ⟨_ | v, rest⟩ <;> rfl
    rw [hcount]
    exact (mirrors_replaceBound count.head?.join).bind fun bound => mirrors_pure (by simp)

theorem mirrors_texts (items : List Value) : Mirrors m (texts items) (texts (items.map (moved m))) := by
  induction items with
  | nil => exact mirrors_pure rfl
  | cons v rest ih => exact (mirrors_text v).bind fun s => ih.bind fun others => mirrors_pure (by simp)

theorem mirrors_pathSteps? (path : Option Value) :
    Mirrors m (pathSteps? path) (pathSteps? (path.map (moved m))) := by
  have hsteps : ∀ v : Value, Mirrors m (some <$> attributeSteps v) (some <$> attributeSteps (moved m v)) :=
    fun v => (mirrors_attributeSteps v).map fun _ => rfl
  cases path with
  | none => exact mirrors_pure rfl
  | some v =>
      cases v with
      | scalar s =>
          cases s with
          | null => exact mirrors_pure rfl
          | _ => exact hsteps (.scalar _)
      | _ => exact hsteps _

theorem mirrors_joinedBy (mark : Text) (walk : Nat) (steps : List Value) :
    Mirrors m (joinedBy mark walk steps) (joinedBy mark (m.address walk) (steps.map (moved m))) := by
  have hadded : ∀ (acc : List Text) (x : Value),
      Mirrors m (do return (← text (← follow none steps x)) :: acc)
        (do return (← text (← follow none (steps.map (moved m)) (moved m x))) :: moved m acc) :=
    fun acc x => (mirrors_follow x none steps).bind fun v => (mirrors_text v).bind fun s => mirrors_pure rfl
  exact (Mirrors.foldAll hadded walk []).bind fun pieces => mirrors_pure (by simp)

-- A value that may have been passed, or what stands for it.
theorem getD_moved {w : Value} (hw : moved m w = w) (v? : Option Value) :
    (moved m v?).getD w = moved m (v?.getD w) := by
  cases v? with
  | none => exact hw.symm
  | some v => rfl

theorem Mirrors.getD {α : Type} [Movable α] {f f' : Value → Run α} {w : Value}
    (h : ∀ v, Mirrors m (f v) (f' (moved m v))) (hw : moved m w = w) (v? : Option Value) :
    Mirrors m (f (v?.getD w)) (f' ((moved m v?).getD w)) := by
  rw [getD_moved hw]
  exact h (v?.getD w)

theorem mirrors_joined : Mirrors m (joined v p) (joined (moved m v) (moved m p)) := by
  refine (p.mirrors_bind _).bind fun found => ?_
  rcases found with _ | ⟨sep, _ | ⟨path, _ | ⟨_, _⟩⟩⟩
  · exact mirrors_fail _
  · exact mirrors_fail _
  · refine (mirrors_pathSteps? path).bind fun steps? => ?_
    have hmark := Mirrors.getD (m := m) mirrors_text (moved_str []) sep
    cases steps? with
    | none => exact hmark.bind fun mark => (mirrors_walkOf v).bind fun walk => mirrors_joinedBy mark walk []
    | some steps =>
        exact (mirrors_walkOf v).bind fun walk => hmark.bind fun mark => mirrors_joinedBy mark walk steps
  · exact mirrors_fail _

theorem mirrors_firstItem : Mirrors m (firstItem v) (firstItem (moved m v)) :=
  (mirrors_walkOf v).bind fun walk => (mirrors_advance walk).bind fun x? =>
    mirrors_pure (getD_moved (moved_missing _) x?)

theorem reversePartKind_loose (p : Part) : (reversePartKind p).toList ∉ Datum.fixedKinds := by
  cases p <;> decide

theorem mirrors_entriesBackwards (p : Part) (a : Nat) :
    MirrorsAt m (entriesBackwards p a) (entriesBackwards p (m.address a)) := by
  refine (mirrors_tableAt a).bind fun t => ?_
  simpa [entriesBackwards] using mirrors_newWalk (m := m) (reversePartKind p) (reversePartKind_loose p)
    (.entriesBack p a t.slots.size t.size)

theorem mirrors_backwards? : MirrorsBy m (fun a? b? => b? = a?.map m.address) (backwards? v) (backwards? (moved m v)) := by
  have hsome : ∀ {r r' : Run Nat}, MirrorsAt m r r' →
      MirrorsBy m (fun a? b? => b? = a?.map m.address) (some <$> r) (some <$> r') := by
    intro r r' h
    rw [map_eq_pure_bind, map_eq_pure_bind]
    exact h.bind fun a => mirrorsBy_pure rfl
  have hback : ∀ items : List Value, MirrorsBy m (fun a? b? => b? = a?.map m.address)
      (some <$> newWalk "reversed" (.rest items.reverse))
      (some <$> newWalk "reversed" (.rest (items.map (moved m)).reverse)) := by
    intro items
    rw [← List.map_reverse]
    exact hsome (mirrors_newWalk "reversed" (by decide) (.rest items.reverse))
  have hscalar : ∀ s : Scalar, MirrorsBy m (fun a? b? => b? = a?.map m.address)
      ((scalarItems? s).elim (pure none) fun items => some <$> newWalk "reversed" (.rest items.reverse))
      ((scalarItems? (s.moved m)).elim (pure none) fun items => some <$> newWalk "reversed" (.rest items.reverse)) := by
    intro s
    rw [scalarItems?_moved]
    cases scalarItems? s with
    | none => exact mirrorsBy_pure rfl
    | some items => exact hback items
  cases v with
  | absent a => exact (mirrors_refuse a).ite (hsome (mirrors_newWalk "reversed" (by decide) .over))
  | set frozen items => exact mirrorsBy_pure rfl
  | scalar s =>
      cases s with
      | range start stop step => exact hsome (mirrors_newWalk "range_iterator" (by decide) (.terms _ _ _))
      | str s => exact hscalar (.str s)
      | safe s => exact hscalar (.safe s)
      | bytes bs => exact hscalar (.bytes bs)
      | _ => exact mirrorsBy_pure rfl
  | tuple items =>
      rw [moved_tuple]
      exact hback items
  | view entries =>
      have hkeys := mirrors_newWalk (m := m) (reversePartKind .keys) (reversePartKind_loose .keys)
        (.rest (entries.map (·.1)).reverse)
      simp only [moved_view, backwards?]
      refine hsome ?_
      simpa [Function.comp_def] using hkeys
  | part p a => exact hsome (mirrors_entriesBackwards p a)
  | ref a =>
      refine (mirrors_cell? a).bind fun c? => ?_
      rcases c? with _ | items | _ | _ | _ | _ | _ | _
      · exact mirrorsBy_pure rfl
      · simp only [moved_option, Option.map_some, moved_listCell, Array.size_map]
        exact hsome (mirrors_newWalk "list_reverseiterator" (by decide) (.listBack a items.size))
      · exact hsome (mirrors_entriesBackwards .keys a)
      · exact mirrorsBy_pure rfl
      · exact mirrorsBy_pure rfl
      · exact mirrorsBy_pure rfl
      · exact mirrorsBy_pure rfl
      · exact mirrorsBy_pure rfl
  | _ => exact mirrorsBy_pure rfl

theorem mirrors_lastItem : Mirrors m (lastItem v) (lastItem (moved m v)) := by
  refine (mirrors_backwards? v).bind fun walk? _ hb => ?_
  subst hb
  cases walk? with
  | none => exact mirrors_fail _
  | some walk => exact (mirrors_advance walk).bind fun x? => mirrors_pure (getD_moved (moved_missing _) x?)

-- A run that is tried fails in step.
theorem Mirrors.attempt {α : Type} [Movable α] {r r' : Run α} (h : Mirrors m r r') (excused : Error → Bool) :
    Mirrors m (Run.attempt excused r) (Run.attempt excused r') :=
  Mirrors.recover (h.map fun _ => rfl) fun _ => (mirrors_pure rfl).ite (mirrors_fail _)

theorem mirrors_reversedItems : Mirrors m (reversedItems v) (reversedItems (moved m v)) := by
  refine (mirrors_backwards? v).bind fun walk? _ hb => ?_
  subst hb
  cases walk? with
  | some walk => exact mirrors_pure rfl
  | none =>
      refine ((mirrors_items v).attempt isWrongType).bind fun all? => ?_
      cases all? with
      | none => exact mirrors_fail _
      | some all =>
          have hall := mirrors_newList (m := m) all.reverse
          rw [List.map_reverse] at hall
          exact hall

theorem mirrors_reversed : Mirrors m (reversed v) (reversed (moved m v)) := by
  cases v with
  | scalar s =>
      cases s with
      | str s => exact mirrors_pure rfl
      | safe s => exact mirrors_pure rfl
      | _ => exact mirrors_reversedItems (.scalar _)
  | _ => exact mirrors_reversedItems _

theorem mirrors_summed : Mirrors m (summed v p) (summed (moved m v) (moved m p)) := by
  refine (p.mirrors_bind _).bind fun found => ?_
  rcases found with _ | ⟨path, _ | ⟨start, _ | ⟨_, _⟩⟩⟩
  · exact mirrors_fail _
  · exact mirrors_fail _
  · refine (mirrors_pathSteps? path).bind fun steps? => (mirrors_walkOf v).bind fun walk => ?_
    have hwritten : ∀ v : Value, isWritten (moved m v) = isWritten v := by
      intro v
      cases v with
      | scalar s => cases s <;> rfl
      | _ => rfl
    have htotal := getD_moved (moved_int (m := m) 0) start
    dsimp only [moved_list, List.map_cons, List.map_nil]
    rw [htotal, hwritten]
    refine (mirrors_fail _).ite (Mirrors.foldAll (fun sum x => ?_) walk _)
    refine Mirrors.bind ?_ fun v => mirrors_binary sum v .add
    cases steps? with
    | none => exact mirrors_follow x none []
    | some steps => exact mirrors_follow x none steps
  · exact mirrors_fail _

theorem mirrors_keyOf (exact' : Bool) (steps : List Value) :
    Mirrors m (keyOf exact' steps v) (keyOf exact' (steps.map (moved m)) (moved m v)) := by
  refine (mirrors_follow v none steps).bind fun k => mirrors_pure ?_
  rw [ignoringCase_moved]
  split <;> rfl

theorem mirrors_extremeItem (better : Relation) :
    Mirrors m (extremeItem better v p) (extremeItem better (moved m v) (moved m p)) := by
  refine (p.mirrors_bind _).bind fun found => ?_
  rcases found with _ | ⟨caseSensitive, _ | ⟨path, _ | ⟨_, _⟩⟩⟩
  · exact mirrors_fail _
  · exact mirrors_fail _
  · refine (mirrors_walkOf v).bind fun walk => (mirrors_advance walk).bind fun first? => ?_
    cases first? with
    | none => exact mirrors_pure rfl
    | some first =>
        have hpath := Mirrors.getD (m := m) mirrors_attributeSteps moved_null path
        refine (mirrors_flag caseSensitive).bind fun exact' => hpath.bind fun steps => ?_
        refine (mirrors_keyOf first exact' steps).bind fun key => ?_
        refine (Mirrors.foldAll (fun best x => ?_) walk (first, key)).bind fun best => mirrors_pure rfl
        refine (mirrors_keyOf x exact' steps).bind fun k => (mirrors_ordered better k best.2).bind fun _ => ?_
        exact (mirrors_pure rfl).ite (mirrors_pure rfl)
  · exact mirrors_fail _

theorem mirrors_keysBefore (as bs : List Value) :
    Mirrors m (keysBefore as bs) (keysBefore (as.map (moved m)) (bs.map (moved m))) := by
  refine (Mirrors.difference? mirrors_same as bs).bind fun found => ?_
  rcases found with _ | ⟨a, b⟩
  · exact mirrors_pure (by simp)
  · exact mirrors_before a b

theorem mirrors_direction (v? : Option Value) : Mirrors m (direction v?) (direction (v?.map (moved m))) := by
  cases v? with
  | none => exact mirrors_pure rfl
  | some v => exact (mirrors_asIndex v).bind fun i => (mirrors_pure rfl).ite (mirrors_fail _)

-- Values are arranged in step by keys that are compared in step.
theorem Mirrors.arranged {κ : Type} [Movable κ] {less less' : κ → κ → Run Bool}
    (h : ∀ a b, Mirrors m (less a b) (less' (moved m a) (moved m b))) (descending : Bool) (keyed : List (κ × Value)) :
    Mirrors m (Run.arranged less descending keyed) (Run.arranged less' descending (keyed.map (moved m))) := by
  have horders : (alongside m).Orders (fun a b : κ × Value => less a.1 b.1) (fun a b => less' a.1 b.1) (moved m) :=
    fun a b => h a.1 b.1
  have hlisted : ∀ {xs ys : List (κ × Value)}, ys = xs.map (moved m) →
      Mirrors m (pure (xs.map (·.2))) (pure (ys.map (·.2))) := by
    intro xs ys hys
    subst hys
    exact mirrors_pure (by simp [Function.comp_def])
  exact MirrorsBy.ite
    (MirrorsBy.bind ((alongside m).sortDown horders keyed) fun _ _ => hlisted)
    (MirrorsBy.bind ((alongside m).sort horders keyed) fun _ _ => hlisted)

theorem mirrors_sortPaths : Mirrors m (sortPaths v) (sortPaths (moved m v)) := by
  have hpath : ∀ (like : Text → Value), (∀ s, moved m (like s) = like s) → ∀ s : Text,
      Mirrors m (attributeSteps (like s)) (attributeSteps (like s)) := by
    intro like hlike s
    have hsteps := mirrors_attributeSteps (m := m) (like s)
    rwa [hlike s] at hsteps
  have hone : ∀ v : Value, Mirrors m (do return [← attributeSteps v]) (do return [← attributeSteps (moved m v)]) :=
    fun v => (mirrors_attributeSteps v).bind fun steps => mirrors_pure rfl
  cases v with
  | scalar s =>
      cases s with
      | str s => exact Mirrors.mapM_same (hpath _ fun _ => rfl) _
      | safe s => exact Mirrors.mapM_same (hpath _ fun _ => rfl) _
      | _ => exact hone (.scalar _)
  | _ => exact hone _

theorem mirrors_sorted : Mirrors m (sorted v p) (sorted (moved m v) (moved m p)) := by
  refine (p.mirrors_bind _).bind fun found => ?_
  rcases found with _ | ⟨descending, _ | ⟨caseSensitive, _ | ⟨path, _ | ⟨_, _⟩⟩⟩⟩
  · exact mirrors_fail _
  · exact mirrors_fail _
  · exact mirrors_fail _
  · have hpath := Mirrors.getD (m := m) mirrors_sortPaths moved_null path
    refine (mirrors_flag caseSensitive).bind fun exact' => hpath.bind fun parts => ?_
    refine (mirrors_items v).bind fun all => (mirrors_direction descending).bind fun descending => ?_
    refine (Mirrors.mapM (fun x => ?_) all).bind fun keyed => ?_
    · exact (Mirrors.mapM (mirrors_keyOf x exact') parts).bind fun keys => mirrors_pure rfl
    · exact (Mirrors.arranged mirrors_keysBefore descending keyed).bind mirrors_newList
  · exact mirrors_fail _

theorem mirrors_sortsByKey : Mirrors m (sortsByKey v) (sortsByKey (moved m v)) := by
  refine (mirrors_same v (.str _)).bind fun _ => (mirrors_pure rfl).ite ?_
  exact (mirrors_same v (.str _)).bind fun _ => (mirrors_pure rfl).ite (mirrors_fail _)

theorem mirrors_entriesToSort : Mirrors m (entriesToSort v) (entriesToSort (moved m v)) := by
  cases v with
  | absent a => exact mirrors_refuse a
  | _ =>
      refine (mirrors_mapping? _).bind fun entries? => ?_
      cases entries? with
      | none => exact mirrors_fail _
      | some entries => exact mirrors_pure rfl

theorem mirrors_keyedEntry (caseSensitive : Option Value) (byKey : Bool) (e : Value × Value) :
    Mirrors m (keyedEntry caseSensitive byKey e) (keyedEntry (caseSensitive.map (moved m)) byKey (moved m e)) := by
  refine (mirrors_flag caseSensitive).bind fun exact' => mirrors_pure ?_
  cases byKey <;> cases exact' <;> simp

theorem mirrors_dictSorted : Mirrors m (dictSorted v p) (dictSorted (moved m v) (moved m p)) := by
  refine (p.mirrors_bind _).bind fun found => ?_
  rcases found with _ | ⟨caseSensitive, _ | ⟨by', _ | ⟨descending, _ | ⟨_, _⟩⟩⟩⟩
  · exact mirrors_fail _
  · exact mirrors_fail _
  · exact mirrors_fail _
  · have hby := Mirrors.getD (m := m) mirrors_sortsByKey (moved_str "key".toList) by'
    refine hby.bind fun byKey => (mirrors_entriesToSort v).bind fun entries => ?_
    refine (mirrors_direction descending).bind fun descending => ?_
    refine (Mirrors.mapM (mirrors_keyedEntry caseSensitive byKey) entries).bind fun keyed => ?_
    exact (Mirrors.arranged mirrors_before descending keyed).bind mirrors_newList
  · exact mirrors_fail _

theorem mirrors_unique : Mirrors m (unique v p) (unique (moved m v) (moved m p)) := by
  refine (p.mirrors_bind _).bind fun found => ?_
  rcases found with _ | ⟨caseSensitive, _ | ⟨path, _ | ⟨_, _⟩⟩⟩
  · exact mirrors_fail _
  · exact mirrors_fail _
  · exact mirrors_newGenerator v (.unique caseSensitive path)
  · exact mirrors_fail _

theorem mirrors_toWholeIn (base : Option Int) : Mirrors m (toWholeIn base v) (toWholeIn base (moved m v)) := by
  cases v with
  | scalar s =>
      cases s with
      | str s => exact mirrors_readOr _
      | safe s => exact mirrors_readOr _
      | _ => exact mirrors_toWhole (.scalar _)
  | _ => exact mirrors_toWhole _

theorem mirrors_toInt : Mirrors m (toInt v p) (toInt (moved m v) (moved m p)) := by
  refine (p.mirrors_bind _).bind fun found => ?_
  rcases found with _ | ⟨fallback, _ | ⟨base, _ | ⟨_, _⟩⟩⟩
  · exact mirrors_fail _
  · exact mirrors_fail _
  · have hwhole : Mirrors m (toWholeIn (index? (base.getD (.int 10))) v)
        (toWholeIn (index? ((moved m base).getD (.int 10))) (moved m v)) := by
      rw [getD_moved (moved_int 10), index?_moved]
      exact mirrors_toWholeIn v _
    refine (hwhole.attempt isWrong).bind fun i? => ?_
    cases i? with
    | some i => exact mirrors_pure rfl
    | none =>
        have hcut : Mirrors m (do wholeOf (.float (← toReal v))) (do wholeOf (.float (← toReal (moved m v)))) :=
          (mirrors_toReal v).bind fun x => mirrors_wholeOf _
        refine (hcut.attempt _).bind fun i? => ?_
        cases i? with
        | some i => exact mirrors_pure rfl
        | none => exact mirrors_pure (getD_moved (moved_int 0) fallback)
  · exact mirrors_fail _

theorem mirrors_toFloat : Mirrors m (toFloat v p) (toFloat (moved m v) (moved m p)) := by
  refine (p.mirrors_bind _).bind fun found => ?_
  rcases found with _ | ⟨fallback, _ | ⟨_, _⟩⟩
  · exact mirrors_fail _
  · have hreal : isReal (moved m v) = isReal v := by
      cases v with
      | scalar s => cases s <;> rfl
      | _ => rfl
    dsimp only [moved_list, List.map_cons, List.map_nil]
    rw [hreal]
    refine (mirrors_pure rfl).ite (((mirrors_toReal v).attempt isWrong).bind fun x? => ?_)
    cases x? with
    | some x => exact mirrors_float x
    | none => exact mirrors_pure (getD_moved rfl fallback)
  · exact mirrors_fail _

theorem mirrors_magnitude : Mirrors m (magnitude v) (magnitude (moved m v)) := by
  have hline : ∀ s : Scalar, Mirrors m (magnitudeOf s) (magnitudeOf (s.moved m)) := by
    intro s
    unfold magnitudeOf
    rw [Scalar.number?_moved]
    rcases s.number? with _ | i | x
    · exact mirrors_fail _
    · exact mirrors_pure rfl
    · exact mirrors_float _
  cases v with
  | absent a => exact mirrors_refuse a
  | scalar s =>
      cases s with
      | planar z => exact (mirrors_fail _).ite (mirrors_float _)
      | _ => exact hline _
  | _ => exact mirrors_fail _

theorem mirrors_orDefault : Mirrors m (orDefault v p) (orDefault (moved m v) (moved m p)) := by
  refine (p.mirrors_bind _).bind fun found => ?_
  rcases found with _ | ⟨fallback, _ | ⟨boolean, _ | ⟨_, _⟩⟩⟩
  · exact mirrors_fail _
  · exact mirrors_fail _
  · have hfallback := getD_moved (moved_str (m := m) []) fallback
    have hpresent : ∀ v : Value, Mirrors m
        (do if ← flag boolean then return if ← truth v then v else fallback.getD (.str []) else pure v)
        (do
          if ← flag (boolean.map (moved m)) then
            return if ← truth (moved m v) then moved m v else (moved m fallback).getD (.str [])
          else pure (moved m v)) := by
      refine fun v => (mirrors_flag boolean).bind fun _ => MirrorsBy.ite ?_ (mirrors_pure rfl)
      refine (mirrors_truth v).bind fun t => mirrors_pure ?_
      cases t with
      | true => rfl
      | false => exact hfallback
    cases v with
    | absent a => exact mirrors_pure hfallback
    | _ => exact hpresent _
  · exact mirrors_fail _

theorem mirrors_dumped : Mirrors m (dumped v p) (dumped (moved m v) (moved m p)) := by
  refine (p.mirrors_bind _).bind fun found => ?_
  rcases found with _ | ⟨indent, _ | ⟨_, _⟩⟩
  · exact mirrors_fail _
  · have hindent := Mirrors.getD (m := m) mirrors_asIndex (moved_int 0) indent
    refine hindent.bind fun indent => (mirrors_reify v).bind fun d => (mirrors_writable d).bind fun _ => ?_
    rw [Datum.moved_eq, Datum.endless_moved]
    exact (mirrors_fail _).ite (mirrors_pure (by simp))
  · exact mirrors_fail _

theorem mirrors_pretty : Mirrors m (pretty v) (pretty (moved m v)) :=
  (mirrors_reify v).bind fun d => (mirrors_writable d).bind fun _ => mirrors_pure (by simp)

theorem mirrors_trimmedBy (chars : Value) : Mirrors m (trimmedBy chars v) (trimmedBy (moved m chars) (moved m v)) := by
  cases chars with
  | scalar s =>
      cases s with
      | null => exact mirrors_onText v _
      | str set => exact mirrors_onText v _
      | safe set => exact mirrors_onText v _
      | _ => exact mirrors_fail _
  | _ => exact mirrors_fail _

theorem mirrors_trimmed : Mirrors m (trimmed v p) (trimmed (moved m v) (moved m p)) := by
  refine (p.mirrors_bind _).bind fun found => ?_
  rcases found with _ | ⟨chars, _ | ⟨_, _⟩⟩
  · exact mirrors_fail _
  · have htrimmed := mirrors_trimmedBy (m := m) v (chars.getD null)
    rw [← getD_moved (w := null) moved_null] at htrimmed
    exact (mirrors_text v).bind fun _ => htrimmed
  · exact mirrors_fail _

-- What is written by its name does in step whatever it is applied to.
theorem mirrors_filters : ∀ entry ∈ filters, ∀ (v : Value) (p : Passed),
    Mirrors m (entry.2 v p) (entry.2 (moved m v) (moved m p)) := by
  have hlength : ∀ (v : Value) (p : Passed), Mirrors m (bare p do return Value.int (← length v))
      (bare (moved m p) do return Value.int (← length (moved m v))) :=
    fun v p => mirrors_bare p ((mirrors_length v).bind fun n => mirrors_pure rfl)
  have hescaped : ∀ (v : Value) (p : Passed), Mirrors m (bare p (escaped v)) (bare (moved m p) (escaped (moved m v))) :=
    fun v p => mirrors_bare p (mirrors_escaped v)
  have hchanged : ∀ (change : Text → Text) (v : Value) (p : Passed),
      Mirrors m (bare p (onText change v)) (bare (moved m p) (onText change (moved m v))) :=
    fun change v p => mirrors_bare p (mirrors_onText v change)
  simp only [filters, List.forall_mem_cons, List.not_mem_nil, false_imp_iff, implies_true, and_true]
  refine ⟨hescaped, hescaped, fun v p => mirrors_bare p (mirrors_safe v), hchanged _, hchanged _, hchanged _,
    ?title, mirrors_trimmed, mirrors_replaced, hlength, hlength, mirrors_joined,
    fun v p => mirrors_bare p (mirrors_firstItem v), fun v p => mirrors_bare p (mirrors_lastItem v), mirrors_summed,
    fun v p => mirrors_extremeItem v p .gt, fun v p => mirrors_extremeItem v p .lt, mirrors_orDefault,
    mirrors_orDefault, mirrors_sorted, fun v p => mirrors_bare p (mirrors_reversed v), ?list, mirrors_unique,
    fun v p => mirrors_newGenerator v (.mapped p), mirrors_dictSorted, hchanged _, mirrors_toInt, mirrors_toFloat,
    fun v p => mirrors_bare p (mirrors_magnitude v), mirrors_dumped, fun v p => mirrors_bare p (mirrors_pretty v),
    fun v p => mirrors_bare p (mirrors_pairs v), fun v p => mirrors_bare p (mirrors_values v)⟩
  case title => exact fun v p => mirrors_bare p ((mirrors_text v).bind fun s => mirrors_pure rfl)
  case list => exact fun v p => mirrors_bare p ((mirrors_items v).bind mirrors_newList)

theorem mirrors_filter? {name : Text} {f : Value → Passed → Run Value} (h : filter? name = some f) :
    Mirrors m (f v p) (f (moved m v) (moved m p)) := by
  obtain ⟨entry, hentry, rfl⟩ := Option.map_eq_some_iff.mp h
  exact mirrors_filters entry (List.mem_of_find?_eq_some hentry) v p

theorem mirrors_noFilter (name : Value) : Mirrors m (noFilter name) (noFilter (moved m name)) := by
  refine (mirrors_shown name).bind fun shown => ?_
  cases name <;> exact mirrors_fail _

theorem mirrors_applyNamed (name : Value) :
    Mirrors m (applyNamed name v p) (applyNamed (moved m name) (moved m v) (moved m p)) := by
  have hnamed : filterNamed? (moved m name) = filterNamed? name := by
    cases name with
    | scalar s => cases s <;> rfl
    | _ => rfl
  refine (mirrors_asKey name).bind fun _ => ?_
  rw [hnamed]
  cases h : filterNamed? name with
  | none => exact mirrors_noFilter name
  | some f =>
      have hfound : ∃ s, filter? s = some f := by
        cases name with
        | scalar s => cases s <;> first | exact ⟨_, h⟩ | exact nomatch h
        | _ => exact nomatch h
      obtain ⟨s, hs⟩ := hfound
      exact mirrors_filter? v p hs

theorem mirrors_attributeMapping (named : List (Text × Value)) (path : Value) :
    Mirrors m (attributeMapping named path) (attributeMapping (named.map (moved m)) (moved m path)) := by
  have hrest : ((named.map (moved m)).filter fun n => n.1 != "attribute".toList && n.1 != "default".toList) =
      (named.filter fun n => n.1 != "attribute".toList && n.1 != "default".toList).map (moved m) := by
    rw [List.filter_map]
    rfl
  unfold attributeMapping
  rw [hrest, Passed.find?_named_moved]
  cases named.filter fun n => n.1 != "attribute".toList && n.1 != "default".toList with
  | cons n rest => exact mirrors_fail _
  | nil =>
      refine (mirrors_attributeSteps path).bind fun steps => mirrors_pure ?_
      generalize List.find? _ named = found
      rcases found with _ | ⟨name, v⟩
      · rfl
      · cases v with
        | scalar s => cases s <;> rfl
        | _ => rfl

theorem mirrors_mapping : Mirrors m (mapping p) (mapping (moved m p)) := by
  rcases p with ⟨args, named⟩
  unfold mapping
  rw [Passed.args_moved, Passed.named_moved, Passed.find?_named_moved]
  cases args with
  | cons name args => exact mirrors_pure rfl
  | nil =>
      cases named.find? (·.1 == "attribute".toList) with
      | none => exact mirrors_fail _
      | some n => exact mirrors_attributeMapping named n.2

theorem mirrors_prepareWork (work : Work) : Mirrors m (prepareWork work v) (prepareWork (moved m work) (moved m v)) := by
  cases work with
  | mapped p =>
      refine (mirrors_truth v).bind fun _ => MirrorsBy.ite ?_ (mirrors_pure rfl)
      exact (mirrors_mapping p).map fun _ => rfl
  | unique caseSensitive path =>
      have hpath := Mirrors.getD (m := m) mirrors_attributeSteps moved_null path
      exact (mirrors_flag caseSensitive).bind fun exact' => hpath.bind fun steps => mirrors_pure rfl
  | _ => exact mirrors_pure rfl

theorem mirrors_performWork (work : Work) : Mirrors m (performWork work v) (performWork (moved m work) (moved m v)) := by
  cases work with
  | follow steps fallback => exact (mirrors_follow v fallback steps).bind fun x => mirrors_pure rfl
  | filter name p => exact (mirrors_applyNamed v p name).bind fun x => mirrors_pure rfl
  | distinct exact' steps seen =>
      refine (mirrors_keyOf v exact' steps).bind fun k => (mirrors_asKey k).bind fun key => ?_
      have hseen : (seen.map (moved m)).any (·.same (key.moved m)) = seen.any (·.same key) := by
        simp [List.any_map, Function.comp_def]
      change MirrorsBy m _ (if seen.any (·.same key) then _ else _)
        (if (seen.map (moved m)).any (·.same (key.moved m)) then _ else _)
      rw [hseen]
      exact (mirrors_pure rfl).ite (mirrors_pure rfl)
  | _ => exact mirrors_pure rfl

end Filters

end Run

end BraceTemplate.Host

import BraceTemplate.Host.Walk
import BraceTemplate.Proofs.Move.Run

namespace BraceTemplate.Host.Run

variable {m : Move}

section Items

variable (p : Part) (t : Table Value) (v : Value)

theorem listedEntries_moved : listedEntries p (moved m t) = (listedEntries p t).map (moved m) := by
  cases p <;> simp [listedEntries, listedPart, Function.comp_def]

theorem listedEntry_moved (e : Entry Value) : listedEntry p (moved m e) = moved m (listedEntry p e) := by
  cases p <;> simp [listedEntry]

-- The items of a scalar are scalars without marks.
theorem scalarItems?_moved (s : Scalar) : scalarItems? (s.moved m) = (scalarItems? s).map (List.map (moved m)) := by
  cases s <;> simp [scalarItems?, Scalar.moved, Function.comp_def, Value.str, Value.int]

theorem fixedItems?_moved : fixedItems? (moved m v) = (fixedItems? v).map (List.map (moved m)) := by
  cases v <;> simp [fixedItems?, scalarItems?_moved, Function.comp_def]

theorem hasFixedItems_moved : hasFixedItems (moved m v) = hasFixedItems v := by
  cases v with
  | scalar s => cases s <;> rfl
  | _ => simp [hasFixedItems, fixedItems?]

end Items

section Walks

variable (v : Value) (a : Nat)

theorem mirrors_walkOf : MirrorsAt m (walkOf v) (walkOf (moved m v)) := by
  have hfixed : ∀ w : Value,
      walkOf w = (fixedItems? w).elim (fail .wrongType) (fun items => newWalk "iterator" (.rest items)) →
      walkOf (moved m w) =
        (fixedItems? (moved m w)).elim (fail .wrongType) (fun items => newWalk "iterator" (.rest items)) →
      MirrorsAt m (walkOf w) (walkOf (moved m w)) := by
    intro w hw hw'
    rw [hw, hw', fixedItems?_moved]
    cases fixedItems? w with
    | none => exact mirrors_fail _
    | some items => exact mirrors_newWalk "iterator" (by decide) (.rest items)
  cases v with
  | ref a =>
      refine (mirrors_cell? a).bind fun c? => ?_
      rcases c? with _ | items | t | t | _ | ⟨kind, w⟩ | ⟨work, source⟩ | l
      · exact mirrors_fail _
      · exact mirrors_newWalk "list_iterator" (by decide) (.list a 0)
      · simpa using mirrors_newWalk (m := m) "dict_keyiterator" (by decide) (.entries .keys a 0 t.size t.size)
      · exact mirrors_fail _
      · exact mirrors_fail _
      · exact mirrorsBy_pure rfl
      · exact mirrorsBy_pure rfl
      · exact mirrorsBy_pure rfl
  | part p a =>
      refine (mirrors_tableAt a).bind fun t => ?_
      simpa using mirrors_newWalk (m := m) "dict_iterator" (by decide) (.entries p a 0 t.size t.size)
  | absent a => exact (mirrors_refuse a).ite (mirrors_newWalk "generator" (by decide) .over)
  | scalar s =>
      cases s with
      | range start stop step => exact mirrors_newWalk "range_iterator" (by decide) (.terms start step _)
      | _ => exact hfixed _ rfl rfl
  | _ => exact hfixed _ rfl rfl

-- A walk moves on, or comes to its end, behind other cells too.
theorem mirrors_stepWalk {kind : Text} (hkind : kind ∉ Datum.fixedKinds) (w : Walk) :
    Mirrors m (stepWalk a kind w) (stepWalk (m.address a) kind (moved m w)) := by
  have hgo : ∀ (next : Walk) (v : Value),
      Mirrors m (do update a (.walk kind next); pure (some v))
        (do update (m.address a) (.walk kind (moved m next)); pure (some (moved m v))) :=
    fun next v => (mirrors_update a (c := .walk kind next) hkind).bind fun _ => mirrors_pure rfl
  have hstop : Mirrors m (do update a (.walk kind .over); pure (none : Option Value))
      (do update (m.address a) (.walk kind .over); pure none) :=
    (mirrors_update a (c := .walk kind .over) hkind).bind fun _ => mirrors_pure rfl
  cases w with
  | «over» => exact mirrors_pure rfl
  | rest items =>
      cases items with
      | nil => exact hstop
      | cons v items => exact hgo (.rest items) v
  | terms n step left =>
      cases left with
      | zero => exact hstop
      | succ left => exact hgo (.terms (n + step) step left) (.int n)
  | list source index =>
      refine (mirrors_cell? source).bind fun c? => ?_
      rcases c? with _ | items | _ | _ | _ | _ | _ | _ <;> try exact hstop
      simp only [moved_option, Option.map_some, moved_listCell, Array.getElem?_map]
      cases items[index]? with
      | none => exact hstop
      | some v => exact hgo (.list source (index + 1)) v
  | listBack source index =>
      refine (mirrors_cell? source).bind fun c? => ?_
      rcases c? with _ | items | _ | _ | _ | _ | _ | _ <;> try exact hstop
      simp only [moved_option, Option.map_some, moved_listCell, Array.getElem?_map]
      cases index with
      | zero => exact hstop
      | succ n =>
          cases items[n + 1 - 1]? with
          | none => exact hstop
          | some v => exact hgo (.listBack source n) v
  | entries p source slot size left =>
      refine (mirrors_tableAt source).bind fun t => ?_
      rw [Table.size_moved, Table.next?_moved]
      refine (mirrors_fail _).ite ?_
      rcases t.next? slot with _ | ⟨e, next⟩
      · exact hstop
      · cases left with
        | zero => exact mirrors_fail _
        | succ left =>
            simp only [Option.map_some, moved_pair, listedEntry_moved]
            exact hgo (.entries p source next size left) (listedEntry p e)
  | entriesBack p source slot size =>
      refine (mirrors_tableAt source).bind fun t => ?_
      rw [Table.size_moved, Table.previous?_moved]
      refine (mirrors_fail _).ite ?_
      rcases t.previous? slot with _ | ⟨e, next⟩
      · exact hstop
      · simp only [Option.map_some, moved_pair, listedEntry_moved]
        exact hgo (.entriesBack p source next size) (listedEntry p e)

-- What is asked for the next item may do work in any setting.
theorem mirrors_search {next next' : Run (Option Value)} (hnext : Mirrors m next next') (a walk fuel : Nat)
    (work : Work) :
    Mirrors m (search next a walk fuel work) (search next' (m.address a) (m.address walk) fuel (moved m work)) := by
  induction fuel generalizing work with
  | zero => exact mirrors_fail _
  | succ fuel ih =>
      refine hnext.bind fun v? => ?_
      cases v? with
      | none => exact mirrors_pure rfl
      | some v =>
          refine mirrors_read_bind fun g g' hg => (mirrors_lift (hg.perform work v)).bind fun ⟨x?, work⟩ => ?_
          cases x? with
          | none => exact ih work
          | some x =>
              exact (mirrors_update a (loose_generator work (.walking walk))).bind fun _ => mirrors_pure rfl

theorem mirrors_pull (reach a : Nat) : Mirrors m (pull reach a) (pull reach (m.address a)) := by
  induction reach generalizing a with
  | zero => exact mirrors_fail _
  | succ reach ih =>
      refine mirrors_cell?_bind a fun c? hloose => ?_
      rcases c? with _ | _ | _ | _ | _ | ⟨kind, w⟩ | ⟨work, source⟩ | l
      · exact mirrors_pure rfl
      · exact mirrors_pure rfl
      · exact mirrors_pure rfl
      · exact mirrors_pure rfl
      · exact mirrors_pure rfl
      · exact mirrors_stepWalk a (hloose _ rfl) w
      · refine (mirrors_update a (loose_generator work .spent)).bind fun _ => ?_
        cases source with
        | spent => exact mirrors_pure rfl
        | walking walk => exact mirrors_search (ih walk) a walk maxSearch work
        | fresh v =>
            refine mirrors_read_bind fun g g' hg => (mirrors_lift (hg.prepare work v)).bind fun work? => ?_
            cases work? with
            | none => exact mirrors_pure rfl
            | some work => exact (mirrors_walkOf v).bind fun walk => mirrors_search (ih walk) a walk maxSearch work
      · rcases l with ⟨items, walk, index, length, _ | v, current, before, changed⟩
        · refine (ih walk).bind fun v? => ?_
          cases v? with
          | none => exact mirrors_pure rfl
          | some v => exact (mirrors_update a (loose_loop _)).bind fun _ => mirrors_pure (by simp)
        · refine (mirrors_pure rfl : Mirrors m (pure (some v)) _).bind fun v? => ?_
          cases v? with
          | none => exact mirrors_pure rfl
          | some v => exact (mirrors_update a (loose_loop _)).bind fun _ => mirrors_pure (by simp)

theorem mirrors_advance : Mirrors m (advance a) (advance (m.address a)) :=
  mirrors_pull maxReach a

theorem mirrors_take (count : Nat) (acc : List Value) :
    Mirrors m (take a count acc) (take (m.address a) count (acc.map (moved m))) := by
  induction count generalizing acc with
  | zero => exact mirrors_pure (by simp)
  | succ count ih =>
      refine (mirrors_advance a).bind fun v? => ?_
      cases v? with
      | none => exact mirrors_pure (by simp)
      | some v => exact ih (v :: acc)

theorem mirrors_drain : Mirrors m (drain a) (drain (m.address a)) :=
  mirrors_take a maxSearch []

theorem mirrors_leftOf (w : Walk) : Mirrors m (leftOf w) (leftOf (moved m w)) := by
  cases w with
  | rest items => exact mirrors_pure (by simp)
  | list source index =>
      refine (mirrors_cell? source).bind fun c? => ?_
      rcases c? with _ | _ | _ | _ | _ | _ | _ | _ <;> exact mirrors_pure (by simp)
  | _ => exact mirrors_pure rfl

theorem mirrors_itemsLeft : Mirrors m (itemsLeft a) (itemsLeft (m.address a)) := by
  refine (mirrors_cell? a).bind fun c? => ?_
  rcases c? with _ | _ | _ | _ | _ | ⟨kind, w⟩ | _ | l <;> try exact mirrors_pure rfl
  · exact mirrors_leftOf w
  · refine (mirrors_cell? l.walk).bind fun c? => ?_
    rcases c? with _ | _ | _ | _ | _ | ⟨kind, w⟩ | _ | _ <;> try exact mirrors_pure rfl
    exact mirrors_leftOf w

-- The items that are left are gone through in step.
theorem Mirrors.foldItems {σ : Type} [Movable σ] {step step' : σ → Value → Run σ}
    (h : ∀ acc v, Mirrors m (step acc v) (step' (moved m acc) (moved m v))) (walk fuel : Nat) (acc : σ) :
    Mirrors m (Run.foldItems step walk fuel acc) (Run.foldItems step' (m.address walk) fuel (moved m acc)) := by
  induction fuel generalizing acc with
  | zero => exact mirrors_fail _
  | succ fuel ih =>
      refine (mirrors_advance walk).bind fun v? => ?_
      cases v? with
      | none => exact mirrors_pure rfl
      | some v => exact (h acc v).bind ih

theorem Mirrors.foldAll {σ : Type} [Movable σ] {step step' : σ → Value → Run σ}
    (h : ∀ acc v, Mirrors m (step acc v) (step' (moved m acc) (moved m v))) (walk : Nat) (acc : σ) :
    Mirrors m (Run.foldAll step walk acc) (Run.foldAll step' (m.address walk) (moved m acc)) :=
  (mirrors_itemsLeft walk).bind fun _ => Mirrors.foldItems h walk _ acc

theorem mirrors_items : Mirrors m (items v) (items (moved m v)) := by
  have hfixed : ∀ w : Value, items w = (fixedItems? w).elim (do drain (← walkOf w)) pure →
      items (moved m w) = (fixedItems? (moved m w)).elim (do drain (← walkOf (moved m w))) pure →
      Mirrors m (items w) (items (moved m w)) := by
    intro w hw hw'
    rw [hw, hw', fixedItems?_moved]
    cases fixedItems? w with
    | none => exact (mirrors_walkOf w).bind mirrors_drain
    | some items => exact mirrors_pure rfl
  have hdrain : ∀ w : Value, Mirrors m (do drain (← walkOf w)) (do drain (← walkOf (moved m w))) :=
    fun w => (mirrors_walkOf w).bind mirrors_drain
  cases v with
  | ref a =>
      refine (mirrors_cell? a).bind fun c? => ?_
      rcases c? with _ | items | t | _ | _ | _ | _ | _ <;> try exact hdrain (.ref a)
      · exact mirrors_pure (by simp)
      · exact mirrors_pure (listedEntries_moved .keys t)
  | part p a => exact (mirrors_tableAt a).bind fun t => mirrors_pure (listedEntries_moved p t)
  | scalar s =>
      have hscalar : ∀ s : Scalar,
          items (.scalar s) = (fixedItems? (.scalar s)).elim (do drain (← walkOf (.scalar s))) pure := by
        intro s
        unfold items
        dsimp only
        cases fixedItems? (.scalar s) <;> rfl
      exact hfixed (.scalar s) (hscalar s) (hscalar (s.moved m))
  | _ => exact hfixed _ rfl rfl

theorem mirrors_lengthWith {ofLoop : Nat → Run Nat} (h : ∀ a, Mirrors m (ofLoop a) (ofLoop (m.address a))) :
    Mirrors m (lengthWith ofLoop v) (lengthWith ofLoop (moved m v)) := by
  have hfixed : ∀ w : Value, Mirrors m (pure ((fixedItems? w).map List.length))
      (pure ((fixedItems? (moved m w)).map List.length)) := by
    intro w
    rw [fixedItems?_moved]
    cases fixedItems? w <;> exact mirrors_pure (by simp)
  cases v with
  | scalar s =>
      cases s with
      | range start stop step => exact mirrors_pure rfl
      | _ => exact hfixed _
  | ref a =>
      refine (mirrors_cell? a).bind fun c? => ?_
      rcases c? with _ | items | t | _ | _ | _ | _ | l <;> try exact mirrors_pure rfl
      · exact mirrors_pure (by simp)
      · exact mirrors_pure (by simp)
      · exact (h a).map fun _ => rfl
  | part p a => exact (mirrors_tableAt a).bind fun t => mirrors_pure (by simp)
  | absent a => exact (mirrors_refuse a).ite (mirrors_pure rfl)
  | _ => exact hfixed _

theorem mirrors_loopLength (reach : Nat) : Mirrors m (loopLength reach a) (loopLength reach (m.address a)) := by
  induction reach generalizing a with
  | zero => exact mirrors_fail _
  | succ reach ih =>
      refine (mirrors_cell? a).bind fun c? => ?_
      rcases c? with _ | _ | _ | _ | _ | _ | _ | l <;> try exact mirrors_pure rfl
      rcases l with ⟨items, walk, index, _ | n, after, current, before, changed⟩
      · refine (mirrors_lengthWith items ih).bind fun n? => ?_
        cases n? with
        | none =>
          refine (mirrors_drain walk).bind fun rest => ?_
          refine MirrorsAt.bind (mirrors_newWalk "list_iterator" (by decide) (.rest rest)) fun walk => ?_
          simp only [moved_loop, moved_list, List.length_map, Option.isSome_map]
          exact (mirrors_update a (loose_loop _)).bind fun _ => mirrors_pure rfl
        | some n => exact (mirrors_update a (loose_loop _)).bind fun _ => mirrors_pure rfl
      · exact mirrors_pure rfl

theorem mirrors_length? : Mirrors m (length? v) (length? (moved m v)) :=
  mirrors_lengthWith v fun a => mirrors_loopLength a maxReach

theorem mirrors_length : Mirrors m (length v) (length (moved m v)) := by
  refine (mirrors_length? v).bind fun n? => ?_
  cases n? with
  | none => exact mirrors_fail _
  | some n => exact mirrors_pure rfl

theorem mirrors_newLoop : MirrorsAt m (newLoop v) (newLoop (moved m v)) := by
  refine (mirrors_walkOf v).bind fun walk => ?_
  refine (mirrors_allocate (loose_loop ⟨v, walk, 0, none, none, none, none, none⟩)).bind fun w => ?_
  cases w <;> exact mirrorsBy_pure rfl

theorem mirrors_loopNext (l : Loop) : Mirrors m (loopNext a l) (loopNext (m.address a) (moved m l)) := by
  rcases l with ⟨items, walk, index, length, _ | v, current, before, changed⟩
  · refine (mirrors_advance walk).bind fun v? => ?_
    exact (mirrors_update a (loose_loop _)).bind fun _ => mirrors_pure rfl
  · exact mirrors_pure rfl

theorem mirrors_truth : Mirrors m (truth v) (truth (moved m v)) := by
  cases v with
  | scalar s => exact mirrors_pure s.truth_moved
  | ref a =>
      refine (mirrors_cell? a).bind fun c? => ?_
      rcases c? with _ | items | t | _ | _ | _ | _ | l <;> try exact mirrors_pure rfl
      · exact mirrors_pure (by simp [Array.isEmpty])
      · exact mirrors_pure (by simp)
      · exact (mirrors_length (.ref a)).bind fun n => mirrors_pure rfl
  | part p a => exact (mirrors_tableAt a).bind fun t => mirrors_pure (by simp)
  | absent a => exact (mirrors_refuse a).ite (mirrors_pure rfl)
  | _ => exact mirrors_pure (by simp)

theorem mirrors_text : Mirrors m (text v) (text (moved m v)) := by
  have hplain : ∀ w : Value, Mirrors m (do let d ← reify w; writable d; pure d.printed)
      (do let d ← reify (moved m w); writable d; pure d.printed) := by
    intro w
    refine (mirrors_reify w).bind fun d => ?_
    refine (mirrors_writable d).bind fun _ => mirrors_pure ?_
    exact d.printed_moved
  cases v with
  | absent a => exact (mirrors_refuse a).ite (mirrors_pure rfl)
  | scalar s =>
      change Mirrors m (if s.writable then pure s.printed else fail .wrongValue)
        (if (s.moved m).writable then pure (s.moved m).printed else fail .wrongValue)
      rw [s.writable_moved, s.printed_moved]
      exact (mirrors_pure rfl).ite (mirrors_fail _)
  | ref a =>
      refine (mirrors_cell? a).bind fun c? => ?_
      cases c? with
      | none => exact hplain (.ref a)
      | some c =>
          cases c with
          | loop l => exact (mirrors_length (.ref a)).bind fun n => hplain (.ref a)
          | _ => exact hplain (.ref a)
  | _ => exact hplain _

theorem mirrors_pairOf : Mirrors m (pairOf v) (pairOf (moved m v)) := by
  refine (mirrors_items v).bind fun items => ?_
  rcases items with _ | ⟨k, _ | ⟨x, _ | ⟨y, rest⟩⟩⟩
  · exact mirrors_fail _
  · exact mirrors_fail _
  · exact mirrors_pure rfl
  · exact mirrors_fail _

theorem mirrors_pairs : Mirrors m (pairs v) (pairs (moved m v)) := by
  refine (mirrors_mapping? v).bind fun entries? => ?_
  cases entries? with
  | none =>
      refine (mirrors_items v).bind fun items => ?_
      have hpairs := mirrors_newList_map (m := m) (f := fun e => .tuple [.int e.2, e.1]) (fun _ => rfl) items.zipIdx
      rw [moved_list, List.zipIdx_map]
      exact hpairs
  | some entries =>
      have hpairs := mirrors_newList_map (m := m) (f := fun e => .tuple [e.1, e.2]) (fun _ => rfl) entries
      exact hpairs

theorem mirrors_values : Mirrors m (values v) (values (moved m v)) := by
  refine (mirrors_mapping? v).bind fun entries? => ?_
  cases entries? with
  | none => exact mirrors_pure rfl
  | some entries =>
      have hvalues := mirrors_newList_map (m := m) (f := fun e => e.2) (fun _ => rfl) entries
      exact hvalues

end Walks

end BraceTemplate.Host.Run

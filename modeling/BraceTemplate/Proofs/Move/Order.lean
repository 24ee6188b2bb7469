import BraceTemplate.Host.Order
import BraceTemplate.Proofs.Move.Walk

namespace BraceTemplate.Host.Run

variable {m : Move}

instance : Plain Relation := ⟨⟩

@[simp]
theorem identical_moved (v w : Value) : identical (moved m v) (moved m w) = identical v w := by
  cases v with
  | scalar s =>
      cases w with
      | scalar t => cases s <;> cases t <;> first | rfl | exact Move.mark_beq
      | _ => cases s <;> rfl
  | ref a => cases w <;> first | rfl | exact Move.address_beq
  | _ => rfl

theorem mirrors_members? (v : Value) : Mirrors m (members? v) (members? (moved m v)) := by
  cases v with
  | set frozen items => exact mirrors_pure (by simp)
  | part p a =>
      cases p with
      | values => exact mirrors_pure rfl
      | keys => exact (mirrors_tableAt a).bind fun t => mirrors_pure (congrArg some (listedEntries_moved .keys t))
      | items => exact (mirrors_tableAt a).bind fun t => mirrors_pure (congrArg some (listedEntries_moved .items t))
  | _ => exact mirrors_pure rfl

theorem mirrors_listed? (v : Value) : Mirrors m (listed? v) (listed? (moved m v)) := by
  cases v with
  | ref a =>
      refine (mirrors_cell? a).bind fun c? => ?_
      rcases c? with _ | _ | _ | _ | _ | _ | _ | _ <;> exact mirrors_pure rfl
  | _ => exact mirrors_pure rfl

section Same

variable {same same' : Value → Value → Run Bool} (h : ∀ v w, Mirrors m (same v w) (same' (moved m v) (moved m w)))

include h

theorem Mirrors.difference? (xs ys : List Value) :
    Mirrors m (Run.difference? same xs ys) (Run.difference? same' (xs.map (moved m)) (ys.map (moved m))) := by
  induction xs generalizing ys with
  | nil => exact mirrors_pure rfl
  | cons x xs ih =>
      cases ys with
      | nil => exact mirrors_pure rfl
      | cons y ys =>
          simp only [List.map_cons, Run.difference?, identical_moved]
          exact Mirrors.ite_bind (mirrors_pure rfl) (h x y) fun equal => (ih ys).ite (mirrors_pure rfl)

theorem Mirrors.entriesWithin (others entries : List (Value × Value)) :
    Mirrors m (Run.entriesWithin same others entries)
      (Run.entriesWithin same' (others.map (moved m)) (entries.map (moved m))) := by
  induction entries with
  | nil => exact mirrors_pure rfl
  | cons e rest ih =>
      refine (mirrors_reify e.1).bind fun d => (mirrors_inView? others d).bind fun w? => ?_
      cases w? with
      | none => exact mirrors_pure rfl
      | some w =>
          simp only [moved_option, Option.map_some, identical_moved]
          exact Mirrors.ite_bind (mirrors_pure rfl) (h w e.2) fun equal => ih.ite (mirrors_pure rfl)

theorem Mirrors.isMember (x v : Value) :
    Mirrors m (Run.isMember same x v) (Run.isMember same' (moved m x) (moved m v)) := by
  cases v with
  | set frozen items =>
      have hmember : ∀ w : Value, Mirrors m (do let key ← asKey w; let s ← get; pure (items.any fun y => (s.reify y).same key))
          (do
            let key ← asKey (moved m w)
            let s ← get
            pure ((Value.movedItems m items).any fun y => (s.reify y).same key)) := by
        intro w
        refine (mirrors_asKey w).bind fun key => mirrors_get_bind fun s hs => mirrors_pure ?_
        rw [Value.movedItems_eq, List.any_map]
        congr 1
        funext y
        simp [Store.reify_moved hs]
      cases x with
      | set frozen members => exact hmember (.set true members)
      | _ => exact hmember _
  | part p a =>
      cases p with
      | keys =>
          refine (mirrors_asKey x).bind fun key => (mirrors_tableAt a).bind fun t => mirrors_pure ?_
          simp
      | values => exact mirrors_pure rfl
      | items =>
          cases x with
          | tuple pair =>
              rcases pair with _ | ⟨k, _ | ⟨w, _ | ⟨_, _⟩⟩⟩
              · exact mirrors_pure rfl
              · exact mirrors_pure rfl
              · refine (mirrors_tableAt a).bind fun t => (mirrors_asKey k).bind fun key => ?_
                rw [Datum.moved_eq, Table.find?_moved]
                cases t.find? key with
                | none => exact mirrors_pure rfl
                | some u =>
                    change MirrorsBy m _ _ (if identical (moved m w) (moved m u) then _ else _)
                    rw [identical_moved]
                    exact (mirrors_pure rfl).ite (h w u)
              · exact mirrors_pure rfl
          | _ => exact mirrors_pure rfl
  | _ => exact mirrors_pure rfl

theorem Mirrors.allMembers (v : Value) (xs : List Value) :
    Mirrors m (Run.allMembers same v xs) (Run.allMembers same' (moved m v) (xs.map (moved m))) := by
  induction xs with
  | nil => exact mirrors_pure rfl
  | cons x rest ih => exact (Mirrors.isMember h x v).bind fun _ => ih.ite (mirrors_pure rfl)

theorem Mirrors.sameMembers (v w : Value) :
    Mirrors m (Run.sameMembers same v w) (Run.sameMembers same' (moved m v) (moved m w)) := by
  have hreified : ∀ v w : Value, Mirrors m (do return (← reify v).same (← reify w))
      (do return (← reify (moved m v)).same (← reify (moved m w))) :=
    fun v w => (mirrors_reify v).bind fun d => (mirrors_reify w).bind fun e => mirrors_pure (Datum.same_moved d e)
  refine (mirrors_members? v).both (mirrors_members? w) (fun xs ys => ?_) (fun _ => ?_) (fun _ => ?_)
  · simp only [moved_list, List.length_map]
    exact (mirrors_pure rfl).ite (Mirrors.allMembers h w xs)
  all_goals
    cases v with
    | part p a =>
        cases w with
        | part q b => exact mirrors_pure rfl
        | _ => exact hreified (.part p a) _
    | _ => exact hreified _ w

theorem Mirrors.sameMappings (v w : Value) :
    Mirrors m (Run.sameMappings same v w) (Run.sameMappings same' (moved m v) (moved m w)) := by
  have hrest := Mirrors.sameMembers h v w
  refine (mirrors_mapping? v).both (mirrors_mapping? w) (fun xs ys => ?_) (fun _ => hrest) (fun _ => hrest)
  simp only [moved_list, List.length_map]
  exact (mirrors_pure rfl).ite (Mirrors.entriesWithin h ys xs)

theorem Mirrors.sameParts (v w : Value) :
    Mirrors m (Run.sameParts same v w) (Run.sameParts same' (moved m v) (moved m w)) := by
  have hrest := Mirrors.sameMappings h v w
  unfold Run.sameParts
  rw [identical_moved]
  refine (mirrors_pure rfl).ite ?_
  refine (mirrors_listed? v).both (mirrors_listed? w) (fun xs ys => ?_) (fun _ => hrest) (fun _ => hrest)
  simp only [moved_array, Array.size_map, Array.toList_map]
  refine (mirrors_pure rfl).ite ((Mirrors.difference? h xs.toList ys.toList).bind fun found => ?_)
  exact mirrors_pure (by simp)

end Same

-- Values are compared in step, as deep as they are.
theorem mirrors_sameIn (depth : Nat) (v w : Value) :
    Mirrors m (sameIn depth v w) (sameIn depth (moved m v) (moved m w)) := by
  induction depth generalizing v w with
  | zero => exact mirrors_fail _
  | succ depth ih =>
      have hparts := Mirrors.sameParts ih
      have hright : ∀ a : Absence, Mirrors m (if a.strict then refuse a else pure false)
          (if a.strict then refuse a else pure false) := fun a => (mirrors_refuse a).ite (mirrors_pure rfl)
      cases v with
      | absent x =>
          cases w with
          | absent y => exact (mirrors_refuse x).ite ((mirrors_refuse y).ite (mirrors_pure rfl))
          | _ => exact hright x
      | scalar s =>
          cases w with
          | absent y => exact hright y
          | scalar t => exact mirrors_pure (s.same_moved t)
          | _ => exact hparts (.scalar s) _
      | tuple xs =>
          cases w with
          | absent y => exact hright y
          | tuple ys =>
              simp only [moved_tuple, sameIn, List.length_map]
              refine (Mirrors.difference? ih xs ys).bind fun found => ?_
              cases found <;> exact mirrors_pure rfl
          | _ => exact hparts (.tuple xs) _
      | _ =>
          cases w with
          | absent y => exact hright y
          | _ => exact hparts _ _

theorem mirrors_same (v w : Value) : Mirrors m (same v w) (same (moved m v) (moved m w)) :=
  mirrors_sameIn maxDepth v w

theorem mirrors_sameItem (v w : Value) : Mirrors m (sameItem v w) (sameItem (moved m v) (moved m w)) := by
  unfold sameItem
  rw [identical_moved]
  exact (mirrors_pure rfl).ite (mirrors_same v w)

section Ordered

variable (r : Relation)

theorem Mirrors.orderSequences {order order' : Value → Value → Run Bool}
    (h : ∀ v w, Mirrors m (order v w) (order' (moved m v) (moved m w))) (xs ys : List Value) :
    Mirrors m (Run.orderSequences r order xs ys)
      (Run.orderSequences r order' (xs.map (moved m)) (ys.map (moved m))) := by
  refine (Mirrors.difference? mirrors_same xs ys).bind fun found => ?_
  rcases found with _ | ⟨x, y⟩
  · exact mirrors_pure (by simp)
  · exact h x y

theorem mirrors_orderMembers (v w : Value) :
    Mirrors m (orderMembers r v w) (orderMembers r (moved m v) (moved m w)) := by
  refine (mirrors_members? v).both (mirrors_members? w) (fun xs ys => ?_) (fun _ => mirrors_fail _)
    (fun _ => mirrors_fail _)
  have hwithin : ∀ (u : Value) (items : List Value) (c : Prop) [Decidable c],
      Mirrors m (if c then Run.allMembers same u items else pure false)
        (if c then Run.allMembers same (moved m u) (items.map (moved m)) else pure false) :=
    fun u items _ _ => (Mirrors.allMembers mirrors_same u items).ite (mirrors_pure rfl)
  simp only [moved_list, List.length_map]
  cases r <;> exact hwithin _ _ _

theorem Mirrors.orderParts {order order' : Value → Value → Run Bool}
    (h : ∀ v w, Mirrors m (order v w) (order' (moved m v) (moved m w))) (v w : Value) :
    Mirrors m (Run.orderParts r order v w) (Run.orderParts r order' (moved m v) (moved m w)) := by
  have hrest := mirrors_orderMembers (m := m) r v w
  refine (mirrors_listed? v).both (mirrors_listed? w) (fun xs ys => ?_) (fun _ => hrest) (fun _ => hrest)
  simp only [moved_array, Array.toList_map]
  exact Mirrors.orderSequences r h xs.toList ys.toList

theorem mirrors_orderIn (depth : Nat) (v w : Value) :
    Mirrors m (orderIn r depth v w) (orderIn r depth (moved m v) (moved m w)) := by
  induction depth generalizing v w with
  | zero => exact mirrors_fail _
  | succ depth ih =>
      have hparts := Mirrors.orderParts r ih
      cases v with
      | absent x => exact mirrors_refuse x
      | scalar s =>
          cases w with
          | absent y => exact mirrors_refuse y
          | scalar t =>
              simp only [moved_scalar, orderIn, Scalar.order?_moved]
              cases s.order? t with
              | none => exact mirrors_fail _
              | some o => exact mirrors_pure rfl
          | _ => exact hparts (.scalar s) _
      | tuple xs =>
          cases w with
          | absent y => exact mirrors_refuse y
          | tuple ys =>
              simp only [moved_tuple]
              exact Mirrors.orderSequences r ih xs ys
          | _ => exact hparts (.tuple xs) _
      | _ =>
          cases w with
          | absent y => exact mirrors_refuse y
          | _ => exact hparts _ _

theorem mirrors_ordered (v w : Value) : Mirrors m (ordered r v w) (ordered r (moved m v) (moved m w)) :=
  mirrors_orderIn r maxDepth v w

theorem mirrors_before (v w : Value) : Mirrors m (before v w) (before (moved m v) (moved m w)) :=
  mirrors_ordered .lt v w

end Ordered

theorem mirrors_anySame (x : Value) (items : List Value) :
    Mirrors m (anySame x items) (anySame (moved m x) (items.map (moved m))) := by
  induction items with
  | nil => exact mirrors_pure rfl
  | cons y rest ih => exact (mirrors_sameItem y x).bind fun _ => (mirrors_pure rfl).ite ih

theorem mirrors_anyHandedOut (x : Value) (walk fuel : Nat) :
    Mirrors m (anyHandedOut x walk fuel) (anyHandedOut (moved m x) (m.address walk) fuel) := by
  induction fuel with
  | zero => exact mirrors_fail _
  | succ fuel ih =>
      refine (mirrors_advance walk).bind fun y? => ?_
      cases y? with
      | none => exact mirrors_pure rfl
      | some y => exact (mirrors_sameItem y x).bind fun _ => (mirrors_pure rfl).ite ih

-- What is looked for in a scalar is never a mark.
theorem mirrors_isIn_scalar (x : Value) (s : Scalar) :
    Mirrors m (isIn x (.scalar s)) (isIn (moved m x) (.scalar (s.moved m))) := by
  have hsearched : Mirrors m (do anyHandedOut x (← walkOf (.scalar s)) maxSearch)
      (do anyHandedOut (moved m x) (← walkOf (.scalar (s.moved m))) maxSearch) :=
    (mirrors_walkOf (.scalar s)).bind fun walk => mirrors_anyHandedOut x walk maxSearch
  cases s with
  | str s | safe s | bytes s =>
      cases x with
      | scalar t => cases t <;> first | exact mirrors_pure rfl | exact mirrors_fail _ | exact (mirrors_pure rfl).ite (mirrors_fail _)
      | _ => exact mirrors_fail _
  | range start stop step =>
      cases x with
      | scalar t => cases t <;> exact mirrors_pure rfl
      | absent a => exact (mirrors_refuse a).ite (mirrors_pure rfl)
      | _ => exact mirrors_pure rfl
  | _ => exact hsearched

theorem mirrors_isIn (x v : Value) : Mirrors m (isIn x v) (isIn (moved m x) (moved m v)) := by
  have hsearched : ∀ v : Value, Mirrors m (do anyHandedOut x (← walkOf v) maxSearch)
      (do anyHandedOut (moved m x) (← walkOf (moved m v)) maxSearch) :=
    fun v => (mirrors_walkOf v).bind fun walk => mirrors_anyHandedOut x walk maxSearch
  cases v with
  | scalar s => exact mirrors_isIn_scalar x s
  | view entries =>
      simp only [moved_view]
      exact (mirrors_asKey x).bind fun key => (mirrors_inView? entries key).bind fun w? => mirrors_pure (by simp)
  | set frozen items => exact Mirrors.isMember mirrors_same x _
  | tuple items =>
      simp only [moved_tuple]
      exact mirrors_anySame x items
  | part p a =>
      cases p with
      | values =>
          refine (mirrors_tableAt a).bind fun t => ?_
          rw [listedEntries_moved]
          exact mirrors_anySame x _
      | _ => exact Mirrors.isMember mirrors_same x _
  | ref a =>
      refine (mirrors_cell? a).bind fun c? => ?_
      cases c? with
      | none => exact hsearched (.ref a)
      | some c =>
          cases c with
          | dict t => exact (mirrors_asKey x).bind fun key => mirrors_pure (by simp)
          | list items =>
              simp only [moved_option, Option.map_some, moved_listCell, Array.toList_map]
              exact mirrors_anySame x items.toList
          | _ => exact hsearched (.ref a)
  | _ => exact hsearched _

theorem mirrors_relation (r : Relation) (v w : Value) :
    Mirrors m (relation r v w) (relation r (moved m v) (moved m w)) := by
  cases r with
  | eq => exact mirrors_same v w
  | ne => exact (mirrors_same v w).bind fun _ => mirrors_pure rfl
  | isIn => exact mirrors_isIn v w
  | notIn => exact (mirrors_isIn v w).bind fun _ => mirrors_pure rfl
  | _ => exact mirrors_ordered _ v w

end BraceTemplate.Host.Run

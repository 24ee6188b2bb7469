import BraceTemplate.Host.Attributes
import BraceTemplate.Proofs.Move.Walk

namespace BraceTemplate.Host

variable {m : Move}

instance : Movable Attributes := ⟨fun m known => { known with parts := moved m known.parts }⟩

@[simp]
theorem moved_attributes (parts : List (Text × Value)) (methods hidden : List Text) :
    moved m (⟨parts, methods, hidden⟩ : Attributes) = ⟨parts.map (moved m), methods, hidden⟩ := rfl

theorem scalarAttributes_moved (s : Scalar) : scalarAttributes (s.moved m) = moved m (scalarAttributes s) := by
  cases s <;>
    simp [scalarAttributes, Scalar.moved, integerParts, floatParts, dateParts, momentParts]

theorem attributes_named_moved (t : Table Value) :
    attributes.named (moved m t) = (attributes.named t).map (moved m) := by
  rw [attributes.named, Table.pairs_moved, List.filterMap_map, attributes.named, List.map_filterMap]
  congr 1
  funext ⟨k, v⟩
  cases k with
  | scalar s => cases s <;> rfl
  | _ => rfl

-- A value answers to the same names behind other cells.
theorem attributes_moved (v : Value) (c? : Option Cell) :
    attributes (moved m v) (c?.map (moved m)) = moved m (attributes v c?) := by
  cases v with
  | scalar s => exact scalarAttributes_moved s
  | ref a =>
      cases c? with
      | none => simp [attributes]
      | some c => cases c <;> simp [attributes, attributes_named_moved]
  | part p a => cases p <;> simp [attributes]
  | _ => simp [attributes, Function.comp_def]

namespace Run

section Names

variable (v key : Value) (name : Text)

theorem mirrors_kindName : Mirrors m (kindName v) (kindName (moved m v)) := by
  have hplain : ∀ v : Value, Mirrors m (do return (← reify v).typeName ++ " object".toList)
      (do return (← reify (moved m v)).typeName ++ " object".toList) :=
    fun v => (mirrors_reify v).bind fun d => mirrors_pure (by simp)
  cases v with
  | scalar s =>
      cases s with
      | null | safe _ | date _ | moment _ => exact mirrors_pure rfl
      | _ => exact hplain _
  | ref a =>
      refine (mirrors_cell? a).bind fun c? => ?_
      cases c? with
      | none => exact hplain (.ref a)
      | some c =>
          cases c with
          | «namespace» t => exact mirrors_pure rfl
          | loop l => exact mirrors_pure rfl
          | _ => exact hplain (.ref a)
  | defined name parameters body scope => exact mirrors_pure rfl
  | self => exact mirrors_pure rfl
  | _ => exact hplain _

theorem mirrors_noAttributeAs (shown : Text) :
    Mirrors m (noAttributeAs v shown) (noAttributeAs (moved m v) shown) := by
  cases v with
  | ended => exact mirrors_pure rfl
  | _ => exact (mirrors_kindName _).bind fun kind => mirrors_pure rfl

theorem mirrors_noAttribute : Mirrors m (noAttribute v name) (noAttribute (moved m v) name) :=
  mirrors_noAttributeAs v _

theorem mirrors_noElement : Mirrors m (noElement v key) (noElement (moved m v) (moved m key)) := by
  have hended : ∀ key : Value, Mirrors m (do noAttributeAs .ended (← reify key).quoted)
      (do noAttributeAs .ended (← reify (moved m key)).quoted) := fun key =>
    (mirrors_reify key).bind fun d => by
      rw [Datum.moved_eq, Datum.quoted_moved]
      exact mirrors_noAttributeAs .ended _
  have hplain : ∀ v key : Value, Mirrors m (do
        let kind ← kindName v
        let element ← reify key
        pure (Value.missing (kind ++ " has no element ".toList ++ element.quoted))) (do
        let kind ← kindName (moved m v)
        let element ← reify (moved m key)
        pure (Value.missing (kind ++ " has no element ".toList ++ element.quoted))) :=
    fun v key => (mirrors_kindName v).bind fun kind => (mirrors_reify key).bind fun d => mirrors_pure (by simp)
  cases key with
  | scalar s =>
      cases s with
      | str name => exact mirrors_noAttribute v name
      | safe name => exact mirrors_noAttributeAs v _
      | _ =>
          cases v with
          | ended => exact hended (.scalar _)
          | _ => exact hplain _ (.scalar _)
  | _ =>
      cases v with
      | ended => exact hended _
      | _ => exact hplain _ _

theorem mirrors_hiddenAttribute : Mirrors m (hiddenAttribute v name) (hiddenAttribute (moved m v) name) :=
  (mirrors_reify v).bind fun d => mirrors_pure (by simp)

theorem mirrors_plainAttribute? (c? : Option Cell) :
    Mirrors m (plainAttribute? v c? name) (plainAttribute? (moved m v) (c?.map (moved m)) name) := by
  have hhidden : Mirrors m (some <$> hiddenAttribute v name) (some <$> hiddenAttribute (moved m v) name) :=
    (mirrors_hiddenAttribute v name).map fun _ => rfl
  have hspace : isNamespace (c?.map (moved m)) = isNamespace c? := by
    rcases c? with _ | _ | _ | _ | _ | _ | _ | _ <;> rfl
  unfold plainAttribute?
  rw [attributes_moved, hspace]
  dsimp only
  have hfind : (moved m (attributes v c?)).parts.find? (·.1 == name) =
      ((attributes v c?).parts.find? (·.1 == name)).map (moved m) := List.find?_map
  rw [hfind]
  cases (attributes v c?).parts.find? (·.1 == name) with
  | none => exact (mirrors_pure rfl).ite (hhidden.ite (mirrors_pure rfl))
  | some part => exact hhidden.ite (mirrors_pure rfl)

-- What a loop knows is asked of it in step.
theorem mirrors_loopPart? (a : Nat) (l : Loop) (name : String) :
    Mirrors m (loopPart? a l name) (loopPart? (m.address a) (moved m l) name) := by
  have hsize : Mirrors m (do return (((← length (.ref a)) : Nat) : Int))
      (do return (((← length (.ref (m.address a))) : Nat) : Int)) :=
    (mirrors_length (.ref a)).bind fun n => mirrors_pure rfl
  have hnext := mirrors_loopNext (m := m) a l
  have hbefore : ∀ (missing : Text) (x? : Option Value),
      (x?.map (moved m)).getD (.missing missing) = moved m (x?.getD (.missing missing)) := by
    intro missing x?
    cases x? <;> rfl
  unfold loopPart?
  split
  · exact mirrors_pure rfl
  · exact mirrors_pure rfl
  · exact hsize.bind fun i => mirrors_pure rfl
  · exact hsize.bind fun i => mirrors_pure rfl
  · exact hsize.bind fun i => mirrors_pure rfl
  · exact mirrors_pure rfl
  · exact hnext.bind fun x? => mirrors_pure (by cases x? <;> rfl)
  · exact mirrors_pure rfl
  · exact mirrors_pure rfl
  · refine mirrors_pure (congrArg some ?_)
    change (if l.index == 1 then _ else (l.before.map (moved m)).getD _) = _
    rw [hbefore]
    split <;> rfl
  · exact hnext.bind fun x? => mirrors_pure (congrArg some (hbefore _ x?))
  · exact mirrors_pure rfl

theorem mirrors_attribute? : Mirrors m (attribute? v name) (attribute? (moved m v) name) := by
  have hplain := fun v c? => mirrors_plainAttribute? (m := m) v name c?
  have hfixed : ∀ v, attribute? v name = plainAttribute? v none name →
      attribute? (moved m v) name = plainAttribute? (moved m v) none name →
      Mirrors m (attribute? v name) (attribute? (moved m v) name) := by
    intro v hv hv'
    rw [hv, hv']
    exact hplain v none
  cases v with
  | absent a =>
      have hhidden : Mirrors m (some <$> hiddenAttribute (.absent a) name) (some <$> hiddenAttribute (.absent a) name) :=
        (mirrors_hiddenAttribute (.absent a) name).map fun _ => rfl
      dsimp only [attribute?, moved_absent]
      exact hhidden.ite ((mirrors_pure rfl).ite (mirrors_refuse a))
  | ref a =>
      refine (mirrors_cell? a).bind fun c? => ?_
      cases c? with
      | none => exact hplain (.ref a) none
      | some c =>
          rw [moved_option, Option.map_some]
          cases c with
          | loop l =>
              refine (mirrors_loopPart? a l _).bind fun x? => ?_
              cases x? with
              | none => exact hplain (.ref a) (some (.loop l))
              | some x => exact mirrors_pure rfl
          | list items => exact hplain (.ref a) (some (.list items))
          | dict t => exact hplain (.ref a) (some (.dict t))
          | «namespace» t => exact hplain (.ref a) (some (.namespace t))
          | names values => exact hplain (.ref a) (some (.names values))
          | walk kind w => exact hplain (.ref a) (some (.walk kind w))
          | generator work source => exact hplain (.ref a) (some (.generator work source))
  | _ => exact hfixed _ rfl rfl

end Names

section Items

variable (v key : Value) (name : Text)

@[simp]
theorem index?_moved : index? (moved m v) = index? v := by
  cases v with
  | scalar s => cases s <;> rfl
  | _ => rfl

theorem listItem?_moved (items : Array Value) :
    listItem? (items.map (moved m)) (moved m key) = (listItem? items key).map (moved m) := by
  simp only [listItem?, index?_moved, Array.size_map, Array.getElem?_map]
  cases index? key with
  | none => rfl
  | some i =>
      change (position? items.size i).bind (fun n => items[n]?.map (moved m)) =
        ((position? items.size i).bind fun n => items[n]?).map (moved m)
      cases position? items.size i <;> rfl

@[simp]
theorem textItem?_moved (s : Text) : textItem? s (moved m key) = textItem? s key := by
  rw [textItem?, index?_moved, textItem?]

theorem mirrors_keyShape? : Mirrors m (keyShape? key) (keyShape? (moved m key)) := by
  have hreified : ∀ key : Value, Mirrors m (some <$> reify key) (some <$> reify (moved m key)) :=
    fun key => (mirrors_reify key).map fun _ => rfl
  have hplain : ∀ key : Value, Mirrors m (do let d ← reify key; pure (if d.hashable then some d else none))
      (do let d ← reify (moved m key); pure (if d.hashable then some d else none)) := by
    refine fun key => (mirrors_reify key).bind fun d => mirrors_pure ?_
    rw [Datum.moved_eq, Datum.hashable_moved]
    split <;> rfl
  cases key with
  | absent a => exact (mirrors_refuse a).ite (hreified (.absent a))
  | ref a =>
      refine (mirrors_cell? a).bind fun c? => ?_
      cases c? with
      | none => exact hreified (.ref a)
      | some c =>
          cases c with
          | list items => exact mirrors_pure rfl
          | dict t => exact mirrors_pure rfl
          | _ => exact hreified (.ref a)
  | _ => exact hplain _

theorem mirrors_item? : Mirrors m (item? v key) (item? (moved m v) (moved m key)) := by
  cases v with
  | scalar s =>
      cases s with
      | str s =>
          refine mirrors_pure ?_
          rw [textItem?_moved]
          cases textItem? s key <;> rfl
      | safe s =>
          refine mirrors_pure ?_
          rw [textItem?_moved]
          cases textItem? s key <;> rfl
      | bytes bs =>
          refine mirrors_pure ?_
          have hbytes : (bs.map fun b => Value.int b.toNat).toArray.map (moved m) =
              (bs.map fun b => Value.int b.toNat).toArray := by simp [Function.comp_def]
          have hitem := listItem?_moved (m := m) key (bs.map fun b => Value.int b.toNat).toArray
          rw [hbytes] at hitem
          exact hitem
      | range start stop step =>
          simp only [moved_scalar, Scalar.moved, item?, index?_moved]
          cases index? key with
          | none => exact mirrors_pure rfl
          | some i => exact mirrors_pure (by simp [Function.comp_def])
      | _ => exact mirrors_pure rfl
  | tuple items =>
      refine mirrors_pure ?_
      have hitem := listItem?_moved (m := m) key items.toArray
      rw [List.map_toArray] at hitem
      simpa using hitem
  | view entries =>
      simp only [moved_view, item?]
      refine (mirrors_keyShape? key).bind fun shape? => ?_
      cases shape? with
      | none => exact mirrors_pure rfl
      | some shape => exact mirrors_inView? entries shape
  | ref a =>
      refine (mirrors_cell? a).bind fun c? => ?_
      rcases c? with _ | items | t | _ | _ | _ | _ | _
      · exact mirrors_pure rfl
      · exact mirrors_pure (listItem?_moved key items)
      · refine (mirrors_keyShape? key).bind fun shape? => mirrors_pure ?_
        cases shape? with
        | none => rfl
        | some shape => exact t.find?_moved shape
      · exact mirrors_pure rfl
      · exact mirrors_pure rfl
      · exact mirrors_pure rfl
      · exact mirrors_pure rfl
      · exact mirrors_pure rfl
  | absent a => exact mirrors_refuse a
  | _ => exact mirrors_pure rfl

theorem mirrors_getItem : Mirrors m (getItem v key) (getItem (moved m v) (moved m key)) := by
  have hnone := mirrors_noElement (m := m) v key
  refine (mirrors_item? v key).bind fun x? => ?_
  cases x? with
  | some x => exact mirrors_pure rfl
  | none =>
      cases key with
      | scalar s =>
          cases s with
          | str name | safe name =>
              refine (mirrors_attribute? v name).bind fun x? => ?_
              cases x? with
              | none => exact hnone
              | some x => exact mirrors_pure rfl
          | _ => exact hnone
      | _ => exact hnone

theorem mirrors_getAttribute : Mirrors m (getAttribute v name) (getAttribute (moved m v) name) := by
  refine (mirrors_attribute? v name).bind fun x? => ?_
  cases x? with
  | some x => exact mirrors_pure rfl
  | none =>
      refine (mirrors_item? v (.str name)).bind fun x? => ?_
      cases x? with
      | some x => exact mirrors_pure rfl
      | none => exact mirrors_noAttribute v name

end Items

section Slices

variable (v start stop step : Value)

theorem mirrors_sliceBound : Mirrors m (sliceBound v) (sliceBound (moved m v)) := by
  cases v with
  | scalar s =>
      cases s with
      | null | int i | bool b => exact mirrors_pure rfl
      | _ => exact mirrors_fail _
  | _ => exact mirrors_fail _

theorem mirrors_sliceOf (size : Nat) :
    Mirrors m (sliceOf size start stop step) (sliceOf size (moved m start) (moved m stop) (moved m step)) := by
  refine (mirrors_sliceBound start).bind fun a => ?_
  refine (mirrors_sliceBound stop).bind fun b => (mirrors_sliceBound step).bind fun c => ?_
  simp only [moved_plain_eq_id, moved_option, Option.map_id, id]
  cases sliceRange? size a b c with
  | none => exact mirrors_fail _
  | some found => exact mirrors_pure rfl

theorem pick_map {α β : Type} (f : α → β) (items : List α) (range : Int × Int × Int) :
    pick (items.map f) range = (pick items range).map f := by
  simp only [pick, List.map_filterMap]
  congr 1
  funext i
  simp

theorem mirrors_slice :
    Mirrors m (slice v start stop step) (slice (moved m v) (moved m start) (moved m stop) (moved m step)) := by
  have hrange := mirrors_sliceOf (m := m) start stop step
  cases v with
  | scalar s =>
      cases s with
      | str s => exact (hrange s.length).bind fun range => mirrors_pure rfl
      | safe s => exact (hrange s.length).bind fun range => mirrors_pure rfl
      | bytes bs => exact (hrange bs.length).bind fun range => mirrors_pure rfl
      | range first last stride => exact (hrange _).bind fun range => mirrors_pure rfl
      | _ => exact mirrors_fail _
  | tuple items =>
      simp only [moved_tuple, slice, List.length_map]
      exact (hrange items.length).bind fun ⟨a, b, c⟩ => mirrors_pure (by simp [pick_map])
  | ref a =>
      refine (mirrors_cell? a).bind fun c? => ?_
      rcases c? with _ | items | _ | _ | _ | _ | _ | _
      · exact mirrors_fail _
      · simp only [moved_option, Option.map_some, moved_listCell, Array.size_map, Array.toList_map]
        refine (hrange items.size).bind fun range => ?_
        rw [pick_map]
        exact mirrors_newList (pick items.toList range)
      · exact mirrors_fail _
      · exact mirrors_fail _
      · exact mirrors_fail _
      · exact mirrors_fail _
      · exact mirrors_fail _
      · exact mirrors_fail _
  | absent a => exact mirrors_refuse a
  | _ => exact mirrors_fail _

end Slices

end Run

end BraceTemplate.Host

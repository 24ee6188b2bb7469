import BraceTemplate.Host.Arguments
import BraceTemplate.Proofs.Move.Fill
import BraceTemplate.Proofs.Move.Order

namespace BraceTemplate.Host

variable {m : Move}

instance : Plain Planar := ⟨⟩

namespace Run

section Numbers

variable (op : Operator)

theorem mirrors_powerOfInts (a b : Int) : Mirrors m (powerOfInts a b) (powerOfInts a b) := by
  refine MirrorsBy.ite ((mirrors_pure rfl).ite (mirrors_fail _)) ((mirrors_fail _).ite ?_)
  exact (mirrors_asFloat a).bind fun x => (mirrors_asFloat b).bind fun y => mirrors_float _

theorem mirrors_ofPlanars (z w : Planar) : Mirrors m (ofPlanars op z w) (ofPlanars op z w) := by
  cases op with
  | div => exact (mirrors_fail _).ite (mirrors_pure rfl)
  | pow =>
      dsimp only [ofPlanars]
      cases z.pow? w with
      | none => exact mirrors_fail _
      | some x => exact (mirrors_fail _).ite (mirrors_pure rfl)
  | floordiv | mod => exact mirrors_fail _
  | _ => exact mirrors_pure rfl

theorem mirrors_planarOfReal? (n? : Option Scalar.Number) : Mirrors m (planarOfReal? n?) (planarOfReal? n?) := by
  cases n? with
  | none => exact mirrors_pure rfl
  | some n => exact (mirrors_floatOf n).bind fun x => mirrors_pure rfl

theorem mirrors_planarOf? (s : Scalar) : Mirrors m (planarOf? s) (planarOf? (s.moved m)) := by
  cases s with
  | planar z => exact mirrors_pure rfl
  | _ => exact mirrors_planarOfReal? _

theorem mirrors_powerOfFloats (x y : Float) : Mirrors m (powerOfFloats x y) (powerOfFloats x y) := by
  refine (mirrors_fail _).ite (MirrorsBy.ite ?_ (mirrors_float _))
  exact (mirrors_ofPlanars _ _ _).ite (mirrors_fail _)

theorem mirrors_ofInts (a b : Int) : Mirrors m (ofInts op a b) (ofInts op a b) := by
  cases op with
  | add | sub | mul => exact mirrors_pure rfl
  | pow => exact mirrors_powerOfInts a b
  | floordiv | mod => exact (mirrors_fail _).ite (mirrors_pure rfl)
  | div => exact (mirrors_fail _).ite ((mirrors_float _).ite (mirrors_fail _))

theorem mirrors_ofFloats (x y : Float) : Mirrors m (ofFloats op x y) (ofFloats op x y) := by
  cases op with
  | add | sub | mul => exact mirrors_float _
  | pow => exact mirrors_powerOfFloats x y
  | _ => exact (mirrors_fail _).ite (mirrors_float _)

theorem mirrors_ofNumbers (a b : Scalar.Number) : Mirrors m (ofNumbers op a b) (ofNumbers op a b) := by
  have hfloats : ∀ a b : Scalar.Number, Mirrors m (do let x ← floatOf a; let y ← floatOf b; ofFloats op x y)
      (do let x ← floatOf a; let y ← floatOf b; ofFloats op x y) := fun a b =>
    (mirrors_floatOf a).bind fun x => (mirrors_floatOf b).bind fun y => mirrors_ofFloats op x y
  cases a with
  | float x => exact hfloats (.float x) b
  | int a =>
      cases b with
      | float y => exact hfloats (.int a) (.float y)
      | int b => exact mirrors_ofInts op a b

end Numbers

section Sequences

variable (n : Int) (v w : Value)

theorem mirrors_repeatedItems {α : Type} [Movable α] (items : List α) :
    Mirrors m (repeatedItems n items) (repeatedItems n (items.map (moved m))) := by
  unfold repeatedItems
  rw [List.isEmpty_map, List.length_map]
  refine (mirrors_fail _).ite ((mirrors_pure rfl).ite ((mirrors_fail _).ite (mirrors_pure ?_)))
  rw [moved_list, List.map_flatten, List.map_replicate]

theorem mirrors_repeatedText {α : Type} (s : List α) :
    MirrorsBy m Eq (repeatedText n s) (repeatedText n s) := by
  unfold repeatedText repeatedItems
  refine (mirrors_fail _).ite ((mirrors_fail _).ite ?_)
  exact (mirrorsBy_pure rfl).ite ((mirrors_fail _).ite (mirrorsBy_pure rfl))

theorem mirrors_repeated : Mirrors m (repeated v n) (repeated (moved m v) n) := by
  cases v with
  | scalar s =>
      cases s with
      | str s | safe s | bytes s =>
          exact (mirrors_repeatedText n s).bind fun a b hab => by subst hab; exact mirrors_pure rfl
      | _ => exact mirrors_fail _
  | tuple items =>
      simp only [moved_tuple, repeated]
      exact (mirrors_repeatedItems n items).bind fun items => mirrors_pure (by simp)
  | ref a =>
      refine (mirrors_cell? a).bind fun c? => ?_
      rcases c? with _ | items | _ | _ | _ | _ | _ | _
      · exact mirrors_fail _
      · simp only [moved_option, Option.map_some, moved_listCell, Array.toList_map]
        exact (mirrors_repeatedItems n items.toList).bind fun items => mirrors_newList items
      · exact mirrors_fail _
      · exact mirrors_fail _
      · exact mirrors_fail _
      · exact mirrors_fail _
      · exact mirrors_fail _
      · exact mirrors_fail _
  | _ => exact mirrors_fail _

theorem mirrors_concatenated : Mirrors m (concatenated v w) (concatenated (moved m v) (moved m w)) := by
  cases v with
  | scalar s =>
      cases w with
      | scalar t => cases s <;> cases t <;> first | exact mirrors_pure rfl | exact mirrors_fail _
      | _ => cases s <;> exact mirrors_fail _
  | tuple xs =>
      cases w with
      | tuple ys =>
          simp only [moved_tuple, concatenated]
          exact mirrors_pure (by simp)
      | _ => exact mirrors_fail _
  | ref a =>
      cases w with
      | ref b =>
          refine (mirrors_cell? a).bind fun c? => (mirrors_cell? b).bind fun d? => ?_
          rcases c? with _ | xs | _ | _ | _ | _ | _ | _
          · exact mirrors_fail _
          · rcases d? with _ | ys | _ | _ | _ | _ | _ | _
            · exact mirrors_fail _
            · have hjoined := mirrors_newList (m := m) (xs.toList ++ ys.toList)
              rw [List.map_append] at hjoined
              simpa using hjoined
            · exact mirrors_fail _
            · exact mirrors_fail _
            · exact mirrors_fail _
            · exact mirrors_fail _
            · exact mirrors_fail _
            · exact mirrors_fail _
          · exact mirrors_fail _
          · exact mirrors_fail _
          · exact mirrors_fail _
          · exact mirrors_fail _
          · exact mirrors_fail _
          · exact mirrors_fail _
      | _ => exact mirrors_fail _
  | _ => exact mirrors_fail _

theorem mirrors_without (left right : List Value) :
    Mirrors m (without left right) (without (left.map (moved m)) (right.map (moved m))) := by
  refine (Mirrors.mapM mirrors_asKey right).bind fun gone => ?_
  have hkeyed : ∀ x : Value, Mirrors m (do return (x, ← asKey x)) (do return (moved m x, ← asKey (moved m x))) :=
    fun x => (mirrors_asKey x).bind fun key => mirrors_pure rfl
  refine (Mirrors.mapM hkeyed left).bind fun kept => mirrors_pure ?_
  have hgone : (fun x : Value × Datum => !(gone.map (moved m)).any x.2.same) ∘ moved m =
      fun x => !gone.any x.2.same := by
    funext ⟨x, key⟩
    simp [List.any_map, Function.comp_def]
  rw [moved_list, moved_list, List.filter_map, hgone]
  simp [Function.comp_def]

@[simp]
theorem isMembers_moved : isMembers (moved m v) = isMembers v := by
  cases v with
  | part p a => cases p <;> rfl
  | _ => rfl

theorem mirrors_distinctItems (seen : List Datum) (items : List Value) :
    Mirrors m (distinctItems seen items)
      (distinctItems (seen.map (moved m)) (items.map (moved m))) := by
  induction items generalizing seen with
  | nil => exact mirrors_pure rfl
  | cons x rest ih =>
      refine (mirrors_asKey x).bind fun key => ?_
      have hseen : (seen.map (moved m)).any (·.same (key.moved m)) = seen.any (·.same key) := by
        simp [List.any_map, Function.comp_def]
      rw [Datum.moved_eq, hseen]
      exact (ih seen).ite ((ih (key :: seen)).bind fun _ => mirrors_pure rfl)

theorem mirrors_differenceOfItems :
    Mirrors m (differenceOfItems v w) (differenceOfItems (moved m v) (moved m w)) := by
  unfold differenceOfItems
  rw [isMembers_moved, isMembers_moved]
  refine MirrorsBy.ite ?_ ?_
  · refine (mirrors_items v).bind fun xs => (mirrors_distinctItems [] xs).bind fun xs => ?_
    exact (mirrors_items w).bind fun ys => (mirrors_without xs ys).bind fun zs => mirrors_pure (by simp)
  · cases v with
    | absent x => exact mirrors_refuse x
    | _ =>
        cases w with
        | absent y => exact mirrors_refuse y
        | _ => exact mirrors_fail _

theorem mirrors_difference : Mirrors m (difference v w) (difference (moved m v) (moved m w)) := by
  cases v with
  | set frozen xs =>
      cases w with
      | set frozen' ys =>
          simp only [moved_set, difference]
          exact (mirrors_without xs ys).bind fun zs => mirrors_pure (by simp)
      | _ => exact mirrors_differenceOfItems (.set frozen xs) _
  | _ => exact mirrors_differenceOfItems _ w

end Sequences

section Operations

variable (v w : Value)

theorem mirrors_withPlanar (op : Operator) {z z' w w' : Run (Option Planar)} (hz : Mirrors m z z')
    (hw : Mirrors m w w') : Mirrors m (withPlanar op z w) (withPlanar op z' w') :=
  hz.both hw (fun _ _ => mirrors_ofPlanars op _ _) (fun _ => mirrors_fail _) (fun _ => mirrors_fail _)

theorem mirrors_ofLines (op : Operator) (s t : Scalar) :
    Mirrors m (ofLines op s t) (ofLines op (s.moved m) (t.moved m)) := by
  have hleft := fun n => mirrors_repeated (m := m) n (.scalar s)
  have hright := fun n => mirrors_repeated (m := m) n (.scalar t)
  have hjoined := mirrors_concatenated (m := m) (.scalar s) (.scalar t)
  unfold ofLines
  rw [Scalar.number?_moved, Scalar.number?_moved]
  rcases s.number? with _ | n | x <;> rcases t.number? with _ | n' | y
  · cases op <;> first | exact hjoined | exact mirrors_fail _
  · cases op <;> first | exact hjoined | exact hleft n' | exact mirrors_fail _
  · cases op <;> first | exact hjoined | exact mirrors_fail _
  · cases op <;> first | exact hjoined | exact hright n | exact mirrors_fail _
  · exact mirrors_ofNumbers op _ _
  · exact mirrors_ofNumbers op _ _
  · cases op <;> first | exact hjoined | exact mirrors_fail _
  · exact mirrors_ofNumbers op _ _
  · exact mirrors_ofNumbers op _ _

theorem mirrors_ofScalars (op : Operator) (s t : Scalar) :
    Mirrors m (ofScalars op s t) (ofScalars op (s.moved m) (t.moved m)) := by
  cases s with
  | planar z => exact mirrors_withPlanar op (mirrors_pure rfl) (mirrors_planarOf? t)
  | _ =>
      cases t with
      | planar w => exact mirrors_withPlanar op (mirrors_planarOf? _) (mirrors_pure rfl)
      | _ => exact mirrors_ofLines op _ _

theorem mirrors_multiplied : Mirrors m (multiplied v w) (multiplied (moved m v) (moved m w)) := by
  unfold multiplied
  rw [index?_moved, index?_moved]
  rcases index? v with _ | n <;> rcases index? w with _ | n'
  · exact mirrors_fail _
  · exact mirrors_repeated n' v
  · exact mirrors_repeated n w
  · exact mirrors_repeated n' v

theorem mirrors_ofOthers (op : Operator) : Mirrors m (ofOthers op v w) (ofOthers op (moved m v) (moved m w)) := by
  refine (mirrors_difference v w).ite ?_
  cases w with
  | absent y => exact mirrors_refuse y
  | _ =>
      cases op with
      | mul => exact mirrors_multiplied v _
      | add => exact mirrors_concatenated v _
      | _ => exact mirrors_fail _

theorem mirrors_binary (op : Operator) : Mirrors m (binary op v w) (binary op (moved m v) (moved m w)) := by
  cases v with
  | absent x => exact mirrors_refuse x
  | scalar s =>
      have hformat : isFormat (s.moved m) = isFormat s := by cases s <;> rfl
      have hfill : Mirrors m (fill s w) (fill (s.moved m) (moved m w)) := by
        cases s with
        | nan i => exact mirrors_fail _
        | _ => exact mirrors_fill w _
      simp only [moved_scalar, binary, hformat]
      refine hfill.ite ?_
      cases w with
      | scalar t => exact mirrors_ofScalars op s t
      | _ => exact mirrors_ofOthers (.scalar s) _ op
  | _ => exact mirrors_ofOthers _ w op

theorem mirrors_signed (op : Prefixed) (s : Scalar) : Mirrors m (signed op s) (signed op (s.moved m)) := by
  have hline : ∀ s : Scalar, Mirrors m (signedLine op s) (signedLine op (s.moved m)) := by
    intro s
    unfold signedLine
    rw [Scalar.number?_moved]
    rcases s.number? with _ | i | x
    · cases op <;> exact mirrors_fail _
    · cases op <;> exact mirrors_pure rfl
    · cases op <;> first | exact mirrors_pure rfl | exact mirrors_float _
  cases s with
  | planar z => exact mirrors_pure rfl
  | _ => exact hline _

theorem mirrors_unary (op : Prefixed) : Mirrors m (unary op v) (unary op (moved m v)) := by
  have hsigned : ∀ op : Prefixed, op ≠ .denied → Mirrors m (unary op v) (unary op (moved m v)) := by
    intro op hop
    cases v with
    | absent a => cases op <;> first | exact absurd rfl hop | exact mirrors_refuse a
    | scalar s => cases op <;> first | exact absurd rfl hop | exact mirrors_signed _ s
    | _ => cases op <;> first | exact absurd rfl hop | exact mirrors_fail _
  cases op with
  | denied => exact (mirrors_truth v).bind fun b => mirrors_pure rfl
  | _ => exact hsigned _ (by decide)

end Operations

end Run

end BraceTemplate.Host

import BraceTemplate.Host.Scope
import BraceTemplate.Proofs.Move.Method

namespace BraceTemplate.Host

variable {m : Move}

instance : Plain Origin := ⟨⟩

@[simp]
theorem moved_frame (home level : Nat) (slots : List (Text × Origin)) :
    moved m (⟨home, level, slots⟩ : Frame) = ⟨m.address home, level, slots⟩ := rfl

@[simp]
theorem home_moved (frame : Frame) : (moved m frame).home = m.address frame.home := rfl

@[simp]
theorem level_moved (frame : Frame) : (moved m frame).level = frame.level := rfl

@[simp]
theorem slots_moved (frame : Frame) : (moved m frame).slots = frame.slots := rfl

namespace Scope

-- A name belongs to the same block, wherever the names of the block live.
theorem find?_moved (scope : Scope) (name : Text) :
    find? name (scope.map (moved m)) = (find? name scope).map (moved m) := by
  induction scope with
  | nil => rfl
  | cons frame rest ih =>
      rw [List.map_cons, find?, find?, slots_moved]
      cases frame.slots.find? (·.1 == name) with
      | none => exact ih
      | some slot => rfl

@[simp]
theorem has_moved (scope : Scope) : has (scope.map (moved m)) = has scope := by
  funext name
  rw [has, has, find?_moved, Option.isSome_map]

end Scope

namespace Run

section Names

variable (frame : Frame) (scope : Scope) (name : Text)

theorem mirrors_context? : Mirrors m (context? name) (context? name) := by
  refine mirrors_read_bind fun g g' hg => ?_
  rw [hg.data, moved_list, Passed.find?_named_moved]
  cases g.data.find? (·.1 == name) with
  | some entry => exact mirrors_pure rfl
  | none =>
      refine mirrors_pure ?_
      unfold builtin?
      repeat' split
      all_goals rfl

theorem mirrors_newHome : MirrorsAt m newHome newHome :=
  mirrorsAt_new (loose_names [])

theorem putName_moved (level : Nat) (v : Option Value) (values : List (Nat × Text × Option Value)) :
    putName level name (v.map (moved m)) (values.map (moved m)) = (putName level name v values).map (moved m) := by
  induction values with
  | nil => rfl
  | cons x rest ih =>
      obtain ⟨l, n, old⟩ := x
      change (if l = level ∧ n = name then _ else _) = (if l = level ∧ n = name then _ else _ : List _).map (moved m)
      split
      · rfl
      · rw [ih]
        rfl

theorem mirrors_setName (v : Option Value) :
    Mirrors m (setName frame name v) (setName (moved m frame) name (v.map (moved m))) := by
  refine (mirrors_cell? frame.home).bind fun c? => ?_
  rcases c? with _ | _ | _ | _ | values | _ | _ | _
  · exact mirrors_pure rfl
  · exact mirrors_pure rfl
  · exact mirrors_pure rfl
  · exact mirrors_pure rfl
  · have hput : ∀ v : Option Value, Mirrors m
        (update frame.home (.names (putName frame.level (compatible name) v values)))
        (update (m.address frame.home)
          (.names (putName frame.level (compatible name) (v.map (moved m)) (values.map (moved m))))) := by
      intro v
      rw [putName_moved]
      exact mirrors_update frame.home (loose_names (putName frame.level (compatible name) v values))
    rcases v with _ | v
    · exact hput none
    · cases v with
      | ended => exact hput none
      | _ => exact hput (some _)
  · exact mirrors_pure rfl
  · exact mirrors_pure rfl
  · exact mirrors_pure rfl

theorem mirrors_valueOf? : Mirrors m (valueOf? frame name) (valueOf? (moved m frame) name) := by
  refine (mirrors_cell? frame.home).bind fun c? => ?_
  rcases c? with _ | _ | _ | _ | values | _ | _ | _
  · exact mirrors_pure rfl
  · exact mirrors_pure rfl
  · exact mirrors_pure rfl
  · exact mirrors_pure rfl
  · refine mirrors_pure ?_
    have hfind : (values.map (moved m)).find? (fun x => x.1 == frame.level && x.2.1 == compatible name) =
        (values.find? fun x => x.1 == frame.level && x.2.1 == compatible name).map (moved m) := List.find?_map
    change ((values.map (moved m)).find? fun x => x.1 == frame.level && x.2.1 == compatible name).bind _ = _
    rw [hfind]
    cases values.find? fun x => x.1 == frame.level && x.2.1 == compatible name <;> rfl
  · exact mirrors_pure rfl
  · exact mirrors_pure rfl
  · exact mirrors_pure rfl

theorem mirrors_readName : Mirrors m (readName scope name) (readName (scope.map (moved m)) name) := by
  unfold readName
  rw [Scope.find?_moved]
  cases scope.find? name with
  | none => exact (mirrors_context? name).bind fun v? => mirrors_pure (getD_moved (moved_missing _) v?)
  | some found =>
      obtain ⟨frame, origin⟩ := found
      refine (mirrors_valueOf? frame name).bind fun v? => ?_
      cases v? with
      | some v => exact mirrors_pure rfl
      | none => cases origin <;> exact mirrors_pure rfl

theorem mirrors_inherited? : Mirrors m (inherited? scope name) (inherited? (scope.map (moved m)) name) := by
  unfold inherited?
  rw [Scope.find?_moved]
  cases scope.find? name with
  | none => exact mirrors_pure rfl
  | some found => exact mirrors_valueOf? found.1 name

theorem mirrors_enter : Mirrors m (enter scope) (enter (scope.map (moved m))) := by
  cases scope with
  | nil => exact mirrors_pure rfl
  | cons frame outer =>
      refine Mirrors.bind (Mirrors.forM_same (fun slot => ?_) frame.slots) fun _ =>
        Mirrors.forM_same (fun slot => ?_) frame.slots
      · obtain ⟨name, origin⟩ := slot
        cases origin with
        | looked => exact (mirrors_context? name).bind (mirrors_setName frame name)
        | inherited => exact (mirrors_inherited? outer name).bind (mirrors_setName frame name)
        | _ => exact mirrors_pure rfl
      · exact (mirrors_setName frame slot.1 none).ite (mirrors_pure rfl)

theorem mirrors_leave : Mirrors m (leave frame) (leave (moved m frame)) := by
  unfold leave
  refine Mirrors.forM_same (fun slot => ?_) frame.slots
  exact mirrors_setName frame slot.1 none

end Names

section Targets

variable (scope : Scope) (v : Value)

theorem mirrors_unpacked (count : Nat) : Mirrors m (unpacked v count) (unpacked (moved m v) count) := by
  refine (mirrors_walkOf v).bind fun walk => (mirrors_take walk _ []).bind fun values => ?_
  rw [moved_list, List.length_map]
  exact (mirrors_pure rfl).ite (mirrors_fail _)

theorem mirrors_setAttribute (space : Value) (name : Text) :
    Mirrors m (setAttribute space name v) (setAttribute (moved m space) name (moved m v)) := by
  cases space with
  | ref a =>
      refine (mirrors_cell? a).bind fun c? => ?_
      rcases c? with _ | _ | _ | t | _ | _ | _ | _
      · exact mirrors_pure rfl
      · exact mirrors_pure rfl
      · exact mirrors_pure rfl
      · exact (mirrors_withEntry v t (.str name)).bind fun t => mirrors_update a (loose_namespace t)
      · exact mirrors_pure rfl
      · exact mirrors_pure rfl
      · exact mirrors_pure rfl
      · exact mirrors_pure rfl
  | _ => exact mirrors_pure rfl

mutual

theorem mirrors_assign (v : Value) : ∀ target : Target,
    Mirrors m (assign scope v target) (assign (scope.map (moved m)) (moved m v) target)
  | .name n => by
    cases scope with
    | nil =>
        rw [List.map_nil, assign, assign]
        exact mirrors_pure rfl
    | cons frame outer =>
        rw [List.map_cons, assign, assign]
        exact mirrors_setName frame n (some v)
  | .member n attr => by
    rw [assign, assign]
    exact (mirrors_readName scope n).bind fun space => mirrors_setAttribute v space attr
  | .tuple targets => by
    rw [assign, assign]
    exact (mirrors_unpacked v targets.length).bind fun values => mirrors_assignAll values targets

theorem mirrors_assignAll : ∀ (values : List Value) (targets : List Target),
    Mirrors m (assignAll scope values targets) (assignAll (scope.map (moved m)) (values.map (moved m)) targets)
  | [], _ => by
    rw [List.map_nil, assignAll, assignAll]
    · exact mirrors_pure rfl
    all_goals simp
  | _ :: _, [] => by
    rw [List.map_cons, assignAll, assignAll]
    · exact mirrors_pure rfl
    all_goals simp
  | v :: values, t :: targets => by
    rw [List.map_cons, assignAll, assignAll]
    exact (mirrors_assign v t).bind fun _ => mirrors_assignAll values targets

end

mutual

theorem mirrors_assigned : ∀ target : Target,
    Mirrors m (assigned scope target) (assigned (scope.map (moved m)) target)
  | .name n => by
    rw [assigned, assigned]
    exact mirrors_readName scope n
  | .member n attr => by
    rw [assigned, assigned]
    exact (mirrors_readName scope n).bind fun space => mirrors_getAttribute space attr
  | .tuple targets => by
    rw [assigned, assigned]
    exact (mirrors_assignedAll targets).bind fun values => mirrors_pure (by simp)

theorem mirrors_assignedAll : ∀ targets : List Target,
    Mirrors m (assignedAll scope targets) (assignedAll (scope.map (moved m)) targets)
  | [] => by
    rw [assignedAll, assignedAll]
    exact mirrors_pure rfl
  | t :: rest => by
    rw [assignedAll, assignedAll]
    exact (mirrors_assigned t).bind fun v => (mirrors_assignedAll rest).bind fun values => mirrors_pure rfl

end

theorem mirrors_checkSpaces (names : List Text) :
    Mirrors m (checkSpaces scope names) (checkSpaces (scope.map (moved m)) names) := by
  induction names with
  | nil => exact mirrors_pure rfl
  | cons name rest ih =>
      have hrest : ∀ isSpace : Bool, Mirrors m
          (if isSpace then checkSpaces scope rest
            else fail (.refused "cannot assign attribute on non-namespace object".toList))
          (if isSpace then checkSpaces (scope.map (moved m)) rest
            else fail (.refused "cannot assign attribute on non-namespace object".toList)) :=
        fun isSpace => ih.ite (mirrors_fail _)
      refine (mirrors_readName scope name).bind fun v => ?_
      cases v with
      | ref a =>
          refine (mirrors_cell? a).bind fun c? => ?_
          rcases c? with _ | _ | _ | _ | _ | _ | _ | _
          · exact hrest false
          · exact hrest false
          · exact hrest false
          · exact hrest true
          · exact hrest false
          · exact hrest false
          · exact hrest false
          · exact hrest false
      | _ => exact hrest false

end Targets

end Run

end BraceTemplate.Host

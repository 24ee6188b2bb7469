import BraceTemplate.Host.Eval
import BraceTemplate.Host.Test
import BraceTemplate.Proofs.Move.Filter
import BraceTemplate.Proofs.Move.Scope

namespace BraceTemplate.Host.Run

variable {m : Move} (v w : Value) (p : Passed)

theorem mirrors_isIterable : Mirrors m (isIterable v) (isIterable (moved m v)) := by
  have hfixed : ∀ v : Value, Mirrors m (pure (hasFixedItems v)) (pure (hasFixedItems (moved m v))) :=
    fun v => mirrors_pure (hasFixedItems_moved v)
  cases v with
  | absent a => exact (mirrors_refuse a).ite (mirrors_pure rfl)
  | ref a =>
      refine (mirrors_cell? a).bind fun c? => ?_
      rcases c? with _ | _ | _ | _ | _ | _ | _ | _ <;> exact mirrors_pure rfl
  | part p a => exact mirrors_pure rfl
  | self => exact mirrors_pure rfl
  | _ => exact hfixed _

theorem mirrors_isSequence : Mirrors m (isSequence v) (isSequence (moved m v)) := by
  have hfixed : ∀ v : Value, Mirrors m (pure (hasFixedItems v)) (pure (hasFixedItems (moved m v))) :=
    fun v => mirrors_pure (hasFixedItems_moved v)
  cases v with
  | absent a => exact mirrors_pure rfl
  | set frozen items => exact mirrors_pure rfl
  | ref a =>
      refine (mirrors_cell? a).bind fun c? => ?_
      rcases c? with _ | _ | _ | _ | _ | _ | _ | _ <;> exact mirrors_pure rfl
  | _ => exact hfixed _

theorem mirrors_leaves (rest : Int) : Mirrors m (leaves v w rest) (leaves (moved m v) (moved m w) rest) :=
  (mirrors_binary v w .mod).bind fun x => mirrors_same x (.int rest)

theorem mirrors_divisible : Mirrors m
    (do match ← p.bind ["num"] with | [some n] => leaves v n 0 | _ => fail .wrongType)
    (do match ← (moved m p).bind ["num"] with | [some n] => leaves (moved m v) n 0 | _ => fail .wrongType) := by
  refine (p.mirrors_bind _).bind fun found => ?_
  rcases found with _ | ⟨_ | n, _ | ⟨_, _⟩⟩
  · exact mirrors_fail _
  · exact mirrors_fail _
  · exact mirrors_fail _
  · exact mirrors_leaves v n 0
  · exact mirrors_fail _

theorem mirrors_compared (r : Relation) : Mirrors m (compared r v p) (compared r (moved m v) (moved m p)) := by
  refine (p.mirrors_plain 1 1).bind fun values => ?_
  rcases values with _ | ⟨x, _ | ⟨_, _⟩⟩
  · exact mirrors_fail _
  · exact mirrors_relation r v x
  · exact mirrors_fail _

-- What is asked by its name answers in step whatever it is asked about.
theorem mirrors_tests : ∀ entry ∈ tests, ∀ (v : Value) (p : Passed),
    Mirrors m (entry.2 v p) (entry.2 (moved m v) (moved m p)) := by
  -- The kind of a value is told by its outermost constructor, which is kept.
  have hkind : ∀ f : Value → Bool, (∀ v, f (moved m v) = f v) → ∀ (v : Value) (p : Passed),
      Mirrors m (bare p (pure (f v))) (bare (moved m p) (pure (f (moved m v)))) :=
    fun f hf v p => mirrors_bare p (mirrors_pure (hf v))
  have hleaves : ∀ (rest : Int) (v : Value) (p : Passed),
      Mirrors m (bare p (leaves v (.int 2) rest)) (bare (moved m p) (leaves (moved m v) (.int 2) rest)) :=
    fun rest v p => mirrors_bare p (mirrors_leaves v (.int 2) rest)
  simp only [tests, List.forall_mem_cons, List.not_mem_nil, false_imp_iff, implies_true, and_true]
  refine ⟨hkind (!isAbsent ·) ?_, hkind isAbsent ?_, hkind _ ?_, hkind isNumber ?_, hleaves 1, hleaves 0,
    hkind isText ?_, fun v p => mirrors_bare p ((mirrors_mapping? v).bind fun entries? => mirrors_pure (by simp)),
    fun v p => mirrors_bare p (mirrors_isIterable v), mirrors_divisible, hkind _ ?_, hkind _ ?_, hkind _ ?_,
    hkind _ ?_, hkind _ ?_, fun v p => mirrors_bare p (mirrors_isSequence v),
    fun v p => mirrors_compared v p .eq, fun v p => mirrors_compared v p .eq, fun v p => mirrors_compared v p .ne,
    fun v p => mirrors_compared v p .lt, fun v p => mirrors_compared v p .lt, fun v p => mirrors_compared v p .le,
    fun v p => mirrors_compared v p .gt, fun v p => mirrors_compared v p .gt, fun v p => mirrors_compared v p .ge,
    fun v p => mirrors_compared v p .isIn⟩
  all_goals
    intro v
    cases v with
    | scalar s => cases s <;> rfl
    | _ => rfl

theorem mirrors_test? {name : Text} {f : Value → Passed → Run Bool} (h : test? name = some f) :
    Mirrors m (f v p) (f (moved m v) (moved m p)) := by
  obtain ⟨entry, hentry, rfl⟩ := Option.map_eq_some_iff.mp h
  exact mirrors_tests entry (List.mem_of_find?_eq_some hentry) v p

end BraceTemplate.Host.Run

namespace BraceTemplate.Host.Run

variable {m : Move}

section Calls

variable (v : Value) (p : Passed)

theorem mirrors_call (f : Value) : Mirrors m (call f p) (call (moved m f) (moved m p)) := by
  cases f with
  | absent a => exact mirrors_refuse a
  | builtin b => exact mirrors_callBuiltin p b
  | method receiver name => exact mirrors_callMethod receiver p name
  | defined name parameters body scope =>
      exact mirrors_read_bind fun g g' hg => mirrors_lift (hg.invoke ⟨parameters, body, scope⟩ p)
  | _ => exact mirrors_fail _

theorem mirrors_namedFrom : Mirrors m (namedFrom v) (namedFrom (moved m v)) := by
  cases v with
  | absent a => exact mirrors_refuse a
  | _ =>
      refine (mirrors_mapping? _).bind fun entries? => ?_
      cases entries? with
      | none => exact mirrors_fail _
      | some entries =>
          refine Mirrors.mapM (fun e => ?_) entries
          exact (mirrors_asText e.1).bind fun s => mirrors_pure rfl

theorem putNamed_moved (name : Text) (named : List (Text × Value)) :
    putNamed name (moved m v) (named.map (moved m)) = (putNamed name v named).map (moved m) := by
  induction named with
  | nil => rfl
  | cons n rest ih =>
      change (if n.1 = name then _ else _) = (if n.1 = name then _ else _ : List _).map (moved m)
      split
      · rfl
      · rw [ih]
        rfl

theorem putAll_moved (named acc : List (Text × Value)) :
    (named.map (moved m)).foldl (fun all n => putNamed n.1 n.2 all) (acc.map (moved m)) =
      (named.foldl (fun all n => putNamed n.1 n.2 all) acc).map (moved m) := by
  induction named generalizing acc with
  | nil => rfl
  | cons n rest ih =>
      rw [List.map_cons, List.foldl_cons, List.foldl_cons, ← ih, ← putNamed_moved]
      rfl

-- Values are passed by the same names.
theorem mirrors_gathered (args : List Value) (named others : List (Text × Value)) :
    Mirrors m (gathered args named others)
      (gathered (args.map (moved m)) (named.map (moved m)) (others.map (moved m))) := by
  have hreserved : (named.map (moved m)).any (isReserved ·.1) = named.any (isReserved ·.1) := by
    simp only [List.any_map, Function.comp_def, fst_moved, moved_plain]
  have hall : (named.map (moved m)).map (fun n => (compatible n.1, n.2)) ++ others.map (moved m) =
      (named.map (fun n => (compatible n.1, n.2)) ++ others).map (moved m) := by
    simp [Function.comp_def]
  have hnames : ∀ all : List (Text × Value), (all.map (moved m)).map (·.1) = all.map (·.1) := by
    simp [Function.comp_def]
  have hput := putAll_moved (m := m) (named ++ others) []
  unfold gathered
  dsimp only
  rw [hreserved, hall, hnames]
  refine MirrorsBy.ite (mirrors_pure ?_) ((mirrors_fail _).ite (mirrors_pure rfl))
  rw [← List.map_append]
  exact congrArg (Passed.mk _) hput

theorem mirrors_passed (args rest : List Value) (named : List (Text × Value)) (named' : Option Value) :
    Mirrors m (passed args rest named named')
      (passed (args.map (moved m)) (rest.map (moved m)) (named.map (moved m)) (named'.map (moved m))) := by
  unfold passed
  rw [← List.map_append]
  cases named' with
  | none => exact mirrors_gathered (args ++ rest) named []
  | some v => exact (mirrors_namedFrom v).bind (mirrors_gathered (args ++ rest) named)

theorem mirrors_restItems (v? : Option Value) : Mirrors m (restItems v?) (restItems (v?.map (moved m))) := by
  cases v? with
  | none => exact mirrors_pure rfl
  | some v => exact mirrors_items v

-- What is passed is put together in step, whatever it is passed to.
theorem Mirrors.passing {α β : Type} {R : α → β → Prop} {args args' : Run (List Value)} {rest rest' : Run (Option Value)}
    {named named' : Run (List (Text × Value))} {others others' : Run (Option Value)} {f : Passed → Run α}
    {f' : Passed → Run β} (hargs : Mirrors m args args') (hrest : Mirrors m rest rest') (hnamed : Mirrors m named named')
    (hothers : Mirrors m others others') (hf : ∀ p, MirrorsBy m R (f p) (f' (moved m p))) :
    MirrorsBy m R
      (do
        let given ← args
        let more ← restItems (← rest)
        let names ← named
        f (← passed given more names (← others)))
      (do
        let given ← args'
        let more ← restItems (← rest')
        let names ← named'
        f' (← passed given more names (← others'))) := by
  refine hargs.bind fun given => hrest.bind fun r? => (mirrors_restItems r?).bind fun more => ?_
  refine hnamed.bind fun names => hothers.bind fun n? => ?_
  exact (mirrors_passed given more names n?).bind hf

theorem mirrors_applyFilter (name : Text) :
    Mirrors m (applyFilter name v p) (applyFilter name (moved m v) (moved m p)) := by
  unfold applyFilter
  rw [Passed.named_moved, List.isEmpty_map]
  cases h : filter? name with
  | none => exact mirrors_fail _
  | some f => exact mirrors_filter? v p h

theorem mirrors_applyTest (name : Text) :
    Mirrors m (applyTest name v p) (applyTest name (moved m v) (moved m p)) := by
  unfold applyTest
  rw [Passed.named_moved, List.isEmpty_map]
  cases h : test? name with
  | none => exact mirrors_fail _
  | some f => exact (mirrors_test? v p h).bind fun b => mirrors_pure rfl

theorem mirrors_written (s : Scalar) : Mirrors m (written s) (written s) := by
  cases s with
  | float x => exact (mirrors_pure rfl).ite (mirrors_fail _)
  | nan i => exact mirrors_fail _
  | _ => exact mirrors_pure rfl

end Calls

section Expressions

variable (scope : Scope)

-- One that was left out stands for nothing.
theorem getD_null_moved (v? : Option Value) : (moved m v?).getD .null = moved m (v?.getD .null) :=
  getD_moved moved_null v?

mutual

theorem mirrors_eval : ∀ e : Expr, Mirrors m (eval scope e) (eval (scope.map (moved m)) e)
  | .literal s => by
    rw [eval, eval]
    exact mirrors_written s
  | .name n => by
    rw [eval, eval]
    exact mirrors_readName scope n
  | .list items => by
    rw [eval, eval]
    exact (mirrors_evalAll items).bind mirrors_newList
  | .tuple items => by
    rw [eval, eval]
    exact (mirrors_evalAll items).bind fun values => mirrors_pure (by simp)
  | .dict entries => by
    rw [eval, eval]
    exact (mirrors_evalEntries entries).bind mirrors_newDict
  | .unary op e => by
    rw [eval, eval]
    exact (mirrors_eval e).bind fun v => mirrors_unary v op
  | .binary op a b => by
    rw [eval, eval]
    exact (mirrors_eval a).bind fun x => (mirrors_eval b).bind fun y => mirrors_binary x y op
  | .joined parts => by
    rw [eval, eval]
    exact (mirrors_evalAll parts).bind fun values => (mirrors_texts values).bind fun all => mirrors_pure (by simp)
  | .compare first rest => by
    rw [eval, eval]
    exact (mirrors_eval first).bind fun x => (mirrors_evalOperands x rest).bind fun b => mirrors_pure rfl
  | .both a b => by
    rw [eval, eval]
    exact (mirrors_eval a).bind fun x => (mirrors_truth x).bind fun _ => (mirrors_eval b).ite (mirrors_pure rfl)
  | .either a b => by
    rw [eval, eval]
    exact (mirrors_eval a).bind fun x => (mirrors_truth x).bind fun _ => (mirrors_pure rfl).ite (mirrors_eval b)
  | .choice test value otherwise line => by
    rw [eval, eval]
    refine (mirrors_eval test).bind fun x => (mirrors_truth x).bind fun _ => (mirrors_eval value).ite ?_
    exact (mirrors_evalSome otherwise).bind fun v? => mirrors_pure (getD_moved (moved_absent _) v?)
  | .member e name => by
    rw [eval, eval]
    exact (mirrors_eval e).bind fun v => mirrors_getAttribute v name
  | .item e key => by
    rw [eval, eval]
    exact (mirrors_eval e).bind fun x => (mirrors_eval key).bind fun k => mirrors_getItem x k
  | .slice e start stop step => by
    rw [eval, eval]
    refine (mirrors_eval e).bind fun x => (mirrors_evalSome start).bind fun a => ?_
    refine (mirrors_evalSome stop).bind fun b => (mirrors_evalSome step).bind fun c => ?_
    rw [getD_null_moved, getD_null_moved, getD_null_moved]
    exact mirrors_slice x _ _ _
  | .bounds start stop step => by
    rw [eval, eval]
    refine (mirrors_evalSome start).bind fun a => (mirrors_evalSome stop).bind fun b => ?_
    refine (mirrors_evalSome step).bind fun c => mirrors_pure ?_
    rw [getD_null_moved, getD_null_moved, getD_null_moved, moved_bounds]
  | .settled value _ => by
    rw [eval, eval]
    exact mirrors_eval value
  | .call f args named rest named' => by
    rw [eval, eval]
    refine (mirrors_eval f).bind fun g => ?_
    exact Mirrors.passing (mirrors_evalAll args) (mirrors_evalSome rest) (mirrors_evalNamed named)
      (mirrors_evalSome named') fun p => mirrors_call p g
  | .filter e name args named rest named' => by
    rw [eval, eval]
    refine (mirrors_eval e).bind fun v => ?_
    exact Mirrors.passing (mirrors_evalAll args) (mirrors_evalSome rest) (mirrors_evalNamed named)
      (mirrors_evalSome named') fun p => mirrors_applyFilter v p name
  | .test e name args named rest named' => by
    rw [eval, eval]
    refine (mirrors_eval e).bind fun v => ?_
    exact Mirrors.passing (mirrors_evalAll args) (mirrors_evalSome rest) (mirrors_evalNamed named)
      (mirrors_evalSome named') fun p => mirrors_applyTest v p name

theorem mirrors_evalAll : ∀ es : List Expr, Mirrors m (evalAll scope es) (evalAll (scope.map (moved m)) es)
  | [] => by
    rw [evalAll, evalAll]
    exact mirrors_pure rfl
  | e :: rest => by
    rw [evalAll, evalAll]
    exact (mirrors_eval e).bind fun v => (mirrors_evalAll rest).bind fun values => mirrors_pure rfl

theorem mirrors_evalEntries : ∀ es : List (Expr × Expr),
    Mirrors m (evalEntries scope es) (evalEntries (scope.map (moved m)) es)
  | [] => by
    rw [evalEntries, evalEntries]
    exact mirrors_pure rfl
  | (k, e) :: rest => by
    rw [evalEntries, evalEntries]
    refine (mirrors_eval k).bind fun key => (mirrors_eval e).bind fun v => ?_
    exact (mirrors_evalEntries rest).bind fun entries => mirrors_pure rfl

theorem mirrors_evalNamed : ∀ es : List (Text × Expr),
    Mirrors m (evalNamed scope es) (evalNamed (scope.map (moved m)) es)
  | [] => by
    rw [evalNamed, evalNamed]
    exact mirrors_pure rfl
  | (name, e) :: rest => by
    rw [evalNamed, evalNamed]
    exact (mirrors_eval e).bind fun v => (mirrors_evalNamed rest).bind fun values => mirrors_pure rfl

theorem mirrors_evalOperands (left : Value) : ∀ es : List (Relation × Expr),
    Mirrors m (evalOperands scope left es) (evalOperands (scope.map (moved m)) (moved m left) es)
  | [] => by
    rw [evalOperands, evalOperands]
    exact mirrors_pure rfl
  | (r, e) :: rest => by
    rw [evalOperands, evalOperands]
    refine (mirrors_eval e).bind fun right => (mirrors_relation r left right).bind fun _ => ?_
    exact (mirrors_evalOperands right rest).ite (mirrors_pure rfl)

theorem mirrors_evalSome : ∀ e? : Option Expr,
    Mirrors m (evalSome scope e?) (evalSome (scope.map (moved m)) e?)
  | none => by
    rw [evalSome, evalSome]
    exact mirrors_pure rfl
  | some e => by
    rw [evalSome, evalSome]
    exact (mirrors_eval e).bind fun v => mirrors_pure rfl

end

end Expressions

section Nodes

variable (scope : Scope)

theorem mirrors_homeOf : MirrorsAt m (homeOf scope) (homeOf (scope.map (moved m))) := by
  cases scope with
  | nil => exact mirrors_newHome
  | cons frame outer => exact mirrorsBy_pure rfl

theorem mirrors_testScope (target : Target) (test : Expr) :
    Mirrors m (testScope scope target test) (testScope (scope.map (moved m)) target test) := by
  unfold testScope
  rw [Scope.has_moved, List.length_map]
  dsimp only
  refine mirrors_newHome.bind fun home => ?_
  have henter := mirrors_enter (m := m)
    (⟨home, scope.length, ((Slots.declared .bound target.names).loadAll scope.has test.names).entries⟩ :: scope)
  exact henter.bind fun _ => mirrors_pure rfl

-- Names are bound one after the other.
theorem mirrors_bindings (inner : Scope) (bindings : List (Target × Expr)) :
    Mirrors m
      (forIn bindings PUnit.unit fun b _ => do
        assign inner (← eval scope b.2) b.1
        pure (.yield PUnit.unit))
      (forIn bindings PUnit.unit fun b _ => do
        assign (inner.map (moved m)) (← eval (scope.map (moved m)) b.2) b.1
        pure (.yield PUnit.unit)) := by
  induction bindings with
  | nil => exact mirrors_pure rfl
  | cons b rest ih =>
      simp only [List.forIn_cons, bind_assoc, pure_bind]
      exact (mirrors_eval scope b.2).bind fun v => (mirrors_assign inner v b.1).bind fun _ => ih

theorem mirrors_sourceOf (v : Value) (target : Target) (test : Option Expr) :
    Mirrors m (sourceOf scope target test v) (sourceOf (scope.map (moved m)) target test (moved m v)) := by
  cases test with
  | none => exact mirrors_pure rfl
  | some e => exact mirrors_newGenerator v (.passing scope target e)

theorem mirrors_startLoop (source : Value) (isLoop : Bool) :
    MirrorsAt m (startLoop isLoop source) (startLoop isLoop (moved m source)) :=
  (mirrors_newLoop source).ite (mirrors_walkOf source)

section Bodies

variable {scope : Scope} {frame : Frame} {body body' : Run Text} (h : Mirrors m body body')

include h

theorem mirrors_roundWith (target : Target) (done : List Text) (x : Value) :
    Mirrors m (roundWith scope target body done x)
      (roundWith (scope.map (moved m)) target body' (moved m done) (moved m x)) :=
  (mirrors_assign scope x target).bind fun _ => (mirrors_enter scope).bind fun _ => h.bind fun _ =>
    mirrors_pure rfl

theorem mirrors_within :
    Mirrors m (within frame scope body) (within (moved m frame) (scope.map (moved m)) body') :=
  (mirrors_enter (frame :: scope)).bind fun _ => h.bind fun _ => (mirrors_leave frame).bind fun _ =>
    mirrors_pure rfl

end Bodies

mutual

theorem mirrors_exec (scope : Scope) : ∀ n : Node, Mirrors m (exec scope n) (exec (scope.map (moved m)) n)
  | .text s => by
    rw [exec, exec]
    exact mirrors_pure rfl
  | .output e => by
    rw [exec, exec]
    exact (mirrors_eval scope e).bind mirrors_text
  | .perform e => by
    rw [exec, exec]
    exact (mirrors_eval scope e).bind fun _ => mirrors_pure rfl
  | .conditional branches otherwise => by
    rw [exec, exec]
    refine (mirrors_execBranches scope branches).bind fun s? => ?_
    cases s? with
    | none => exact mirrors_execAll scope otherwise
    | some s => exact mirrors_pure rfl
  | .assign target value => by
    rw [exec, exec]
    refine (mirrors_checkSpaces scope target.spaces).bind fun _ => (mirrors_eval scope value).bind fun v => ?_
    exact (mirrors_assign scope v target).bind fun _ => mirrors_pure rfl
  | .define name parameters body => by
    rw [exec, exec]
    exact (mirrors_assign scope (.defined name parameters body scope) (.name name)).bind fun _ => mirrors_pure rfl
  | .scope bindings body => by
    rw [exec, exec, Scope.has_moved, List.length_map]
    refine (mirrors_homeOf scope).bind fun home => ?_
    generalize Slots.entries _ = slots
    have hentered := mirrors_enter (m := m) (⟨home, scope.length, slots⟩ :: scope)
    refine hentered.bind fun _ => (mirrors_bindings scope (⟨home, scope.length, slots⟩ :: scope) bindings).bind fun _ => ?_
    refine (mirrors_execAll (⟨home, scope.length, slots⟩ :: scope) body).bind fun s => ?_
    exact (mirrors_leave ⟨home, scope.length, slots⟩).bind fun _ => mirrors_pure rfl
  | .loop target items test body otherwise => by
    rw [exec, exec, Scope.has_moved, List.length_map]
    dsimp only
    refine (mirrors_homeOf scope).bind fun home => (mirrors_eval scope items).bind fun v => ?_
    refine (mirrors_sourceOf scope v target test).bind fun source => ?_
    refine (mirrors_startLoop source _).bind fun walk => ?_
    generalize Slots.entries (Slots.visitAll scope.has false (Slots.declared .bound _) body) = slots
    generalize Slots.entries (Slots.visitAll scope.has false .empty otherwise) = slots'
    have hbody := mirrors_execAll (⟨home, scope.length, slots⟩ :: scope) body
    refine (Mirrors.foldAll (mirrors_roundWith hbody _) walk []).bind fun done => ?_
    refine (mirrors_leave ⟨home, scope.length, slots⟩).bind fun _ => ?_
    rw [moved_list, moved_plain_eq_id, List.map_id]
    exact (mirrors_within (mirrors_execAll (⟨home, scope.length, slots'⟩ :: scope) otherwise)).ite (mirrors_pure rfl)

theorem mirrors_execAll (scope : Scope) : ∀ ns : List Node,
    Mirrors m (execAll scope ns) (execAll (scope.map (moved m)) ns)
  | [] => by
    rw [execAll, execAll]
    exact mirrors_pure rfl
  | n :: rest => by
    rw [execAll, execAll]
    exact (mirrors_exec scope n).bind fun s => (mirrors_execAll scope rest).bind fun tail => mirrors_pure rfl

theorem mirrors_execBranches (scope : Scope) : ∀ branches : List (Expr × List Node),
    Mirrors m (execBranches scope branches) (execBranches (scope.map (moved m)) branches)
  | [] => by
    rw [execBranches, execBranches]
    exact mirrors_pure rfl
  | (test, body) :: rest => by
    rw [execBranches, execBranches]
    refine (mirrors_eval scope test).bind fun v => (mirrors_truth v).bind fun _ => ?_
    have hbody : Mirrors m (some <$> execAll scope body) (some <$> execAll (scope.map (moved m)) body) :=
      (mirrors_execAll scope body).map fun _ => rfl
    exact hbody.ite (mirrors_execBranches scope rest)

end

end Nodes

section Definitions

variable (d : Definition) (p : Passed) (frame : Frame) (outer : Scope)

theorem given_moved (parameters : List Parameter) :
    given (moved m p) parameters = (given p parameters).map (moved m) := by
  rw [given, given, List.map_map]
  congr 1
  funext ⟨x, i⟩
  change (x.name, if i < (p.args.map (moved m)).length then (p.args.map (moved m))[i]?
    else ((p.named.map (moved m)).find? (·.1 == x.name)).map (·.2)) = _
  rw [List.length_map, List.getElem?_map, Passed.find?_named_moved]
  change _ = (x.name, (if i < p.args.length then p.args[i]? else (p.named.find? (·.1 == x.name)).map (·.2)).map
    (moved m))
  split
  · rfl
  · cases p.named.find? (·.1 == x.name) <;> rfl

theorem mirrors_defaultOf (scope : Scope) (x : Parameter) :
    Mirrors m (defaultOf scope x) (defaultOf (scope.map (moved m)) x) := by
  unfold defaultOf
  cases x.default with
  | none => exact mirrors_pure rfl
  | some e => exact mirrors_eval scope e

theorem mirrors_withDefaults (parameters : List Parameter) :
    Mirrors m (withDefaults frame outer parameters)
      (withDefaults (moved m frame) (outer.map (moved m)) parameters) := by
  induction parameters with
  | nil => exact mirrors_pure rfl
  | cons x rest ih =>
      have hdefault := mirrors_defaultOf (m := m) (lacking frame (x.name :: rest.map (·.name)) :: outer) x
      rw [withDefaults, withDefaults]
      refine (mirrors_valueOf? frame x.name).bind fun v? => ?_
      rw [moved_option, Option.isNone_map]
      refine MirrorsBy.ite (hdefault.bind fun v => ?_) ih
      refine (mirrors_setName frame x.name (some v)).bind fun _ => ?_
      exact ih

theorem callerOf_moved (spare : List (Text × Value)) :
    callerOf (spare.map (moved m)) = moved m (callerOf spare) := by
  rw [callerOf, Passed.find?_named_moved, callerOf]
  generalize List.find? _ spare = found
  rcases found with _ | ⟨name, v⟩
  · rfl
  · cases v with
    | scalar s => cases s <;> rfl
    | _ => rfl

theorem spareNamed_moved : spareNamed (moved m d) (moved m p) = (spareNamed d p).map (moved m) := by
  rw [spareNamed, Passed.named_moved, Passed.args_moved, List.length_map, List.filter_map]
  rfl

theorem keptNamed_moved : keptNamed (moved m d) (moved m p) = (keptNamed d p).map (moved m) := by
  rw [keptNamed, spareNamed_moved, List.filter_map]
  rfl

theorem slotsOf_moved : slotsOf (moved m d) = slotsOf d := by
  have hhas := Scope.has_moved (m := m) d.scope
  unfold slotsOf
  change Slots.visitAll (Scope.has (d.scope.map (moved m))) false (Slots.loadAll (Scope.has (d.scope.map (moved m)))
    _ _) _ = _
  rw [hhas]
  rfl

-- What a body asks for is put in its block, in step.
theorem mirrors_putExtra :
    Mirrors m (putExtra frame d p) (putExtra (moved m frame) (moved m d) (moved m p)) := by
  have hasks : asksFor (moved m d) = asksFor d := rfl
  have hcaller := mirrors_setName (m := m) frame callerName (some (callerOf (spareNamed d p)))
  have hnamed := mirrors_newDict (m := m) ((keptNamed d p).map fun n => (.str n.1, n.2))
  rw [← asEntries_moved] at hnamed
  have hrest := mirrors_setName (m := m) frame restName (some (.tuple (p.args.drop d.parameters.length)))
  rw [Option.map_some, moved_tuple, List.map_drop] at hrest
  have hlast : Mirrors m
      (if asksFor d restName then setName frame restName (some (.tuple (p.args.drop d.parameters.length)))
        else pure ())
      (if asksFor d restName then
        setName (moved m frame) restName (some (.tuple ((p.args.map (moved m)).drop d.parameters.length)))
        else pure ()) := hrest.ite (mirrors_pure rfl)
  unfold putExtra
  rw [keptNamed_moved, spareNamed_moved, callerOf_moved, hasks]
  refine MirrorsBy.ite (hcaller.bind fun _ => ?_) ?_
  all_goals
    refine MirrorsBy.ite (hnamed.bind fun v => ?_) hlast
    exact (mirrors_setName frame namedName (some v)).bind fun _ => hlast

theorem mirrors_runBody : Mirrors m (runBody d p) (runBody (moved m d) (moved m p)) := by
  unfold runBody
  rw [slotsOf_moved, given_moved]
  refine mirrors_newHome.bind fun home => ?_
  have hlength : (moved m d).scope.length = d.scope.length := List.length_map _
  rw [hlength]
  generalize Slots.entries (slotsOf d) = slots
  refine (mirrors_putExtra d p ⟨home, d.scope.length, slots⟩).bind fun _ => ?_
  refine Mirrors.bind (Mirrors.forM (fun n => ?_) (given p d.parameters)) fun _ => ?_
  · exact mirrors_setName ⟨home, d.scope.length, slots⟩ n.1 n.2
  refine (mirrors_enter (⟨home, d.scope.length, slots⟩ :: d.scope)).bind fun _ => ?_
  refine (mirrors_withDefaults ⟨home, d.scope.length, slots⟩ d.scope d.parameters).bind fun _ => ?_
  exact (mirrors_execAll (⟨home, d.scope.length, slots⟩ :: d.scope) d.body).bind fun s => mirrors_pure rfl

theorem mirrors_invoke : Mirrors m (invoke d p) (invoke (moved m d) (moved m p)) := by
  unfold invoke
  rw [keptNamed_moved, List.isEmpty_map, Passed.args_moved, List.length_map]
  exact (mirrors_fail _).ite ((mirrors_fail _).ite (mirrors_runBody d p))

theorem mirrors_prepare (work : Work) (v : Value) :
    Mirrors m (prepare work v) (prepare (moved m work) (moved m v)) := by
  cases work with
  | passing scope target test => exact (mirrors_testScope scope target test).bind fun inner => mirrors_pure rfl
  | _ => exact mirrors_prepareWork v _

theorem mirrors_perform (work : Work) (v : Value) :
    Mirrors m (perform work v) (perform (moved m work) (moved m v)) := by
  cases work with
  | passing scope target test =>
      refine (mirrors_assign scope v target).bind fun _ => (mirrors_eval scope test).bind fun x => ?_
      refine (mirrors_truth x).bind fun _ => MirrorsBy.ite ?_ (mirrors_pure rfl)
      exact (mirrors_assigned scope target).bind fun w => mirrors_pure rfl
  | _ => exact mirrors_performWork v _

end Definitions

end BraceTemplate.Host.Run

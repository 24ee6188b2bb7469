import BraceTemplate.Proofs.Switch.Prepare
import BraceTemplate.Proofs.Tree.Execute

namespace BraceTemplate

namespace Host

open Run

-- The state of a switch: what it is a switch on, and whether a branch has been taken.
def spaceTable (v : Value) (done : Bool) : Table Value :=
  .ofDistinct [⟨.str "subject".toList, .str "subject".toList, v⟩,
    ⟨.str "done".toList, .str "done".toList, .bool done⟩]

section Table

variable (v : Value) (done : Bool)

theorem same_subject_done : Datum.same (.str "subject".toList) (.str "done".toList) = false := by
  rw [Datum.same_str]
  decide

theorem slot?_done : (spaceTable v done).slot? (.str "done".toList) = some 1 := by
  have hdone : Datum.same (.str "done".toList) (.str "done".toList) = true := by
    rw [Datum.same_str]
    decide
  simp only [Table.slot?, spaceTable, Table.ofDistinct, List.map_cons, List.map_nil, List.findIdx?_toArray,
    List.findIdx?_cons, Table.holds, same_subject_done, hdone]
  rfl

theorem set_done :
    (spaceTable v done).set ⟨.str "done".toList, .str "done".toList, .bool true⟩ = spaceTable v true := by
  simp only [Table.set, slot?_done]
  rfl

theorem set_empty :
    (Table.set (Table.set .empty ⟨.str "subject".toList, .str "subject".toList, v⟩)
      ⟨.str "done".toList, .str "done".toList, .bool done⟩) = spaceTable v done := by
  let e : Entry Value := ⟨.str "subject".toList, .str "subject".toList, v⟩
  have hempty : Table.slot? (.empty : Table Value) e.shape = none := by simp [Table.slot?, Table.empty]
  have hone : Table.set .empty e = .ofDistinct [e] := by
    rw [Table.set, hempty]
    rfl
  have hslot : (Table.ofDistinct [e]).slot? (.str "done".toList) = none := by
    simp only [Table.slot?, Table.ofDistinct, List.map_cons, List.map_nil, List.findIdx?_toArray,
      List.findIdx?_cons, Table.holds, e, same_subject_done]
    rfl
  rw [hone, Table.set, hslot]
  rfl

end Table

-- What a name is read as that stands for a number, if for anything.
def countOf (env : Environment) (x : Text) : Value :=
  ((env.int? x).map Value.int).getD (undefinedName x)

namespace Run

section Space

variable {g : Setting} {s : Store} {scope : Scope} {a : Nat} {v : Value} {done : Bool}

theorem withEntry_str (t : Table Value) (x : Text) (v : Value) :
    withEntry t (.str x) v = pure (t.set ⟨.str x, .str x, v⟩) := rfl

theorem passed_space (v w : Value) :
    passed [] [] [("subject".toList, v), ("done".toList, w)] none =
      pure ⟨[], [("subject".toList, v), ("done".toList, w)]⟩ := by
  have hnames : repeats ["subject".toList, "done".toList] = false := by decide
  have hcompatible : compatible "subject".toList = "subject".toList ∧
      compatible "done".toList = "done".toList := by decide
  simp only [passed, gathered, pure_bind, List.append_nil, List.map_cons, List.map_nil,
    hcompatible.1, hcompatible.2, hnames, Bool.false_eq_true, if_false]
  split <;> rfl

theorem call_space (v w : Value) :
    call (.builtin .namespace) ⟨[], [("subject".toList, v), ("done".toList, w)]⟩ = allocate (.namespace
      (Table.set (Table.set .empty ⟨.str "subject".toList, .str "subject".toList, v⟩)
        ⟨.str "done".toList, .str "done".toList, w⟩)) := rfl

theorem gives_space {x : Text} (hspace : Gives (readName scope "namespace".toList) g s (.builtin .namespace) s)
    (hx : Gives (readName scope x) g s v s) :
    Gives (Run.eval scope (spaceOf x)) g s (.ref s.cells.size) (s.new (.namespace (spaceTable v false))).2 := by
  have heval : Run.eval scope (spaceOf x) = readName scope "namespace".toList >>= fun f =>
      readName scope x >>= fun v =>
        passed [] [] [("subject".toList, v), ("done".toList, .bool false)] none >>= call f := by
    simp only [spaceOf, Run.eval, evalAll, evalNamed, evalSome, restItems, written, pure_bind, bind_assoc]
    rfl
  rw [heval]
  refine hspace.bind (hx.bind ?_)
  rw [passed_space, pure_bind, call_space, set_empty]
  rfl

theorem gives_subject (h : s.find? a = some (.namespace (spaceTable v done))) :
    Gives (getAttribute (.ref a) "subject".toList) g s v s := by
  have hfound : Gives (attribute? (.ref a) "subject".toList) g s (some v) s := by
    refine (gives_cell? a).bind ?_
    rw [h]
    rfl
  exact hfound.bind (gives_pure v)

theorem gives_done (h : s.find? a = some (.namespace (spaceTable v done))) :
    Gives (getAttribute (.ref a) "done".toList) g s (.bool done) s := by
  have hfound : Gives (attribute? (.ref a) "done".toList) g s (some (.bool done)) s := by
    refine (gives_cell? a).bind ?_
    rw [h]
    rfl
  exact hfound.bind (gives_pure _)

-- The mark of a branch that is taken.
theorem gives_marking (hname : Gives (readName scope switchName) g s (.ref a) s)
    (h : s.find? a = some (.namespace (spaceTable v done))) :
    Gives (exec scope marking) g s [] (s.update a (.namespace (spaceTable v true))) := by
  have hcheck : Gives (checkSpaces scope [switchName]) g s () s := by
    refine hname.bind ((gives_cell? a).bind ?_)
    rw [h]
    exact (gives_pure true).bind (gives_pure ())
  have hset : Gives (setAttribute (.ref a) "done".toList (.bool true)) g s ()
      (s.update a (.namespace (spaceTable v true))) := by
    refine (gives_cell? a).bind ?_
    rw [h]
    change Gives (withEntry (spaceTable v done) (.str "done".toList) (.bool true) >>= fun t =>
      update a (.namespace t)) g s () _
    rw [withEntry_str, set_done, pure_bind]
    exact gives_update a _
  exact hcheck.bind ((gives_pure (Value.bool true)).bind ((hname.bind hset).bind (gives_pure _)))

end Space

theorem same_int (i j : Int) : Scalar.same (.int i) (.int j) = (i == j) := by
  simp [Scalar.same, Scalar.onLine, Scalar.number?, Scalar.Number.compare?]

section Same

variable {env : Environment} {g : Setting} {s : Store}

-- What a name stands for is compared with a number, and with what another name stands for.
theorem meets_same_int (x : Text) (j : Int) :
    Meets (same (countOf env x) (.int j)) g s (do let i ← env.number x; .ok (i == j))
      fun b c s' => b = c ∧ s' = s := by
  unfold countOf Environment.number
  cases env.int? x with
  | none => exact meets_fail _
  | some i =>
      have hsame : same (.int i) (.int j) = pure (Scalar.same (.int i) (.int j)) := rfl
      change Meets (same (.int i) (.int j)) g s (.ok (i == j)) _
      rw [hsame, same_int]
      exact (gives_pure _).meets ⟨rfl, rfl⟩

theorem meets_same (x y : Text) :
    Meets (same (countOf env x) (countOf env y)) g s
      (do let i ← env.number x; let j ← env.number y; .ok (i == j)) fun b c s' => b = c ∧ s' = s := by
  cases hy : env.int? y with
  | some j =>
      have hcount : countOf env y = .int j := by rw [countOf, hy]; rfl
      have hnumber : env.number y = .ok j := by rw [Environment.number, hy]
      rw [hcount, hnumber]
      exact meets_same_int x j
  | none =>
      unfold countOf Environment.number
      rw [hy]
      cases env.int? x <;> exact meets_fail _

end Same

end Run

end Host

end BraceTemplate

import BraceTemplate.Proofs.Switch.Read
import BraceTemplate.Proofs.Tree.Limits

namespace BraceTemplate

open Host

namespace Host.Run

section Stays

variable {soft : Bool} {ns body : List Node}

theorem Stays.assign (h : Stays soft ns) {target : Target} {value : Expr}
    (hvalue : Run.ready soft value = pure value) : Stays soft (.assign target value :: ns) := by
  intro row hrow
  simp only [readyNodes, readyNode, readyOutputs_reverse soft hrow, hvalue, h.ready, pure_bind]

theorem Stays.scope (h : Stays soft ns) {target : Target} {value : Expr}
    (hvalue : Run.ready soft value = pure value) (hb : Stays false body) :
    Stays soft (.scope [(target, value)] body :: ns) := by
  intro row hrow
  simp only [readyNodes, readyNode, readyBindings, readyOutputs_reverse soft hrow, hvalue, hb.ready,
    h.ready, pure_bind]

end Stays

-- The test of a branch is ready as it is: its names have no value yet, and its number can be written.
theorem ready_test {label : Label} (hshort : label.isShort = true) :
    ready true label.test = pure label.test := by
  cases label with
  | default => rfl
  | number n =>
      have hwritable : (Scalar.int n).writable = true := hasNumeral_of_length_le (of_decide_eq_true hshort)
      have hlegible : legible (.int n) = pure () := by simp only [legible, hwritable, if_true]
      have hchecked : checked true (Label.number n).test = pure (Label.number n).test := by
        simp only [Label.test, Label.value?, denied, subjectIs, Option.map_some, Option.getD_some, checked,
          checkedOperands, hlegible, pure_bind]
      have hready : ready true (Label.number n).test =
        pure (Label.number n).test >>= checked true := rfl
      rw [hready, pure_bind, hchecked]
  | named y => rfl

theorem ready_space (soft : Bool) (x : Text) : ready soft (spaceOf x) = pure (spaceOf x) := rfl

end Host.Run

open Host.Run

section Nodes

variable {soft : Bool} {body rest : List Node}

theorem Label.stays_node {label : Label} (hshort : label.isShort = true) (hbody : Stays true body)
    (hrest : Stays soft rest) : Stays soft (label.node body :: rest) := by
  have hmark : Stays true (marking :: body) := hbody.assign rfl
  refine hrest.conditional ?_ stays_nil
  simp only [readyBranches, ready_test hshort, hmark.ready, pure_bind]

theorem Switch.stays_node (x : Text) (hbody : Stays false body) (hrest : Stays soft rest) :
    Stays soft (Switch.node x body :: rest) :=
  hrest.scope (ready_space soft x) hbody

end Nodes

section Uses

variable {body : List Node}

theorem names_test (label : Label) : label.test.names ⊆ switchName :: label.names := by
  cases label <;> simp [Label.test, Label.value?, denied, subjectIs, Expr.names, namesOfOperands, Label.names]

theorem names_space (x : Text) : (spaceOf x).names = ["namespace".toList, x] := by
  simp [spaceOf, Expr.names, namesOfAll, namesOfNamed, namesOfSome]

-- A name that branches with some names use: one of those, or one that keeps the state.
def Uses (names : List Text) (x : Text) : Prop :=
  x = switchName ∨ x = "namespace".toList ∨ x ∈ names

theorem Uses.subset {names names' : List Text} {x : Text} (h : Uses names x) (hsub : names ⊆ names') :
    Uses names' x :=
  h.imp_right (.imp_right (hsub ·))

theorem Label.uses_node {label : Label} : ∀ u ∈ (label.node body).uses,
    Uses label.names u.1 ∨ u ∈ usesOfNodes body := by
  intro u hu
  simp only [Label.node, Node.uses, usesOfBranches, usesOfNodes, marking, loads, usesOf, Target.names,
    Expr.names, List.map_nil, List.nil_append, List.append_nil, List.mem_append, List.mem_map] at hu
  rcases hu with ⟨x, hx, rfl⟩ | hu
  · exact .inl ((List.mem_cons.mp (names_test label hx)).imp_right .inr)
  · exact .inr hu

theorem Switch.uses_node {x : Text} : ∀ u ∈ (Switch.node x body).uses,
    Uses [x] u.1 ∨ u ∈ usesOfNodes body := by
  intro u hu
  simp only [Switch.node, Node.uses, usesOf, loads, names_space, Target.names, List.flatMap_cons,
    List.flatMap_nil, List.append_nil, List.map_cons, List.map_nil, List.mem_append, List.mem_cons,
    List.not_mem_nil, or_false] at hu
  rcases hu with (rfl | rfl | rfl) | hu
  · exact .inl (.inl rfl)
  · exact .inl (.inr (.inl rfl))
  · exact .inl (.inr (.inr List.mem_cons_self))
  · exact .inr hu

-- All the names that branches use.
theorem Cases.uses_nodes (c : Cases) : ∀ u ∈ usesOfNodes c.nodes, Uses c.names u.1 := by
  induction c with
  | done => simp [nodes, usesOfNodes]
  | text label s gap rest ih =>
      intro u hu
      have htext : usesOfNodes (dataNodes s) = [] := by
        unfold dataNodes
        split <;> rfl
      rw [nodes, usesOfNodes, List.mem_append] at hu
      rcases hu with hu | hu
      · rcases Label.uses_node u hu with hu | hu
        · exact hu.subset (by simp [names])
        · exact absurd (htext ▸ hu) List.not_mem_nil
      · exact (ih u hu).subset (by simp [names])
  | switch label before x first inner after gap rest ihinner ih =>
      intro u hu
      rw [nodes, usesOfNodes, List.mem_append] at hu
      rcases hu with hu | hu
      · rcases Label.uses_node u hu with hu | hu
        · exact hu.subset (by simp [names])
        · rw [usesOfNodes, usesOfNodes, List.append_nil] at hu
          rcases Switch.uses_node u hu with hu | hu
          · exact hu.subset (by simp [names])
          · exact (ihinner u hu).subset fun y hy => by simp [names, hy]
      · exact (ih u hu).subset fun y hy => by simp [names, hy]

end Uses

-- The names under which a switch keeps its state differ.
theorem misfits_space (x : Text) : (spaceOf x).misfits = false := by
  have hnames : repeats (["subject".toList, "done".toList].map compatible) = false := by decide
  simp only [spaceOf, Expr.misfits, misfitsInAll, misfitsInNamed, misfitsInSome, List.map_cons, List.map_nil,
    repeatsNames]
  rw [← List.map_nil (f := compatible), ← List.map_cons, ← List.map_cons, hnames]
  simp

namespace Cases

theorem stays_nodes (c : Cases) (hshort : c.isShort = true) (soft : Bool) : Stays soft c.nodes := by
  induction c generalizing soft with
  | done => exact stays_nil
  | text label s gap rest ih =>
      simp only [isShort, Bool.and_eq_true] at hshort
      have htext : Stays true (dataNodes s) := by simpa using stays_nil.data s
      exact Label.stays_node hshort.1 htext (ih hshort.2 soft)
  | switch label before x first inner after gap rest ihinner ih =>
      simp only [isShort, Bool.and_eq_true] at hshort
      obtain ⟨⟨hl, hinner⟩, hrest⟩ := hshort
      exact Label.stays_node hl (Switch.stays_node x (ihinner hinner false) stays_nil) (ih hrest soft)

theorem misfits_nodes (c : Cases) : misfitsInNodes c.nodes = false := by
  have htest : ∀ label : Label, label.test.misfits = false := fun label => by cases label <;> rfl
  induction c with
  | done => rfl
  | text label s gap rest ih =>
      have htext : misfitsInNodes (dataNodes s) = false := by simpa [misfitsInNodes] using misfits_data s []
      simp only [nodes, Label.node, misfitsInNodes, Node.misfits, misfitsInBranches, marking, Expr.misfits,
        htest, htext, ih, Bool.or_false]
  | switch label before x first inner after gap rest ihinner ih =>
      simp only [nodes, Label.node, Switch.node, misfitsInNodes, Node.misfits, misfitsInBranches, marking,
        Expr.misfits, htest, List.any_cons, List.any_nil, misfits_space, ihinner, ih, Bool.or_false]

-- A measure of expressions that keeps within a bound on what branches and switches are made of.
structure Bounded (depth : Expr → Nat) (bound : Nat) : Prop where
  test (label : Label) : depth label.test ≤ bound
  space (x : Text) : depth (spaceOf x) ≤ bound
  mark : depth (.literal (.bool true)) ≤ bound

theorem reach_nodes {depth : Expr → Nat} {bound : Nat} (h : Bounded depth bound) (c : Cases) :
    reachOfNodes depth c.nodes ≤ bound := by
  induction c with
  | done => exact Nat.zero_le _
  | text label s gap rest ih =>
      have htext : reachOfNodes depth (dataNodes s) = 0 := by simpa [reachOfNodes] using reach_data s [] depth
      have htest := h.test label
      have hmark := h.mark
      simp only [nodes, Label.node, reachOfNodes, Node.reach, reachOfBranches, marking, htext]
      omega
  | switch label before x first inner after gap rest ihinner ih =>
      have htest := h.test label
      have hmark := h.mark
      have hspace := h.space x
      simp only [nodes, Label.node, Switch.node, reachOfNodes, Node.reach, reachOfBranches, reachOfAll,
        marking, List.map_cons, List.map_nil]
      omega

theorem bounded_depth : Bounded Expr.depth 5 where
  test label := by cases label <;> exact Nat.le_of_ble_eq_true rfl
  space x := Nat.le_of_ble_eq_true rfl
  mark := by decide

theorem bounded_brackets : Bounded Expr.brackets 6 where
  test label := by cases label <;> exact Nat.le_of_ble_eq_true rfl
  space x := Nat.le_of_ble_eq_true rfl
  mark := by decide

theorem loopDepth_nodes (c : Cases) : loopDepthOfAll c.nodes = 0 := by
  induction c with
  | done => rfl
  | text label s gap rest ih =>
      have htext : loopDepthOfAll (dataNodes s) = 0 := by simpa [loopDepthOfAll] using loopDepth_data s []
      simp only [nodes, Label.node, loopDepthOfAll, Node.loopDepth, loopDepthOfBranches, marking, htext, ih,
        max_self]
  | switch label before x first inner after gap rest ihinner ih =>
      simp only [nodes, Label.node, Switch.node, loopDepthOfAll, Node.loopDepth, loopDepthOfBranches, marking,
        ihinner, ih, max_self]

theorem blockDepth_nodes (c : Cases) : blockDepthOfAll c.nodes = c.depth := by
  induction c with
  | done => rfl
  | text label s gap rest ih =>
      have htext : blockDepthOfAll (dataNodes s) = 0 := by simpa [blockDepthOfAll] using blockDepth_data s []
      simp [nodes, Label.node, blockDepthOfAll, Node.blockDepth, blockDepthOfBranches, marking, htext, ih,
        depth]
  | switch label before x first inner after gap rest ihinner ih =>
      simp [nodes, Label.node, Switch.node, blockDepthOfAll, Node.blockDepth, blockDepthOfBranches, marking,
        ihinner, ih, depth]

theorem nesting_nodes (c : Cases) : nestingOfAll c.nodes ≤ c.depth + 1 := by
  induction c with
  | done => exact Nat.zero_le _
  | text label s gap rest ih =>
      have htext : nestingOfAll (dataNodes s) ≤ 1 := by
        have h := nesting_data s []
        rw [List.append_nil] at h
        rw [h, nestingOfAll]
        split <;> decide
      simp only [nodes, Label.node, nestingOfAll, Node.nesting, nestingOfBranches, marking, depth,
        List.length_singleton]
      omega
  | switch label before x first inner after gap rest ihinner ih =>
      simp only [nodes, Label.node, Switch.node, nestingOfAll, Node.nesting, nestingOfBranches, marking, depth,
        List.length_singleton]
      omega

end Cases

-- What the host makes of the text that a switch is compiled into, where there is room to read it, hangs on
-- how deep its branches stand within one another.
theorem Switch.ofText_host {w : Switch} (hw : w.isValid = true) (hshort : w.branches.isShort = true)
    (hroom : Reader.callCost + Reader.bracketCost + Reader.statementCost * (2 * w.branches.depth + 1) ≤
      templateRoom) :
    Template.ofText w.host =
      if maxBlockDepth < w.branches.depth then .error .tooDeepBlocks
      else .ok ⟨[Switch.node w.subject w.branches.nodes]⟩ := by
  have hreach : ∀ {depth : Expr → Nat} {bound : Nat}, Cases.Bounded depth bound →
      reachOfNodes depth [Switch.node w.subject w.branches.nodes] ≤ bound := fun h => by
    have hspace := h.space w.subject
    have hinner := w.branches.reach_nodes h
    simp only [Switch.node, reachOfNodes, Node.reach, reachOfAll, List.map_cons, List.map_nil]
    omega
  have hdepth := hreach Cases.bounded_depth
  have hbrackets := hreach Cases.bounded_brackets
  have hmisfits : misfitsInNodes [Switch.node w.subject w.branches.nodes] = false := by
    simp only [Switch.node, misfitsInNodes, Node.misfits, List.any_cons, List.any_nil, misfits_space,
      w.branches.misfits_nodes, Bool.or_false]
  have hstays : Stays false [Switch.node w.subject w.branches.nodes] :=
    Switch.stays_node w.subject (w.branches.stays_nodes hshort false) stays_nil
  have hprepare : Host.prepare [Switch.node w.subject w.branches.nodes] =
      .ok [Switch.node w.subject w.branches.nodes] := by
    rw [Host.prepare, hstays.ready]
    rfl
  have hblocks : blockDepthOfAll [Switch.node w.subject w.branches.nodes] = w.branches.depth := by
    simp [Switch.node, blockDepthOfAll, Node.blockDepth, w.branches.blockDepth_nodes]
  have hnesting : nestingOfAll [Switch.node w.subject w.branches.nodes] ≤ w.branches.depth + 1 := by
    simpa [Switch.node, nestingOfAll, Node.nesting] using w.branches.nesting_nodes
  have hloops : loopDepthOfAll [Switch.node w.subject w.branches.nodes] = 0 := by
    simp [Switch.node, loopDepthOfAll, Node.loopDepth, w.branches.loopDepth_nodes]
  rw [Template.ofText_eq (Switch.nodesOfText_host hw hshort hroom) (hdepth.trans (by decide)) hprepare hmisfits
    (hbrackets.trans (by decide)), hblocks, hloops]
  split
  · rfl
  · have hlow : ¬maxNesting < nestingOfAll [Switch.node w.subject w.branches.nodes] := by
      simp only [maxNesting, maxBlockDepth] at *
      omega
    rw [if_neg hlow, if_neg (by decide)]

end BraceTemplate

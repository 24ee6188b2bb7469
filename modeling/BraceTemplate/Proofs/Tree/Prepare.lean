import BraceTemplate.Host.Template
import BraceTemplate.Proofs.Tree.Read

namespace BraceTemplate

namespace Host.Run

section Filters

theorem filter?_values : filter? "values".toList = some fun v p => bare p (values v) := rfl

theorem filter?_pairs : filter? "pairs".toList = some fun v p => bare p (pairs v) := rfl

theorem known_source (binder : Binder) : (filter? (Lexeme.source binder).toList).isSome = true := by
  cases binder with
  | value v => exact congrArg Option.isSome filter?_values
  | pair k v => exact congrArg Option.isSome filter?_pairs

end Filters

section Ready

variable {w : String} (hw : (filter? w.toList).isSome = true) (soft : Bool) (x : Text)

include hw

-- A name has no value before the data is there.
theorem constant_filteredName : (constant (filteredName x w)).run = pure none := by
  obtain ⟨f, hf⟩ := Option.isSome_iff_exists.mp hw
  simp only [filteredName, constant, closedFilter, hf]
  split <;> rfl

theorem simplified_filteredName : simplified (filteredName x w) = pure (filteredName x w) := by
  have h : simplified (filteredName x w) = folded (filteredName x w) := rfl
  rw [h, folded, constant_filteredName hw, pure_bind]

theorem checked_filteredName : checked soft (filteredName x w) = pure (filteredName x w) := by
  simp only [filteredName, checked, Option.isNone_eq_false_iff.mpr hw, Bool.false_and,
    Bool.false_eq_true, if_false]
  rfl

theorem ready_filteredName : ready soft (filteredName x w) = pure (filteredName x w) := by
  have h : ready soft (filteredName x w) =
      if maxReadyDepth < (filteredName x w).depth then fail .tooDeep
      else simplified (filteredName x w) >>= checked soft := rfl
  have hdepth : (filteredName x w).depth = 2 := rfl
  rw [h, hdepth, if_neg (by decide), simplified_filteredName hw, pure_bind, checked_filteredName hw]

theorem constantOutput_filteredName :
    constantOutput (filteredName x w) = pure (.output (filteredName x w)) := by
  rw [constantOutput, constant_filteredName hw, pure_bind]

omit hw in
theorem ready_name : ready soft (.name x) = pure (.name x) := rfl

end Ready

-- What is put out in a row: texts, and names to which a known filter is applied.
def Outputs (row : List Node) : Prop :=
  ∀ n ∈ row, (∃ s, n = .text s) ∨
    ∃ x w, (filter? (String.toList w)).isSome = true ∧ n = .output (filteredName x w)

theorem Outputs.text {row : List Node} (h : Outputs row) (s : Text) : Outputs (.text s :: row) :=
  fun n hn => (List.mem_cons.mp hn).elim (fun hn => .inl ⟨s, hn⟩) (h n)

theorem Outputs.output {row : List Node} (h : Outputs row) {w : String}
    (hw : (filter? w.toList).isSome = true) (x : Text) : Outputs (.output (filteredName x w) :: row) :=
  fun n hn => (List.mem_cons.mp hn).elim (fun hn => .inr ⟨x, w, hw, hn⟩) (h n)

theorem readyOutputs_eq_pure (soft : Bool) {row : List Node} (h : Outputs row) :
    readyOutputs soft row = pure row := by
  induction row with
  | nil => rfl
  | cons n rest ih =>
      have hrest : readyOutputs soft rest = pure rest :=
        ih fun m hm => h m (List.mem_cons_of_mem n hm)
      obtain ⟨s, rfl⟩ | ⟨x, w, hw, rfl⟩ := h n List.mem_cons_self
      · simp only [readyOutputs, hrest, pure_bind]
      · simp only [readyOutputs, ready_filteredName hw, hrest, pure_bind]

-- Nodes that are ready to run as they are, whatever is put out in a row before them.
def Stays (soft : Bool) (ns : List Node) : Prop :=
  ∀ row, Outputs row → readyNodes soft row ns = pure (row.reverse ++ ns)

section Stays

variable {soft : Bool} {ns : List Node}

theorem readyOutputs_reverse (soft : Bool) {row : List Node} (h : Outputs row) :
    readyOutputs soft row.reverse = pure row.reverse :=
  readyOutputs_eq_pure soft fun n hn => h n (List.mem_reverse.mp hn)

theorem stays_nil : Stays soft [] := fun row hrow => by
  rw [readyNodes, readyOutputs_reverse soft hrow, List.append_nil]

theorem Stays.ready (h : Stays soft ns) : readyNodes soft [] ns = pure ns :=
  h [] fun _ hn => absurd hn List.not_mem_nil

theorem Stays.data (h : Stays soft ns) (before : Text) : Stays soft (dataNodes before ++ ns) := by
  unfold dataNodes
  split
  · exact h
  · intro row hrow
    rw [List.singleton_append, readyNodes, h _ (hrow.text before)]
    simp

theorem Stays.output (h : Stays soft ns) {w : String} (hw : (filter? w.toList).isSome = true)
    (x : Text) : Stays soft (.output (filteredName x w) :: ns) := by
  intro row hrow
  rw [readyNodes, constantOutput_filteredName hw, pure_bind, h _ (hrow.output hw x)]
  simp

theorem Stays.conditional (h : Stays soft ns) {branches : List (Expr × List Node)}
    {otherwise : List Node} (hb : readyBranches branches = pure branches)
    (ho : Stays true otherwise) : Stays soft (.conditional branches otherwise :: ns) := by
  intro row hrow
  simp only [readyNodes, readyNode, readyOutputs_reverse soft hrow, hb, ho.ready, h.ready, pure_bind]

theorem Stays.loop (h : Stays soft ns) {target : Target} {x : Text} {w : String} {body : List Node}
    (hw : (filter? w.toList).isSome = true) (hb : Stays false body)
    (hname : (loopName, Use.store) ∉ (Node.loop target (filteredName x w) none body []).uses) :
    Stays soft (.loop target (filteredName x w) none body [] :: ns) := by
  intro row hrow
  have hcheck : checkLoopName (.loop target (filteredName x w) none body []) = pure () := by
    rw [checkLoopName, if_neg (by simpa using hname)]
  have hnode : readyNode soft (.loop target (filteredName x w) none body []) =
      pure (.loop target (filteredName x w) none body []) := by
    simp only [readyNode, readySome, hcheck, ready_filteredName hw, hb.ready, stays_nil.ready,
      pure_bind]
  simp only [readyNodes, readyOutputs_reverse soft hrow, hnode, h.ready, pure_bind]

end Stays

end Host.Run

open Host

section Uses

-- All names in some nodes are variables.
def Names (ns : List Node) : Prop :=
  ∀ u ∈ usesOfNodes ns, isVariable u.1 = true

theorem names_nil : Names [] := by simp [Names, usesOfNodes]

theorem Names.data {ns : List Node} (h : Names ns) (before : Text) :
    Names (dataNodes before ++ ns) := by
  unfold dataNodes
  split
  · exact h
  · simpa [Names, usesOfNodes, Node.uses] using h

theorem Names.cons {n : Node} {ns : List Node} (hn : ∀ u ∈ n.uses, isVariable u.1 = true)
    (h : Names ns) : Names (n :: ns) := by
  intro u hu
  rw [usesOfNodes] at hu
  exact (List.mem_append.mp hu).elim (hn u) (h u)

theorem isVariable_of_mem_loads {x : Text} (hx : isVariable x = true) {w : String} :
    ∀ u ∈ loads (filteredName x w), isVariable u.1 = true := by
  simpa [loads, usesOf, filteredName, Expr.names, namesOfAll, namesOfNamed, namesOfSome] using hx

theorem isVariable_of_mem_target {binder : Binder} (hb : binder.isValid = true) :
    ∀ y ∈ (targetOf binder).names, isVariable y = true := by
  cases binder with
  | value v => simpa [targetOf, Target.names, Binder.isValid] using hb
  | pair k v =>
      simp only [Binder.isValid, Bool.and_eq_true] at hb
      simpa [targetOf, Target.names, targetNames] using hb.1

theorem isVariable_of_mem_loop {x : Text} (hx : isVariable x = true) {w : String} {binder : Binder}
    (hb : binder.isValid = true) {body : List Node} (h : Names body) :
    ∀ u ∈ (Node.loop (targetOf binder) (filteredName x w) none body []).uses,
      isVariable u.1 = true := by
  intro u hu
  simp only [Node.uses, usesOfNodes, namesOfSome, usesOf, List.map_nil, List.append_nil,
    List.mem_append, List.mem_map] at hu
  obtain (⟨y, hy, rfl⟩ | hu) | hu := hu
  · exact isVariable_of_mem_target hb y hy
  · exact isVariable_of_mem_loads hx u hu
  · exact h u hu

mutual

theorem Tree.names_nodes (t : Tree) (ht : t.isValid = true) (before : Text) :
    Names (t.nodes before) := by
  cases t with
  | done => simpa [Tree.nodes] using names_nil.data before
  | chunk s rest =>
      simp only [Tree.isValid, Bool.and_eq_true] at ht
      exact rest.names_nodes ht.2 _
  | output x rest =>
      simp only [Tree.isValid, Bool.and_eq_true] at ht
      have hrest := rest.names_nodes ht.2 []
      exact (Names.cons (n := .output _) (isVariable_of_mem_loads ht.1) hrest).data before
  | choose x body more rest =>
      simp only [Tree.isValid, Bool.and_eq_true] at ht
      obtain ⟨⟨⟨hx, hbody⟩, hmore⟩, hrest⟩ := ht
      refine (Names.cons (fun u hu => ?_) (rest.names_nodes hrest [])).data before
      simp only [Node.uses, usesOfBranches, loads, Expr.names, usesOf, List.map_cons, List.map_nil,
        List.mem_append, List.mem_singleton] at hu
      obtain ((rfl | hu) | hu) | hu := hu
      · exact hx
      · exact body.names_nodes hbody [] u hu
      · exact more.names_tests hmore u hu
      · exact more.names_fallback hmore u hu
  | each x binder body rest =>
      simp only [Tree.isValid, Bool.and_eq_true] at ht
      obtain ⟨⟨⟨hx, hbinder⟩, hbody⟩, hrest⟩ := ht
      have hloop := isVariable_of_mem_loop (w := Lexeme.source binder) hx hbinder
        (body.names_nodes hbody [])
      exact (Names.cons hloop (rest.names_nodes hrest [])).data before

theorem Branches.names_tests (b : Branches) (hb : b.isValid = true) :
    ∀ u ∈ usesOfBranches b.tests, isVariable u.1 = true := by
  cases b with
  | done => simp [Branches.tests, usesOfBranches]
  | otherwise body => simp [Branches.tests, usesOfBranches]
  | elseif x body more =>
      simp only [Branches.isValid, Bool.and_eq_true] at hb
      obtain ⟨⟨hx, hbody⟩, hmore⟩ := hb
      intro u hu
      simp only [Branches.tests, usesOfBranches, loads, Expr.names, usesOf, List.map_cons,
        List.map_nil, List.mem_append, List.mem_singleton] at hu
      obtain (rfl | hu) | hu := hu
      · exact hx
      · exact body.names_nodes hbody [] u hu
      · exact more.names_tests hmore u hu

theorem Branches.names_fallback (b : Branches) (hb : b.isValid = true) : Names b.fallback := by
  cases b with
  | done => exact names_nil
  | otherwise body => exact body.names_nodes hb []
  | elseif x body more =>
      simp only [Branches.isValid, Bool.and_eq_true] at hb
      exact more.names_fallback hb.2

end

theorem Names.not_mem_of_taken {ns : List Node} (h : Names ns) {w : Text} (hw : w ∈ takenNames)
    (use : Use) : (w, use) ∉ usesOfNodes ns := fun hm =>
  not_taken_of_variable (h _ hm) hw

theorem readsFirst_eq_false {ns : List Node} {w : Text} (h : ∀ u ∈ usesOfNodes ns, u.1 ≠ w) :
    readsFirst w ns = false := by
  have hnone : (usesOfNodes ns).find? (·.1 == w) = none := by
    rw [List.find?_eq_none]
    exact fun u hu he => h u hu (by simpa using he)
  rw [readsFirst, hnone]

theorem Names.readsFirst_taken {ns : List Node} (h : Names ns) {w : Text} (hw : w ∈ takenNames) :
    readsFirst w ns = false := by
  refine readsFirst_eq_false ?_
  rintro ⟨y, use⟩ hy rfl
  exact h.not_mem_of_taken hw use hy

end Uses

mutual

theorem Tree.stays_nodes (t : Tree) (ht : t.isValid = true) (soft : Bool) (before : Text) :
    Run.Stays soft (t.nodes before) := by
  cases t with
  | done => simpa [Tree.nodes] using Run.stays_nil.data before
  | chunk s rest =>
      simp only [Tree.isValid, Bool.and_eq_true] at ht
      exact rest.stays_nodes ht.2 soft _
  | output x rest =>
      simp only [Tree.isValid, Bool.and_eq_true] at ht
      exact ((rest.stays_nodes ht.2 soft []).output (w := "e") rfl x).data before
  | choose x body more rest =>
      simp only [Tree.isValid, Bool.and_eq_true] at ht
      obtain ⟨⟨⟨hx, hbody⟩, hmore⟩, hrest⟩ := ht
      have hbranches : Run.readyBranches ((.name x, body.nodes []) :: more.tests) =
          pure ((.name x, body.nodes []) :: more.tests) := by
        simp only [Run.readyBranches, Run.ready_name, (body.stays_nodes hbody true []).ready,
          more.readyBranches_tests hmore, pure_bind]
      exact ((rest.stays_nodes hrest soft []).conditional hbranches
        (more.stays_fallback hmore)).data before
  | each x binder body rest =>
      simp only [Tree.isValid, Bool.and_eq_true] at ht
      obtain ⟨⟨⟨hx, hbinder⟩, hbody⟩, hrest⟩ := ht
      have hloop := isVariable_of_mem_loop (w := Lexeme.source binder) hx hbinder
        (body.names_nodes hbody [])
      exact ((rest.stays_nodes hrest soft []).loop (Run.known_source binder)
        (body.stays_nodes hbody false [])
        fun hm => not_taken_of_variable (hloop _ hm) (by decide)).data before

theorem Branches.readyBranches_tests (b : Branches) (hb : b.isValid = true) :
    Run.readyBranches b.tests = pure b.tests := by
  cases b with
  | done => rfl
  | otherwise body => rfl
  | elseif x body more =>
      simp only [Branches.isValid, Bool.and_eq_true] at hb
      obtain ⟨⟨hx, hbody⟩, hmore⟩ := hb
      simp only [Branches.tests, Run.readyBranches, Run.ready_name,
        (body.stays_nodes hbody true []).ready, more.readyBranches_tests hmore, pure_bind]

theorem Branches.stays_fallback (b : Branches) (hb : b.isValid = true) :
    Run.Stays true b.fallback := by
  cases b with
  | done => exact Run.stays_nil
  | otherwise body => exact body.stays_nodes hb true []
  | elseif x body more =>
      simp only [Branches.isValid, Bool.and_eq_true] at hb
      exact more.stays_fallback hb.2

end

-- The nodes of a tree are ready to run as they are.
theorem Tree.prepare_nodes {t : Tree} (ht : t.isValid = true) :
    Host.prepare (t.nodes []) = .ok (t.nodes []) := by
  rw [Host.prepare, (t.stays_nodes ht false []).ready]
  rfl

end BraceTemplate

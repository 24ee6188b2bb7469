import BraceTemplate.Proofs.Tree.Prepare

namespace BraceTemplate

open Host

section Data

variable (s : Text) (ns : List Node)

theorem misfits_data : misfitsInNodes (dataNodes s ++ ns) = misfitsInNodes ns := by
  unfold dataNodes
  split <;> rfl

theorem reach_data (depth : Expr → Nat) :
    reachOfNodes depth (dataNodes s ++ ns) = reachOfNodes depth ns := by
  unfold dataNodes
  split <;> simp [reachOfNodes, Node.reach]

theorem loopDepth_data : loopDepthOfAll (dataNodes s ++ ns) = loopDepthOfAll ns := by
  unfold dataNodes
  split <;> simp [loopDepthOfAll, Node.loopDepth]

theorem blockDepth_data : blockDepthOfAll (dataNodes s ++ ns) = blockDepthOfAll ns := by
  unfold dataNodes
  split <;> simp [blockDepthOfAll, Node.blockDepth]

theorem nesting_data :
    nestingOfAll (dataNodes s ++ ns) = max (if s.isEmpty then 0 else 1) (nestingOfAll ns) := by
  unfold dataNodes
  split <;> simp [nestingOfAll, Node.nesting]

end Data

mutual

theorem Tree.misfits_nodes (t : Tree) (before : Text) : misfitsInNodes (t.nodes before) = false := by
  cases t with
  | done => simpa [Tree.nodes, misfitsInNodes] using misfits_data before []
  | chunk s rest => exact rest.misfits_nodes _
  | output x rest =>
      rw [Tree.nodes, misfits_data, misfitsInNodes, rest.misfits_nodes []]
      rfl
  | choose x body more rest =>
      rw [Tree.nodes, misfits_data]
      simp only [misfitsInNodes, Node.misfits, misfitsInBranches, Expr.misfits,
        body.misfits_nodes [], more.misfits_tests, more.misfits_fallback, rest.misfits_nodes [],
        Bool.or_false]
  | each x binder body rest =>
      have hitems : (filteredName x (Lexeme.source binder)).misfits = false := rfl
      rw [Tree.nodes, misfits_data]
      simp only [misfitsInNodes, Node.misfits, misfitsInSome, hitems, body.misfits_nodes [],
        rest.misfits_nodes [], Bool.or_false]

theorem Branches.misfits_tests (b : Branches) : misfitsInBranches b.tests = false := by
  cases b with
  | done => rfl
  | otherwise body => rfl
  | elseif x body more =>
      simp only [Branches.tests, misfitsInBranches, Expr.misfits, body.misfits_nodes [],
        more.misfits_tests, Bool.or_false]

theorem Branches.misfits_fallback (b : Branches) : misfitsInNodes b.fallback = false := by
  cases b with
  | done => rfl
  | otherwise body => exact body.misfits_nodes []
  | elseif x body more => exact more.misfits_fallback

end

-- A measure of expressions that keeps within a bound on names and on names to which a filter is applied.
structure Bounded (depth : Expr → Nat) (bound : Nat) : Prop where
  name (x : Text) : depth (.name x) ≤ bound
  filtered (x : Text) (w : String) : depth (filteredName x w) ≤ bound

mutual

theorem Tree.reach_nodes {depth : Expr → Nat} {bound : Nat} (h : Bounded depth bound) (t : Tree)
    (before : Text) : reachOfNodes depth (t.nodes before) ≤ bound := by
  cases t with
  | done =>
      rw [Tree.nodes, ← List.append_nil (dataNodes before), reach_data]
      exact Nat.zero_le _
  | chunk s rest => exact rest.reach_nodes h _
  | output x rest =>
      rw [Tree.nodes, reach_data]
      exact max_le (h.filtered x "e") (rest.reach_nodes h [])
  | choose x body more rest =>
      rw [Tree.nodes, reach_data]
      have hbranches := max_le (max_le (h.name x) (body.reach_nodes h [])) (more.reach_tests h)
      exact max_le (max_le hbranches (more.reach_fallback h)) (rest.reach_nodes h [])
  | each x binder body rest =>
      rw [Tree.nodes, reach_data]
      have hbody := max_le (body.reach_nodes h []) (Nat.zero_le bound)
      exact max_le (max_le (max_le (h.filtered x _) (Nat.zero_le _)) hbody) (rest.reach_nodes h [])

theorem Branches.reach_tests {depth : Expr → Nat} {bound : Nat} (h : Bounded depth bound)
    (b : Branches) : reachOfBranches depth b.tests ≤ bound := by
  cases b with
  | done => exact Nat.zero_le _
  | otherwise body => exact Nat.zero_le _
  | elseif x body more =>
      exact max_le (max_le (h.name x) (body.reach_nodes h [])) (more.reach_tests h)

theorem Branches.reach_fallback {depth : Expr → Nat} {bound : Nat} (h : Bounded depth bound)
    (b : Branches) : reachOfNodes depth b.fallback ≤ bound := by
  cases b with
  | done => exact Nat.zero_le _
  | otherwise body => exact body.reach_nodes h []
  | elseif x body more => exact more.reach_fallback h

end

theorem bounded_depth : Bounded Expr.depth 2 where
  name x := by simp [Expr.depth, Expr.height]
  filtered x w := Nat.le_refl _

theorem bounded_brackets : Bounded Expr.brackets 3 where
  name x := by simp [Expr.brackets, Expr.height, ownBrackets]
  filtered x w := Nat.le_refl _

mutual

theorem Tree.loopDepth_nodes (t : Tree) (before : Text) :
    loopDepthOfAll (t.nodes before) = t.loops := by
  cases t with
  | done => simpa [Tree.nodes, loopDepthOfAll, Tree.loops] using loopDepth_data before []
  | chunk s rest => exact rest.loopDepth_nodes _
  | output x rest =>
      rw [Tree.nodes, loopDepth_data, loopDepthOfAll, rest.loopDepth_nodes []]
      exact Nat.zero_max _
  | choose x body more rest =>
      rw [Tree.nodes, loopDepth_data]
      simp only [loopDepthOfAll, Node.loopDepth, loopDepthOfBranches, Tree.loops,
        body.loopDepth_nodes [], rest.loopDepth_nodes [], max_assoc, more.loopDepth_parts]
  | each x binder body rest =>
      rw [Tree.nodes, loopDepth_data]
      simp only [loopDepthOfAll, Node.loopDepth, Tree.loops, body.loopDepth_nodes [],
        rest.loopDepth_nodes [], Nat.max_zero]

theorem Branches.loopDepth_parts (b : Branches) :
    max (loopDepthOfBranches b.tests) (loopDepthOfAll b.fallback) = b.loops := by
  cases b with
  | done => rfl
  | otherwise body =>
      simp only [Branches.tests, Branches.fallback, loopDepthOfBranches, Branches.loops,
        body.loopDepth_nodes [], Nat.zero_max]
  | elseif x body more =>
      simp only [Branches.tests, Branches.fallback, loopDepthOfBranches, Branches.loops,
        body.loopDepth_nodes [], max_assoc, more.loopDepth_parts]

end

mutual

theorem Tree.blockDepth_nodes (t : Tree) (before : Text) :
    blockDepthOfAll (t.nodes before) = t.blocks := by
  cases t with
  | done => simpa [Tree.nodes, blockDepthOfAll, Tree.blocks] using blockDepth_data before []
  | chunk s rest => exact rest.blockDepth_nodes _
  | output x rest =>
      rw [Tree.nodes, blockDepth_data, blockDepthOfAll, rest.blockDepth_nodes []]
      exact Nat.zero_max _
  | choose x body more rest =>
      have hmore := more.blockDepth_parts
      rw [Tree.nodes, blockDepth_data]
      simp only [blockDepthOfAll, Node.blockDepth, blockDepthOfBranches, Tree.blocks,
        body.blockDepth_nodes [], rest.blockDepth_nodes []]
      omega
  | each x binder body rest =>
      rw [Tree.nodes, blockDepth_data]
      simp only [blockDepthOfAll, Node.blockDepth, Tree.blocks, Option.isSome_none,
        List.isEmpty_nil, Bool.false_eq_true, if_false, if_true, body.blockDepth_nodes [],
        rest.blockDepth_nodes [], Nat.max_zero]

-- A last branch that is empty takes no block, but the first branch always takes one.
theorem Branches.blockDepth_parts (b : Branches) :
    max 1 (max (blockDepthOfBranches b.tests)
      (if b.fallback.isEmpty then 0 else blockDepthOfAll b.fallback + 1)) = max 1 b.blocks := by
  cases b with
  | done => rfl
  | otherwise body =>
      have hbody := body.blockDepth_nodes []
      change max 1 (max 0 (if (body.nodes []).isEmpty then 0 else blockDepthOfAll (body.nodes []) + 1)) =
        max 1 (body.blocks + 1)
      split
      · next hempty =>
          rw [List.isEmpty_iff.mp hempty] at hbody
          rw [← hbody]
          rfl
      · omega
  | elseif x body more =>
      have hbody := body.blockDepth_nodes []
      have hmore := more.blockDepth_parts
      change max 1 (max (max (blockDepthOfAll (body.nodes []) + 1) (blockDepthOfBranches more.tests))
        (if more.fallback.isEmpty then 0 else blockDepthOfAll more.fallback + 1)) =
        max 1 (max (body.blocks + 1) more.blocks)
      omega

end

theorem Tag.ne_nil_of_chunk {s : Text} (hs : isChunk s = true) : s ≠ [] := by
  rintro rfl
  exact absurd hs (by decide)

mutual

theorem Tree.nesting_nodes (t : Tree) (ht : t.isValid = true) (before : Text) :
    nestingOfAll (t.nodes before) = max (if before.isEmpty then 0 else 1) t.nesting := by
  cases t with
  | done => simpa [Tree.nodes, nestingOfAll, Tree.nesting] using nesting_data before []
  | chunk s rest =>
      simp only [Tree.isValid, Bool.and_eq_true] at ht
      have hrest := rest.nesting_nodes ht.2 (before ++ s)
      have hne : (before ++ s).isEmpty = false := by simp [Tag.ne_nil_of_chunk ht.1]
      have hone : (if before.isEmpty then 0 else 1) ≤ 1 := by split <;> omega
      rw [hne, if_neg Bool.false_ne_true] at hrest
      rw [Tree.nodes, Tree.nesting, hrest]
      omega
  | output x rest =>
      simp only [Tree.isValid, Bool.and_eq_true] at ht
      have hrest := rest.nesting_nodes ht.2 []
      simp only [List.isEmpty_nil, if_true, Nat.zero_max] at hrest
      rw [Tree.nodes, nesting_data]
      simp only [nestingOfAll, Node.nesting, Tree.nesting, hrest]
  | choose x body more rest =>
      simp only [Tree.isValid, Bool.and_eq_true] at ht
      obtain ⟨⟨⟨-, hbody⟩, hmore⟩, hrest⟩ := ht
      have hbody := body.nesting_nodes hbody []
      have hrest := rest.nesting_nodes hrest []
      have hmore := more.nesting_parts hmore
      simp only [List.isEmpty_nil, if_true, Nat.zero_max] at hbody hrest
      rw [Tree.nodes, nesting_data]
      simp only [nestingOfAll, Node.nesting, nestingOfBranches, List.length_cons, Tree.nesting, hbody,
        hrest]
      omega
  | each x binder body rest =>
      simp only [Tree.isValid, Bool.and_eq_true] at ht
      obtain ⟨⟨-, hbody⟩, hrest⟩ := ht
      have hbody := body.nesting_nodes hbody []
      have hrest := rest.nesting_nodes hrest []
      simp only [List.isEmpty_nil, if_true, Nat.zero_max] at hbody hrest
      rw [Tree.nodes, nesting_data]
      simp only [nestingOfAll, Node.nesting, Tree.nesting, hbody, hrest, Nat.max_zero]

theorem Branches.nesting_parts (b : Branches) (hb : b.isValid = true) :
    max (nestingOfBranches b.tests) (b.tests.length + nestingOfAll b.fallback) = b.nesting := by
  cases b with
  | done => rfl
  | otherwise body =>
      have hbody := body.nesting_nodes hb []
      simp only [List.isEmpty_nil, if_true, Nat.zero_max] at hbody
      simp only [Branches.tests, Branches.fallback, nestingOfBranches, Branches.nesting,
        List.length_nil, hbody, Nat.zero_add, Nat.zero_max]
  | elseif x body more =>
      simp only [Branches.isValid, Bool.and_eq_true] at hb
      have hbody := body.nesting_nodes hb.1.2 []
      have hmore := more.nesting_parts hb.2
      simp only [List.isEmpty_nil, if_true, Nat.zero_max] at hbody
      simp only [Branches.tests, Branches.fallback, nestingOfBranches, Branches.nesting,
        List.length_cons, hbody]
      omega

end

-- Nodes that are ready to run as they are make a template where they do not stand too deep within one
-- another.
theorem Host.Template.ofText_prepared {s : Text} {ns : List Node} (hread : nodesOfText s = .ok ns)
    (hdepth : reachOfNodes Expr.depth ns ≤ maxNamedDepth) (hprepare : Host.prepare ns = .ok ns)
    (hmisfits : misfitsInNodes ns = false) :
    Template.ofText s =
      if maxBlockDepth < blockDepthOfAll ns then .error .tooDeepBlocks
      else if maxBrackets < reachOfNodes Expr.brackets ns then .error .misfit
      else if maxNesting < nestingOfAll ns then .error .tooDeep
      else if maxLoopDepth < loopDepthOfAll ns then .error .tooManyLoops
      else .ok ⟨ns⟩ := by
  rw [Template.ofText, hread]
  change (if maxNamedDepth < reachOfNodes Expr.depth ns then _ else _) = _
  rw [if_neg (Nat.not_lt.mpr hdepth), hprepare]
  change (if maxBlockDepth < blockDepthOfAll ns then _ else _) = _
  simp only [hmisfits, Bool.false_or, decide_eq_true_eq]

theorem Host.Template.ofText_tooDeep {s : Text} {ns : List Node} (hread : nodesOfText s = .ok ns)
    (hprepare : Host.prepare ns = .error .tooDeep) : Template.ofText s = .error .tooDeep := by
  rw [Template.ofText, hread]
  change (if maxNamedDepth < reachOfNodes Expr.depth ns then _ else _) = _
  rw [hprepare]
  split_ifs <;> rfl

theorem Host.Template.ofText_eq {s : Text} {ns : List Node} (hread : nodesOfText s = .ok ns)
    (hdepth : reachOfNodes Expr.depth ns ≤ maxNamedDepth) (hprepare : Host.prepare ns = .ok ns)
    (hmisfits : misfitsInNodes ns = false) (hbrackets : reachOfNodes Expr.brackets ns ≤ maxBrackets) :
    Template.ofText s =
      if maxBlockDepth < blockDepthOfAll ns then .error .tooDeepBlocks
      else if maxNesting < nestingOfAll ns then .error .tooDeep
      else if maxLoopDepth < loopDepthOfAll ns then .error .tooManyLoops
      else .ok ⟨ns⟩ := by
  rw [ofText_prepared hread hdepth hprepare hmisfits, if_neg (Nat.not_lt.mpr hbrackets)]

-- What the host makes of the text that a tree is compiled into, where there is room to read it, hangs on
-- how deep its blocks, its branches and its loops stand within one another.
theorem Tree.ofText_host {t : Tree} (ht : t.isValid = true)
    (hroom : Reader.bracketCost + Reader.statementCost * t.blocks ≤ templateRoom) :
    Template.ofText t.host =
      if maxBlockDepth < t.blocks then .error .tooDeepBlocks
      else if maxNesting < t.nesting then .error .tooDeep
      else if maxLoopDepth < t.loops then .error .tooManyLoops
      else .ok ⟨t.nodes []⟩ := by
  have hdepth := t.reach_nodes bounded_depth []
  have hbrackets := t.reach_nodes bounded_brackets []
  have hnesting : nestingOfAll (t.nodes []) = t.nesting :=
    (t.nesting_nodes ht []).trans (Nat.zero_max _)
  rw [Template.ofText_eq (Tree.nodesOfText_host ht hroom) (hdepth.trans (by decide)) (Tree.prepare_nodes ht)
    (t.misfits_nodes []) (hbrackets.trans (by decide)), t.blockDepth_nodes [], hnesting,
    t.loopDepth_nodes []]

end BraceTemplate

import BraceTemplate.Proofs.Dotted.Read

namespace BraceTemplate

open Host

namespace Host.Run

-- What is looked up in an expression without a value yet has none either.
theorem Idle.item {e : Expr} (h : Idle e) {s : Scalar} (hs : s.writable = true) :
    Idle (.item e (.literal s)) := by
  have hconstant : Run.constant (.item e (.literal s)) = failure := by
    have hlooked : Run.constant (.item e (.literal s)) = guarded (Run.constant e >>= fun v =>
        Run.constant (.literal s) >>= fun k => (itemOrPart v k : Folding Value)) := rfl
    rw [hlooked, h.constant]
    rfl
  refine ⟨hconstant, ?_, fun soft => ?_⟩
  · have hsimplified : Run.simplified (.item e (.literal s)) =
        Run.simplified e >>= fun e => Run.simplified (.literal s) >>= fun key => folded (.item e key) := rfl
    have hliteral : Run.simplified (.literal s) = pure (.literal s) := rfl
    rw [hsimplified, h.simplified, pure_bind, hliteral, pure_bind, folded, hconstant]
    rfl
  · have hliteral : Run.checked soft (.literal s) = pure (.literal s) := by
      rw [Run.checked, legible, if_pos hs]
      rfl
    rw [Run.checked, h.checked, pure_bind, hliteral]
    rfl

end Host.Run

namespace Key

theorem writable_scalar {key : Key} (h : key.isShort = true) : key.scalar.writable = true := by
  cases key with
  | index n => exact hasNumeral_of_length_le (of_decide_eq_true h)
  | name s => rfl

variable {keys : List Key}

theorem idle_subscribed (hkeys : ∀ key ∈ keys, key.isShort = true) {e : Expr} (h : Run.Idle e) :
    Run.Idle (subscribed e keys) := by
  induction keys generalizing e with
  | nil => exact h
  | cons key keys ih =>
      obtain ⟨hkey, hrest⟩ := List.forall_mem_cons.mp hkeys
      exact ih hrest (h.item (writable_scalar hkey))

theorem misfits_subscribed (keys : List Key) (e : Expr) : (subscribed e keys).misfits = e.misfits := by
  induction keys generalizing e with
  | nil => rfl
  | cons key keys ih => exact (ih _).trans (by simp [Expr.misfits])

theorem names_subscribed (keys : List Key) (e : Expr) : (subscribed e keys).names = e.names := by
  induction keys generalizing e with
  | nil => rfl
  | cons key keys ih => exact (ih _).trans (by simp [Expr.names])

-- Each key adds its own weight, where no key weighs more than what it is applied to.
theorem height_subscribed {weight : Expr → Nat} {own : Nat} (hitem : ∀ e key, weight (.item e key) = own)
    (keys : List Key) {e : Expr} (he : ∀ s, weight (.literal s) ≤ e.height weight) :
    (subscribed e keys).height weight = keys.length * own + e.height weight := by
  induction keys generalizing e with
  | nil => simp [subscribed]
  | cons key keys ih =>
      have hstep : (Expr.item e (.literal key.scalar)).height weight = own + e.height weight := by
        rw [Expr.height, hitem, Expr.height, Nat.max_eq_left (he _)]
      have hrest := ih (e := .item e (.literal key.scalar)) fun s => by
        rw [hstep]
        exact Nat.le_trans (he s) (Nat.le_add_left _ _)
      rw [hstep] at hrest
      change (subscribed (.item e (.literal key.scalar)) keys).height weight = _
      rw [hrest, List.length_cons, Nat.succ_mul, Nat.add_assoc]

end Key

namespace Dotted

open Run

variable {p : Dotted}

theorem length_keys (p : Dotted) : p.keys.length = p.segments.length :=
  List.length_map _

theorem depth_expr (p : Dotted) : p.expr.depth = p.segments.length + 2 := by
  have hkeys : (Key.subscribed (.name p.head) p.keys).depth = p.keys.length * 1 + 1 :=
    Key.height_subscribed (fun _ _ => rfl) _ fun _ => Nat.le_refl 1
  have hfilter : p.expr.depth = 1 + (Key.subscribed (.name p.head) p.keys).depth := by
    simp [expr, pipedExpr, Expr.depth, Expr.height, heightOfAll, heightOfNamed, heightOfSome]
  rw [hfilter, hkeys, length_keys]
  omega

theorem brackets_expr (p : Dotted) : p.expr.brackets = p.segments.length + 3 := by
  have hkeys : (Key.subscribed (.name p.head) p.keys).brackets = p.keys.length * 1 + 2 :=
    Key.height_subscribed (fun _ _ => rfl) _ fun _ => Nat.zero_le _
  have hfilter : p.expr.brackets = 1 + (Key.subscribed (.name p.head) p.keys).brackets := by
    simp [expr, pipedExpr, Expr.brackets, Expr.height, heightOfAll, heightOfNamed, heightOfSome,
      ownBrackets]
  rw [hfilter, hkeys, length_keys]
  omega

theorem reach_output (weight : Expr → Nat) (e : Expr) : reachOfNodes weight [.output e] = weight e := by
  rw [reachOfNodes, Node.reach]
  exact Nat.max_eq_left (Nat.zero_le _)

theorem misfits_expr (p : Dotted) : misfitsInNodes [.output p.expr] = false := by
  have hkeys : (Key.subscribed (.name p.head) p.keys).misfits = false := Key.misfits_subscribed _ _
  simp [misfitsInNodes, Node.misfits, expr, pipedExpr, Expr.misfits, hkeys, misfitsInAll, misfitsInNamed,
    misfitsInSome, repeatsNames, repeats]

theorem Sound.idle_expr (hp : p.Sound) : Idle p.expr :=
  (Key.idle_subscribed hp.isShort_keys (idle_name p.head)).piped (by decide)

-- A path is ready to run as it is, unless its keys stand too deep within one another.
theorem Sound.prepare_nodes (hp : p.Sound) : Host.prepare [.output p.expr] =
    if maxReadyDepth < p.segments.length + 2 then .error .tooDeep else .ok [.output p.expr] := by
  have hidle := hp.idle_expr
  have houtput : constantOutput p.expr = pure (.output p.expr) := by
    rw [constantOutput, hidle.constant]
    rfl
  have hready : ready false p.expr =
      if maxReadyDepth < p.segments.length + 2 then fail .tooDeep else pure p.expr := by
    have heq : ready false p.expr =
        if maxReadyDepth < p.expr.depth then fail .tooDeep else simplified p.expr >>= checked false := rfl
    rw [heq, depth_expr, hidle.simplified, pure_bind, hidle.checked]
  have hnodes : readyNodes false [] [.output p.expr] =
      ready false p.expr >>= fun e => pure [.output e] := by
    simp [readyNodes, readyOutputs, houtput]
  rw [Host.prepare, hnodes, hready]
  split_ifs <;> rfl

-- A path becomes a template, unless its keys take more brackets than the host allows or stand too deep
-- within one another.
theorem Sound.ofText_host (hp : p.Sound) : Template.ofText p.host =
    if maxReadyDepth < p.segments.length + 2 then .error .tooDeep
    else if maxBrackets < p.segments.length + 3 then .error .misfit
    else .ok ⟨[.output p.expr]⟩ := by
  have hprepare := hp.prepare_nodes
  by_cases hdeep : maxReadyDepth < p.segments.length + 2
  · rw [if_pos hdeep] at hprepare ⊢
    exact Template.ofText_tooDeep hp.nodesOfText_host hprepare
  · have hnamed : reachOfNodes Expr.depth [.output p.expr] ≤ maxNamedDepth := by
      rw [reach_output, depth_expr]
      exact (Nat.not_lt.mp hdeep).trans (by decide)
    rw [if_neg hdeep] at hprepare ⊢
    rw [Template.ofText_prepared hp.nodesOfText_host hnamed hprepare p.misfits_expr,
      reach_output, brackets_expr]
    rfl

end Dotted

end BraceTemplate

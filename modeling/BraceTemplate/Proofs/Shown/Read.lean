import BraceTemplate.Proofs.Shown.Tag
import BraceTemplate.Proofs.Tree.Limits

namespace BraceTemplate

open Host Lexeme

namespace Host

-- An expression to which filters are applied, the first one first.
def pipedExpr (e : Expr) : List String → Expr
  | [] => e
  | w :: filters => pipedExpr (.filter e w.toList [] [] none none) filters

namespace Reader

section Pipes

variable {o : Outlook} {ks : List TokenKind} {x : Text} {filters : List String}

def pipeKinds (filters : List String) : List TokenKind :=
  filters.flatMap fun w => [.mark .pipe, .name w.toList]

theorem kinds_piped (x : Text) (filters : List String) :
    Lexeme.kinds (piped x filters) = Lexeme.kinds (enclosed x) ++ pipeKinds filters := by
  rw [piped, Lexeme.kinds, List.filterMap_append, pipeKinds, List.filterMap_flatMap]
  rfl

-- Behind a filter there is another one, or what ends an operand.
theorem isMark_pipeKinds (hc : endsOperand ks.head? = true) {m : Mark}
    (hm : m ∉ [.rightParen, .rightBracket, .comma, .eq, .pipe]) : isMark m (pipeKinds filters ++ ks).head? = false := by
  cases filters with
  | nil => exact isMark_of_endsOperand hc fun h => hm (by simp only [List.mem_cons] at h ⊢; tauto)
  | cons w filters =>
      have hne : m ≠ .pipe := fun h => hm (by simp [h])
      simpa [isMark, pipeKinds] using hne

theorem takes_pipes (hc : endsOperand ks.head? = true) {n : Nat} (hn : filters.length ≤ n) (e : Expr) :
    Takes (filtered (n + 1) e) o (pipeKinds filters ++ ks) (pipedExpr e filters) ks := by
  induction filters generalizing n e with
  | nil => exact takes_filtered hc n e
  | cons w filters ih =>
      obtain ⟨n, rfl⟩ : ∃ m, n = m + 1 := ⟨n - 1, by simp only [List.length_cons] at hn; omega⟩
      have hdotted : Takes (dottedName (n + 1) w.toList) o (pipeKinds filters ++ ks) w.toList
          (pipeKinds filters ++ ks) := by
        refine (takes_takeMark_of_ne (isMark_pipeKinds hc (by decide))).bind ?_
        simp only [Bool.false_eq_true, if_false]
        exact takes_pure _
      refine takes_peek.bind (takes_skip.bind ((takes_expectName _).bind (hdotted.bind ?_)))
      refine (takes_takeMark_of_ne (isMark_pipeKinds hc (by decide))).bind ?_
      simp only [Bool.false_eq_true, if_false]
      exact (takes_pure _).bind (ih (Nat.le_of_succ_le_succ hn) _)

theorem takes_signed_piped (hx : isVariable x = true) (hroom : bracketCost ≤ o.room) {n : Nat}
    (hn : filters.length ≤ n) (hc : endsOperand ks.head? = true) :
    Takes (signed (n + 13) true) o (Lexeme.kinds (piped x filters) ++ ks)
      (pipedExpr (.name x) filters) ks := by
  have hpost : Takes (postfixed (n + 12) (.name x)) o (pipeKinds filters ++ ks) (.name x)
      (pipeKinds filters ++ ks) := by
    cases filters with
    | nil => exact takes_postfixed hc (n + 11) _
    | cons w filters => exact takes_peek.bind (takes_pure _)
  rw [kinds_piped, List.append_assoc]
  exact takes_signed ⟨rfl, rfl⟩ (takes_primary_enclosed hx hroom n) hpost
    (takes_pipes hc (Nat.le_trans hn (by omega)) _)

theorem takes_tuple_piped (hx : isVariable x = true) (hroom : bracketCost ≤ o.room) {n : Nat}
    (hn : filters.length ≤ n) (hc : isTagEnd ks.head? = true) :
    Takes (tuple (n + 22)) o (Lexeme.kinds (piped x filters) ++ ks) (pipedExpr (.name x) filters) ks := by
  have hcloses := (closes_of_isTagEnd hc).1
  have hsigned := takes_signed_piped hx hroom hn (endsOperand_of_closes hcloses)
  exact takes_tuple (takes_expr hsigned rfl hcloses) rfl hc

end Pipes

end Reader

end Host

namespace Showing

open Reader

variable (tag : Showing) {x : Text}

def kinds (x : Text) : List TokenKind :=
  dataKinds tag.opening ++ (outputKinds (piped x tag.filters) ++ dataKinds tag.closing)

def nodes (x : Text) : List Node :=
  dataNodes tag.opening ++ .output (pipedExpr (.name x) tag.filters) :: dataNodes tag.closing

theorem clean_piped (hx : isVariable x = true) : Token.Clean false (piped x tag.filters) where
  sound := tag.sound_piped hx
  short := by cases tag <;> rfl
  spaced := by cases tag <;> rfl
  closed := by cases tag <;> rfl
  fits := by cases tag <;> exact .inr rfl

theorem untagged_opening : Token.Untagged tag.opening := by
  cases tag <;> exact fun t => rfl

theorem untagged_closing : Token.Untagged tag.closing := by
  cases tag <;> exact fun t => rfl

theorem scan_host (hx : isVariable x = true) :
    (Token.scan (tag.host x)).map (·.kind) = tag.kinds x :=
  (Token.readsAs_outputOf (tag.clean_piped hx) tag.untagged_opening
    (Token.readsAs_text tag.untagged_closing)).scan

theorem takes_nodes {o : Outlook} (hx : isVariable x = true) (hroom : bracketCost ≤ o.room) :
    Takes (Reader.nodes (20 * (tag.kinds x).length + 20) []) o (tag.kinds x) (tag.nodes x) [] := by
  have hlength : tag.filters.length ≤ 2 := by cases tag <;> decide
  have hend : ∀ m, 1 ≤ m → Takes (Reader.nodes m []) o [] [] [] := fun m hm => by
    obtain ⟨m, rfl⟩ : ∃ k, m = k + 1 := ⟨m - 1, by omega⟩
    exact Ends.template.takes m
  have hclosing := takes_nodes_data tag.closing hend
  simp only [List.append_nil] at hclosing
  have houtput : ∀ m, 30 ≤ m → Takes (Reader.nodes m []) o
      (outputKinds (piped x tag.filters) ++ dataKinds tag.closing)
      (.output (pipedExpr (.name x) tag.filters) :: dataNodes tag.closing) [] := by
    intro m hm
    obtain ⟨m, rfl⟩ : ∃ k, m = k + 25 := ⟨m - 25, by omega⟩
    have hkinds : outputKinds (piped x tag.filters) ++ dataKinds tag.closing =
        .openOutput :: (Lexeme.kinds (piped x tag.filters) ++ .closeOutput :: dataKinds tag.closing) := by
      simp [outputKinds]
    rw [hkinds]
    refine takes_peek.bind (takes_skip.bind
      ((takes_tuple_piped (n := m + 2) hx hroom (by omega) rfl).bind ?_))
    exact takes_expectOutputEnd.bind ((hclosing (m + 24) (by omega)).bind (takes_pure _))
  exact takes_nodes_data tag.opening houtput _ (by
    simp only [kinds, List.length_append, length_outputKinds, kinds_piped]
    omega)

-- The host reads the text that a tag is compiled into as its nodes.
theorem nodesOfText_host (hx : isVariable x = true) : nodesOfText (tag.host x) = .ok (tag.nodes x) := by
  have hopening : '\r' ∉ tag.opening := by cases tag <;> decide
  have hclosing : '\r' ∉ tag.closing := by cases tag <;> decide
  have hreturn : '\r' ∉ tag.host x := by
    simp only [host, List.mem_append, not_or]
    exact ⟨hopening, return_not_mem_outputOf (tag.sound_piped hx), hclosing⟩
  have hfaultless : Faultless (tag.kinds x) :=
    (faultless_data _).append ((faultless_output _).append (faultless_data _))
  exact nodesOfText_eq_ok hreturn (tag.scan_host hx) hfaultless
    (tag.takes_nodes hx (show bracketCost ≤ templateRoom by decide))

end Showing

namespace Host.Run

-- An expression that has no value before the data is there, and is ready as it is.
structure Idle (e : Expr) : Prop where
  constant : constant e = failure
  simplified : simplified e = pure e
  checked : ∀ soft, checked soft e = pure e

theorem idle_name (x : Text) : Idle (.name x) := ⟨rfl, rfl, fun _ => rfl⟩

theorem Idle.filter {e : Expr} (h : Idle e) {w : String} (hw : (filter? w.toList).isSome = true) :
    Idle (.filter e w.toList [] [] none none) := by
  have hconstant : Run.constant (.filter e w.toList [] [] none none) = failure := by
    obtain ⟨f, hf⟩ := Option.isSome_iff_exists.mp hw
    simp only [Run.constant, closedFilter, hf, h.constant]
    split <;> rfl
  refine ⟨hconstant, ?_, fun soft => ?_⟩
  · have hfolded : Run.simplified (.filter e w.toList [] [] none none) =
        Run.simplified e >>= fun e => folded (.filter e w.toList [] [] none none) := rfl
    rw [hfolded, h.simplified, pure_bind, folded, hconstant]
    rfl
  · simp only [Run.checked, Option.isNone_eq_false_iff.mpr hw, Bool.false_and, Bool.false_eq_true,
      if_false, h.checked]
    rfl

theorem Idle.piped {e : Expr} (h : Idle e) {filters : List String}
    (hf : ∀ w ∈ filters, (filter? w.toList).isSome = true) : Idle (pipedExpr e filters) := by
  induction filters generalizing e with
  | nil => exact h
  | cons w filters ih =>
      exact ih (h.filter (hf w List.mem_cons_self)) fun v hv => hf v (List.mem_cons_of_mem w hv)

end Host.Run

namespace Showing

open Run

variable (tag : Showing) (x : Text)

theorem idle_expr : Idle (pipedExpr (.name x) tag.filters) :=
  (idle_name x).piped (by cases tag <;> decide)

theorem ready_expr (soft : Bool) :
    ready soft (pipedExpr (.name x) tag.filters) = pure (pipedExpr (.name x) tag.filters) := by
  have hready : ready soft (pipedExpr (.name x) tag.filters) =
      if maxReadyDepth < (pipedExpr (.name x) tag.filters).depth then fail .tooDeep
      else simplified (pipedExpr (.name x) tag.filters) >>= checked soft := by
    cases tag <;> rfl
  have hdepth : (pipedExpr (.name x) tag.filters).depth ≤ 3 := by
    cases tag <;> exact Nat.le_of_ble_eq_true rfl
  rw [hready, if_neg (Nat.not_lt.mpr (hdepth.trans (by decide))), (tag.idle_expr x).simplified, pure_bind,
    (tag.idle_expr x).checked]

-- The nodes of a tag are ready to run as they are.
theorem prepare_nodes : Host.prepare (tag.nodes x) = .ok (tag.nodes x) := by
  have houtput : constantOutput (pipedExpr (.name x) tag.filters) =
      pure (.output (pipedExpr (.name x) tag.filters)) := by
    rw [constantOutput, (tag.idle_expr x).constant]
    rfl
  have hnodes : readyNodes false [] (tag.nodes x) = pure (tag.nodes x) := by
    have hready := tag.ready_expr x false
    revert houtput hready
    rw [nodes]
    generalize pipedExpr (.name x) tag.filters = e
    generalize tag.opening = before
    generalize tag.closing = after
    intro houtput hready
    unfold dataNodes
    split <;> split <;> simp [readyNodes, readyOutputs, houtput, hready]
  rw [Host.prepare, hnodes]
  rfl

theorem ofText_host {x : Text} (hx : isVariable x = true) :
    Template.ofText (tag.host x) = .ok ⟨tag.nodes x⟩ := by
  have hdepth : reachOfNodes Expr.depth (tag.nodes x) ≤ 3 := by
    cases tag <;> exact Nat.le_of_ble_eq_true rfl
  have hbrackets : reachOfNodes Expr.brackets (tag.nodes x) ≤ 5 := by
    cases tag <;> exact Nat.le_of_ble_eq_true rfl
  have hmisfits : misfitsInNodes (tag.nodes x) = false := by cases tag <;> rfl
  rw [Template.ofText_eq (tag.nodesOfText_host hx) (hdepth.trans (by decide)) (tag.prepare_nodes x)
    hmisfits (hbrackets.trans (by decide))]
  cases tag <;> rfl

end Showing

end BraceTemplate

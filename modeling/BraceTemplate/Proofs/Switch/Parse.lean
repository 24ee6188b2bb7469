import BraceTemplate.Proofs.Switch.Compile
import BraceTemplate.Proofs.Tree.Read

namespace BraceTemplate

open Host Lexeme

namespace Host.Reader

section Calls

variable {o : Outlook} {ks mid left : List TokenKind} {e : Expr} {a acc : Arguments} {operand : Reader Expr}
  {key : Text} {n : Nat}

theorem takes_peekSecond {k : TokenKind} : Takes peekSecond o (k :: ks) ks.head? (k :: ks) := by
  intro hks
  refine ⟨hks, fun tokens ht => ⟨tokens, ht, ?_⟩⟩
  obtain ⟨token, rest, rfl, -, rfl⟩ := List.map_eq_cons_iff.mp ht
  have hsound : Faultless (rest.map (·.kind)) := fun e he => hks e (List.mem_cons_of_mem _ he)
  simp only [peekSecond, ReaderT.run_bind, StateT.run_bind]
  change ((expectSound rest).run o).run (token :: rest) >>= _ = _
  rw [expectSound_eq_pure hsound]
  cases rest <;> rfl

-- What comes behind an argument that has been read.
def argumentsAfter (operand : Reader Expr) (fuel : Nat) (acc : Arguments) : Reader Arguments := do
  if ← takeMark .comma then argumentsFrom operand fuel acc
  else
    expectMark .rightParen
    pure acc

-- An argument that is passed under a name.
theorem takes_argumentsFrom (hacc : acc.named' = none) (h : Takes operand o ks e mid)
    (hafter : Takes (argumentsAfter operand n { acc with named := acc.named ++ [(key, e)] }) o mid a left) :
    Takes (argumentsFrom operand (n + 1) acc) o (.name key :: .mark .assign :: ks) a left := by
  have hassign : isMark .assign (some (.mark .assign)) = true := rfl
  have hno : isMark .mul (some (.name key)) = false ∧ isMark .pow (some (.name key)) = false := ⟨rfl, rfl⟩
  refine (takes_takeMark_of_ne rfl).bind ?_
  simp only [Bool.false_eq_true, if_false]
  refine takes_peek.bind (takes_peekSecond.bind ?_)
  simp only [List.head?_cons, hno.1, hno.2, hassign, hacc, Option.isSome_none, Bool.false_eq_true, if_false]
  exact takes_skip.bind (takes_skip.bind (h.bind ((takes_pure _).bind (hacc ▸ hafter))))

theorem takes_argumentsAfter_comma (h : Takes (argumentsFrom operand n acc) o ks a left) :
    Takes (argumentsAfter operand n acc) o (.mark .comma :: ks) a left := by
  refine (takes_takeMark .comma).bind ?_
  simp only [if_true]
  exact h

theorem takes_argumentsAfter_end :
    Takes (argumentsAfter operand n acc) o (.mark .rightParen :: ks) acc ks := by
  refine (takes_takeMark_of_ne rfl).bind ?_
  simp only [Bool.false_eq_true, if_false]
  exact (takes_expectMark .rightParen).bind (takes_pure _)

end Calls

section Expressions

variable {o : Outlook} {ks mid left : List TokenKind} {e : Expr} {x : Text}

theorem takes_primary_constant {s : Scalar} (hx : constant? x = some s) (n : Nat) :
    Takes (primary (n + 1)) o (.name x :: ks) (.literal s) ks := by
  refine takes_peek.bind (takes_skip.bind ?_)
  simp only [hx]
  exact takes_pure _

theorem takes_signed_constant {s : Scalar} (hx : constant? x = some s) (n : Nat)
    (hc : endsOperand ks.head? = true) :
    Takes (signed (n + 2) true) o (.name x :: ks) (.literal s) ks :=
  takes_signed ⟨rfl, rfl⟩ (takes_primary_constant hx n) (takes_postfixed hc n _) (takes_filtered hc n _)

theorem takes_signed_int (i n : Nat) (hc : endsOperand ks.head? = true) :
    Takes (signed (n + 2) true) o (.int i :: ks) (.literal (.int i)) ks :=
  takes_signed ⟨rfl, rfl⟩ (takes_peek.bind (takes_skip.bind (takes_pure _))) (takes_postfixed hc n _)
    (takes_filtered hc n _)

-- What a branch is compared with stands between parentheses.
theorem takes_signed_operand {label : Label} (hl : label.isValid = true) {l : Lexeme}
    (hoperand : label.operand? = some l) (hvalue : label.value? = some e) (hroom : bracketCost ≤ o.room)
    (n : Nat) (hc : endsOperand ks.head? = true) :
    Takes (signed (n + 13) true) o
      (Lexeme.kinds [.mark .leftParen, l, .mark .rightParen] ++ ks) e ks := by
  cases label with
  | default => simp [Label.operand?] at hoperand
  | number i =>
      obtain rfl := Option.some.inj hoperand
      obtain rfl := Option.some.inj hvalue
      have hinner : Takes (expr (n + 11)) { o with room := o.room - bracketCost }
          (.int i :: .mark .rightParen :: ks) (.literal (.int i)) (.mark .rightParen :: ks) :=
        takes_expr (takes_signed_int i n rfl) rfl rfl
      exact takes_signed ⟨rfl, rfl⟩ (takes_primary_parens hroom rfl hinner) (takes_postfixed hc _ _)
        (takes_filtered hc _ _)
  | named y =>
      obtain rfl := Option.some.inj hoperand
      obtain rfl := Option.some.inj hvalue
      exact takes_signed_enclosed hl hroom n hc

-- An attribute of the namespace of a switch.
theorem takes_signed_member (attr : Text) (n : Nat) (hc : endsOperand ks.head? = true) :
    Takes (signed (n + 3) true) o (.name switchName :: .mark .dot :: .name attr :: ks)
      (.member (.name switchName) attr) ks := by
  have hpost : Takes (postfixed (n + 2) (.name switchName)) o (.mark .dot :: .name attr :: ks)
      (.member (.name switchName) attr) ks :=
    takes_peek.bind (takes_skip.bind (takes_peek.bind (takes_skip.bind (takes_postfixed hc n _))))
  exact takes_signed ⟨rfl, rfl⟩ (takes_primary_name (by decide) (n + 1)) hpost
    (takes_filtered hc (n + 1) _)

theorem takes_denied {n : Nat} (hroom : 1 ≤ o.room)
    (h : Takes (denial n) { o with room := o.room - 1 } ks e left) :
    Takes (denial (n + 1)) o (.name "not".toList :: ks) (.unary .denied e) left := by
  refine (takes_takeWord "not").bind ?_
  simp only [if_true]
  exact (h.within hroom).bind (takes_pure _)

theorem takes_denial_denied (hroom : 1 ≤ o.room) (n : Nat) (hc : endsComparison ks.head? = true) :
    Takes (denial (n + 10)) o
      (.name "not".toList :: .name switchName :: .mark .dot :: .name "done".toList :: ks) denied ks :=
  takes_denied hroom (takes_denial (takes_comparison
    (takes_signed_member "done".toList n (by simp [endsOperand, hc])) hc) rfl)

-- Two operands that are compared.
theorem takes_comparison_eq {n : Nat} {e' : Expr}
    (h : Takes (sum (n + 2)) o ks e (.mark .eq :: mid)) (h' : Takes (sum (n + 2)) o mid e' left)
    (hc : endsComparison left.head? = true) :
    Takes (comparison (n + 3)) o ks (.compare e [(.eq, e')]) left := by
  have hchain : Takes (relationChain (sum (n + 2)) (n + 2)) o (.mark .eq :: mid) [(.eq, e')] left := by
    refine takes_peek.bind ?_
    simp only [List.head?_cons, relation?]
    exact takes_skip.bind ((takes_pure _).bind (h'.bind ((takes_relationChain hc _ _).bind (takes_pure _))))
  exact h.bind (hchain.bind (takes_pure _))

theorem takes_denial_subjectIs {label : Label} (hl : label.isValid = true) {l : Lexeme}
    (hoperand : label.operand? = some l) (hvalue : label.value? = some e) (hroom : bracketCost ≤ o.room)
    (n : Nat) (hc : closes ks.head? = true) :
    Takes (denial (n + 19)) o
      (.name switchName :: .mark .dot :: .name "subject".toList :: .mark .eq ::
        (Lexeme.kinds [.mark .leftParen, l, .mark .rightParen] ++ ks)) (subjectIs e) ks :=
  takes_denial (takes_comparison_eq
    (takes_sum (takes_signed_member "subject".toList (n + 10) rfl) rfl)
    (takes_sum (takes_signed_operand hl hoperand hvalue hroom n (endsOperand_of_closes hc))
      (endsOperand_of_closes hc)) (endsComparison_of_closes hc)) rfl

theorem takes_conjunction_both {n : Nat} {e' : Expr}
    (h : Takes (denial (n + 2)) o ks e (.name "and".toList :: mid)) (h' : Takes (denial (n + 2)) o mid e' left)
    (hc : closes left.head? = true) :
    Takes (conjunction (n + 3)) o ks (.both e e') left := by
  have hchain : Takes (wordChain "and" .both (denial (n + 2)) (n + 2) e) o (.name "and".toList :: mid)
      (.both e e') left := by
    refine (takes_takeWord "and").bind ?_
    simp only [if_true]
    exact h'.bind (takes_wordChain (isWord_of_closes hc "and") _ _ _)
  exact h.bind hchain

-- The test of a branch.
theorem takes_disjunction_test {label : Label} (hl : label.isValid = true) (hroom : bracketCost ≤ o.room)
    (n : Nat) (hc : closes ks.head? = true) :
    Takes (disjunction (n + 21)) o
      (.name "not".toList :: .name switchName :: .mark .dot :: .name "done".toList ::
        (Lexeme.kinds ((label.operand?.map compared).getD []) ++ ks)) label.test ks := by
  have hone : 1 ≤ o.room := Nat.le_trans (by decide) hroom
  cases label with
  | default =>
      exact takes_disjunction_of_denial (takes_denial_denied hone (n + 9) (endsComparison_of_closes hc)) hc
  | number i =>
      exact takes_disjunction_of_conjunction (takes_conjunction_both
        (takes_denial_denied hone (n + 9) rfl)
        (takes_denial_subjectIs hl rfl rfl hroom n hc) hc) hc
  | named y =>
      exact takes_disjunction_of_conjunction (takes_conjunction_both
        (takes_denial_denied hone (n + 9) rfl)
        (takes_denial_subjectIs hl rfl rfl hroom n hc) hc) hc

end Expressions

section Statements

variable {o : Outlook} {ks mid left : List TokenKind} {x : Text} {label : Label} {ns : List Node}

-- The namespace that a switch starts with.
theorem takes_signed_space (hx : isVariable x = true) (hroom : callCost + bracketCost ≤ o.room) (n : Nat)
    (hc : endsOperand ks.head? = true) :
    Takes (signed (n + 24) true) o
      (.name "namespace".toList :: .mark .leftParen :: .name "subject".toList :: .mark .assign ::
        (Lexeme.kinds (enclosed x) ++ .mark .comma :: .name "done".toList :: .mark .assign ::
          .name "false".toList :: .mark .rightParen :: ks)) (spaceOf x) ks := by
  have hinner : bracketCost ≤ o.room - callCost := by omega
  have hsubject : ∀ ks, Takes (expr (n + 22)) { o with room := o.room - callCost }
      (Lexeme.kinds (enclosed x) ++ .mark .comma :: ks) (.name x) (.mark .comma :: ks) := fun ks =>
    takes_expr (takes_signed_enclosed hx hinner n rfl) rfl rfl
  have hdone : Takes (expr (n + 22)) { o with room := o.room - callCost }
      (.name "false".toList :: .mark .rightParen :: ks) (.literal (.bool false)) (.mark .rightParen :: ks) :=
    takes_expr (takes_signed_constant rfl (n + 11) rfl) rfl rfl
  have harguments : Takes (argumentsFrom (expr (n + 22)) (n + 22) default)
      { o with room := o.room - callCost }
      (.name "subject".toList :: .mark .assign :: (Lexeme.kinds (enclosed x) ++ .mark .comma ::
        .name "done".toList :: .mark .assign :: .name "false".toList :: .mark .rightParen :: ks))
      ⟨[], [("subject".toList, .name x), ("done".toList, .literal (.bool false))], none, none⟩ ks :=
    takes_argumentsFrom rfl (hsubject _) (takes_argumentsAfter_comma
      (takes_argumentsFrom rfl hdone takes_argumentsAfter_end))
  have hpost : Takes (postfixed (n + 23) (.name "namespace".toList)) o
      (.mark .leftParen :: .name "subject".toList :: .mark .assign ::
        (Lexeme.kinds (enclosed x) ++ .mark .comma :: .name "done".toList :: .mark .assign ::
          .name "false".toList :: .mark .rightParen :: ks)) (spaceOf x) ks :=
    takes_peek.bind (takes_skip.bind ((harguments.within (by omega)).bind (takes_postfixed hc (n + 21) _)))
  exact takes_signed ⟨rfl, rfl⟩ (takes_primary_name (by decide) (n + 22)) hpost
    (takes_filtered hc (n + 22) _)

theorem takes_bindingsFrom (hx : isVariable x = true) (hroom : callCost + bracketCost ≤ o.room) (n : Nat) :
    Takes (bindingsFrom (n + 33) (n + 33) true) o
      (.name switchName :: .mark .assign :: .name "namespace".toList :: .mark .leftParen ::
        .name "subject".toList :: .mark .assign :: (Lexeme.kinds (enclosed x) ++ .mark .comma ::
          .name "done".toList :: .mark .assign :: .name "false".toList :: .mark .rightParen ::
            .closeStatement :: ks))
      [(.name switchName, spaceOf x)] (.closeStatement :: ks) := by
  have htarget : ∀ {mid}, Takes (Reader.target false [] (n + 33)) o
      (.name switchName :: .mark .assign :: mid) (.name switchName) (.mark .assign :: mid) :=
    (takes_tupleItems rfl (takes_targetItem (by decide) (n + 32)) rfl (n + 32)).bind (takes_pure _)
  have hclose : endsOperand (TokenKind.closeStatement :: ks).head? = true := rfl
  have hvalue := takes_expr (takes_signed_space hx hroom n hclose) rfl rfl
  have hnone : Takes (bindingsFrom (n + 33) (n + 32) false) o (.closeStatement :: ks) []
      (.closeStatement :: ks) := takes_peek.bind (takes_pure _)
  refine takes_peek.bind ?_
  simp only [List.head?_cons, Bool.not_true, Bool.false_eq_true, if_false]
  exact htarget.bind ((takes_expectMark .assign).bind (hvalue.bind (hnone.bind (takes_pure _))))

theorem statementKinds_entering (x : Text) (ks : List TokenKind) :
    statementKinds (entering x) ++ ks =
      .openStatement :: .name "with".toList :: .name switchName :: .mark .assign ::
        .name "namespace".toList :: .mark .leftParen :: .name "subject".toList :: .mark .assign ::
          (Lexeme.kinds (enclosed x) ++ .mark .comma :: .name "done".toList :: .mark .assign ::
            .name "false".toList :: .mark .rightParen :: .closeStatement :: ks) := rfl

theorem statementKinds_asked (label : Label) (ks : List TokenKind) :
    statementKinds (asked label) ++ ks =
      .openStatement :: .name "if".toList :: .name "not".toList :: .name switchName :: .mark .dot ::
        .name "done".toList ::
          (Lexeme.kinds ((label.operand?.map compared).getD []) ++ .closeStatement :: ks) := by
  have h : Lexeme.kinds (asked label) = .name "if".toList :: .name "not".toList :: .name switchName ::
      .mark .dot :: .name "done".toList :: Lexeme.kinds ((label.operand?.map compared).getD []) := rfl
  simp [statementKinds, h]

theorem takes_statement_with (hx : isVariable x = true) (hroom : callCost + bracketCost ≤ o.room) {n : Nat}
    (hbody : Takes (body (n + 33) ["endwith"]) o (.closeStatement :: mid) ns
      (.name "endwith".toList :: left)) :
    Takes (statement (n + 34)) o
      (.name "with".toList :: .name switchName :: .mark .assign :: .name "namespace".toList ::
        .mark .leftParen :: .name "subject".toList :: .mark .assign :: (Lexeme.kinds (enclosed x) ++
          .mark .comma :: .name "done".toList :: .mark .assign :: .name "false".toList ::
            .mark .rightParen :: .closeStatement :: mid)) [Switch.node x ns] left := by
  refine (takes_expectName _).bind ?_
  rw [if_neg (by decide), if_neg (by decide), if_pos rfl]
  exact (takes_bindingsFrom hx hroom n).bind (hbody.bind (takes_skip.bind (takes_pure _)))

theorem takes_statement_if (hl : label.isValid = true) (hroom : bracketCost ≤ o.room) {n : Nat}
    (hbody : Takes (body (n + 22) ["elif", "else", "endif"]) o (.closeStatement :: mid) ns
      (.name "endif".toList :: .closeStatement :: left)) :
    Takes (statement (n + 24)) o
      (.name "if".toList :: .name "not".toList :: .name switchName :: .mark .dot ::
        .name "done".toList ::
          (Lexeme.kinds ((label.operand?.map compared).getD []) ++ .closeStatement :: mid))
      [.conditional [(label.test, ns)] []] (.closeStatement :: left) := by
  have hclose : closes (TokenKind.closeStatement :: mid).head? = true := rfl
  have hstart : endsTuple [] (.name "not".toList) = false := rfl
  have htest := takes_plainTuple (takes_disjunction_test hl hroom (n + 1) hclose) hstart rfl
  have hconditional : Takes (conditional (n + 23)) o
      (.name "not".toList :: .name switchName :: .mark .dot :: .name "done".toList ::
        (Lexeme.kinds ((label.operand?.map compared).getD []) ++ .closeStatement :: mid))
      ([(label.test, ns)], []) (.closeStatement :: left) := by
    refine htest.bind (hbody.bind ?_)
    refine (takes_takeWord_of_ne rfl).bind ?_
    simp only [Bool.false_eq_true, if_false]
    refine (takes_takeWord_of_ne rfl).bind ?_
    simp only [Bool.false_eq_true, if_false]
    exact takes_skip.bind (takes_pure _)
  refine (takes_expectName _).bind ?_
  rw [if_pos rfl]
  exact hconditional.bind (takes_pure _)

theorem takes_statement_set (n : Nat) :
    Takes (statement (n + 21)) o
      (.name "set".toList :: .name switchName :: .mark .dot :: .name "done".toList :: .mark .assign ::
        .name "true".toList :: .closeStatement :: ks) [marking] (.closeStatement :: ks) := by
  have hitem : ∀ {mid}, Takes (targetItem true (n + 20)) o
      (.name switchName :: .mark .dot :: .name "done".toList :: .mark .assign :: mid)
      (.member switchName "done".toList) (.mark .assign :: mid) := by
    intro mid
    refine (takes_primary_name (by decide) (n + 19)).bind ((takes_takeMark .dot).bind ?_)
    simp only [if_true]
    exact (takes_expectName _).bind (takes_pure _)
  have htarget : ∀ {mid}, Takes (Reader.target true [] (n + 20)) o
      (.name switchName :: .mark .dot :: .name "done".toList :: .mark .assign :: mid)
      (.member switchName "done".toList) (.mark .assign :: mid) :=
    (takes_tupleItems rfl hitem rfl (n + 19)).bind (takes_pure _)
  have hvalue : Takes (tuple (n + 20)) o (.name "true".toList :: .closeStatement :: ks)
      (.literal (.bool true)) (.closeStatement :: ks) :=
    takes_tuple (takes_expr (takes_signed_constant rfl (n + 9) rfl) rfl rfl) rfl rfl
  refine (takes_expectName _).bind ?_
  rw [if_neg (by decide), if_neg (by decide), if_neg (by decide), if_pos rfl]
  exact htarget.bind ((takes_expectMark .assign).bind (hvalue.bind (takes_pure _)))

end Statements

end Host.Reader

end BraceTemplate

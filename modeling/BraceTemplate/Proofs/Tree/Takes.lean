import BraceTemplate.Host.Grammar
import BraceTemplate.Proofs.Tree.Scan

namespace BraceTemplate.Host.Reader

-- A row of parts without a fault in it.
def Faultless (ks : List TokenKind) : Prop :=
  ∀ e, .fault e ∉ ks

-- What a reader gives for parts of certain kinds, and the kinds of those that it leaves.
def Takes {α : Type} (r : Reader α) (o : Outlook) (ks : List TokenKind) (a : α)
    (left : List TokenKind) : Prop :=
  Faultless ks → Faultless left ∧ ∀ tokens : List Token, tokens.map (·.kind) = ks →
    ∃ rest, rest.map (·.kind) = left ∧ (r.run o).run tokens = .ok (a, rest)

section Rules

variable {α β : Type} {r : Reader α} {f : α → Reader β} {o : Outlook} {a : α} {b : β}
  {ks mid left : List TokenKind}

theorem takes_pure (a : α) : Takes (pure a) o ks a ks :=
  fun hks => ⟨hks, fun tokens ht => ⟨tokens, ht, rfl⟩⟩

theorem Takes.bind (h : Takes r o ks a mid) (hf : Takes (f a) o mid b left) :
    Takes (r >>= f) o ks b left := by
  intro hks
  obtain ⟨hmid, hr⟩ := h hks
  obtain ⟨hleft, hf⟩ := hf hmid
  refine ⟨hleft, fun tokens ht => ?_⟩
  obtain ⟨rest, hrest, hrun⟩ := hr tokens ht
  obtain ⟨last, hlast, hrun'⟩ := hf rest hrest
  refine ⟨last, hlast, ?_⟩
  rw [ReaderT.run_bind, StateT.run_bind, hrun]
  exact hrun'

theorem takes_peek : Takes peek o ks ks.head? ks := by
  refine fun hks => ⟨hks, fun tokens ht => ⟨tokens, ht, ?_⟩⟩
  subst ht
  cases tokens <;> rfl

theorem expectSound_eq_pure {tokens : List Token} (h : Faultless (tokens.map (·.kind))) :
    expectSound tokens = pure () := by
  unfold expectSound
  split
  · next e ahead rest => exact absurd (List.mem_cons_self) (h e)
  · rfl

theorem takes_skip {k : TokenKind} : Takes skip o (k :: ks) () ks := by
  intro hks
  refine ⟨fun e he => hks e (List.mem_cons_of_mem _ he), fun tokens ht => ?_⟩
  obtain ⟨token, rest, rfl, -, hrest⟩ := List.map_eq_cons_iff.mp ht
  have hsound : Faultless (rest.map (·.kind)) := fun e he => by
    rw [hrest] at he
    exact hks e (List.mem_cons_of_mem _ he)
  refine ⟨rest, hrest, ?_⟩
  simp only [skip, ReaderT.run_bind, StateT.run_bind]
  change ((expectSound rest).run o).run (token :: rest) >>= _ = _
  rw [expectSound_eq_pure hsound]
  rfl

-- The text from a place on plays no part in what is read there.
theorem takes_ahead_bind {f : Text → Reader β} (h : ∀ s, Takes (f s) o ks b left) :
    Takes (ahead >>= f) o ks b left := by
  intro hks
  refine ⟨(h [] hks).1, fun tokens ht => ?_⟩
  obtain ⟨rest, hrest, hrun⟩ := (h ((tokens.head?.map (·.ahead)).getD []) hks).2 tokens ht
  exact ⟨rest, hrest, hrun⟩

theorem Takes.within {cost : Nat} (hroom : cost ≤ o.room)
    (h : Takes r { o with room := o.room - cost } ks a left) :
    Takes (within cost r) o ks a left := by
  intro hks
  obtain ⟨hleft, hr⟩ := h hks
  refine ⟨hleft, fun tokens ht => ?_⟩
  obtain ⟨rest, hrest, hrun⟩ := hr tokens ht
  refine ⟨rest, hrest, ?_⟩
  have hno : ¬ o.room < cost := by omega
  change ((if o.room < cost then throw .tooDeep
    else withReader (fun o => { o with room := o.room - cost }) r).run o).run tokens = _
  rw [if_neg hno]
  exact hrun

end Rules

section Marks

variable {o : Outlook} {ks : List TokenKind}

theorem takes_takeMark (m : Mark) : Takes (takeMark m) o (.mark m :: ks) true ks := by
  have hm : isMark m (some (.mark m)) = true := by simp [isMark]
  refine takes_peek.bind ?_
  simp only [List.head?_cons, hm, if_true]
  exact takes_skip.bind (takes_pure true)

theorem takes_takeMark_of_ne {m : Mark} (hm : isMark m ks.head? = false) :
    Takes (takeMark m) o ks false ks := by
  refine takes_peek.bind ?_
  simp only [hm, Bool.false_eq_true, if_false]
  exact takes_pure false

theorem takes_takeWord (w : String) : Takes (takeWord w) o (.name w.toList :: ks) true ks := by
  have hw : isWord w (some (.name w.toList)) = true := by simp [isWord]
  refine takes_peek.bind ?_
  simp only [List.head?_cons, hw, if_true]
  exact takes_skip.bind (takes_pure true)

theorem takes_takeWord_of_ne {w : String} (hw : isWord w ks.head? = false) :
    Takes (takeWord w) o ks false ks := by
  refine takes_peek.bind ?_
  simp only [hw, Bool.false_eq_true, if_false]
  exact takes_pure false

theorem takes_expectMark (m : Mark) : Takes (expectMark m) o (.mark m :: ks) () ks :=
  (takes_takeMark m).bind (takes_pure ())

theorem takes_expectWord (w : String) : Takes (expectWord w) o (.name w.toList :: ks) () ks :=
  (takes_takeWord w).bind (takes_pure ())

theorem takes_expectName (x : Text) : Takes expectName o (.name x :: ks) x ks :=
  takes_peek.bind (takes_skip.bind (takes_pure x))

theorem takes_expectStatementEnd : Takes expectStatementEnd o (.closeStatement :: ks) () ks :=
  takes_peek.bind takes_skip

theorem takes_expectOutputEnd : Takes expectOutputEnd o (.closeOutput :: ks) () ks :=
  takes_peek.bind takes_skip

end Marks

section Ladder

-- What ends an expression wherever it stands.
def closes : Option TokenKind → Bool
  | some (.mark .rightParen) => true
  | some (.mark .rightBracket) => true
  | some (.mark .comma) => true
  | some .closeOutput => true
  | some .closeStatement => true
  | _ => false

-- What ends a comparison, and what an operand of one.
def endsComparison (k : Option TokenKind) : Bool :=
  closes k || isWord "and" k

def endsOperand (k : Option TokenKind) : Bool :=
  endsComparison k || isMark .eq k

variable {o : Outlook} {ks left : List TokenKind} {e : Expr}

theorem isWord_iff {w : String} {k : Option TokenKind} :
    isWord w k = true ↔ k = some (.name w.toList) := by
  unfold isWord
  split
  · simp
  · next hno => exact ⟨fun h => absurd h Bool.false_ne_true, fun h => absurd h (hno _)⟩

theorem isMark_iff {m : Mark} {k : Option TokenKind} : isMark m k = true ↔ k = some (.mark m) := by
  unfold isMark
  split
  · simp [eq_comm]
  · next hno => exact ⟨fun h => absurd h Bool.false_ne_true, fun h => absurd h (hno _)⟩

theorem closes_iff {k : Option TokenKind} :
    closes k = true ↔ k = some (.mark .rightParen) ∨ k = some (.mark .rightBracket) ∨
      k = some (.mark .comma) ∨ k = some .closeOutput ∨ k = some .closeStatement := by
  unfold closes
  split <;> simp_all

theorem endsOperand_iff {k : Option TokenKind} :
    endsOperand k = true ↔ k = some (.mark .rightParen) ∨ k = some (.mark .rightBracket) ∨
      k = some (.mark .comma) ∨ k = some .closeOutput ∨ k = some .closeStatement ∨
        k = some (.name "and".toList) ∨ k = some (.mark .eq) := by
  simp only [endsOperand, endsComparison, Bool.or_eq_true, closes_iff, isWord_iff, isMark_iff, or_assoc]

theorem endsOperand_of_closes {k : Option TokenKind} (hk : closes k = true) : endsOperand k = true := by
  simp [endsOperand, endsComparison, hk]

theorem endsComparison_of_closes {k : Option TokenKind} (hk : closes k = true) :
    endsComparison k = true := by
  simp [endsComparison, hk]

theorem isMark_of_endsOperand {k : Option TokenKind} (hk : endsOperand k = true) {m : Mark}
    (hm : m ∉ [.rightParen, .rightBracket, .comma, .eq]) : isMark m k = false := by
  simp only [List.mem_cons, List.not_mem_nil, or_false, not_or] at hm
  rcases endsOperand_iff.mp hk with rfl | rfl | rfl | rfl | rfl | rfl | rfl <;> simp [isMark, hm]

theorem isWord_of_endsOperand {k : Option TokenKind} (hk : endsOperand k = true) {w : String}
    (hw : w ≠ "and") : isWord w k = false := by
  have hne : "and".toList ≠ w.toList := fun h => hw (String.toList_inj.mp h.symm)
  rcases endsOperand_iff.mp hk with rfl | rfl | rfl | rfl | rfl | rfl | rfl <;>
    first
      | rfl
      | exact decide_eq_false hne

theorem isWord_of_closes {k : Option TokenKind} (hk : closes k = true) (w : String) :
    isWord w k = false := by
  rcases closes_iff.mp hk with rfl | rfl | rfl | rfl | rfl <;> rfl

theorem takes_leftChain {op? : Option TokenKind → Option Operator} (hop : op? left.head? = none)
    (operand : Reader Expr) (fuel : Nat) : Takes (leftChain op? operand fuel e) o left e left := by
  cases fuel with
  | zero => exact takes_pure e
  | succ fuel =>
      refine takes_peek.bind ?_
      simp only [hop]
      exact takes_pure e

theorem takes_wordChain {w : String} (hw : isWord w left.head? = false) (join : Expr → Expr → Expr)
    (operand : Reader Expr) (fuel : Nat) :
    Takes (wordChain w join operand fuel e) o left e left := by
  cases fuel with
  | zero => exact takes_pure e
  | succ fuel =>
      refine (takes_takeWord_of_ne hw).bind ?_
      simp only [Bool.false_eq_true, if_false]
      exact takes_pure e

theorem takes_joinedChain (hc : endsOperand left.head? = true) (operand : Reader Expr) (fuel : Nat) :
    Takes (joinedChain operand fuel) o left [] left := by
  cases fuel with
  | zero => exact takes_pure []
  | succ fuel =>
      refine (takes_takeMark_of_ne (isMark_of_endsOperand hc (by decide))).bind ?_
      simp only [Bool.false_eq_true, if_false]
      exact takes_pure []

theorem takes_relationChain (hc : endsComparison left.head? = true) (operand : Reader Expr)
    (fuel : Nat) : Takes (relationChain operand fuel) o left [] left := by
  cases fuel with
  | zero => exact takes_pure []
  | succ fuel =>
      have hoperand : endsOperand left.head? = true := by simp [endsOperand, hc]
      have hr : relation? left.head? = none := by
        rcases endsOperand_iff.mp hoperand with h | h | h | h | h | h | h <;> rw [h] at hc ⊢ <;>
          first | rfl | exact absurd hc (by decide)
      have hin : isWord "in" left.head? = false := isWord_of_endsOperand hoperand (by decide)
      have hnot : isWord "not" left.head? = false := isWord_of_endsOperand hoperand (by decide)
      refine takes_peek.bind ?_
      simp only [hr, hin, hnot, Bool.false_eq_true, if_false, pure_bind]
      exact takes_pure []

-- Where no operator follows, all levels of an expression read the same.
theorem takes_sum {n : Nat} (h : Takes (signed n true) o ks e left)
    (hc : endsOperand left.head? = true) : Takes (sum (n + 4)) o ks e left := by
  have hop : additive? left.head? = none ∧ multiplicative? left.head? = none ∧
      power? left.head? = none := by
    rcases endsOperand_iff.mp hc with hk | hk | hk | hk | hk | hk | hk <;> rw [hk] <;> exact ⟨rfl, rfl, rfl⟩
  have hpower : Takes (power (n + 1)) o ks e left := h.bind (takes_leftChain hop.2.2 _ _)
  have hproduct : Takes (product (n + 2)) o ks e left := hpower.bind (takes_leftChain hop.2.1 _ _)
  have hconcatenation : Takes (concatenation (n + 3)) o ks e left :=
    hproduct.bind ((takes_joinedChain hc _ _).bind (takes_pure e))
  exact hconcatenation.bind (takes_leftChain hop.1 _ _)

theorem takes_comparison {n : Nat} (h : Takes (signed n true) o ks e left)
    (hc : endsComparison left.head? = true) : Takes (comparison (n + 5)) o ks e left :=
  (takes_sum h (by simp [endsOperand, hc])).bind ((takes_relationChain hc _ _).bind (takes_pure e))

theorem takes_denial {n : Nat} (h : Takes (comparison n) o ks e left)
    (hnot : isWord "not" ks.head? = false) : Takes (denial (n + 1)) o ks e left := by
  refine (takes_takeWord_of_ne hnot).bind ?_
  simp only [Bool.false_eq_true, if_false]
  exact h

theorem takes_disjunction_of_conjunction {n : Nat} (h : Takes (conjunction n) o ks e left)
    (hc : closes left.head? = true) : Takes (disjunction (n + 1)) o ks e left :=
  h.bind (takes_wordChain (isWord_of_closes hc "or") _ _ _)

theorem takes_disjunction_of_denial {n : Nat} (h : Takes (denial n) o ks e left)
    (hc : closes left.head? = true) : Takes (disjunction (n + 2)) o ks e left :=
  takes_disjunction_of_conjunction (h.bind (takes_wordChain (isWord_of_closes hc "and") _ _ _)) hc

theorem takes_disjunction {n : Nat} (h : Takes (signed n true) o ks e left)
    (hnot : isWord "not" ks.head? = false) (hc : closes left.head? = true) :
    Takes (disjunction (n + 8)) o ks e left :=
  takes_disjunction_of_denial
    (takes_denial (takes_comparison h (endsComparison_of_closes hc)) hnot) hc

theorem takes_expr {n : Nat} (h : Takes (signed n true) o ks e left)
    (hnot : isWord "not" ks.head? = false) (hc : closes left.head? = true) :
    Takes (expr (n + 9)) o ks e left := by
  refine takes_ahead_bind fun start => (takes_disjunction h hnot hc).bind ?_
  refine (takes_takeWord_of_ne (isWord_of_closes hc "if")).bind ?_
  simp only [Bool.false_eq_true, if_false]
  exact takes_pure e

end Ladder

section Names

variable {o : Outlook} {ks left : List TokenKind} {x : Text}

theorem constant?_of_variable (hx : isVariable x = true) : constant? x = none := by
  have hne : ∀ w ∈ takenNames, x ≠ w := fun w hw he => not_taken_of_variable hx (he ▸ hw)
  have hboth : ∀ w ∈ takenNames, ∀ w' ∈ takenNames, ¬ (x = w ∨ x = w') :=
    fun w hw w' hw' => not_or.mpr ⟨hne w hw, hne w' hw'⟩
  rw [constant?, if_neg (hboth _ (by decide) _ (by decide)),
    if_neg (hboth _ (by decide) _ (by decide)), if_neg (hboth _ (by decide) _ (by decide))]

theorem isWord_of_variable (hx : isVariable x = true) {w : String} (hw : w.toList ∈ takenNames) :
    isWord w (some (.name x)) = false := by
  simp only [isWord, decide_eq_false_iff_not]
  rintro rfl
  exact not_taken_of_variable hx hw

-- An operand without a sign, with what stands behind it.
theorem takes_signed {n : Nat} {mid mid' : List TokenKind} {e e' e'' : Expr}
    (hsign : isMark .sub ks.head? = false ∧ isMark .add ks.head? = false)
    (hprimary : Takes (primary n) o ks e mid) (hpost : Takes (postfixed n e) o mid e' mid')
    (hfilter : Takes (filtered n e') o mid' e'' left) : Takes (signed (n + 1) true) o ks e'' left := by
  refine (takes_takeMark_of_ne hsign.1).bind ?_
  simp only [Bool.false_eq_true, if_false]
  refine (takes_takeMark_of_ne hsign.2).bind ?_
  simp only [Bool.false_eq_true, if_false]
  exact hprimary.bind (hpost.bind hfilter)

theorem takes_postfixed (hc : endsOperand ks.head? = true) (n : Nat) (e : Expr) :
    Takes (postfixed (n + 1) e) o ks e ks := by
  refine takes_peek.bind ?_
  rcases endsOperand_iff.mp hc with hk | hk | hk | hk | hk | hk | hk <;> rw [hk] <;> exact takes_pure e

theorem takes_filtered (hc : endsOperand ks.head? = true) (n : Nat) (e : Expr) :
    Takes (filtered (n + 1) e) o ks e ks := by
  refine takes_peek.bind ?_
  rcases endsOperand_iff.mp hc with hk | hk | hk | hk | hk | hk | hk <;> rw [hk] <;> exact takes_pure e

theorem takes_primary_name (hx : constant? x = none) (n : Nat) :
    Takes (primary (n + 1)) o (.name x :: ks) (.name x) ks := by
  refine takes_peek.bind (takes_skip.bind ?_)
  simp only [hx]
  exact takes_pure _

-- A name that nothing follows.
theorem takes_signed_name (hx : isVariable x = true) (n : Nat) (hc : endsOperand ks.head? = true) :
    Takes (signed (n + 2) true) o (.name x :: ks) (.name x) ks :=
  takes_signed ⟨rfl, rfl⟩ (takes_primary_name (constant?_of_variable hx) n) (takes_postfixed hc n _)
    (takes_filtered hc n _)

-- Whether the items of a tuple are over where a part stands.
def endsTuple (stop : List String) (k : TokenKind) : Bool :=
  isTagEnd (some k) || isMark .rightParen (some k) || stop.any (isWord · (some k))

theorem takes_atTupleEnd (stop : List String) (k : TokenKind) :
    Takes (atTupleEnd stop) o (k :: ks) (endsTuple stop k) (k :: ks) :=
  takes_peek.bind (takes_pure _)

theorem takes_tupleItems {α : Type} {item : Reader α} {a : α} {stop : List String} {k : TokenKind}
    (hstart : endsTuple stop k = false) (h : Takes item o (k :: ks) a left)
    (hcomma : isMark .comma left.head? = false) (n : Nat) :
    Takes (tupleItems stop item (n + 1)) o (k :: ks) ([a], false) left := by
  refine (takes_atTupleEnd stop k).bind ?_
  simp only [hstart, Bool.false_eq_true, if_false]
  refine h.bind ((takes_takeMark_of_ne hcomma).bind ?_)
  simp only [Bool.false_eq_true, if_false]
  exact takes_pure _

-- An expression between parentheses, whatever follows.
theorem takes_primary_parens {k : TokenKind} {mid : List TokenKind} {e : Expr} {n : Nat}
    (hroom : bracketCost ≤ o.room) (hstart : endsTuple [] k = false)
    (h : Takes (expr (n + 1)) { o with room := o.room - bracketCost } (k :: mid) e
      (.mark .rightParen :: ks)) :
    Takes (primary (n + 2)) o (.mark .leftParen :: k :: mid) e ks := by
  have hitems : Takes (tupleItems [] (expr (n + 1)) (n + 1)) { o with room := o.room - bracketCost }
      (k :: mid) ([e], false) (.mark .rightParen :: ks) := takes_tupleItems hstart h rfl n
  refine takes_peek.bind (takes_skip.bind ((hitems.within hroom).bind ?_))
  exact (takes_pure _).bind ((takes_expectMark .rightParen).bind (takes_pure _))

theorem takes_primary_enclosed (hx : isVariable x = true) (hroom : bracketCost ≤ o.room) (n : Nat) :
    Takes (primary (n + 12)) o (Lexeme.kinds (Lexeme.enclosed x) ++ ks) (.name x) ks :=
  takes_primary_parens hroom rfl
    (takes_expr (takes_signed_name hx n rfl) (isWord_of_variable hx (by decide)) rfl)

theorem takes_signed_enclosed (hx : isVariable x = true) (hroom : bracketCost ≤ o.room) (n : Nat)
    (hc : endsOperand ks.head? = true) :
    Takes (signed (n + 13) true) o (Lexeme.kinds (Lexeme.enclosed x) ++ ks) (.name x) ks :=
  takes_signed ⟨rfl, rfl⟩ (takes_primary_enclosed hx hroom n) (takes_postfixed hc _ _)
    (takes_filtered hc _ _)

theorem takes_signed_filtered (hx : isVariable x = true) (hroom : bracketCost ≤ o.room) (n : Nat)
    (w : String) (hc : endsOperand ks.head? = true) :
    Takes (signed (n + 13) true) o (Lexeme.kinds (Lexeme.filtered x w) ++ ks) (filteredName x w)
      ks := by
  have hpost : Takes (postfixed (n + 12) (.name x)) o (.mark .pipe :: .name w.toList :: ks) (.name x)
      (.mark .pipe :: .name w.toList :: ks) := takes_peek.bind (takes_pure _)
  have hdotted : Takes (dottedName (n + 11) w.toList) o ks w.toList ks := by
    refine (takes_takeMark_of_ne (isMark_of_endsOperand hc (by decide))).bind ?_
    simp only [Bool.false_eq_true, if_false]
    exact takes_pure _
  have hfilter : Takes (filtered (n + 12) (.name x)) o (.mark .pipe :: .name w.toList :: ks)
      (filteredName x w) ks := by
    refine takes_peek.bind (takes_skip.bind ((takes_expectName _).bind (hdotted.bind ?_)))
    refine (takes_takeMark_of_ne (isMark_of_endsOperand hc (by decide))).bind ?_
    simp only [Bool.false_eq_true, if_false]
    exact (takes_pure _).bind (takes_filtered hc _ _)
  exact takes_signed ⟨rfl, rfl⟩ (takes_primary_enclosed hx hroom n) hpost hfilter

end Names

end BraceTemplate.Host.Reader

import BraceTemplate.Proofs.Tree.Takes

namespace BraceTemplate

namespace Host.Reader

section Parts

variable {o : Outlook} {ks left : List TokenKind} {x : Text}

theorem closes_of_isTagEnd {k : Option TokenKind} (hk : isTagEnd k = true) :
    closes k = true ∧ isMark .comma k = false := by
  unfold isTagEnd at hk
  split at hk <;> first | exact ⟨rfl, rfl⟩ | exact absurd hk Bool.false_ne_true

-- What stands in a tag up to its end.
theorem takes_tuple {n : Nat} {k : TokenKind} {mid : List TokenKind} {e : Expr}
    (h : Takes (expr (n + 1)) o (k :: mid) e ks) (hstart : endsTuple [] k = false)
    (hc : isTagEnd ks.head? = true) : Takes (tuple (n + 1)) o (k :: mid) e ks :=
  (takes_tupleItems hstart h (closes_of_isTagEnd hc).2 n).bind (takes_pure _)

theorem takes_plainTuple {stop : List String} {n : Nat} {k : TokenKind} {mid : List TokenKind}
    {e : Expr} (h : Takes (disjunction (n + 1)) o (k :: mid) e ks) (hstart : endsTuple stop k = false)
    (hc : isTagEnd ks.head? = true) : Takes (plainTuple stop (n + 1)) o (k :: mid) e ks :=
  (takes_tupleItems hstart h (closes_of_isTagEnd hc).2 n).bind (takes_pure _)

theorem takes_tuple_filtered (hx : isVariable x = true) (hroom : bracketCost ≤ o.room) (n : Nat)
    (w : String) (hc : isTagEnd ks.head? = true) :
    Takes (tuple (n + 22)) o (Lexeme.kinds (Lexeme.filtered x w) ++ ks) (filteredName x w) ks := by
  have hcloses := (closes_of_isTagEnd hc).1
  have hsigned := takes_signed_filtered hx hroom n w (endsOperand_of_closes hcloses)
  exact takes_tuple (takes_expr hsigned rfl hcloses) rfl hc

theorem takes_plainTuple_filtered (hx : isVariable x = true) (hroom : bracketCost ≤ o.room) (n : Nat)
    (w : String) (hc : isTagEnd ks.head? = true) :
    Takes (plainTuple ["recursive"] (n + 21)) o (Lexeme.kinds (Lexeme.filtered x w) ++ ks)
      (filteredName x w) ks := by
  have hcloses := (closes_of_isTagEnd hc).1
  have hsigned := takes_signed_filtered hx hroom n w (endsOperand_of_closes hcloses)
  exact takes_plainTuple (takes_disjunction hsigned rfl hcloses) rfl hc

theorem takes_plainTuple_enclosed (hx : isVariable x = true) (hroom : bracketCost ≤ o.room) (n : Nat)
    (hc : isTagEnd ks.head? = true) :
    Takes (plainTuple [] (n + 21)) o (Lexeme.kinds (Lexeme.enclosed x) ++ ks) (.name x) ks := by
  have hcloses := (closes_of_isTagEnd hc).1
  have hsigned := takes_signed_enclosed hx hroom n (endsOperand_of_closes hcloses)
  exact takes_plainTuple (takes_disjunction hsigned rfl hcloses) rfl hc

theorem takes_targetItem (hx : isVariable x = true) (n : Nat) :
    Takes (targetItem false (n + 1)) o (.name x :: ks) (.name x) ks :=
  (takes_primary_name (constant?_of_variable hx) n).bind (takes_pure _)

theorem takes_target {binder : Binder} (hb : binder.isValid = true) (n : Nat) :
    Takes (Reader.target false ["in"] (n + 2)) o
      (Lexeme.kinds (Lexeme.target binder) ++ .name "in".toList :: ks) (targetOf binder)
      (.name "in".toList :: ks) := by
  have hstart : ∀ {y : Text}, isVariable y = true → endsTuple ["in"] (.name y) = false :=
    fun {y} hy => by
      have hin : isWord "in" (some (.name y)) = false := isWord_of_variable hy (by decide)
      simp [endsTuple, isTagEnd, isMark, hin]
  have hlast : ∀ {v : Text} (m : Nat), isVariable v = true →
      Takes (tupleItems ["in"] (targetItem false (n + 2)) (m + 1)) o
        (.name v :: .name "in".toList :: ks) ([.name v], false) (.name "in".toList :: ks) :=
    fun m hv => takes_tupleItems (hstart hv) (takes_targetItem hv (n + 1)) rfl m
  cases binder with
  | value v => exact (hlast (n + 1) hb).bind (takes_pure _)
  | pair k v =>
      simp only [Binder.isValid, Bool.and_eq_true] at hb
      obtain ⟨⟨hk, hv⟩, -⟩ := hb
      have hfirst : Takes (tupleItems ["in"] (targetItem false (n + 2)) (n + 2)) o
          (.name k :: .mark .comma :: .name v :: .name "in".toList :: ks) ([.name k, .name v], true)
          (.name "in".toList :: ks) := by
        refine (takes_atTupleEnd ["in"] (.name k)).bind ?_
        simp only [hstart hk, Bool.false_eq_true, if_false]
        refine (takes_targetItem hk (n + 1)).bind ((takes_takeMark .comma).bind ?_)
        simp only [if_true]
        exact (hlast n hv).bind (takes_pure _)
      exact hfirst.bind (takes_pure _)

theorem takes_body {stop : List String} {n : Nat} {ns : List Node} (hroom : statementCost ≤ o.room)
    (h : Takes (nodes n stop) { o with room := o.room - statementCost } ks ns left) :
    Takes (body (n + 1) stop) o (.closeStatement :: ks) ns left :=
  (takes_takeMark_of_ne rfl).bind (takes_expectStatementEnd.bind (h.within hroom))

end Parts

-- The words that statements are continued and ended by.
def stopWords : List String := ["elif", "else", "endif", "endfor", "endwith"]

-- Where the nodes of a block end: with the template, or with a statement that starts with a word at
-- which they stop.
inductive Ends : List String → List TokenKind → List TokenKind → Prop where
  | template : Ends [] [] []
  | block (stop : List String) (w : String) (ks : List TokenKind) (hw : w ∈ stop)
      (hstop : stop ⊆ stopWords) :
      Ends stop (.openStatement :: .name w.toList :: ks) (.name w.toList :: ks)

theorem Ends.subset {stop : List String} {ks left : List TokenKind} (h : Ends stop ks left) :
    stop ⊆ stopWords := by
  cases h with
  | template => simp
  | block stop w ks hw hstop => exact hstop

theorem Ends.takes {stop : List String} {o : Outlook} {ks left : List TokenKind}
    (h : Ends stop ks left) (n : Nat) : Takes (nodes (n + 1) stop) o ks [] left := by
  cases h with
  | template => exact takes_peek.bind (takes_pure [])
  | block stop w ks hw hstop =>
      have hany : stop.any (isWord · (some (.name w.toList))) = true :=
        List.any_eq_true.mpr ⟨w, hw, by simp [isWord]⟩
      refine takes_peek.bind (takes_skip.bind (takes_peek.bind ?_))
      simp only [List.head?_cons, hany, if_true]
      exact takes_pure []

theorem statementKinds_test (w : String) (x : Text) (ks : List TokenKind) :
    statementKinds (Lexeme.test w x) ++ ks =
      .openStatement :: .name w.toList :: (Lexeme.kinds (Lexeme.enclosed x) ++ .closeStatement :: ks) := by
  have h : Lexeme.kinds (Lexeme.test w x) = .name w.toList :: Lexeme.kinds (Lexeme.enclosed x) := rfl
  simp [statementKinds, h]

theorem statementKinds_loop (x : Text) (binder : Binder) (ks : List TokenKind) :
    statementKinds (Lexeme.loop x binder) ++ ks =
      .openStatement :: .name "for".toList :: (Lexeme.kinds (Lexeme.target binder) ++
        .name "in".toList :: (Lexeme.kinds (Lexeme.filtered x (Lexeme.source binder)) ++
          .closeStatement :: ks)) := by
  have h : Lexeme.kinds (Lexeme.loop x binder) = .name "for".toList :: (Lexeme.kinds (Lexeme.target binder) ++
      .name "in".toList :: Lexeme.kinds (Lexeme.filtered x (Lexeme.source binder))) := by
    simp only [Lexeme.loop, Lexeme.kinds, Lexeme.word, List.filterMap_cons, Lexeme.kind?,
      List.filterMap_append]
  simp [statementKinds, h]

section Nodes

variable {o : Outlook} {ks mid left : List TokenKind} {stop : List String} {ns : List Node} {n : Nat}

-- Text in front of some nodes.
theorem takes_nodes_data (before : Text)
    (h : ∀ m, n ≤ m → Takes (nodes m stop) o ks ns left) :
    ∀ m, n + 1 ≤ m → Takes (nodes m stop) o (dataKinds before ++ ks) (dataNodes before ++ ns) left := by
  intro m hm
  unfold dataKinds dataNodes
  split
  · exact h m (by omega)
  · obtain ⟨m, rfl⟩ : ∃ k, m = k + 1 := ⟨m - 1, by omega⟩
    exact takes_peek.bind (takes_skip.bind ((h m (by omega)).bind (takes_pure _)))

theorem takes_nodes_output {x : Text} (hx : isVariable x = true) (hroom : bracketCost ≤ o.room)
    (w : String) (h : ∀ m, n ≤ m → Takes (nodes m stop) o ks ns left) :
    ∀ m, n + 23 ≤ m → Takes (nodes m stop) o (outputKinds (Lexeme.filtered x w) ++ ks)
      (.output (filteredName x w) :: ns) left := by
  intro m hm
  obtain ⟨m, rfl⟩ : ∃ k, m = k + 23 := ⟨m - 23, by omega⟩
  have hkinds : outputKinds (Lexeme.filtered x w) ++ ks =
      .openOutput :: (Lexeme.kinds (Lexeme.filtered x w) ++ .closeOutput :: ks) := by
    simp [outputKinds]
  rw [hkinds]
  refine takes_peek.bind (takes_skip.bind ((takes_tuple_filtered hx hroom m w rfl).bind ?_))
  exact takes_expectOutputEnd.bind ((h (m + 22) (by omega)).bind (takes_pure _))

-- A statement that no block stops at, and what follows it.
theorem takes_nodes_statement {w : String} {first : Node} (hstop : stop ⊆ stopWords)
    (hw : w ∉ stopWords)
    (hfirst : Takes (statement n) o (.name w.toList :: ks) [first] (.closeStatement :: mid))
    (h : Takes (nodes n stop) o mid ns left) :
    Takes (nodes (n + 1) stop) o (.openStatement :: .name w.toList :: ks) (first :: ns) left := by
  have hno : stop.any (isWord · (some (.name w.toList))) = false := by
    rw [List.any_eq_false]
    intro v hv
    have hne : w.toList ≠ v.toList := fun he => hw (String.toList_inj.mp he ▸ hstop hv)
    simpa [isWord] using hne
  refine takes_peek.bind (takes_skip.bind (takes_peek.bind ?_))
  simp only [List.head?_cons, hno, Bool.false_eq_true, if_false]
  exact hfirst.bind (takes_expectStatementEnd.bind (h.bind (takes_pure _)))

end Nodes

end Host.Reader

mutual

-- Fuel that is enough to read the nodes of a tree.
def Tree.weight : Tree → Nat
  | .done => 2
  | .chunk _ rest => rest.weight
  | .output _ rest => rest.weight + 30
  | .choose _ body more rest => body.weight + more.weight + rest.weight + 40
  | .each _ _ body rest => body.weight + rest.weight + 40

def Branches.weight : Branches → Nat
  | .done => 0
  | .otherwise body => body.weight + 10
  | .elseif _ body more => body.weight + more.weight + 40

end

open Host Reader

-- Where a tree stands, its nodes are read.
def Tree.Parses (t : Tree) : Prop :=
  ∀ {o : Outlook} {stop : List String} {ks left : List TokenKind} (before : Text),
    bracketCost + statementCost * t.blocks ≤ o.room → Ends stop ks left → ∀ m, t.weight ≤ m →
    Takes (Reader.nodes m stop) o (t.kinds before ++ ks) (t.nodes before) left

theorem Tree.room_of_le {o : Outlook} {b b' : Nat} (hroom : bracketCost + statementCost * b' ≤ o.room)
    (h : b ≤ b') : bracketCost + statementCost * b ≤ o.room :=
  (Nat.add_le_add_left (Nat.mul_le_mul_left _ h) _).trans hroom

section Statements

variable {o : Outlook} {ks mid left : List TokenKind} {x : Text} {body : Tree}

theorem Tree.Parses.takes_body (hbody : body.Parses) {stop : List String}
    (hroom : bracketCost + statementCost * (body.blocks + 1) ≤ o.room) (hend : Ends stop ks left)
    {m : Nat} (hm : body.weight + 1 ≤ m) :
    Takes (Reader.body m stop) o (.closeStatement :: (body.kinds [] ++ ks)) (body.nodes []) left := by
  obtain ⟨m, rfl⟩ : ∃ k, m = k + 1 := ⟨m - 1, by omega⟩
  rw [Nat.mul_succ] at hroom
  refine Reader.takes_body (by omega) (hbody [] ?_ hend m (by omega))
  change _ ≤ o.room - statementCost
  omega

end Statements

mutual

theorem Tree.parses (t : Tree) (ht : t.isValid = true) : t.Parses := by
  intro o stop ks left before hroom hend
  cases t with
  | done =>
      have h := takes_nodes_data (n := 1) before fun m hm => by
        obtain ⟨m, rfl⟩ : ∃ k, m = k + 1 := ⟨m - 1, by omega⟩
        exact hend.takes (o := o) m
      simpa [Tree.kinds, Tree.nodes, Tree.weight] using h
  | chunk s rest =>
      simp only [Tree.isValid, Bool.and_eq_true] at ht
      exact rest.parses ht.2 (before ++ s) hroom hend
  | output x rest =>
      simp only [Tree.isValid, Bool.and_eq_true] at ht
      have hbrackets : bracketCost ≤ o.room := by omega
      have hrest := takes_nodes_output ht.1 hbrackets "e" (rest.parses ht.2 [] hroom hend)
      intro m hm
      have h := takes_nodes_data before hrest m (by simp only [Tree.weight] at hm; omega)
      simpa [Tree.kinds, Tree.nodes] using h
  | choose x body more rest =>
      simp only [Tree.isValid, Bool.and_eq_true] at ht
      obtain ⟨⟨⟨hx, hbody⟩, hmore⟩, hrest⟩ := ht
      have hblocks : max (body.blocks + 1) more.blocks ≤ (Tree.choose x body more rest).blocks :=
        le_max_left _ _
      have hconditional : ∀ {m}, body.weight + more.weight + 30 ≤ m → Takes (conditional m) o
          _ _ _ := fun hm => more.takes_conditional hmore hx (body.parses hbody)
            (Tree.room_of_le hroom hblocks) (rest.kinds [] ++ ks) hm
      have hstatement : ∀ m, body.weight + more.weight + rest.weight + 32 ≤ m →
          Takes (Reader.nodes m stop) o
            (statementKinds (Lexeme.test "if" x) ++ (body.kinds [] ++ (more.kinds ++
              (statementKinds [Lexeme.word "endif"] ++ (rest.kinds [] ++ ks)))))
            (.conditional ((.name x, body.nodes []) :: more.tests) more.fallback :: rest.nodes [])
            left := by
        intro m hm
        obtain ⟨m, rfl⟩ : ∃ k, m = k + 2 := ⟨m - 2, by omega⟩
        rw [statementKinds_test]
        refine takes_nodes_statement (w := "if") hend.subset (by decide) ?_
          (rest.parses hrest [] (Tree.room_of_le hroom (le_max_right _ _)) hend (m + 1) (by omega))
        refine (takes_expectName _).bind ?_
        simp only [if_true]
        exact (hconditional (m := m) (by omega)).bind (takes_pure _)
      intro m hm
      have h := takes_nodes_data before hstatement m (by simp only [Tree.weight] at hm; omega)
      simpa [Tree.kinds, Tree.nodes] using h
  | each x binder body rest =>
      simp only [Tree.isValid, Bool.and_eq_true] at ht
      obtain ⟨⟨⟨hx, hbinder⟩, hbody⟩, hrest⟩ := ht
      have hbrackets : bracketCost ≤ o.room := by omega
      have hbodyRoom : bracketCost + statementCost * (body.blocks + 1) ≤ o.room :=
        Tree.room_of_le hroom (le_max_left _ _)
      have hstatement : ∀ m, body.weight + rest.weight + 32 ≤ m →
          Takes (Reader.nodes m stop) o
            (statementKinds (Lexeme.loop x binder) ++ (body.kinds [] ++
              (statementKinds [Lexeme.word "endfor"] ++ (rest.kinds [] ++ ks))))
            (.loop (targetOf binder) (filteredName x (Lexeme.source binder)) none (body.nodes []) [] ::
              rest.nodes []) left := by
        intro m hm
        obtain ⟨m, rfl⟩ : ∃ k, m = k + 23 := ⟨m - 23, by omega⟩
        rw [statementKinds_loop]
        refine takes_nodes_statement (w := "for") hend.subset (by decide) ?_
          (rest.parses hrest [] (Tree.room_of_le hroom (le_max_right _ _)) hend (m + 22) (by omega))
        refine (takes_expectName _).bind ?_
        rw [if_neg (by decide), if_pos rfl]
        refine (takes_target hbinder (m + 19)).bind ((takes_expectWord "in").bind ?_)
        refine (takes_plainTuple_filtered hx hbrackets m _ rfl).bind ?_
        refine (takes_takeWord_of_ne rfl).bind ?_
        simp only [Bool.false_eq_true, if_false]
        refine (takes_pure none).bind ?_
        refine (Tree.Parses.takes_body (body.parses hbody) hbodyRoom
          (.block _ "endfor" _ (by decide) (by decide)) (by omega)).bind ?_
        refine (takes_takeWord_of_ne rfl).bind ?_
        simp only [Bool.false_eq_true, if_false]
        exact takes_skip.bind (takes_pure _)
      intro m hm
      have h := takes_nodes_data before hstatement m (by simp only [Tree.weight] at hm; omega)
      simpa [Tree.kinds, Tree.nodes] using h

theorem Branches.takes_conditional (more : Branches) (hmore : more.isValid = true) {x : Text}
    (hx : isVariable x = true) {body : Tree} (hbody : body.Parses) {o : Outlook}
    (hroom : bracketCost + statementCost * max (body.blocks + 1) more.blocks ≤ o.room)
    (ks : List TokenKind) {m : Nat} (hm : body.weight + more.weight + 30 ≤ m) :
    Takes (conditional m) o
      (Lexeme.kinds (Lexeme.enclosed x) ++ .closeStatement ::
        (body.kinds [] ++ (more.kinds ++ (statementKinds [Lexeme.word "endif"] ++ ks))))
      ((.name x, body.nodes []) :: more.tests, more.fallback) (.closeStatement :: ks) := by
  obtain ⟨m, rfl⟩ : ∃ k, m = k + 23 := ⟨m - 23, by omega⟩
  have hbrackets : bracketCost ≤ o.room := by omega
  have hbodyRoom : bracketCost + statementCost * (body.blocks + 1) ≤ o.room :=
    Tree.room_of_le hroom (le_max_left _ _)
  have hmoreRoom : bracketCost + statementCost * more.blocks ≤ o.room :=
    Tree.room_of_le hroom (le_max_right _ _)
  have htest : ∀ ks, Takes (plainTuple [] (m + 22)) o
      (Lexeme.kinds (Lexeme.enclosed x) ++ .closeStatement :: ks) (.name x)
      (.closeStatement :: ks) := fun ks => takes_plainTuple_enclosed hx hbrackets (m + 1) rfl
  have hinner : ∀ {w : String} (ks), w ∈ ["elif", "else", "endif"] →
      Takes (Reader.body (m + 22) ["elif", "else", "endif"]) o
        (.closeStatement :: (body.kinds [] ++ .openStatement :: .name w.toList :: ks))
        (body.nodes []) (.name w.toList :: ks) := fun ks hw =>
    hbody.takes_body hbodyRoom (.block _ _ ks hw (by decide)) (by omega)
  cases more with
  | done =>
      refine (htest _).bind ((hinner (w := "endif") _ (by decide)).bind ?_)
      refine (takes_takeWord_of_ne rfl).bind ?_
      simp only [Bool.false_eq_true, if_false]
      refine (takes_takeWord_of_ne rfl).bind ?_
      simp only [Bool.false_eq_true, if_false]
      exact takes_skip.bind (takes_pure _)
  | otherwise other =>
      have hother : Takes (Reader.body (m + 22) ["endif"]) o
          (.closeStatement :: (other.kinds [] ++ (statementKinds [Lexeme.word "endif"] ++ ks)))
          (other.nodes []) (.name "endif".toList :: .closeStatement :: ks) :=
        Tree.Parses.takes_body (other.parses hmore) hmoreRoom (.block _ _ _ (by decide) (by decide))
          (by simp only [Branches.weight] at hm; omega)
      refine (htest _).bind ((hinner (w := "else") _ (by decide)).bind ?_)
      refine (takes_takeWord_of_ne rfl).bind ?_
      simp only [Bool.false_eq_true, if_false]
      refine (takes_takeWord "else").bind ?_
      simp only [if_true]
      exact hother.bind (takes_skip.bind (takes_pure _))
  | elseif y other more =>
      simp only [Branches.isValid, Bool.and_eq_true] at hmore
      obtain ⟨⟨hy, hother⟩, hmore⟩ := hmore
      have hrest := more.takes_conditional hmore hy (other.parses hother) hmoreRoom ks
        (m := m + 22) (by simp only [Branches.weight] at hm; omega)
      have hkinds : (Branches.elseif y other more).kinds ++
          (statementKinds [Lexeme.word "endif"] ++ ks) =
          .openStatement :: .name "elif".toList :: (Lexeme.kinds (Lexeme.enclosed y) ++ .closeStatement ::
            (other.kinds [] ++ (more.kinds ++ (statementKinds [Lexeme.word "endif"] ++ ks)))) := by
        simp only [Branches.kinds, statementKinds_test, List.cons_append, List.append_assoc]
      rw [hkinds]
      refine (htest _).bind ((hinner (w := "elif") _ (by decide)).bind ?_)
      refine (takes_takeWord "elif").bind ?_
      simp only [if_true]
      exact hrest.bind (takes_pure _)

end

end BraceTemplate

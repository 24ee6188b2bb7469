import BraceTemplate.Proofs.Tree.Parse

namespace BraceTemplate

namespace Host

section Sound

variable {ls : List Lexeme} {s : Text}

theorem return_not_mem_statementOf (h : ls.all Lexeme.isSound = true) : '\r' ∉ statementOf ls := by
  have hno : '\r' ∉ Lexeme.spellAll ls := fun hm =>
    absurd (Lexeme.not_isMarkup_of_mem h hm) (by decide)
  simp [statementOf, statement, statementOpen, statementClose, hno]

theorem return_not_mem_outputOf (h : ls.all Lexeme.isSound = true) : '\r' ∉ outputOf ls := by
  have hno : '\r' ∉ Lexeme.spellAll ls := fun hm =>
    absurd (Lexeme.not_isMarkup_of_mem h hm) (by decide)
  simp [outputOf, output, outputOpen, outputClose, hno]

theorem normalNewlines_of_not_mem (h : '\r' ∉ s) : normalNewlines s = s := by
  induction s with
  | nil => rfl
  | cons c rest ih =>
      simp only [List.mem_cons, not_or] at h
      rw [normalNewlines, if_neg (Ne.symm h.1), ih h.2]
      exact fun _ hc => absurd hc.symm h.1

end Sound

namespace Reader

theorem Faultless.append {ks ks' : List TokenKind} (h : Faultless ks) (h' : Faultless ks') :
    Faultless (ks ++ ks') := fun e he =>
  (List.mem_append.mp he).elim (h e) (h' e)

theorem faultless_lexemes (ls : List Lexeme) : Faultless (Lexeme.kinds ls) := by
  intro e he
  obtain ⟨l, -, hl⟩ := List.mem_filterMap.mp he
  cases l <;> simp [Lexeme.kind?] at hl

theorem faultless_data (s : Text) : Faultless (dataKinds s) := by
  intro e he
  unfold dataKinds at he
  split at he <;> simp at he

theorem faultless_statement (ls : List Lexeme) : Faultless (statementKinds ls) := by
  intro e he
  simp [statementKinds, faultless_lexemes ls e] at he

theorem faultless_output (ls : List Lexeme) : Faultless (outputKinds ls) := by
  intro e he
  simp [outputKinds, faultless_lexemes ls e] at he

end Reader

-- A text without returns in it is read as the nodes that its parts are taken for.
theorem nodesOfText_eq_ok {s : Text} {ks : List TokenKind} {ns : List Node} (hreturn : '\r' ∉ s)
    (hscan : (Token.scan s).map (·.kind) = ks) (hfaultless : Reader.Faultless ks)
    (h : Reader.Takes (Reader.nodes (20 * ks.length + 20) []) ⟨templateRoom, Reader.lineEndsIn s⟩ ks ns []) :
    nodesOfText s = .ok ns := by
  subst hscan
  have hsound : Reader.expectSound (Token.scan s) = pure () := Reader.expectSound_eq_pure hfaultless
  obtain ⟨rest, hrest, hrun⟩ := (h hfaultless).2 _ rfl
  obtain rfl := List.map_eq_nil_iff.mp hrest
  rw [List.length_map] at hrun
  simp only [nodesOfText, normalNewlines_of_not_mem hreturn, hsound, pure_bind, hrun]
  rfl

end Host

open Host Lexeme

mutual

theorem Tree.return_not_mem_host (t : Tree) (ht : t.isValid = true) : '\r' ∉ t.host := by
  cases t with
  | done => simp [Tree.host]
  | chunk s rest =>
      simp only [Tree.isValid, Bool.and_eq_true] at ht
      have hs : '\r' ∉ s := Tag.not_mem_of_chunk ht.1 (by decide)
      simp [Tree.host, hs, rest.return_not_mem_host ht.2]
  | output x rest =>
      simp only [Tree.isValid, Bool.and_eq_true] at ht
      have htag : '\r' ∉ outputOf (filtered x "e") :=
        return_not_mem_outputOf (sound_filtered ht.1 (by decide))
      simp [Tree.host, htag, rest.return_not_mem_host ht.2]
  | choose x body more rest =>
      simp only [Tree.isValid, Bool.and_eq_true] at ht
      obtain ⟨⟨⟨hx, hbody⟩, hmore⟩, hrest⟩ := ht
      have htag : '\r' ∉ statementOf (test "if" x) :=
        return_not_mem_statementOf (sound_test hx (by decide))
      have hend : '\r' ∉ statementOf [word "endif"] := by decide
      simp [Tree.host, htag, hend, body.return_not_mem_host hbody, more.return_not_mem_host hmore,
        rest.return_not_mem_host hrest]
  | each x binder body rest =>
      simp only [Tree.isValid, Bool.and_eq_true] at ht
      obtain ⟨⟨⟨hx, hbinder⟩, hbody⟩, hrest⟩ := ht
      have htag := return_not_mem_statementOf (sound_loop hx hbinder)
      have hend : '\r' ∉ statementOf [word "endfor"] := by decide
      simp [Tree.host, htag, hend, body.return_not_mem_host hbody, rest.return_not_mem_host hrest]

theorem Branches.return_not_mem_host (b : Branches) (hb : b.isValid = true) : '\r' ∉ b.host := by
  cases b with
  | done => simp [Branches.host]
  | otherwise body =>
      have htag : '\r' ∉ statementOf [word "else"] := by decide
      simp [Branches.host, htag, body.return_not_mem_host hb]
  | elseif x body more =>
      simp only [Branches.isValid, Bool.and_eq_true] at hb
      obtain ⟨⟨hx, hbody⟩, hmore⟩ := hb
      have htag : '\r' ∉ statementOf (test "elif" x) :=
        return_not_mem_statementOf (sound_test hx (by decide))
      simp [Branches.host, htag, body.return_not_mem_host hbody, more.return_not_mem_host hmore]

end

namespace Host.Reader

mutual

theorem faultless_tree (t : Tree) (before : Text) : Faultless (t.kinds before) := by
  have hdata := faultless_data before
  cases t with
  | done => exact hdata
  | chunk s rest => exact faultless_tree rest _
  | output x rest => exact hdata.append ((faultless_output _).append (faultless_tree rest _))
  | choose x body more rest =>
      exact hdata.append ((faultless_statement _).append ((faultless_tree body _).append
        ((faultless_branches more).append ((faultless_statement _).append (faultless_tree rest _)))))
  | each x binder body rest =>
      exact hdata.append ((faultless_statement _).append ((faultless_tree body _).append
        ((faultless_statement _).append (faultless_tree rest _))))

theorem faultless_branches (b : Branches) : Faultless b.kinds := by
  cases b with
  | done => simp [Faultless, Branches.kinds]
  | otherwise body => exact (faultless_statement _).append (faultless_tree body _)
  | elseif x body more =>
      exact (faultless_statement _).append ((faultless_tree body _).append (faultless_branches more))

end

end Host.Reader

theorem length_statementKinds (ls : List Lexeme) :
    (statementKinds ls).length = (Lexeme.kinds ls).length + 2 := by
  simp [statementKinds]

theorem length_outputKinds (ls : List Lexeme) :
    (outputKinds ls).length = (Lexeme.kinds ls).length + 2 := by
  simp [outputKinds]

mutual

-- The fuel that a reading starts with is enough: each node takes up some parts.
theorem Tree.weight_le (t : Tree) (before : Text) : t.weight ≤ 20 * (t.kinds before).length + 2 := by
  cases t with
  | done => simp [Tree.weight]
  | chunk s rest => exact rest.weight_le _
  | output x rest =>
      have hrest := rest.weight_le []
      simp only [Tree.weight, Tree.kinds, List.length_append, length_outputKinds]
      omega
  | choose x body more rest =>
      have hbody := body.weight_le []
      have hrest := rest.weight_le []
      have hmore := more.weight_le
      simp only [Tree.weight, Tree.kinds, List.length_append, length_statementKinds]
      omega
  | each x binder body rest =>
      have hbody := body.weight_le []
      have hrest := rest.weight_le []
      simp only [Tree.weight, Tree.kinds, List.length_append, length_statementKinds]
      omega

theorem Branches.weight_le (b : Branches) : b.weight ≤ 20 * b.kinds.length := by
  cases b with
  | done => simp [Branches.weight]
  | otherwise body =>
      have hbody := body.weight_le []
      simp only [Branches.weight, Branches.kinds, List.length_append, length_statementKinds]
      omega
  | elseif x body more =>
      have hbody := body.weight_le []
      have hmore := more.weight_le
      have htest : (Lexeme.kinds (test "elif" x)).length = 4 := rfl
      simp only [Branches.weight, Branches.kinds, List.length_append, length_statementKinds]
      omega

end

-- Where there is room for the blocks of a tree, the host reads the text that it is compiled into as its
-- nodes.
theorem Tree.nodesOfText_host {t : Tree} (ht : t.isValid = true)
    (hroom : Reader.bracketCost + Reader.statementCost * t.blocks ≤ templateRoom) :
    nodesOfText t.host = .ok (t.nodes []) := by
  have hweight := t.weight_le []
  have hparses := t.parses ht (o := ⟨templateRoom, Reader.lineEndsIn t.host⟩) [] hroom .template
    (20 * (t.kinds []).length + 20) (by omega)
  rw [List.append_nil] at hparses
  exact nodesOfText_eq_ok (t.return_not_mem_host ht) (Tree.scan_host ht) (Reader.faultless_tree t []) hparses

end BraceTemplate

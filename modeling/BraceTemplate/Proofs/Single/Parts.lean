import BraceTemplate.Proofs.Tree.Names

namespace BraceTemplate.Text

-- A text that has no blank at either end.
structure Trimmed (s : Text) : Prop where
  start : ∀ c ∈ s.head?, isBlank c = false
  stop : ∀ c ∈ s.getLast?, isBlank c = false

instance (s : Text) : Decidable s.Trimmed :=
  decidable_of_iff (s.head?.any isBlank = false ∧ s.getLast?.any isBlank = false) (by
    simp only [Option.any_eq_false]
    exact ⟨fun h => ⟨h.1, h.2⟩, fun h => ⟨h.start, h.stop⟩⟩)

section Trim

variable {s : Text}

theorem dropTail_eq_self_of_getLast? {p : Char → Bool} (h : ∀ c ∈ s.getLast?, p c = false) :
    dropTail p s = s := by
  rcases s.eq_nil_or_concat with rfl | ⟨init, last, rfl⟩
  · rfl
  · have hlast : dropTail p [last] = [last] := by simp [dropTail, h last (by simp)]
    rw [List.concat_eq_append, dropTail_append (by simp [hlast]), hlast]

theorem trimLeft_eq_self (h : ∀ c ∈ s.head?, isBlank c = false) : trimLeft s = s := by
  cases s with
  | nil => rfl
  | cons c s => exact trimLeft_cons_of_not_blank (h c rfl) s

theorem Trimmed.trim (h : s.Trimmed) : Text.trim s = s := by
  rw [Text.trim, trimLeft_eq_self h.start, trimRight, dropTail_eq_self_of_getLast? h.stop]

-- Blanks before a text go, whatever it ends with.
theorem trimLeft_append_blanks {gap : Text} (hgap : ∀ c ∈ gap, isBlank c = true) (s : Text) :
    trimLeft (gap ++ s) = trimLeft s := by
  rw [trimLeft, List.dropWhile_append_of_pos hgap, trimLeft]

theorem Trimmed.trim_between (h : s.Trimmed) (hs : s ≠ []) {before behind : Text}
    (hbefore : ∀ c ∈ before, isBlank c = true) (hbehind : ∀ c ∈ behind, isBlank c = true) :
    Text.trim (before ++ (s ++ behind)) = s := by
  have hstart : ∀ c ∈ (s ++ behind).head?, isBlank c = false := by
    obtain ⟨c, t, rfl⟩ := List.exists_cons_of_ne_nil hs
    exact h.start
  rw [Text.trim, trimLeft_append_blanks hbefore, trimLeft_eq_self hstart, trimRight,
    dropTail_append_of_all s hbehind, dropTail_eq_self_of_getLast? h.stop]

theorem trimStatementEnd_eq_self (h : ∀ c ∈ s.getLast?, isBlank c = false)
    (hsemicolon : s.getLast? ≠ some ';') : trimStatementEnd s = s := by
  have hkept : trimRight s = s := dropTail_eq_self_of_getLast? h
  simp only [trimStatementEnd, hkept, if_neg hsemicolon]

end Trim

section Split

variable {sep : Char}

theorem split_append_cons {s : Text} (hs : sep ∉ s) (t : Text) :
    split sep (s ++ sep :: t) = s :: split sep t := by
  induction s with
  | nil => simp [split]
  | cons c s ih =>
      simp only [List.mem_cons, not_or] at hs
      simp [split, Ne.symm hs.1, ih hs.2]

theorem join_cons_cons (piece next : Text) (rest : List Text) :
    join [sep] (piece :: next :: rest) = piece ++ sep :: join [sep] (next :: rest) := by
  rw [join.eq_3 _ _ _ (by simp), List.append_assoc, List.singleton_append]

theorem join_cons (piece : Text) (rest : List Text) :
    join [sep] (piece :: rest) = piece ++ rest.flatMap (sep :: ·) := by
  induction rest generalizing piece with
  | nil => simp [join]
  | cons next rest ih => rw [join_cons_cons, ih next, List.flatMap_cons, List.cons_append]

-- Pieces that are joined are found again, unless the mark between them is in one of them.
theorem split_join {pieces : List Text} (hne : pieces ≠ []) (hsep : ∀ piece ∈ pieces, sep ∉ piece) :
    split sep (join [sep] pieces) = pieces := by
  induction pieces with
  | nil => exact absurd rfl hne
  | cons piece rest ih =>
      have hpiece := hsep piece (by simp)
      cases rest with
      | nil => exact split_eq_singleton hpiece
      | cons next rest =>
          rw [join_cons_cons, split_append_cons hpiece,
            ih (by simp) fun other hm => hsep other (List.mem_cons_of_mem _ hm)]

theorem split_ne_nil (sep : Char) (s : Text) : split sep s ≠ [] := by
  cases s with
  | nil => simp [split]
  | cons c s =>
      rw [split]
      split
      · simp
      · split <;> simp

theorem join_split (sep : Char) (s : Text) : join [sep] (split sep s) = s := by
  induction s with
  | nil => rfl
  | cons c s ih =>
      obtain ⟨piece, rest, hsplit⟩ := List.exists_cons_of_ne_nil (split_ne_nil sep s)
      rw [hsplit] at ih
      rw [split]
      split
      · next hc => rw [hsplit, join_cons_cons, ih, hc, List.nil_append]
      · simp only [hsplit]
        cases rest with
        | nil => simpa [join] using ih
        | cons next rest => simpa [join] using ih

theorem not_mem_of_mem_split {s piece : Text} (h : piece ∈ split sep s) : sep ∉ piece := by
  induction s generalizing piece with
  | nil => simp_all [split]
  | cons c s ih =>
      obtain ⟨first, rest, hsplit⟩ := List.exists_cons_of_ne_nil (split_ne_nil sep s)
      rw [hsplit] at ih
      rw [split] at h
      split at h
      · rcases List.mem_cons.mp h with rfl | h
        · simp
        · exact ih (hsplit ▸ h)
      · next hc =>
        simp only [hsplit, List.mem_cons] at h
        rcases h with rfl | h
        · have hfirst : sep ∉ first := ih (by simp)
          simpa [Ne.symm hc] using hfirst
        · exact ih (List.mem_cons_of_mem _ h)

theorem mem_join {pieces : List Text} {c : Char} (h : c ∈ join [sep] pieces) :
    c = sep ∨ ∃ piece ∈ pieces, c ∈ piece := by
  induction pieces with
  | nil => simp [join] at h
  | cons piece rest ih =>
      cases rest with
      | nil => exact .inr ⟨piece, by simp, h⟩
      | cons next rest =>
          rw [join_cons_cons, List.mem_append, List.mem_cons] at h
          rcases h with h | h | h
          · exact .inr ⟨piece, by simp, h⟩
          · exact .inl h
          · exact (ih h).imp_right fun ⟨other, hm, hc⟩ => ⟨other, List.mem_cons_of_mem _ hm, hc⟩

end Split

end BraceTemplate.Text

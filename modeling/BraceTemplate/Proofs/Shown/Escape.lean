import BraceTemplate.Text.Escape

namespace BraceTemplate

-- The texts that stand for the characters with a meaning in markup.
def entities : List Text :=
  ["&amp;".toList, "&lt;".toList, "&gt;".toList, "&#34;".toList, "&#39;".toList]

-- A text with each entity read as the character that it stands for, from the left and once.
def unescape : Text → Text
  | '&' :: 'a' :: 'm' :: 'p' :: ';' :: rest => '&' :: unescape rest
  | '&' :: 'l' :: 't' :: ';' :: rest => '<' :: unescape rest
  | '&' :: 'g' :: 't' :: ';' :: rest => '>' :: unescape rest
  | '&' :: '#' :: '3' :: '4' :: ';' :: rest => '"' :: unescape rest
  | '&' :: '#' :: '3' :: '9' :: ';' :: rest => '\'' :: unescape rest
  | c :: rest => c :: unescape rest
  | [] => []

-- A text that holds no markup: no tag and no quoted value begins or ends in it, and where it has an
-- ampersand there is one of the entities.
structure Inert (u : Text) : Prop where
  free : ∀ c ∈ ['<', '>', '"', '\''], c ∉ u
  entity : ∀ t, '&' :: t <:+ u → ∃ e ∈ entities, e <+: '&' :: t

-- A character with a meaning in markup is written as an entity, any other as it is.
theorem escapeChar_entity_or_self (c : Char) :
    (∃ body, escapeChar c = '&' :: body ∧ '&' :: body ∈ entities) ∨
      c ∉ ['&', '<', '>', '"', '\''] ∧ escapeChar c = [c] := by
  by_cases hc : c ∈ ['&', '<', '>', '"', '\'']
  · left
    have hspelt : ∀ c ∈ ['&', '<', '>', '"', '\''],
        escapeChar c = '&' :: (escapeChar c).tail ∧ escapeChar c ∈ entities := by decide
    obtain ⟨heq, hmem⟩ := hspelt c hc
    exact ⟨_, heq, heq ▸ hmem⟩
  · right
    refine ⟨hc, ?_⟩
    simp only [List.mem_cons, List.not_mem_nil, or_false, not_or] at hc
    unfold escapeChar
    split <;> simp_all

theorem unescape_cons_of_ne {c : Char} (hc : c ≠ '&') (s : Text) :
    unescape (c :: s) = c :: unescape s := by
  rw [unescape] <;> simp_all

-- What stands for a character is read off before anything behind it is.
theorem unescape_escapeChar_append (c : Char) (s : Text) :
    unescape (escapeChar c ++ s) = c :: unescape s := by
  unfold escapeChar
  split
  · rfl
  · rfl
  · rfl
  · rfl
  · rfl
  · next hamp _ _ _ _ => exact unescape_cons_of_ne hamp s

theorem unescape_escape (s : Text) : unescape (escape s) = s := by
  induction s with
  | nil => rfl
  | cons c s ih =>
      rw [escape, List.flatMap_cons, unescape_escapeChar_append]
      exact congrArg (c :: ·) ih

theorem inert_nil : Inert [] where
  free _ _ := List.not_mem_nil
  entity _ h := by simp at h

theorem Inert.cons {u : Text} (h : Inert u) {c : Char} (hc : c ∉ ['&', '<', '>', '"', '\'']) :
    Inert (c :: u) where
  free d hd hm := by
    rcases List.mem_cons.mp hm with rfl | hm
    · exact hc (List.mem_cons_of_mem _ hd)
    · exact h.free d hd hm
  entity t ht := by
    rcases List.suffix_cons_iff.mp ht with heq | ht
    · exact absurd (List.mem_cons.mpr (.inl (List.cons.inj heq).1.symm)) hc
    · exact h.entity t ht

-- An entity and what stands behind it: no other ampersand is in it.
theorem Inert.entity_append {u body : Text} (h : Inert u) (he : '&' :: body ∈ entities) :
    Inert ('&' :: (body ++ u)) := by
  have hrest : Inert (body ++ u) := by
    have hplain : ∀ e ∈ entities, ∀ c ∈ e.tail, c ∉ ['&', '<', '>', '"', '\''] := by decide
    have hbody := hplain _ he
    simp only [List.tail_cons] at hbody
    clear he hplain
    induction body with
    | nil => exact h
    | cons c body ih =>
        exact (ih fun d hd => hbody d (List.mem_cons_of_mem _ hd)).cons (hbody c List.mem_cons_self)
  refine ⟨fun c hc hm => ?_, fun t ht => ?_⟩
  · rcases List.mem_cons.mp hm with rfl | hm
    · exact absurd hc (by decide)
    · exact hrest.free c hc hm
  · rcases List.suffix_cons_iff.mp ht with heq | ht
    · exact ⟨_, he, heq ▸ List.prefix_append ('&' :: body) u⟩
    · exact hrest.entity t ht

theorem Inert.escapeChar_append {u : Text} (h : Inert u) (c : Char) : Inert (escapeChar c ++ u) := by
  rcases escapeChar_entity_or_self c with ⟨body, heq, he⟩ | ⟨hc, hself⟩
  · rw [heq, List.cons_append]
    exact h.entity_append he
  · rw [hself, List.singleton_append]
    exact h.cons hc

theorem inert_escape (s : Text) : Inert (escape s) := by
  induction s with
  | nil => exact inert_nil
  | cons c s ih =>
      rw [escape, List.flatMap_cons]
      exact ih.escapeChar_append c

end BraceTemplate

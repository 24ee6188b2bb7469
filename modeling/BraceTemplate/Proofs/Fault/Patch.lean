import BraceTemplate.Proofs.Fault.Basic
import BraceTemplate.Proofs.Insertion.Insertable

namespace BraceTemplate

open Text Segment

-- A text that closes no group, and ends in one that opens none and has a mark in it.
structure Text.Sealed (mark : Char) (s : Text) : Prop where
  closing : '\x7d' ∉ s
  exists_tail : ∃ tail, tail <:+ s ∧ '\x7b' ∉ tail ∧ mark ∈ tail

-- A text with some parts of it put in the place of others.
inductive Patched (q : Text → Prop) : Text → Text → Prop where
  | nil : Patched q [] []
  | keep (c : Char) {s t : Text} : Patched q s t → Patched q (c :: s) (c :: t)
  | patch (old : Text) {new s t : Text} : q new → Patched q s t → Patched q (old ++ s) (new ++ t)

theorem Text.Sealed.mem {mark : Char} {s : Text} (h : Sealed mark s) : mark ∈ s := by
  obtain ⟨tail, htail, -, hmark⟩ := h.exists_tail
  exact htail.subset hmark

-- The mark stands behind every brace that is opened.
theorem Text.Sealed.mem_behind {mark : Char} {a b : Text} (h : Sealed mark (a ++ '\x7b' :: b)) :
    mark ∈ b := by
  obtain ⟨tail, htail, hopen, hmark⟩ := h.exists_tail
  rcases List.suffix_or_suffix_of_suffix htail (List.suffix_append a ('\x7b' :: b)) with h | h
  · rcases List.suffix_cons_iff.mp h with rfl | h
    · exact absurd List.mem_cons_self hopen
    · exact h.subset hmark
  · exact absurd (h.subset List.mem_cons_self) hopen

section Patched

variable {mark : Char} {s t : Text}

-- What is sealed cannot lie at the front of a group without its mark.
theorem Text.not_prefix_append {w new : Text} (hclosing : '\x7d' ∉ new) (hmem : mark ∈ new)
    (hmark : mark ∉ w) (t : Text) : ¬ w ++ ['\x7d'] <+: new ++ t := by
  intro h
  rcases List.prefix_or_prefix_of_prefix h (List.prefix_append new t) with h | h
  · exact hclosing (h.subset (by simp))
  · rcases List.mem_append.mp (h.subset hmem) with hm | hm
    · exact hmark hm
    · rw [List.mem_singleton] at hm
      exact hclosing (hm ▸ hmem)

theorem Patched.prefix_group (h : Patched (Sealed mark) s t) {w : Text} (hmark : mark ∉ w)
    (hw : w ++ ['\x7d'] <+: t) : w ++ ['\x7d'] <+: s := by
  induction h generalizing w with
  | nil => exact hw
  | keep c _ ih =>
      cases w with
      | nil =>
          rw [List.nil_append, List.cons_prefix_cons] at hw ⊢
          exact ⟨hw.1, List.nil_prefix⟩
      | cons d w =>
          rw [List.cons_append, List.cons_prefix_cons] at hw ⊢
          exact ⟨hw.1, ih (List.not_mem_of_not_mem_cons hmark) hw.2⟩
  | patch old hnew _ _ => exact absurd hw (not_prefix_append hnew.closing hnew.mem hmark _)

-- A group without the mark of the patches was there before them.
theorem Patched.infix_group (h : Patched (Sealed mark) s t) {body : Text} (hmark : mark ∉ body)
    (hbody : (Segment.group body).spell <:+: t) : (Segment.group body).spell <:+: s := by
  induction h with
  | nil => exact hbody
  | keep c h ih =>
      rw [spell, List.infix_cons_iff, List.cons_prefix_cons] at hbody ⊢
      exact hbody.imp (fun hfront => ⟨hfront.1, h.prefix_group hmark hfront.2⟩) ih
  | patch old hnew _ ih =>
      rcases infix_append_cases hbody with ⟨a, b, rfl, hb⟩ | hbody
      · have hclosing : '\x7d' ∉ b := fun hm =>
          hnew.closing (List.mem_append_right _ (List.mem_cons_of_mem _ hm))
        exact absurd hb (not_prefix_append hclosing hnew.mem_behind hmark _)
      · exact (ih hbody).trans (List.suffix_append _ _).isInfix

end Patched

-- A placeholder is marked by its hash signs.
theorem Vault.patched_bare (s : Text) : Patched (Sealed '#') s (bare s) := by
  refine Piece.cut_induction consumes_find
    (motive := fun _ s pieces => Patched (Sealed '#') s (bareOf pieces)) ?_ ?_ ?_ none s
  · exact fun _ => .nil
  · exact fun _ c _ _ ih => .keep c ih
  · intro before s content after hf ih
    obtain ⟨rest, rfl, old, rfl⟩ := suffix_of_find hf
    have hclosed := braceFree_iff_not_mem.mp (braceFree_placeholder content)
    have hmark : '#' ∈ placeholder content := List.mem_append_right _ (List.mem_singleton_self '#')
    exact .patch ('\x7b' :: old) ⟨hclosed.2, _, List.suffix_refl _, hclosed.1, hmark⟩ ih

namespace Tag

-- What the host text of a tag ends in.
def endings : List Text := [
  ' ' :: Host.statementClose,
  ' ' :: Host.outputClose,
  ' ' :: Host.outputClose ++ "</pre>".toList,
  Host.statementOpen ++ [' ']]

theorem suffix_statement (body : Text) : ' ' :: Host.statementClose <:+ Host.statement body :=
  List.suffix_append _ _

theorem suffix_output (expr : Text) : ' ' :: Host.outputClose <:+ Host.output expr :=
  List.suffix_append _ _

theorem suffix_preformatted (expr filter : Text) :
    ' ' :: Host.outputClose ++ "</pre>".toList <:+ preformatted expr filter := by
  obtain ⟨front, hfront⟩ := suffix_output ('(' :: expr ++ ") | ".toList ++ filter ++ " | e".toList)
  refine ⟨"<pre>".toList ++ front, ?_⟩
  rw [preformatted, ← hfront]
  simp only [List.append_assoc]

theorem exists_ending_of_rewrite {tag : Tag} (hd : tag.Direct) {out : Text}
    (he : tag.rewrite = .ok out) : ∃ ending ∈ endings, ending <:+ out := by
  have hstatement : ∀ body, ∃ ending ∈ endings, ending <:+ Host.statement body := fun body =>
    ⟨_, by decide, suffix_statement body⟩
  have houtput : ∀ expr, ∃ ending ∈ endings, ending <:+ Host.output expr := fun expr =>
    ⟨' ' :: Host.outputClose, by decide, suffix_output expr⟩
  have hframe : ∀ expr filter, ∃ ending ∈ endings, ending <:+ preformatted expr filter :=
    fun expr filter => ⟨_, by decide, suffix_preformatted expr filter⟩
  have hdone : ∀ front, ∃ ending ∈ endings, ending <:+ front ++ markDone := fun front =>
    ⟨_, by decide, (suffix_statement _).trans (List.suffix_append front _)⟩
  cases tag with
  | opening spelling subject =>
      simp only [rewrite, Except.ok.injEq] at he
      subst he
      unfold openBlock
      split_ifs <;> exact hstatement _
  | closing spelling =>
      simp only [rewrite] at he
      split at he
      · cases he
        exact hstatement _
      · cases he
  | path head segments =>
      obtain ⟨keys, -, he⟩ := Except.bind_eq_ok.mp he
      cases he
      exact houtput _
  | insertion list => exact hd.elim
  | merge => exact hd.elim
  | enter =>
      cases he
      exact ⟨_, by decide, List.suffix_refl _⟩
  | leave =>
      cases he
      exact ⟨_, by decide, List.suffix_refl _⟩
  | dump expr =>
      cases he
      exact hframe _ _
  | print expr =>
      cases he
      exact hframe _ _
  | case expr =>
      cases he
      exact hdone _
  | fallback =>
      cases he
      exact hdone _
  | echo expr =>
      cases he
      exact houtput _
  | interpolation expr =>
      cases he
      exact houtput _
  | _ =>
      cases he
      exact hstatement _

-- The host text of a tag is sealed with a blank, and with a question mark as well.
theorem sealed_of_rewrite {tag : Tag} (hd : tag.Direct) (htexts : ∀ s ∈ tag.texts, '\x7d' ∉ s)
    {out : Text} (he : tag.rewrite = .ok out) {mark : Char} (hmark : mark ∈ [' ', '?']) :
    Sealed mark out := by
  have hendings : ∀ ending ∈ endings, '\x7b' ∉ ending ∧ ∀ mark ∈ [' ', '?'], mark ∈ ending := by
    decide
  obtain ⟨ending, hm, hsuffix⟩ := exists_ending_of_rewrite hd he
  obtain ⟨hopen, hmarks⟩ := hendings ending hm
  exact ⟨not_mem_rewrite (by decide) htexts he, ending, hsuffix, hopen, hmarks mark hmark⟩

end Tag

end BraceTemplate

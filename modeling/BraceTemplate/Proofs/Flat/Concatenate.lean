import BraceTemplate.Proofs.Flat.Plain

namespace BraceTemplate

open Text Segment

namespace Tag

variable {segments : List Segment} {x : Text}

-- A translation starts as the text does, unless a tag comes first.
theorem head?_translate (hn : ∀ body, .group body ∈ segments → readInsertion body = none)
    (hx : translate segments = .ok x) :
    x.head? = (spellAll segments).head? ∨ x.head? = some '<' ∨ x.head? = some ' ' := by
  cases segments with
  | nil =>
      simp only [translate, Except.ok.injEq] at hx
      exact Or.inl (hx ▸ rfl)
  | cons segment segments =>
      obtain ⟨head, tail, hhead, -, rfl⟩ := translate_cons_eq_ok.mp hx
      cases segment with
      | char c =>
          simp only [translateSegment, Except.ok.injEq] at hhead
          exact Or.inl (hhead ▸ rfl)
      | group body =>
          simp only [translateSegment, translateGroup] at hhead
          split at hhead
          · next tag hr =>
            have hd : tag.Direct := by
              rcases direct_or_insertion_of_read hr with hd | hi
              · exact hd
              · simp [hn body (by simp)] at hi
            have hstart := head?_rewrite (by rintro list rfl; exact hd) (by rintro rfl; exact hd)
              hhead
            rw [List.head?_append]
            rcases hstart with hstart | hstart <;> simp [hstart]
          · simp only [Except.ok.injEq] at hhead
            exact Or.inl (hhead ▸ rfl)

-- A translation starts with the end of a statement only where the text does.
theorem not_prefix_of_translate
    (hn : ∀ body, .group body ∈ segments → readInsertion body = none)
    (hs : ¬ Host.statementClose <+: spellAll segments) (hx : translate segments = .ok x) :
    ¬ Host.statementClose <+: x := by
  rintro ⟨rest, rfl⟩
  have hfirst : (spellAll segments).head? = some '?' := by
    simpa [Host.statementClose, eq_comm] using head?_translate hn hx
  cases segments with
  | nil => simp at hfirst
  | cons segment segments =>
      cases segment with
      | group body => simp [spell] at hfirst
      | char c =>
          obtain rfl : c = '?' := by simpa [spell] using hfirst
          obtain ⟨head, tail, hhead, htail, he⟩ := translate_cons_eq_ok.mp hx
          simp only [translateSegment, Except.ok.injEq] at hhead
          subst hhead
          obtain rfl : '>' :: rest = tail := by simpa [Host.statementClose] using he
          have hsecond : (spellAll segments).head? = some '>' := by
            simpa [eq_comm] using
              head?_translate (fun body hm => hn body (List.mem_cons_of_mem _ hm)) htail
          obtain ⟨left, hleft⟩ := List.head?_eq_some_iff.mp hsecond
          exact hs ⟨left, by simp [spell, hleft, Host.statementClose]⟩

end Tag

namespace Tag

-- Readers in any order that settles the groups one by one as the rules do give the translation.
theorem yields_order {order : List Reader} (hs : SoundAll segments)
    (hn : ∀ body, .group body ∈ segments → readInsertion body = none)
    (horder : ∀ body, .group body ∈ segments → readWith order (fun _ => none) body = read body)
    (hx : translate segments = .ok x) (insert : List Text → CompileM Text) (v : Vault) :
    Yields ((order.map Reader.find).foldlM (Compiler.rewriteKind insert) (spellAll segments)) v x v := by
  have hfit : Fit (fun _ => True) segments := ⟨hs, fun _ _ => trivial⟩
  have hnext : ∀ {left w t v'}, Fit (fun _ => True) left →
      (Yields (pure (spellAll left)) w t v' ↔ Rewrites insert (fun _ => none) left w t v') := by
    intro left w t v' _
    rw [yields_pure, rewrites_unread_iff (by simp)]
  rw [← bind_pure ((order.map Reader.find).foldlM _ _), yields_passes_iff hnext order hfit,
    rewrites_congr horder, rewrites_iff_translate hn]
  exact ⟨hx, rfl⟩

end Tag

namespace Compiler

-- Tags are translated independently of what stands around them: the host text of two texts in a row
-- is that of the first and that of the second, with statements merged where they meet. Within them
-- each group becomes what the first reader that knows it makes of it, and readers in any order that
-- settles the groups one by one in the same way come to the same.
theorem compile_append {c : Compiler} (hc : c.extensions = []) (fs : FileSystem) {s t x y : Text}
    (hs : s.Plain) (ht : t.Plain) (hstart : ¬ Host.statementClose <+: t)
    (hx : c.compile fs s = .ok x) (hy : c.compile fs t = .ok y) :
    c.compile fs (s ++ t) = .ok (Tag.mergeStatements (x ++ y)) ∧
      ∃ a b p q, SoundAll (a ++ b) ∧ spellAll a = s ∧ spellAll b = t ∧
        Tag.translate a = .ok p ∧ Tag.translate b = .ok q ∧
        x = Tag.mergeStatements p ∧ y = Tag.mergeStatements q ∧
        Tag.mergeStatements (x ++ y) = Tag.mergeStatements (p ++ q) ∧
        ∀ order : List Tag.Reader,
          (∀ body, .group body ∈ a ++ b →
            Tag.readWith order (fun _ => none) body = Tag.read body) →
          ∀ insert v, Yields ((order.map Tag.Reader.find).foldlM (rewriteKind insert) (s ++ t)) v
            (p ++ q) v := by
  obtain ⟨a, ha, rfl⟩ := hs.exists_segments
  obtain ⟨b, hb, rfl⟩ := ht.exists_segments
  obtain ⟨p, hp, rfl⟩ := (compile_spellAll_eq_ok_iff hc ha hs).mp hx
  obtain ⟨q, hq, rfl⟩ := (compile_spellAll_eq_ok_iff hc hb ht).mp hy
  have hab : SoundAll (a ++ b) := (soundAll_append a b).mpr ⟨ha, hb⟩
  have hplain := hs.append ht
  rw [← spellAll_append] at hplain ⊢
  have hpq := Tag.translate_append_eq_ok.mpr ⟨p, q, hp, hq, rfl⟩
  have hmerge : Tag.mergeStatements (Tag.mergeStatements p ++ Tag.mergeStatements q) =
      Tag.mergeStatements (p ++ q) :=
    Tag.mergeStatements_append
      (Tag.not_prefix_of_translate ((Text.plain_spellAll_iff hb).mp ht).2 hstart hq)
  refine ⟨?_, a, b, p, q, hab, rfl, rfl, hp, hq, rfl, rfl, hmerge, fun order horder insert v => ?_⟩
  · rw [compile_spellAll_eq_ok_iff hc hab hplain]
    exact ⟨p ++ q, hpq, hmerge⟩
  · exact Tag.yields_order hab ((Text.plain_spellAll_iff hab).mp hplain).2 horder hpq insert v

-- White space where two statements meet goes.
theorem compile_append_two_statements :
    Compiler.compile ⟨default, defaultMaxDepth, [], defaultRoom⟩ (.ofFiles fun _ => none)
      ("\x7bif $a\x7d\n".toList ++ "\x7belse\x7dx\x7b/if\x7d".toList) =
      .ok "<?py if (a) ?><?py else ?>x<?py endif ?>".toList := by
  have hs : Plain "\x7bif $a\x7d\n".toList := by decide
  have ht : Plain "\x7belse\x7dx\x7b/if\x7d".toList := by decide
  have hstart : ¬ Host.statementClose <+: "\x7belse\x7dx\x7b/if\x7d".toList := by decide
  exact (compile_append rfl _ hs ht hstart (x := "<?py if (a) ?>\n".toList)
    (y := "<?py else ?>x<?py endif ?>".toList) rfl rfl).1

end Compiler

end BraceTemplate

import BraceTemplate.Proofs.Fault.Patch

namespace BraceTemplate

open Text Segment

-- Neither blanks nor braces stand in what is taken for a tag without a meaning.
theorem Fault.not_mem {body : Text} {e : TagError} (h : Fault body e) {c : Char}
    (hc : c ∈ [' ', '\x7b', '\x7d']) : c ∉ body := by
  cases h with
  | @block word spelling _ hword hspells _ _ =>
      have hforeign : ∀ c ∈ [' ', '\x7b', '\x7d'], c ≠ '/' ∧
          ∀ word ∈ Tag.closers, ∀ l ∈ word, sameLetter l c = false := by decide
      obtain ⟨hslash, hletters⟩ := hforeign c hc
      intro hm
      obtain ⟨l, hl, hsame⟩ := sameLetter_of_mem_spelling
        (takeWord_eq_some_iff.mpr ⟨(List.append_nil spelling).symm, hspells⟩)
        (List.mem_of_ne_of_mem hslash hm)
      rw [hletters word hword l hl] at hsame
      cases hsame
  | index hparts _ _ _ _ _ =>
      have hforeign : ∀ c ∈ [' ', '\x7b', '\x7d'], c ≠ '$' ∧
          ¬ (Tag.isPathChar c = true ∨ c = '.') := by decide
      obtain ⟨hdollar, hchar⟩ := hforeign c hc
      exact fun hm => hchar (hparts c (List.mem_of_ne_of_mem hdollar hm))

namespace Tag

theorem not_mem_of_readInsertion {body : Text} {tag : Tag} (h : readInsertion body = some tag)
    {c : Char} (hc : c ∈ ['\x7b', '\x7d', '?', '#']) : c ∉ body := by
  simp only [readInsertion, Option.bind_eq_some_iff, Option.ite_none_right_eq_some, Prod.exists] at h
  obtain ⟨spelling, left, hword, hlist, -⟩ := h
  have hforeign : ∀ c ∈ ['\x7b', '\x7d', '?', '#'], (∀ l ∈ "include".toList, sameLetter l c = false) ∧
      isBlank c = false ∧ isListChar c = false := by decide +kernel
  obtain ⟨hletters, hblank, hchar⟩ := hforeign c hc
  intro hm
  rw [(takeWord_eq_some hword).1, List.mem_append] at hm
  rcases hm with hm | hm
  · obtain ⟨l, hl, hsame⟩ := sameLetter_of_mem_spelling hword hm
    rw [hletters l hl] at hsame
    cases hsame
  · rw [← List.takeWhile_append_dropWhile (p := isBlank) (l := left), List.mem_append] at hm
    rcases hm with hm | hm
    · rw [List.mem_takeWhile_imp hm] at hblank
      cases hblank
    · rw [List.all_eq_true.mp hlist c hm] at hchar
      cases hchar

theorem occurs_insertion?_eq_false_iff {s : Text} :
    occurs insertion? s = false ↔
      ∀ body tag, readInsertion body = some tag → ¬ (Segment.group body).spell <:+: s := by
  rw [occurs_eq_false_iff]
  constructor
  · rintro h body tag hread ⟨a, b, rfl⟩
    have hfree : BraceFree body := braceFree_iff_not_mem.mpr
      ⟨not_mem_of_readInsertion hread (by decide), not_mem_of_readInsertion hread (by decide)⟩
    have hnone := h a '\x7b' (body ++ '\x7d' :: b) (by simp [spell])
    rw [grouped_insertion.inside _ body b hfree, hread] at hnone
    cases hnone
  · intro h a c b he
    cases hf : insertion? a.getLast? (c :: b) with
    | none => rfl
    | some found =>
        obtain ⟨tag, after⟩ := found
        obtain ⟨body, -, hs, hread⟩ := grouped_insertion.exists_group hf
        exact absurd ⟨a, after, by simp [he, hs, spell]⟩ (h body tag hread)

end Tag

-- A later text of which the groups without a blank, and those without a question mark, were in the
-- earlier one.
def Text.Follows (s t : Text) : Prop :=
  ∀ mark ∈ [' ', '?'], ∀ body, mark ∉ body → (Segment.group body).spell <:+: t →
    (Segment.group body).spell <:+: s

theorem Text.Follows.refl (s : Text) : Follows s s :=
  fun _ _ _ _ h => h

theorem Text.Follows.trans {s t u : Text} (hst : Follows s t) (htu : Follows t u) : Follows s u :=
  fun mark hm body hmark h => hst mark hm body hmark (htu mark hm body hmark h)

-- A step of the compiler that turns a text into one that follows it, or fails on a fault in it.
def Text.Steps (s : Text) (m : CompileM Text) : Prop :=
  (∃ t, m = pure t ∧ Follows s t) ∨
    ∃ body e, Fault body e ∧ (Segment.group body).spell <:+: s ∧ m = throw (.badTag e)

theorem Text.Steps.bind {s : Text} {m : CompileM Text} {f : Text → CompileM Text}
    (hm : Steps s m) (hf : ∀ t, Follows s t → Steps t (f t)) : Steps s (m >>= f) := by
  rcases hm with ⟨t, rfl, ht⟩ | ⟨body, e, hfault, hbody, rfl⟩
  · rcases hf t ht with ⟨u, hu, htu⟩ | ⟨body, e, hfault, hbody, he⟩
    · exact .inl ⟨u, hu, ht.trans htu⟩
    · exact .inr ⟨body, e, hfault, ht ' ' (by decide) body (hfault.not_mem (by decide)) hbody, he⟩
  · exact .inr ⟨body, e, hfault, hbody, rfl⟩

namespace Compiler

variable {insert : List Text → CompileM Text}

-- A pass over a text of any kind, also one with braces in disorder.
theorem steps_rewriteKind {reader : Tag.Reader}
    (hreader : reader ∈ Tag.Reader.early ++ Tag.Reader.late) (s : Text) :
    Steps s (rewriteKind insert s reader.find) := by
  suffices h : (∃ t, rewriteKind insert s reader.find = pure t ∧
      ∀ mark ∈ [' ', '?'], Patched (Sealed mark) s t) ∨
      ∃ body e, Fault body e ∧ (Segment.group body).spell <:+: s ∧
        rewriteKind insert s reader.find = throw (.badTag e) from
    h.imp_left fun ⟨t, ht, hpatched⟩ =>
      ⟨t, ht, fun mark hm body hmark => (hpatched mark hm).infix_group hmark⟩
  refine Piece.cut_induction reader.grouped.consumes
    (motive := fun _ s pieces =>
      (∃ t, Piece.assemble (rewriteTag insert) pieces = pure t ∧
        ∀ mark ∈ [' ', '?'], Patched (Sealed mark) s t) ∨
      ∃ body e, Fault body e ∧ (Segment.group body).spell <:+: s ∧
        Piece.assemble (rewriteTag insert) pieces = throw (.badTag e)) ?_ ?_ ?_ none s
  · exact fun _ => .inl ⟨[], rfl, fun _ _ => .nil⟩
  · intro before c rest _ ih
    rcases ih with ⟨t, ht, hpatched⟩ | ⟨body, e, hfault, hbody, he⟩
    · exact .inl ⟨c :: t, by rw [Piece.assemble, ht]; rfl, fun mark hm => .keep c (hpatched mark hm)⟩
    · exact .inr ⟨body, e, hfault, hbody.trans (List.suffix_cons c rest).isInfix,
        by rw [Piece.assemble, he]; rfl⟩
  · intro before s tag after hf ih
    obtain ⟨body, hclosing, rfl, hread⟩ := reader.grouped.exists_group hf
    have hd := reader.direct hread
    have htexts : ∀ text ∈ tag.texts, '\x7d' ∉ text := fun text hm hc =>
      hclosing (reader.texts_subset hread text hm _ hc)
    have htag : rewriteTag insert tag = _ := Tag.rewriteTag_of_direct hd
    cases hrewrite : tag.rewrite with
    | error e =>
        refine .inr ⟨body, e, Tag.Reader.fault_of_read hreader hread hrewrite,
          ⟨[], after, by simp [spell]⟩, ?_⟩
        rw [Piece.assemble, htag, hrewrite]
        rfl
    | ok out =>
        have hsuffix : after <:+ '\x7b' :: (body ++ '\x7d' :: after) :=
          ⟨'\x7b' :: (body ++ ['\x7d']), by simp⟩
        rcases ih with ⟨t, ht, hpatched⟩ | ⟨inner, e, hfault, hinner, he⟩
        · refine .inl ⟨out ++ t, by rw [Piece.assemble, htag, hrewrite, ht]; rfl, fun mark hm => ?_⟩
          obtain ⟨old, hold⟩ := hsuffix
          rw [← hold]
          exact .patch old (Tag.sealed_of_rewrite hd htexts hrewrite hm) (hpatched mark hm)
        · exact .inr ⟨inner, e, hfault, hinner.trans hsuffix.isInfix,
            by rw [Piece.assemble, htag, hrewrite, he]; rfl⟩

theorem steps_foldlM {readers : List Tag.Reader}
    (hreaders : ∀ reader ∈ readers, reader ∈ Tag.Reader.early ++ Tag.Reader.late) (s : Text) :
    Steps s ((readers.map Tag.Reader.find).foldlM (rewriteKind insert) s) := by
  induction readers generalizing s with
  | nil => exact .inl ⟨s, rfl, .refl s⟩
  | cons reader readers ih =>
      rw [List.map_cons, List.foldlM_cons]
      exact (steps_rewriteKind (hreaders reader (by simp)) s).bind fun t _ =>
        ih (fun other hm => hreaders other (List.mem_cons_of_mem _ hm)) t

-- Nothing is inserted into a text that follows one without insertions.
theorem occurs_insertion?_of_follows {s t : Text} (hst : Follows s t)
    (hs : occurs Tag.insertion? s = false) : occurs Tag.insertion? t = false := by
  rw [Tag.occurs_insertion?_eq_false_iff] at hs ⊢
  intro body tag hread hbody
  exact hs body tag hread
    (hst '?' (by decide) body (Tag.not_mem_of_readInsertion hread (by decide)) hbody)

-- All the passes over a text without insertions give a text, or fail on a fault in it.
theorem recognisers_eq_pure_or_throw {s : Text} (hs : occurs Tag.insertion? s = false) :
    (∃ t, Tag.recognisers.foldlM (rewriteKind insert) s = pure t) ∨
      ∃ body e, Fault body e ∧ (Segment.group body).spell <:+: s ∧
        Tag.recognisers.foldlM (rewriteKind insert) s = throw (.badTag e) := by
  have hsteps : Steps s ((Tag.Reader.early.map Tag.Reader.find).foldlM (rewriteKind insert) s >>=
      fun t => rewriteKind insert t Tag.insertion? >>= fun t =>
        (Tag.Reader.late.map Tag.Reader.find).foldlM (rewriteKind insert) t) :=
    (steps_foldlM (fun reader hm => List.mem_append_left _ hm) s).bind fun t hst => by
      rw [rewriteKind_eq_pure (occurs_insertion?_of_follows hst hs), pure_bind]
      exact steps_foldlM (fun reader hm => List.mem_append_right _ hm) t
  have hpasses : Tag.recognisers.foldlM (rewriteKind insert) s =
      ((Tag.Reader.early.map Tag.Reader.find).foldlM (rewriteKind insert) s >>=
        fun t => rewriteKind insert t Tag.insertion? >>= fun t =>
          (Tag.Reader.late.map Tag.Reader.find).foldlM (rewriteKind insert) t) >>=
      fun t => pure (Tag.mergeStatements t) := by
    simp only [Tag.recognisers_eq, List.foldlM_append, List.foldlM_cons, List.foldlM_nil, bind_pure,
      Tag.rewriteKind_merge, bind_assoc]
  rw [hpasses]
  rcases hsteps with ⟨t, ht, -⟩ | ⟨body, e, hfault, hbody, he⟩
  · exact .inl ⟨Tag.mergeStatements t, by rw [ht, pure_bind]⟩
  · exact .inr ⟨body, e, hfault, hbody, by rw [he]; rfl⟩

variable {c : Compiler} {s : Text}

theorem run_rewriteAt (hc : c.extensions = []) (fs : FileSystem) (depth : Nat) (s : Text)
    (v : Vault) :
    (c.rewriteAt fs depth s).run v =
      (Tag.recognisers.foldlM (rewriteKind (c.insertAt fs depth)) (Vault.bare s)).run
        (v.protect s).2 := by
  rw [rewriteAt_eq, run_rewriteWith hc, Vault.protect_fst]

-- A template is compiled when nothing is inserted into what is left without its literal blocks,
-- unless there is a fault in this.
theorem compile_ok_or_fault_of_bare (hc : c.extensions = []) (fs : FileSystem)
    (hs : occurs Tag.insertion? (Vault.bare s) = false) :
    (∃ t, c.compile fs s = .ok t) ∨
      ∃ body e, Fault body e ∧ (Segment.group body).spell <:+: Vault.bare s ∧
        c.compile fs s = .error (.badTag e) := by
  rcases recognisers_eq_pure_or_throw hs with ⟨t, ht⟩ | ⟨body, e, hfault, hbody, he⟩
  · refine .inl ⟨(Vault.empty.protect s).2.restore t, ?_⟩
    rw [compile, run_rewriteAt hc, ht]
    rfl
  · refine .inr ⟨body, e, hfault, hbody, ?_⟩
    rw [compile, run_rewriteAt hc, he]
    rfl

-- No insertion comes about when literal blocks are taken out.
theorem occurs_insertion?_bare (hs : occurs Tag.insertion? s = false) :
    occurs Tag.insertion? (Vault.bare s) = false := by
  rw [Tag.occurs_insertion?_eq_false_iff] at hs ⊢
  intro body tag hread hbody
  exact hs body tag hread ((Vault.patched_bare s).infix_group
    (Tag.not_mem_of_readInsertion hread (by decide)) hbody)

-- A template without insertions is compiled to a text, whatever braces and tags it has, unless it
-- closes a block under a name with a stray letter or has a path with digits that are no index.
theorem compile_ok_or_fault (hc : c.extensions = []) (fs : FileSystem)
    (hs : occurs Tag.insertion? s = false) :
    (∃ t, c.compile fs s = .ok t) ∨
      ∃ body e, Fault body e ∧ (Segment.group body).spell <:+: Vault.bare s ∧
        c.compile fs s = .error (.badTag e) :=
  compile_ok_or_fault_of_bare hc fs (occurs_insertion?_bare hs)

-- Braces in disorder, tags that are cut short, and a fault within a tag that takes it up.
theorem compile_ok_or_fault_disorder :
    let c : Compiler := ⟨default, defaultMaxDepth, [], defaultRoom⟩
    let s := "\x7bif \x7b/ıf\x7d\x7d\x7b\x7b$a.b.1\x7b/literal\x7d\x7belse/ \x7d\x7bcase".toList
    occurs Tag.insertion? s = false ∧
      ((∃ t, c.compile (.ofFiles fun _ => none) s = .ok t) ∨
        ∃ body e, Fault body e ∧ (Segment.group body).spell <:+: Vault.bare s ∧
          c.compile (.ofFiles fun _ => none) s = .error (.badTag e)) :=
  ⟨by decide +kernel, compile_ok_or_fault rfl (.ofFiles fun _ => none) (by decide +kernel)⟩

-- Digits that are in no numeral, and letters that pass for others: each of them is an error.
theorem compile_faults :
    let compiled := fun s : String => Compiler.compile ⟨default, defaultMaxDepth, [], defaultRoom⟩
      (.ofFiles fun _ => none) s.toList
    (occurs Tag.insertion? "\x7b$a.²\x7d".toList = false ∧
      compiled "\x7b$a.²\x7d" = .error (.badTag (.badIndex ['²']))) ∧
    (occurs Tag.insertion? "\x7b/ſwitch\x7d".toList = false ∧
      compiled "\x7b/ſwitch\x7d" = .error (.badTag (.unknownBlock "ſwitch".toList))) ∧
    (occurs Tag.insertion? "\x7b/İf\x7d".toList = false ∧
      compiled "\x7b/İf\x7d" = .error (.badTag (.unknownBlock "i\u0307f".toList))) := by
  refine ⟨⟨?_, ?_⟩, ⟨?_, ?_⟩, ?_, ?_⟩ <;> decide +kernel

-- A template whose braces come in pairs outside of its literal blocks is compiled if and only if
-- there is no fault in it.
theorem compile_isOk_iff_of_flat (hc : c.extensions = []) (fs : FileSystem)
    (hflat : (Vault.withoutBlocks s).Flat) (hs : occurs Tag.insertion? s = false) :
    (∃ t, c.compile fs s = .ok t) ↔
      ∀ body e, Fault body e → ¬ (Segment.group body).spell <:+: Vault.bare s := by
  constructor
  · rintro ⟨t, ht⟩ body e hfault hbody
    obtain ⟨segments, hsound, hspell⟩ := flat_iff_exists_segments.mp (Vault.flat_bare_iff.mpr hflat)
    have hbare := occurs_insertion?_bare hs
    rw [← hspell, Tag.grouped_insertion.occurs_eq_false_iff hsound] at hbare
    have hprotect : Vault.empty.protect s = (spellAll segments, (Vault.empty.protect s).2) :=
      Prod.ext ((Vault.protect_fst _ s).trans hspell.symm) rfl
    obtain ⟨x, hx, -⟩ := (compile_eq_ok_iff_of_protect hc hsound hbare hprotect).mp ht
    have hfree : BraceFree body := braceFree_iff_not_mem.mpr
      ⟨hfault.not_mem (by decide), hfault.not_mem (by decide)⟩
    obtain ⟨out, hout⟩ := Tag.exists_translateGroup_of_translate hx body
      (group_mem_of_infix_spellAll hsound hfree (hspell ▸ hbody))
    exact hfault.translateGroup_ne_ok out hout
  · intro hnone
    rcases compile_ok_or_fault_of_bare hc fs (occurs_insertion?_bare hs) with h | ⟨body, e, hfault, hbody, -⟩
    · exact h
    · exact absurd hbody (hnone body e hfault)

end Compiler

end BraceTemplate

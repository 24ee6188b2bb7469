import BraceTemplate.Proofs.Insertion.Inline
import BraceTemplate.Proofs.Insertion.Listed

namespace BraceTemplate

open Text Segment

namespace Tag

variable {insert : List Text → CompileM Text} {read : Text → Option Tag}
variable {segments : List Segment} {v v' : Vault} {t : Text}

-- A text is rewritten only if everything that is read in its groups is.
theorem Rewrites.exists_of_mem (h : Rewrites insert read segments v t v') {body : Text} {tag : Tag}
    (hm : .group body ∈ segments) (hr : read body = some tag) :
    ∃ u out w, Yields (Compiler.rewriteTag insert tag) u out w := by
  induction h with
  | nil v => cases hm
  | char c _ ih => exact ih (by simpa using hm)
  | keep hnone _ ih =>
      rcases List.mem_cons.mp hm with he | hm
      · cases he
        rw [hr] at hnone
        cases hnone
      · exact ih hm
  | hit hsome hout _ ih =>
      rcases List.mem_cons.mp hm with he | hm
      · cases he
        rw [hr] at hsome
        cases hsome
        exact ⟨_, _, _, hout⟩
      · exact ih hm

-- The tags up to the insertions, each group of a text being read by the first that knows it.
theorem yields_early_iff (hs : SoundAll segments) :
    Yields ((Reader.early.map Reader.find).foldlM (Compiler.rewriteKind insert)
        (spellAll segments) >>= fun s => Compiler.rewriteKind insert s insertion?) v t v' ↔
      Rewrites insert (readWith Reader.early readInsertion) segments v t v' := by
  have hfit : Fit (fun _ => True) segments := ⟨hs, fun _ _ => trivial⟩
  exact yields_passes_iff (fun hleft => yields_rewriteKind_iff grouped_insertion hleft.1)
    Reader.early hfit

end Tag

-- Whether a text inserts something of a collection of references.
def Text.Enters (s : Text) (ring : Set Text) : Prop :=
  ∃ list ∈ s.insertions, ∃ reference ∈ Reference.ofList list, reference ∈ ring

theorem Text.Bare.enters_append {s t : Text} (hs : s.Bare) (ht : t.Bare) {ring : Set Text} :
    Enters (s ++ t) ring ↔ s.Enters ring ∨ t.Enters ring := by
  simp only [Enters, hs.insertions_append ht, List.mem_append, or_and_right, exists_or]

namespace Compiler

variable {c : Compiler} {fs : FileSystem} {insert : List Text → CompileM Text}
variable {s t : Text} {v v' : Vault}

-- A text without literal blocks goes through the tags before insertions, the insertions, the tags
-- behind them and the extensions.
theorem run_rewriteWith_bare (hs : s.Bare) (v : Vault) :
    (c.rewriteWith insert s).run v =
      ((Tag.Reader.early.map Tag.Reader.find).foldlM (rewriteKind insert) s >>= fun s =>
        rewriteKind insert s Tag.insertion? >>= fun s =>
          (Tag.Reader.late.map Tag.Reader.find).foldlM (rewriteKind insert) s >>= fun s =>
            c.extensions.foldlM rewriteExtension (Tag.mergeStatements s)).run v := by
  simp only [rewriteWith, Tag.recognisers_eq, List.foldlM_append, List.foldlM_cons, List.foldlM_nil,
    Tag.rewriteKind_merge, bind_assoc, pure_bind, StateT.run_bind, StateT.run_get, StateT.run_set,
    hs.protect_eq]

-- What is listed anywhere in a text is inserted before the text comes out, whatever extensions are
-- applied to it in the end.
theorem exists_inserted_of_yields (hs : s.Bare) {list : Text} (hlist : list ∈ s.insertions)
    (h : Yields (c.rewriteWith insert s) v t v') :
    ∃ u out w, Yields (insert (Reference.ofList list)) u out w := by
  rw [Yields, run_rewriteWith_bare hs, ← Yields] at h
  obtain ⟨x, w, hearly, h⟩ := yields_bind.mp h
  obtain ⟨y, w', hinsertion, -⟩ := yields_bind.mp h
  obtain ⟨segments, hsound, rfl⟩ := hs.exists_segments
  rw [insertions_spellAll hsound hs, mem_lists_iff] at hlist
  obtain ⟨body, hm, hr⟩ := hlist
  have hread : Tag.readWith Tag.Reader.early Tag.readInsertion body = some (.insertion list) := by
    rw [Tag.readWith_early_of_readInsertion hr, hr]
  have hrewrites := (Tag.yields_early_iff hsound).mp (yields_bind.mpr ⟨x, w, hearly, hinsertion⟩)
  exact hrewrites.exists_of_mem hm hread

-- The texts behind references have the insertions of each of them.
theorem bare_of_readAll (hfiles : ∀ reference file, c.resolver.read fs reference = .ok file →
    file.Bare) {references : List Text} {b : Text} (h : c.readAll fs references = .ok b) :
    b.Bare ∧ ∀ reference ∈ references, ∀ file, c.resolver.read fs reference = .ok file →
      ∀ ring, file.Enters ring → b.Enters ring := by
  induction references generalizing b with
  | nil =>
      cases h
      exact ⟨bare_nil, by simp⟩
  | cons reference references ih =>
      simp only [readAll, Except.bind_eq_ok, Except.ok.injEq] at h
      obtain ⟨first, hfirst, others, hothers, rfl⟩ := h
      have hbare := hfiles reference first hfirst
      obtain ⟨hrest, hall⟩ := ih hothers
      refine ⟨hbare.append hrest, fun other hm file hfile ring henters => ?_⟩
      rw [hbare.enters_append hrest]
      rcases List.mem_cons.mp hm with rfl | hm
      · rw [hfirst] at hfile
        cases hfile
        exact .inl henters
      · exact .inr (hall other hm file hfile ring henters)

section Ring

variable {ring : Set Text}
variable (hfiles : ∀ reference file, c.resolver.read fs reference = .ok file → file.Bare)
variable (hring : ∀ reference ∈ ring, ∃ file, c.resolver.read fs reference = .ok file ∧
  file.Enters ring)

include hfiles hring

-- What lists something of a ring comes to no end within any depth. The induction is on that depth:
-- where a file of the ring is read, the text behind the whole list inserts something of the ring.
theorem not_yields_insertAt_of_mem {depth : Nat} {references : List Text} {reference : Text}
    (hm : reference ∈ references) (hreference : reference ∈ ring) :
    ¬ Yields (c.insertAt fs depth references) v t v' := by
  induction depth generalizing references reference v t v' with
  | zero =>
      intro h
      cases h
  | succ depth ih =>
      intro h
      obtain ⟨b, _, hb, hinner⟩ := yields_bind.mp h
      rw [yields_lift, Except.mapError_eq_ok] at hb
      obtain ⟨file, hfile, henters⟩ := hring reference hreference
      obtain ⟨hbare, hall⟩ := bare_of_readAll hfiles hb.1
      obtain ⟨list, hlist, next, hnext, hnextRing⟩ := hall reference hm file hfile ring henters
      rw [rewriteAt_eq] at hinner
      obtain ⟨_, _, _, hout⟩ := exists_inserted_of_yields hbare hlist hinner
      exact ih hnext hnextRing hout

-- Files that insert each other in a ring are never compiled, however deep insertions may nest,
-- whatever else is listed beside them and whatever extensions there are.
theorem compile_ring (hs : s.Bare) (henters : s.Enters ring) : ∃ e, c.compile fs s = .error e := by
  cases h : c.compile fs s with
  | error e => exact ⟨e, rfl⟩
  | ok t =>
      obtain ⟨x, v, hx, -⟩ := compile_eq_ok_iff.mp h
      obtain ⟨list, hlist, reference, hm, hreference⟩ := henters
      rw [rewriteAt_eq] at hx
      obtain ⟨_, _, _, hout⟩ := exists_inserted_of_yields hs hlist hx
      exact absurd hout (not_yields_insertAt_of_mem hfiles hring hm hreference)

end Ring

-- Two files that insert each other, one of them beside a third.
def crossFiles : Files :=
  ((Files.empty.write (.ofText "t/default/a.html".toList)
    (Utf8.encode "a\x7binclude n@t,b@t\x7d".toList)).write
    (.ofText "t/default/b.html".toList)
    (Utf8.encode "\x7bif $x\x7d\x7binclude a@t\x7d\x7b/if\x7d".toList)).write
    (.ofText "t/default/n.html".toList) (Utf8.encode "\x7b$y\x7d".toList)

theorem compile_ring_cross :
    ∃ e, (ringCompiler.within 3).compile (.ofFiles crossFiles.read?)
      "x\x7binclude b@t\x7d".toList = .error e := by
  have hall : ∀ entry ∈ crossFiles.entries,
      (Utf8.decode? entry.2).all fun t => t.Bare := by decide +kernel
  have ha : (ringCompiler.within 3).resolver.read (.ofFiles crossFiles.read?) "a@t".toList =
      .ok "a\x7binclude n@t,b@t\x7d".toList := by decide +kernel
  have hb : (ringCompiler.within 3).resolver.read (.ofFiles crossFiles.read?) "b@t".toList =
      .ok "\x7bif $x\x7d\x7binclude a@t\x7d\x7b/if\x7d".toList := by decide +kernel
  have hring : ∀ reference ∈ ({"a@t".toList, "b@t".toList} : Set Text), ∃ file,
      (ringCompiler.within 3).resolver.read (.ofFiles crossFiles.read?) reference = .ok file ∧
        file.Enters {"a@t".toList, "b@t".toList} := by
    rintro reference (rfl | rfl)
    · exact ⟨_, ha, "n@t,b@t".toList, by decide +kernel, "b@t".toList, by decide, .inr rfl⟩
    · exact ⟨_, hb, "a@t".toList, by decide +kernel, "a@t".toList, by decide, .inl rfl⟩
  refine compile_ring (fun reference file h => ?_) hring (by decide)
    ⟨"b@t".toList, by decide +kernel, "b@t".toList, by decide, .inr rfl⟩
  obtain ⟨entry, hentry, hdecode⟩ := exists_entry_of_read h
  simpa [hdecode] using hall entry hentry

end Compiler

end BraceTemplate

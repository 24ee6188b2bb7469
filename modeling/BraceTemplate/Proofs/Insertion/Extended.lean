import BraceTemplate.Proofs.Insertion.Alone

namespace BraceTemplate

open Text Segment

namespace Compiler

section Insertion

variable {c : Compiler} {fs : FileSystem} {list b : Text}

-- The files behind an insertion are compiled, extensions and all; then what is done behind the
-- insertions is done to them once more.
theorem compile_insertionTag (hdepth : 0 < c.maxDepth) (hroom : 0 < c.room)
    (hlist : ∀ l ∈ list, Tag.isListChar l = true)
    (hb : c.readAll fs (Reference.ofList list) = .ok b) (hs : b.Plain) :
    c.compile fs (Tag.insertionTag list) = c.compile fs b >>= c.finish := by
  obtain ⟨depth, hd⟩ : ∃ depth, min c.maxDepth.toNat c.room = depth + 1 :=
    Nat.exists_eq_add_one.mpr (by omega)
  rw [compile_plain hs, compile, hd, rewriteAt_insertionTag hlist,
    insertAt_of_readAll hb, StateT.run_bind, run_rewriteAt_plain hs]
  cases start b >>= c.finish with
  | error e => rfl
  | ok t =>
      change ((liftM (c.finish t) : CompileM Text).run .empty >>= _) = _
      rw [run_liftM]
      cases h : c.finish t <;> simp [h, Except.map, bind, Except.bind]

end Insertion

section Repeat

variable {c : Compiler} {fs : FileSystem} {segments : List Segment} {x : Text}

-- The host text of a text without insertions has no groups for the tags behind them.
theorem inert_of_translate (hs : SoundAll segments)
    (hno : ∀ body, .group body ∈ segments → Tag.readInsertion body = none)
    (h : Tag.translate segments = .ok x) : Tag.Inert x := by
  induction segments generalizing x with
  | nil =>
      cases h
      exact Tag.inert_of_braceFree braceFree_nil
  | cons segment segments ih =>
      obtain ⟨hsegment, hs⟩ := (soundAll_cons _ _).mp hs
      obtain ⟨first, rest, hfirst, hrest, rfl⟩ := Tag.translate_cons_eq_ok.mp h
      refine .append ?_ (ih hs (fun body hm => hno body (List.mem_cons_of_mem _ hm)) hrest)
      cases segment with
      | char c =>
          cases hfirst
          exact Tag.inert_of_braceFree (by simpa [BraceFree, Sound] using hsegment)
      | group body =>
          rw [Tag.translateSegment, Tag.translateGroup] at hfirst
          cases hr : Tag.read body with
          | none =>
              rw [hr] at hfirst
              cases hfirst
              exact Tag.inert_group hsegment (Tag.lateRead_eq_none_of_read hr)
          | some tag =>
              rw [hr] at hfirst
              obtain ⟨reader, hreader⟩ :=
                (Tag.exists_reader_of_read hr).resolve_right (by simp [hno body])
              exact Tag.inert_of_braceFree (Tag.braceFree_rewrite (fun s hm =>
                hsegment.of_subset (reader.texts_subset hreader s hm)) hfirst)

-- Without extensions what is done behind the insertions does nothing to what it was done to before.
theorem finish_mergeStatements (hc : c.extensions = []) (h : Tag.Inert x) :
    c.finish (Tag.mergeStatements x) = .ok (Tag.mergeStatements x) := by
  obtain ⟨left, hs, hx, hnone⟩ := h.mergeStatements
  have hlate : ∀ reader ∈ Tag.Reader.late, occurs reader.find (Tag.mergeStatements x) = false := by
    intro reader hm
    rw [← hx, reader.grouped.occurs_eq_false_iff hs]
    exact fun body hbody => Tag.read_eq_none_of_readWith (hnone body hbody) reader hm
  have htwice : Tag.mergeStatements (Tag.mergeStatements x) = Tag.mergeStatements x := by
    have hend : ¬ Host.statementClose <+: [] := by decide
    have happend := Tag.mergeStatements_append (s := x) hend
    rwa [show Tag.mergeStatements [] = [] from rfl, List.append_nil, List.append_nil] at happend
  rw [finish, foldlM_eq_self hlate, hc]
  exact congrArg Except.ok htwice

end Repeat

-- A file of one letter, for which one extension writes two and another one an expression.
def letterFiles : Files :=
  (Files.empty.write (.ofText "t/default/a.html".toList) (Utf8.encode "x".toList)).write
    (.ofText "t/default/b.html".toList) (Utf8.encode "y".toList)

def letterCompiler (extensions : List Extension) : Compiler where
  resolver := .make (Registry.empty.add "t".toList (.ofText "t".toList) 0) ".html".toList []
  maxDepth := defaultMaxDepth
  extensions := extensions
  room := defaultRoom

def letterRule (letter : Char) (out : String) : Extension :=
  ⟨.one ⟨false, [.single letter]⟩, 0, Extension.defaultMode, [.text out.toList]⟩

end Compiler

end BraceTemplate

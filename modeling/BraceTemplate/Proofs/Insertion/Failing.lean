import BraceTemplate.Proofs.Insertion.Alone

namespace BraceTemplate

-- A step of the compiler that fails in no other ways than these.
def Raises {α : Type} (p : CompileError → Prop) (m : CompileM α) : Prop :=
  ∀ vault e, m.run vault = .error e → p e

section Raises

variable {α β : Type} {p : CompileError → Prop}

theorem raises_pure (a : α) : Raises p (pure a : CompileM α) :=
  fun _ _ h => nomatch h

theorem raises_throw {e : CompileError} (h : p e) : Raises p (throw e : CompileM α) := by
  intro vault e' he
  obtain rfl : e = e' := Except.error.inj he
  exact h

theorem raises_liftM {outcome : Except CompileError α} (h : ∀ e, outcome = .error e → p e) :
    Raises p (liftM outcome : CompileM α) := by
  intro vault e he
  cases outcome with
  | error e' => exact Except.error.inj he ▸ h e' rfl
  | ok a => exact nomatch he

theorem Raises.bind {m : CompileM α} {f : α → CompileM β} (hm : Raises p m) (hf : ∀ a, Raises p (f a)) :
    Raises p (m >>= f) := by
  intro vault e he
  rw [StateT.run_bind] at he
  cases hrun : m.run vault with
  | error e' =>
      rw [hrun] at he
      obtain rfl : e' = e := Except.error.inj he
      exact hm vault e' hrun
  | ok result =>
      rw [hrun] at he
      exact hf result.1 result.2 e he

theorem raises_assemble {emit : α → CompileM Text} {pieces : List (Piece α)}
    (h : ∀ a, .hit a ∈ pieces → Raises p (emit a)) : Raises p (Piece.assemble emit pieces) := by
  induction pieces with
  | nil => exact raises_pure _
  | cons piece rest ih =>
      have ih := ih fun a hm => h a (List.mem_cons_of_mem _ hm)
      cases piece with
      | char c => exact ih.bind fun _ => raises_pure _
      | hit a => exact (h a List.mem_cons_self).bind fun _ => ih.bind fun _ => raises_pure _

theorem raises_foldlM {step : β → α → CompileM β} {items : List α} (h : ∀ a ∈ items, ∀ b, Raises p (step b a))
    (b : β) : Raises p (items.foldlM step b) := by
  induction items generalizing b with
  | nil => exact raises_pure b
  | cons a rest ih =>
      rw [List.foldlM_cons]
      exact (h a List.mem_cons_self b).bind
        (ih fun other hm => h other (List.mem_cons_of_mem _ hm))

end Raises

namespace Compiler

-- In what ways a compiler without extensions can fail: a file cannot be read, insertions nest deeper than is
-- allowed or, where that is deeper than there is room for, than there is room, or there is a fault in a tag.
inductive Failing (c : Compiler) (fs : FileSystem) : CompileError → Prop where
  | unreadable {reference cause} (h : c.resolver.read fs reference = .error cause) :
      Failing c fs (.unreadable cause)
  | tooDeep (references : List Text) (h : c.maxDepth ≤ c.room) :
      Failing c fs (.tooDeep (Text.join [','] references) c.maxDepth)
  | outOfRoom (h : c.room < c.maxDepth) : Failing c fs .outOfRoom
  | badTag {body cause} (h : Fault body cause) : Failing c fs (.badTag cause)

section Failing

variable {c : Compiler} {fs : FileSystem} {insert : List Text → CompileM Text}

theorem failing_of_readAll {references : List Text} {cause : ReadError}
    (h : c.readAll fs references = .error cause) : c.Failing fs (.unreadable cause) := by
  induction references with
  | nil => cases h
  | cons reference rest ih =>
      cases hread : c.resolver.read fs reference with
      | error cause' =>
          rw [readAll, hread] at h
          obtain rfl : cause' = cause := Except.error.inj h
          exact .unreadable hread
      | ok text =>
          cases hrest : c.readAll fs rest with
          | error cause' =>
              rw [readAll, hread, hrest] at h
              obtain rfl : cause' = cause := Except.error.inj h
              exact ih hrest
          | ok others =>
              rw [readAll, hread, hrest] at h
              cases h

theorem raises_reader {reader : Tag.Reader} (hreader : reader ∈ Tag.Reader.early ++ Tag.Reader.late) (s : Text) :
    Raises (c.Failing fs) (rewriteKind insert s reader.find) := by
  have hsteps : Text.Steps s (rewriteKind insert s reader.find) := steps_rewriteKind hreader s
  rcases hsteps with ⟨t, ht, -⟩ | ⟨body, e, hfault, -, he⟩
  · exact ht ▸ raises_pure t
  · exact he ▸ raises_throw (.badTag hfault)

theorem raises_insertion (hinsert : ∀ references, Raises (c.Failing fs) (insert references)) (s : Text) :
    Raises (c.Failing fs) (rewriteKind insert s Tag.insertion?) := by
  refine raises_assemble fun tag hm => ?_
  obtain ⟨before, rest, after, hfind⟩ := Piece.exists_of_mem_scan hm
  obtain ⟨body, -, -, hread⟩ := Tag.grouped_insertion.exists_group hfind
  obtain ⟨list, rfl⟩ : ∃ list, tag = .insertion list := by
    simp only [Tag.readInsertion, Option.bind_eq_some_iff, Option.ite_none_right_eq_some] at hread
    obtain ⟨word, -, -, htag⟩ := hread
    exact ⟨_, (Option.some.inj htag).symm⟩
  exact hinsert _

theorem raises_rewriteWith (hc : c.extensions = []) (hinsert : ∀ references, Raises (c.Failing fs) (insert references))
    (s : Text) : Raises (c.Failing fs) (c.rewriteWith insert s) := by
  have hreaders : ∀ readers : List Tag.Reader, (∀ r ∈ readers, r ∈ Tag.Reader.early ++ Tag.Reader.late) → ∀ s,
      Raises (c.Failing fs) ((readers.map Tag.Reader.find).foldlM (rewriteKind insert) s) := by
    intro readers hmem
    refine raises_foldlM fun find hfind s => ?_
    obtain ⟨reader, hreader, rfl⟩ := List.mem_map.mp hfind
    exact raises_reader (hmem reader hreader) s
  intro vault e he
  simp only [rewriteWith, hc, List.foldlM_nil, bind_pure, StateT.run_bind, StateT.run_get, StateT.run_set] at he
  refine (?_ : Raises (c.Failing fs) (Tag.recognisers.foldlM (rewriteKind insert) _)) _ e he
  simp only [Tag.recognisers_eq, List.foldlM_append, List.foldlM_cons, List.foldlM_nil, bind_pure,
    Tag.rewriteKind_merge]
  refine (hreaders _ (fun r hr => List.mem_append_left _ hr) _).bind fun s => ?_
  refine (raises_insertion hinsert s).bind fun s => ?_
  exact (hreaders _ (fun r hr => List.mem_append_right _ hr) s).bind fun s => raises_pure _

theorem raises_rewriteAt (hc : c.extensions = []) (fs : FileSystem) (depth : Nat) (s : Text) :
    Raises (c.Failing fs) (c.rewriteAt fs depth s) := by
  induction depth generalizing s with
  | zero =>
      refine raises_rewriteWith hc (fun references => raises_throw ?_) s
      unfold depthError
      split
      · next h => exact .tooDeep references h
      · next h => exact .outOfRoom (Int.not_le.mp h)
  | succ depth ih =>
      refine raises_rewriteWith hc (fun references => (raises_liftM fun e he => ?_).bind ih) s
      cases hread : c.readAll fs references with
      | error cause =>
          rw [hread] at he
          exact Except.error.inj he ▸ failing_of_readAll hread
      | ok source => rw [hread] at he; cases he

-- A compiler without extensions fails in these ways alone.
theorem failing_of_compile (hc : c.extensions = []) {s : Text} {e : CompileError}
    (h : c.compile fs s = .error e) : c.Failing fs e := by
  rw [compile] at h
  cases hrun : (c.rewriteAt fs (min c.maxDepth.toNat c.room) s).run .empty with
  | error e' =>
      rw [hrun] at h
      exact Except.error.inj h ▸ raises_rewriteAt hc fs _ s .empty e' hrun
  | ok result => rw [hrun] at h; cases h

end Failing

end Compiler

end BraceTemplate

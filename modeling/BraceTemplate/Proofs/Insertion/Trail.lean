import BraceTemplate.Proofs.Insertion.Regular

namespace BraceTemplate

open Text Segment

namespace Compiler

variable {c : Compiler} {fs : FileSystem}

-- The texts behind references, as far as there are any.
def behind (c : Compiler) (fs : FileSystem) (references : List Text) : List Text :=
  references.filterMap fun reference => (c.resolver.read fs reference).toOption

-- Whether insertions nest no deeper in a text than some number of levels, its own being the first.
def nests (c : Compiler) (fs : FileSystem) : Nat → Text → Bool
  | 0, s => s.insertions.isEmpty
  | depth + 1, s => s.insertions.all fun list =>
    (c.behind fs (Reference.ofList list)).all (nests c fs depth)

-- The references of a text within some number of levels, in the order in which they are looked for:
-- those of an insertion one after the other, then those in the texts behind them.
def trail (c : Compiler) (fs : FileSystem) : Nat → Text → List Text
  | 0, _ => []
  | depth + 1, s => s.insertions.flatMap fun list =>
    Reference.ofList list ++ (c.behind fs (Reference.ofList list)).flatMap (trail c fs depth)

-- The references that a text lists, and those that are listed in the texts behind them.
inductive Lists (c : Compiler) (fs : FileSystem) : Text → Text → Prop where
  | own {s list reference : Text} :
      list ∈ s.insertions → reference ∈ Reference.ofList list → Lists c fs s reference
  | inner {s list reference file other : Text} :
      list ∈ s.insertions → reference ∈ Reference.ofList list →
      c.resolver.read fs reference = .ok file → Lists c fs file other → Lists c fs s other

theorem mem_behind_iff {references : List Text} {file : Text} :
    file ∈ c.behind fs references ↔
      ∃ reference ∈ references, c.resolver.read fs reference = .ok file := by
  simp only [behind, List.mem_filterMap]
  constructor
  · rintro ⟨reference, hm, h⟩
    refine ⟨reference, hm, ?_⟩
    cases hread : c.resolver.read fs reference with
    | error e =>
        rw [hread] at h
        cases h
    | ok text =>
        rw [hread] at h
        cases h
        rfl
  · rintro ⟨reference, hm, h⟩
    exact ⟨reference, hm, by rw [h]; rfl⟩

-- Where insertions nest no deeper, all that is listed is looked for.
theorem mem_trail_iff {depth : Nat} {s reference : Text} (h : c.nests fs depth s = true) :
    reference ∈ c.trail fs depth s ↔ c.Lists fs s reference := by
  constructor
  · clear h
    intro hm
    induction depth generalizing s reference with
    | zero => cases hm
    | succ depth ih =>
        obtain ⟨list, hlist, hm⟩ := List.mem_flatMap.mp hm
        rcases List.mem_append.mp hm with hm | hm
        · exact .own hlist hm
        · obtain ⟨file, hfile, hm⟩ := List.mem_flatMap.mp hm
          obtain ⟨other, hother, hread⟩ := mem_behind_iff.mp hfile
          exact .inner hlist hother hread (ih hm)
  · intro hlists
    induction hlists generalizing depth with
    | own hlist hm =>
        cases depth with
        | zero =>
            rw [nests, List.isEmpty_iff] at h
            rw [h] at hlist
            cases hlist
        | succ depth =>
            exact List.mem_flatMap.mpr ⟨_, hlist, List.mem_append_left _ hm⟩
    | inner hlist hm hread _ ih =>
        cases depth with
        | zero =>
            rw [nests, List.isEmpty_iff] at h
            rw [h] at hlist
            cases hlist
        | succ depth =>
            have hfile := mem_behind_iff.mpr ⟨_, hm, hread⟩
            have hinner := List.all_eq_true.mp (List.all_eq_true.mp h _ hlist) _ hfile
            exact List.mem_flatMap.mpr ⟨_, hlist,
              List.mem_append_right _ (List.mem_flatMap.mpr ⟨_, hfile, ih hinner⟩)⟩

section Flatten

variable {files : List Text}

theorem insertions_flatten (h : ∀ file ∈ files, file.Bare) :
    Bare files.flatten ∧ insertions files.flatten = files.flatMap insertions := by
  induction files with
  | nil => exact ⟨bare_nil, rfl⟩
  | cons file files ih =>
      rw [List.forall_mem_cons] at h
      obtain ⟨hbare, hall⟩ := ih h.2
      rw [List.flatten_cons, List.flatMap_cons]
      exact ⟨h.1.append hbare, by rw [h.1.insertions_append hbare, hall]⟩

theorem regular_flatten (h : ∀ file ∈ files, file.Regular) : Regular files.flatten := by
  induction files with
  | nil => exact regular_nil
  | cons file files ih =>
      rw [List.forall_mem_cons] at h
      exact h.1.append (ih h.2)

-- What is looked for in several texts is looked for in one after the other.
theorem trail_flatten (h : ∀ file ∈ files, file.Bare) (depth : Nat) :
    c.trail fs depth files.flatten = files.flatMap (c.trail fs depth) := by
  cases depth with
  | zero => exact (List.flatMap_eq_nil_iff.mpr fun _ _ => rfl).symm
  | succ depth =>
      rw [trail, (insertions_flatten h).2, List.flatMap_assoc]
      rfl

theorem nests_flatten (h : ∀ file ∈ files, file.Bare) (depth : Nat) :
    c.nests fs depth files.flatten = files.all (c.nests fs depth) := by
  cases depth with
  | zero =>
      rw [Bool.eq_iff_iff, nests, (insertions_flatten h).2]
      simp [nests]
  | succ depth =>
      rw [nests, (insertions_flatten h).2, List.all_flatMap]
      rfl

end Flatten

-- Why nothing is read behind a reference, if nothing is.
def obstacle? (c : Compiler) (fs : FileSystem) (reference : Text) : Option CompileError :=
  match c.resolver.read fs reference with
  | .ok _ => none
  | .error e => some (.unreadable e)

-- The texts behind references are read up to the first obstacle.
theorem readAll_mapError (references : List Text) :
    (c.readAll fs references).mapError CompileError.unreadable =
      match references.findSome? (c.obstacle? fs) with
      | none => .ok (c.behind fs references).flatten
      | some e => .error e := by
  induction references with
  | nil => rfl
  | cons reference references ih =>
      cases hread : c.resolver.read fs reference with
      | error e =>
          have hfirst : c.obstacle? fs reference = some (.unreadable e) := by rw [obstacle?, hread]
          rw [readAll, hread, List.findSome?_cons, hfirst]
          rfl
      | ok file =>
          have hfirst : c.obstacle? fs reference = none := by rw [obstacle?, hread]
          have hbehind : c.behind fs (reference :: references) = file :: c.behind fs references := by
            rw [behind, List.filterMap_cons, hread]
            rfl
          rw [readAll, hread, List.findSome?_cons, hfirst, hbehind, List.flatten_cons]
          cases hrest : c.readAll fs references with
          | error e =>
              rw [hrest] at ih
              cases hfound : references.findSome? (c.obstacle? fs) with
              | none => rw [hfound] at ih; cases ih
              | some e' => rw [hfound] at ih; cases ih; rfl
          | ok others =>
              rw [hrest] at ih
              cases hfound : references.findSome? (c.obstacle? fs) with
              | none => rw [hfound] at ih; cases ih; rfl
              | some e' => rw [hfound] at ih; cases ih

-- A step that gives a text with some property, unless it fails.
def Ends (p : Text → Prop) (m : CompileM Text) : Option CompileError → Prop
  | none => ∃ x, m = pure x ∧ p x
  | some e => m = throw e

section Ends

variable {p q : Text → Prop} {m : CompileM Text} {failure failure' : Option CompileError}

theorem Ends.bind {f : Text → CompileM Text} (hm : Ends p m failure)
    (hf : ∀ x, p x → Ends q (f x) failure') : Ends q (m >>= f) (failure.or failure') := by
  cases failure with
  | none =>
      obtain ⟨x, rfl, hx⟩ := hm
      rw [pure_bind]
      exact hf x hx
  | some e =>
      obtain rfl : m = throw e := hm
      rfl

theorem Ends.map {f : Text → Text} (hm : Ends p m failure) (hf : ∀ x, p x → q (f x)) :
    Ends q (m >>= fun x => pure (f x)) failure := by
  rw [← Option.or_none (o := failure)]
  exact hm.bind fun x hx => ⟨_, rfl, hf x hx⟩

end Ends

-- A text with groups of another one, and others that the tags behind insertions do not read.
def Inlined (segments : List Segment) (s : Text) : Prop :=
  ∃ inlined, SoundAll inlined ∧ spellAll inlined = s ∧
    ∀ body, .group body ∈ inlined → .group body ∈ segments ∨ Tag.lateRead body = none

section Inlined

variable {segments : List Segment} {s t : Text}

theorem inlined_nil : Inlined [] [] :=
  ⟨[], by simp, rfl, by simp⟩

theorem Inlined.cons {segment : Segment} (hsegment : segment.Sound) (h : Inlined segments s) :
    Inlined (segment :: segments) (segment.spell ++ s) := by
  obtain ⟨inlined, hs, rfl, hm⟩ := h
  refine ⟨segment :: inlined, (soundAll_cons _ _).mpr ⟨hsegment, hs⟩, rfl, fun body hbody => ?_⟩
  rcases List.mem_cons.mp hbody with rfl | hbody
  · simp
  · exact (hm body hbody).imp_left (List.mem_cons_of_mem _)

theorem Inlined.inert_append {segment : Segment} (ht : Tag.Inert t) (h : Inlined segments s) :
    Inlined (segment :: segments) (t ++ s) := by
  obtain ⟨inlined, hs, rfl, hm⟩ := h
  obtain ⟨inner, hinner, rfl, hnone⟩ := ht
  refine ⟨inner ++ inlined, (soundAll_append _ _).mpr ⟨hinner, hs⟩, spellAll_append _ _,
    fun body hbody => ?_⟩
  rcases List.mem_append.mp hbody with hbody | hbody
  · exact .inr (hnone body hbody)
  · exact (hm body hbody).imp_left (List.mem_cons_of_mem _)

end Inlined

section Ends

variable {insert : List Text → CompileM Text} {failure : Text → Option CompileError}

-- The insertions of a text are done one after the other, up to the first that fails.
theorem ends_insertions {segments : List Segment} (hs : SoundAll segments)
    (hinsert : ∀ list ∈ Segment.lists segments,
      Ends Tag.Inert (insert (Reference.ofList list)) (failure list)) :
    Ends (Inlined segments) (rewriteKind insert (spellAll segments) Tag.insertion?)
      ((Segment.lists segments).findSome? failure) := by
  rw [rewriteKind, Tag.grouped_insertion.scan_spellAll hs]
  induction segments with
  | nil => exact ⟨[], rfl, inlined_nil⟩
  | cons segment segments ih =>
      obtain ⟨hsegment, hs⟩ := (soundAll_cons _ _).mp hs
      rw [lists_cons] at hinsert ⊢
      have ih := ih hs fun list hm => hinsert list (List.mem_append_right _ hm)
      cases segment with
      | char c => exact ih.map fun x hx => hx.cons hsegment
      | group body =>
          cases hr : Tag.readInsertion body with
          | none =>
              rw [lists_of_not_read hr, List.nil_append]
              simp only [Tag.piecesOf, hr, Piece.assemble_append, assemble_chars, pure_bind]
              exact ih.map fun x hx => hx.cons hsegment
          | some tag =>
              obtain ⟨list, rfl⟩ := Tag.exists_of_readInsertion hr
              rw [lists_of_read hr] at hinsert ⊢
              have hfirst := hinsert list (by simp)
              simp only [Tag.piecesOf, hr, Piece.assemble, List.findSome?_append,
                List.findSome?_singleton]
              exact hfirst.bind fun out hout => ih.map fun x hx => hx.inert_append hout

-- A regular text ends as its insertions do: everything else in it has a host text.
theorem ends_rewriteWith (hc : c.extensions = []) {s : Text} (hs : s.Regular)
    (hinsert : ∀ list ∈ s.insertions,
      Ends Tag.Inert (insert (Reference.ofList list)) (failure list)) :
    Ends Tag.Inert (c.rewriteWith insert s) (s.insertions.findSome? failure) := by
  obtain ⟨segments, hsound, rfl⟩ := hs.exists_segments
  obtain ⟨left, hstart, hleaves, hlists⟩ := exists_start hsound hs
  have hrun : c.rewriteWith insert (spellAll segments) =
      rewriteKind insert (spellAll left) Tag.insertion? >>= fun s => liftM (c.finish s) := by
    refine StateT.ext fun v => ?_
    rw [run_rewriteWith_alone hs.toBare, hstart]
    rfl
  rw [insertions_spellAll hsound hs.toBare, ← hlists] at hinsert ⊢
  rw [hrun, ← Option.or_none (o := (Segment.lists left).findSome? failure)]
  refine (ends_insertions hleaves.sound hinsert).bind fun y hy => ?_
  obtain ⟨inlined, hinlined, rfl, hgroups⟩ := hy
  obtain ⟨x, hx, hinert⟩ := exists_finish hc hinlined fun reader hm body tag hbody hr => by
    rcases hgroups body hbody with hbody | hnone
    · cases hout : tag.rewrite with
      | ok out => exact ⟨out, rfl⟩
      | error e =>
          exact absurd (Tag.Reader.fault_of_read (List.mem_append_right _ hm) hr hout)
            (hs.not_fault hsound (hleaves.mem body hbody) e)
    · rw [Tag.read_eq_none_of_readWith hnone reader hm] at hr
      cases hr
  exact ⟨x, by rw [hx]; rfl, hinert⟩

end Ends

theorem findSome?_flatMap {α β γ : Type} (items : List α) (f : α → List β) (g : β → Option γ) :
    (items.flatMap f).findSome? g = items.findSome? fun a => (f a).findSome? g := by
  induction items with
  | nil => rfl
  | cons a items ih =>
      rw [List.flatMap_cons, List.findSome?_append, List.findSome?_cons, ih]
      cases (f a).findSome? g <;> rfl

section Obstacles

variable {s : Text}
variable (hc : c.extensions = [])
variable (hfiles : ∀ reference file, c.resolver.read fs reference = .ok file → file.Regular)

include hc hfiles

-- A text whose insertions nest within the depth ends at the first obstacle on its trail. The
-- induction is on the depth; the text behind a list goes on with the trails of its files.
theorem ends_rewriteAt {depth : Nat} (hs : s.Regular) (hn : c.nests fs depth s = true) :
    Ends Tag.Inert (c.rewriteAt fs depth s) ((c.trail fs depth s).findSome? (c.obstacle? fs)) := by
  induction depth generalizing s with
  | zero =>
      have hnone : s.insertions = [] := List.isEmpty_iff.mp hn
      have hinsert : ∀ list ∈ s.insertions,
          Ends Tag.Inert (c.insertAt fs 0 (Reference.ofList list)) none := by simp [hnone]
      have h := ends_rewriteWith hc hs hinsert
      rw [hnone] at h
      rw [rewriteAt_eq]
      exact h
  | succ depth ih =>
      rw [rewriteAt_eq, trail, findSome?_flatMap]
      refine ends_rewriteWith hc hs fun list hlist => ?_
      rw [List.findSome?_append]
      have hregular : ∀ file ∈ c.behind fs (Reference.ofList list), file.Regular := by
        intro file hm
        obtain ⟨reference, -, hread⟩ := mem_behind_iff.mp hm
        exact hfiles reference file hread
      have hbare : ∀ file ∈ c.behind fs (Reference.ofList list), file.Bare :=
        fun file hm => (hregular file hm).toBare
      have hread : Ends (· = (c.behind fs (Reference.ofList list)).flatten)
          (liftM ((c.readAll fs (Reference.ofList list)).mapError CompileError.unreadable))
          ((Reference.ofList list).findSome? (c.obstacle? fs)) := by
        rw [readAll_mapError]
        cases (Reference.ofList list).findSome? (c.obstacle? fs) with
        | none => exact ⟨_, rfl, rfl⟩
        | some e => rfl
      refine hread.bind ?_
      rintro b rfl
      rw [← trail_flatten hbare]
      refine ih (regular_flatten hregular) ?_
      rw [nests_flatten hbare]
      exact List.all_eq_true.mp hn list hlist

end Obstacles

end Compiler

end BraceTemplate

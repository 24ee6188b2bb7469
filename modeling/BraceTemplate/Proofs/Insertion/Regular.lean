import BraceTemplate.Proofs.Insertion.Alone

namespace BraceTemplate

open Text Segment

-- Whether a path has no segment with more digits than are read.
def Tag.hasIndices : Tag → Bool
  | .path _ segments => segments.all fun segment =>
    !segment.all isDigitLike || segment.length ≤ maxNumeralLength
  | _ => true

-- Whether this holds for all paths in a text.
def Text.indexed (s : Text) : Bool :=
  (Piece.scan Tag.path? s).all fun
    | .char _ => true
    | .hit tag => tag.hasIndices

-- A text with nothing that could fail by itself: flat, in ASCII, without literal blocks, and with no
-- more digits in a segment of a path than are read.
structure Text.Regular (s : Text) : Prop extends Text.Bare s where
  ascii : ∀ c ∈ s, c.toNat < 128
  indexed : s.indexed = true

namespace Text

instance (s : Text) : Decidable s.Regular :=
  decidable_of_iff (s.Bare ∧ (∀ c ∈ s, c.toNat < 128) ∧ s.indexed = true)
    ⟨fun h => ⟨h.1, h.2.1, h.2.2⟩, fun h => ⟨h.toBare, h.ascii, h.indexed⟩⟩

theorem regular_nil : Regular [] := by
  decide

theorem indexed_spellAll_iff {segments : List Segment} (hs : SoundAll segments) :
    indexed (spellAll segments) = true ↔
      ∀ body tag, .group body ∈ segments → Tag.readPath body = some tag → tag.hasIndices = true := by
  rw [indexed, Tag.grouped_path.scan_spellAll hs, List.all_eq_true]
  constructor
  · exact fun h body tag hm hr => h _ (Tag.hit_mem_piecesOf_iff.mpr ⟨body, hm, hr⟩)
  · intro h piece hm
    cases piece with
    | char c => rfl
    | hit tag =>
        obtain ⟨body, hbody, hr⟩ := Tag.hit_mem_piecesOf_iff.mp hm
        exact h body tag hbody hr

theorem Regular.append {s t : Text} (hs : s.Regular) (ht : t.Regular) : Regular (s ++ t) := by
  refine ⟨hs.toBare.append ht.toBare, fun c hc => ?_, ?_⟩
  · exact (List.mem_append.mp hc).elim (hs.ascii c) (ht.ascii c)
  · obtain ⟨a, ha, rfl⟩ := hs.exists_segments
    obtain ⟨b, hb, rfl⟩ := ht.exists_segments
    have hall := (indexed_spellAll_iff ha).mp hs.indexed
    have hall' := (indexed_spellAll_iff hb).mp ht.indexed
    rw [← spellAll_append, indexed_spellAll_iff ((soundAll_append a b).mpr ⟨ha, hb⟩)]
    exact fun body tag hm hr =>
      (List.mem_append.mp hm).elim (fun hm => hall body tag hm hr) fun hm => hall' body tag hm hr

theorem isDecimalDigit_of_ascii {c : Char} (hc : c.toNat < 128) (hdigit : isDigitLike c = true) :
    isDecimalDigit c = true := by
  have hall : ∀ n < 128, isDigitLike (Char.ofNat n) = true → isDecimalDigit (Char.ofNat n) = true := by
    decide +kernel
  have h := hall c.toNat hc
  rw [Char.ofNat_toNat] at h
  exact h hdigit

-- Every tag of such a text has a meaning.
theorem Regular.not_fault {segments : List Segment} (hs : SoundAll segments)
    (h : Regular (spellAll segments)) {body : Text} (hm : .group body ∈ segments) (e : TagError) :
    ¬ Fault body e := by
  have hbody : ∀ c ∈ body, c.toNat < 128 := by
    intro c hc
    obtain ⟨a, b, rfl⟩ := List.append_of_mem hm
    refine h.ascii c ?_
    simp [spellAll_append, spell, hc]
  intro hfault
  cases hfault with
  | @block word spelling c _ _ hc hstray =>
      have hhigh : ∀ c ∈ strayLetters, ¬ c.toNat < 128 := by decide
      exact hhigh c hstray (hbody c (List.mem_cons_of_mem _ hc))
  | @index parts head segment segments hparts hsplit hfull hsegment hdigits hindex =>
      have hread : Tag.readPath ('$' :: parts) = some (.path ('$' :: head) segments) :=
        Tag.readPath_eq_some_iff.mpr
          ⟨parts, head, segments, rfl, hparts, hsplit, List.ne_nil_of_mem hsegment, hfull, rfl⟩
      have hindices := (indexed_spellAll_iff hs).mp h.indexed _ _ hm hread
      have hshort := List.all_eq_true.mp hindices segment hsegment
      simp only [List.all_eq_true.mpr hdigits, Bool.not_true, Bool.false_or, decide_eq_true_eq] at hshort
      have hpart : segment ∈ split '.' parts := hsplit ▸ List.mem_cons_of_mem _ hsegment
      exact hindex ⟨hshort, fun c hc => isDecimalDigit_of_ascii
        (hbody c (List.mem_cons_of_mem _ (mem_of_mem_split hpart hc))) (hdigits c hc)⟩

end Text

theorem Piece.assemble_append {α : Type} {m : Type → Type} [Monad m] [LawfulMonad m]
    (emit : α → m Text) (a b : List (Piece α)) :
    assemble emit (a ++ b) =
      assemble emit a >>= fun x => assemble emit b >>= fun y => pure (x ++ y) := by
  induction a with
  | nil => simp only [List.nil_append, assemble, pure_bind, bind_pure]
  | cons piece a ih =>
      cases piece with
      | char c => simp only [List.cons_append, assemble, ih, bind_assoc, pure_bind]
      | hit value =>
          simp only [List.cons_append, assemble, ih, bind_assoc, pure_bind, List.append_assoc]

namespace Compiler

-- What passes leave of a text: some of its groups, none of which they read.
structure Leaves (readers : List Tag.Reader) (segments left : List Segment) : Prop where
  sound : SoundAll left
  mem : ∀ body, .group body ∈ left → .group body ∈ segments
  unread : ∀ body, .group body ∈ left → ∀ reader ∈ readers, reader.read body = none

section Passes

variable {segments : List Segment}

-- A pass over a text whose tags all have a host text.
theorem exists_pass {reader : Tag.Reader} (hs : SoundAll segments)
    (hok : ∀ body tag, .group body ∈ segments → reader.read body = some tag →
      ∃ out, tag.rewrite = .ok out) :
    ∃ left, rewriteAlone (spellAll segments) reader.find = .ok (spellAll left) ∧
      Leaves [reader] segments left ∧
      ((∀ body tag, Tag.readInsertion body = some tag → reader.read body = none) →
        Segment.lists left = Segment.lists segments) := by
  rw [rewriteAlone, reader.grouped.scan_spellAll hs]
  induction segments with
  | nil => exact ⟨[], rfl, ⟨by simp, by simp, by simp⟩, fun _ => rfl⟩
  | cons segment segments ih =>
      obtain ⟨hsegment, hs⟩ := (soundAll_cons _ _).mp hs
      obtain ⟨left, hleft, hleaves, hlists⟩ :=
        ih hs fun body tag hm => hok body tag (List.mem_cons_of_mem _ hm)
      have hmem : ∀ body, .group body ∈ left → .group body ∈ segment :: segments :=
        fun body hm => List.mem_cons_of_mem _ (hleaves.mem body hm)
      cases segment with
      | char c =>
          refine ⟨.char c :: left, ?_, ⟨(soundAll_cons _ _).mpr ⟨hsegment, hleaves.sound⟩,
            by simpa using hmem, by simpa using hleaves.unread⟩, fun h => ?_⟩
          · rw [Tag.piecesOf, Piece.assemble, hleft]
            rfl
          · exact hlists h
      | group body =>
          cases hr : reader.read body with
          | none =>
              refine ⟨.group body :: left, ?_, ⟨(soundAll_cons _ _).mpr ⟨hsegment, hleaves.sound⟩,
                ?_, ?_⟩, fun h => ?_⟩
              · simp only [Tag.piecesOf, hr, Piece.assemble_append, assemble_chars, hleft]
                rfl
              · rintro other (_ | ⟨_, hm⟩)
                · simp
                · exact hmem other hm
              · rintro other (_ | ⟨_, hm⟩)
                · simpa using hr
                · exact hleaves.unread other hm
              · rw [lists_cons, lists_cons (.group body) segments, hlists h]
          | some tag =>
              obtain ⟨out, hout⟩ := hok body tag (by simp) hr
              have hfree : BraceFree out := Tag.braceFree_rewrite (fun s hm =>
                BraceFree.of_subset hsegment (reader.texts_subset hr s hm)) hout
              refine ⟨chars out ++ left, ?_, ⟨(soundAll_append _ _).mpr
                ⟨soundAll_chars hfree, hleaves.sound⟩, ?_, ?_⟩, fun h => ?_⟩
              · simp only [Tag.piecesOf, hr, Piece.assemble, hleft, hout, spellAll_append,
                  spellAll_chars]
                rfl
              · simpa [chars] using hmem
              · simpa [chars] using hleaves.unread
              · have hnone : Tag.readInsertion body = none := by
                  cases hread : Tag.readInsertion body with
                  | none => rfl
                  | some found =>
                      rw [h body found hread] at hr
                      cases hr
                rw [lists_append, lists_chars, lists_cons (.group body), lists_of_not_read hnone,
                  hlists h]

theorem exists_passes {readers : List Tag.Reader} (hs : SoundAll segments)
    (hok : ∀ reader ∈ readers, ∀ body tag, .group body ∈ segments → reader.read body = some tag →
      ∃ out, tag.rewrite = .ok out) :
    ∃ left, (readers.map Tag.Reader.find).foldlM rewriteAlone (spellAll segments) =
        .ok (spellAll left) ∧
      Leaves readers segments left ∧
      ((∀ reader ∈ readers, ∀ body tag, Tag.readInsertion body = some tag → reader.read body = none) →
        Segment.lists left = Segment.lists segments) := by
  induction readers generalizing segments with
  | nil => exact ⟨segments, rfl, ⟨hs, fun _ hm => hm, by simp⟩, fun _ => rfl⟩
  | cons reader readers ih =>
      obtain ⟨first, hfirst, hleaves, hlists⟩ := exists_pass hs (hok reader (by simp))
      obtain ⟨left, hleft, hrest, hlists'⟩ := ih hleaves.sound fun other hm body tag hbody =>
        hok other (List.mem_cons_of_mem _ hm) body tag (hleaves.mem body hbody)
      refine ⟨left, ?_, ⟨hrest.sound, fun body hm => hleaves.mem body (hrest.mem body hm), ?_⟩,
        fun h => ?_⟩
      · rw [List.map_cons, List.foldlM_cons, hfirst]
        exact hleft
      · intro body hm other hother
        rcases List.mem_cons.mp hother with rfl | hother
        · exact hleaves.unread body (hrest.mem body hm) other (by simp)
        · exact hrest.unread body hm other hother
      · rw [hlists' fun other hm => h other (List.mem_cons_of_mem _ hm), hlists (h reader (by simp))]

-- The tags before insertions leave a regular text with the insertions that it has.
theorem exists_start (hs : SoundAll segments) (h : Regular (spellAll segments)) :
    ∃ left, start (spellAll segments) = .ok (spellAll left) ∧
      Leaves Tag.Reader.early segments left ∧ Segment.lists left = Segment.lists segments := by
  have hok : ∀ reader ∈ Tag.Reader.early, ∀ body tag, .group body ∈ segments →
      reader.read body = some tag → ∃ out, tag.rewrite = .ok out := by
    intro reader hm body tag hbody hr
    cases hout : tag.rewrite with
    | ok out => exact ⟨out, rfl⟩
    | error e =>
        exact absurd (Tag.Reader.fault_of_read (List.mem_append_left _ hm) hr hout)
          (h.not_fault hs hbody e)
  obtain ⟨left, hleft, hleaves, hlists⟩ := exists_passes hs hok
  exact ⟨left, hleft, hleaves, hlists fun reader hm body tag hr =>
    Tag.Reader.read_eq_none_of_readInsertion hr hm⟩

-- The tags behind insertions leave nothing that they would read in the host text.
theorem exists_finish {c : Compiler} (hc : c.extensions = []) (hs : SoundAll segments)
    (hok : ∀ reader ∈ Tag.Reader.late, ∀ body tag, .group body ∈ segments →
      reader.read body = some tag → ∃ out, tag.rewrite = .ok out) :
    ∃ x, c.finish (spellAll segments) = .ok x ∧ Tag.Inert x := by
  obtain ⟨left, hleft, hleaves, -⟩ := exists_passes hs hok
  have hinert : Tag.Inert (spellAll left) := by
    refine ⟨left, hleaves.sound, rfl, fun body hm => ?_⟩
    have hnone : Tag.readWith (Tag.Reader.late ++ []) (fun _ => none) body = none :=
      Tag.readWith_append_of_none (hleaves.unread body hm)
    rwa [List.append_nil] at hnone
  refine ⟨Tag.mergeStatements (spellAll left), ?_, hinert.mergeStatements⟩
  rw [finish, hleft, hc]
  rfl

end Passes

end Compiler

end BraceTemplate

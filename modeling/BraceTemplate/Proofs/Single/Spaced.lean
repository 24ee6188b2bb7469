import BraceTemplate.Proofs.Single.Group
import BraceTemplate.Proofs.Single.Parts

namespace BraceTemplate

open Text

-- A reference in a list, and the white space around it.
structure SpacedReference where
  before : Text
  reference : Text
  behind : Text

namespace SpacedReference

def spell (part : SpacedReference) : Text :=
  part.before ++ (part.reference ++ part.behind)

-- A list as it is written, and without white space.
def spaced (parts : List SpacedReference) : Text :=
  join [','] (parts.map spell)

def tight (parts : List SpacedReference) : Text :=
  join [','] (parts.map reference)

structure IsSound (part : SpacedReference) : Prop where
  ne_nil : part.reference ≠ []
  chars : ∀ c ∈ part.reference, Tag.isListChar c = true ∧ c ≠ ','
  before : ∀ c ∈ part.before, isBlank c = true
  behind : ∀ c ∈ part.behind, isBlank c = true

instance (part : SpacedReference) : Decidable part.IsSound :=
  decidable_of_iff (part.reference ≠ [] ∧ (∀ c ∈ part.reference, Tag.isListChar c = true ∧ c ≠ ',') ∧
      (∀ c ∈ part.before, isBlank c = true) ∧ ∀ c ∈ part.behind, isBlank c = true)
    ⟨fun ⟨hne, hchars, hbefore, hbehind⟩ => ⟨hne, hchars, hbefore, hbehind⟩,
      fun h => ⟨h.ne_nil, h.chars, h.before, h.behind⟩⟩

-- White space in some other place than in front of the list.
def Loose (parts : List SpacedReference) : Prop :=
  (∃ part ∈ parts, part.behind ≠ []) ∨ ∃ part ∈ parts.tail, part.before ≠ []

instance (parts : List SpacedReference) : Decidable (Loose parts) :=
  inferInstanceAs (Decidable
    ((∃ part ∈ parts, part.behind ≠ []) ∨ ∃ part ∈ parts.tail, part.before ≠ []))

variable {part : SpacedReference} {parts : List SpacedReference}

theorem IsSound.isBlank_eq_false (h : part.IsSound) : ∀ c ∈ part.reference, isBlank c = false :=
  fun c hc => Tag.isBlank_eq_false_of_isListChar (h.chars c hc).1

theorem IsSound.trim_spell (h : part.IsSound) : Text.trim part.spell = part.reference := by
  have htrimmed : part.reference.Trimmed :=
    ⟨fun c hc => h.isBlank_eq_false c (List.mem_of_mem_head? hc),
      fun c hc => h.isBlank_eq_false c (List.mem_of_getLast? hc)⟩
  exact htrimmed.trim_between h.ne_nil h.before h.behind

theorem IsSound.comma_not_mem (h : part.IsSound) : ',' ∉ part.spell := by
  have hblank : isBlank ',' = false := by decide
  simp only [spell, List.mem_append, not_or]
  refine ⟨fun hm => ?_, fun hm => (h.chars _ hm).2 rfl, fun hm => ?_⟩
  · simp [h.before _ hm] at hblank
  · simp [h.behind _ hm] at hblank

-- The references of a list are those of the list without white space.
theorem ofList_spaced (hparts : ∀ part ∈ parts, part.IsSound) :
    Reference.ofList (spaced parts) = Reference.ofList (tight parts) := by
  cases parts with
  | nil => rfl
  | cons first rest =>
      have hspaced : split ',' (spaced (first :: rest)) = (first :: rest).map spell := by
        refine split_join (by simp) fun piece hm => ?_
        obtain ⟨part, hpart, rfl⟩ := List.mem_map.mp hm
        exact (hparts part hpart).comma_not_mem
      have htight : split ',' (tight (first :: rest)) = (first :: rest).map reference := by
        refine split_join (by simp) fun piece hm => ?_
        obtain ⟨part, hpart, rfl⟩ := List.mem_map.mp hm
        exact fun hc => ((hparts part hpart).chars _ hc).2 rfl
      have hitems : ((first :: rest).map spell).map Text.trim =
          ((first :: rest).map reference).map Text.trim := by
        simp only [List.map_map]
        refine List.map_congr_left fun part hm => ?_
        have hsound := hparts part hm
        rw [Function.comp_apply, Function.comp_apply, hsound.trim_spell,
          trim_eq_self_of_forall hsound.isBlank_eq_false]
      simp only [Reference.ofList, hspaced, htight, hitems]

-- White space in front of a list goes.
theorem trimLeft_spaced {first : SpacedReference} {rest : List SpacedReference} (h : first.IsSound) :
    Text.trimLeft (spaced (first :: rest)) =
      first.reference ++ (first.behind ++ (rest.map spell).flatMap (',' :: ·)) := by
  obtain ⟨c, reference, href⟩ := List.exists_cons_of_ne_nil h.ne_nil
  have hc : isBlank c = false := h.isBlank_eq_false c (by simp [href])
  rw [spaced, List.map_cons, join_cons, spell, List.append_assoc, trimLeft_append_blanks h.before, href,
    List.cons_append, List.cons_append, trimLeft_cons_of_not_blank hc, List.append_assoc,
    List.cons_append]

theorem trimLeft_spaced_of_not_loose (hparts : ∀ part ∈ parts, part.IsSound) (h : ¬ Loose parts) :
    Text.trimLeft (spaced parts) = tight parts := by
  simp only [Loose, not_or, not_exists, not_and, not_not] at h
  cases parts with
  | nil => rfl
  | cons first rest =>
      have hrest : rest.map spell = rest.map reference := by
        refine List.map_congr_left fun part hm => ?_
        rw [spell, h.2 part hm, h.1 part (List.mem_cons_of_mem _ hm), List.nil_append, List.append_nil]
      rw [trimLeft_spaced (hparts first (by simp)), h.1 first (by simp), hrest, List.nil_append, tight,
        List.map_cons, join_cons]

-- White space in any other place is in the way of reading a list.
theorem all_isListChar_of_loose (hparts : ∀ part ∈ parts, part.IsSound) (h : Loose parts) :
    (Text.trimLeft (spaced parts)).all Tag.isListChar = false := by
  have hblank : ∃ c ∈ Text.trimLeft (spaced parts), isBlank c = true := by
    cases parts with
    | nil => simp [Loose] at h
    | cons first rest =>
        rw [trimLeft_spaced (hparts first (by simp))]
        have hrest : ∀ part ∈ rest, part.before ≠ [] ∨ part.behind ≠ [] →
            ∃ c ∈ (rest.map spell).flatMap (',' :: ·), isBlank c = true := by
          intro part hm hgap
          have hsound := hparts part (List.mem_cons_of_mem _ hm)
          obtain ⟨c, hc, hspell⟩ : ∃ c, isBlank c = true ∧ c ∈ part.spell := by
            rcases hgap with hgap | hgap
            · obtain ⟨c, gap, he⟩ := List.exists_cons_of_ne_nil hgap
              exact ⟨c, hsound.before c (by simp [he]), by simp [spell, he]⟩
            · obtain ⟨c, gap, he⟩ := List.exists_cons_of_ne_nil hgap
              exact ⟨c, hsound.behind c (by simp [he]), by simp [spell, he]⟩
          exact ⟨c, List.mem_flatMap.mpr
            ⟨part.spell, List.mem_map_of_mem hm, List.mem_cons_of_mem _ hspell⟩, hc⟩
        have hbehind : ∀ c, c ∈ (rest.map spell).flatMap (',' :: ·) →
            c ∈ first.reference ++ (first.behind ++ (rest.map spell).flatMap (',' :: ·)) :=
          fun c hc => by simp only [List.mem_append, hc, or_true]
        rcases h with ⟨part, hm, hgap⟩ | ⟨part, hm, hgap⟩
        · rcases List.mem_cons.mp hm with rfl | hm
          · obtain ⟨c, gap, he⟩ := List.exists_cons_of_ne_nil hgap
            exact ⟨c, by simp [he], (hparts part (by simp)).behind c (by simp [he])⟩
          · obtain ⟨c, hc, hblank⟩ := hrest part hm (.inr hgap)
            exact ⟨c, hbehind c hc, hblank⟩
        · obtain ⟨c, hc, hblank⟩ := hrest part hm (.inl hgap)
          exact ⟨c, hbehind c hc, hblank⟩
  obtain ⟨c, hc, hblank⟩ := hblank
  rw [List.all_eq_false]
  refine ⟨c, hc, fun hlist => ?_⟩
  rw [Tag.isBlank_eq_false_of_isListChar hlist] at hblank
  cases hblank

theorem mem_spaced (hparts : ∀ part ∈ parts, part.IsSound) {c : Char} (h : c ∈ spaced parts) :
    isBlank c = true ∨ Tag.isListChar c = true := by
  rcases mem_join h with rfl | ⟨piece, hm, hc⟩
  · exact .inr (by decide)
  · obtain ⟨part, hpart, rfl⟩ := List.mem_map.mp hm
    have hsound := hparts part hpart
    simp only [spell, List.mem_append] at hc
    rcases hc with hc | hc | hc
    · exact .inl (hsound.before c hc)
    · exact .inr (hsound.chars c hc).1
    · exact .inl (hsound.behind c hc)

theorem isListChar_of_mem_tight (hparts : ∀ part ∈ parts, part.IsSound) :
    ∀ c ∈ tight parts, Tag.isListChar c = true := by
  intro c h
  rcases mem_join h with rfl | ⟨piece, hm, hc⟩
  · decide
  · obtain ⟨part, hpart, rfl⟩ := List.mem_map.mp hm
    exact ((hparts part hpart).chars c hc).1

-- The tag that inserts what stands behind a list with white space in it.
def tag (parts : List SpacedReference) : Segment :=
  .group ("include".toList ++ spaced parts)

end SpacedReference

namespace Tag

theorem readInsertion_include (s : Text) :
    readInsertion ("include".toList ++ s) =
      if s.trimLeft.all isListChar then some (.insertion s.trimLeft) else none := rfl

theorem read_include (s : Text) :
    read ("include".toList ++ s) = (readInsertion ("include".toList ++ s)).or none := rfl

end Tag

namespace Compiler

open SpacedReference

variable {c : Compiler} (fs : FileSystem) {parts : List SpacedReference}

theorem braceFree_spaced (hparts : ∀ part ∈ parts, part.IsSound) :
    BraceFree ("include".toList ++ spaced parts) := by
  rw [braceFree_append]
  refine ⟨by decide, fun d hd => ?_⟩
  rw [isBrace_eq_false_iff]
  constructor <;>
    · rintro rfl
      exact absurd (mem_spaced hparts hd) (by decide)

theorem question_not_mem_spaced (hparts : ∀ part ∈ parts, part.IsSound) : '?' ∉ (tag parts).spell := by
  have hspaced : '?' ∉ spaced parts := fun hm => absurd (mem_spaced hparts hm) (by decide)
  simp only [tag, Segment.spell, List.mem_cons, List.mem_append, not_or]
  exact ⟨by decide, ⟨by decide, hspaced⟩, by decide⟩

-- White space in a list of references is nothing to those who take the list apart, but the tag allows
-- it only in front of the list: with white space in another place it is no tag, and stays in the page.
theorem compile_spaced (hparts : ∀ part ∈ parts, part.IsSound) :
    Reference.ofList (spaced parts) = Reference.ofList (tight parts) ∧
      (¬ Loose parts →
        c.compile fs (tag parts).spell = c.compile fs (Tag.insertionTag (tight parts))) ∧
      (Loose parts → c.compile fs (tag parts).spell = c.extended (tag parts).spell) := by
  have hb := braceFree_spaced hparts
  have hread := Tag.readInsertion_include (spaced parts)
  refine ⟨ofList_spaced hparts, fun hloose => ?_, fun hloose => ?_⟩
  · have hlist := isListChar_of_mem_tight hparts
    rw [trimLeft_spaced_of_not_loose hparts hloose, if_pos (List.all_eq_true.mpr hlist)] at hread
    simp only [compile, tag, rewriteAt_insertion hb rfl hread, rewriteAt_insertionTag hlist]
  · rw [if_neg (by simp [all_isListChar_of_loose hparts hloose])] at hread
    rw [tag, compile_group fs hb rfl hread, Tag.read_include, hread]
    have hmerge : Tag.mergeStatements (tag parts).spell = (tag parts).spell :=
      Tag.mergeFrom_eq_self (question_not_mem_spaced hparts) none
    exact congrArg c.extended hmerge

-- White space in front of a list of two, and behind its comma.
theorem compile_spaced_pair :
    nestedCompiler.compile (.ofFiles nestedFiles.read?) "\x7binclude\n a,b@t\x7d".toList =
        nestedCompiler.compile (.ofFiles nestedFiles.read?) "\x7binclude a,b@t\x7d".toList ∧
      nestedCompiler.compile (.ofFiles nestedFiles.read?) "\x7binclude a,\tb@t\x7d".toList =
        .ok "\x7binclude a,\tb@t\x7d".toList := by
  have hfront : ∀ part ∈ [(⟨"\n ".toList, "a".toList, []⟩ : SpacedReference),
      ⟨[], "b@t".toList, []⟩], part.IsSound := by decide
  have hinside : ∀ part ∈ [(⟨" ".toList, "a".toList, []⟩ : SpacedReference),
      ⟨"\t".toList, "b@t".toList, []⟩], part.IsSound := by decide
  exact ⟨(compile_spaced (.ofFiles nestedFiles.read?) hfront).2.1 (by decide),
    (compile_spaced (.ofFiles nestedFiles.read?) hinside).2.2 (by decide)⟩

-- Two lists of the same references, of which only the one without white space is inserted.
theorem compile_spaced_departs :
    Reference.ofList "a, b@t".toList = ["a@t".toList, "b@t".toList] ∧
      Reference.ofList "a,b@t".toList = ["a@t".toList, "b@t".toList] ∧
      nestedCompiler.compile (.ofFiles nestedFiles.read?) "\x7binclude a,b@t\x7d".toList =
        .ok "a<?= (y) | e =?><?= (y) | e =?>".toList ∧
      nestedCompiler.compile (.ofFiles nestedFiles.read?) "\x7binclude a, b@t\x7d".toList =
        .ok "\x7binclude a, b@t\x7d".toList := by
  decide +kernel

end Compiler

end BraceTemplate

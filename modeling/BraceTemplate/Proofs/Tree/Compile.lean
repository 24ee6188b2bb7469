import BraceTemplate.Proofs.Tree.Lexeme
import BraceTemplate.Proofs.Tree.Translate

namespace BraceTemplate

open Host

namespace Host.Lexeme

theorem not_isMarkup_of_namePart {c : Char} (h : isNamePart c = true) : isMarkup c = false := by
  by_contra hm
  simp only [isMarkup, Bool.not_eq_false, Bool.or_eq_true, beq_iff_eq] at hm
  rcases hm with ((((rfl | rfl) | rfl) | rfl) | rfl) | rfl <;> exact absurd h (by decide)

theorem not_isMarkup_of_isDigit {c : Char} (h : c.isDigit = true) : isMarkup c = false :=
  not_isMarkup_of_namePart (by simp [isNamePart_eq, h])

theorem not_isMarkup_of_mem {ls : List Lexeme} (hls : ls.all isSound = true) {c : Char}
    (hc : c ∈ spellAll ls) : isMarkup c = false := by
  obtain ⟨l, hl, hc⟩ := List.mem_flatMap.mp hc
  have hsound := List.all_eq_true.mp hls l hl
  cases l with
  | blank =>
      obtain rfl := List.mem_singleton.mp hc
      decide
  | name x =>
      obtain ⟨_, _, _, _, hpart⟩ := isName_iff.mp hsound
      exact not_isMarkup_of_namePart (hpart c hc)
  | number n => exact not_isMarkup_of_isDigit (isDigit_of_mem_natText hc)
  | mark m =>
      have hm : ∀ d ∈ m.spelling, isMarkup d = false := by cases m <;> decide
      exact hm c hc

theorem sound_filtered {x : Text} (hx : isVariable x = true) {filter : String}
    (hf : isName filter.toList = true) : (filtered x filter).all isSound = true := by
  simp [filtered, enclosed, word, isName_of_variable hx, hf]

theorem sound_test {x : Text} (hx : isVariable x = true) {keyword : String}
    (hk : isName keyword.toList = true) : (test keyword x).all isSound = true := by
  simp [test, enclosed, word, isName_of_variable hx, hk]

theorem sound_loop {x : Text} (hx : isVariable x = true) {binder : Binder}
    (hb : binder.isValid = true) : (loop x binder).all isSound = true := by
  have hfor : (word "for").isSound = true := by decide
  have hin : (word "in").isSound = true := by decide
  cases binder with
  | value v =>
      have hv : isVariable v = true := hb
      have hsource : (filtered x "values").all isSound = true := sound_filtered hx (by decide)
      simp [loop, target, source, hsource, hfor, hin, isName_of_variable hv]
  | pair k v =>
      simp only [Binder.isValid, Bool.and_eq_true] at hb
      obtain ⟨⟨hk, hv⟩, -⟩ := hb
      have hsource : (filtered x "pairs").all isSound = true := sound_filtered hx (by decide)
      simp [loop, target, source, hsource, hfor, hin, isName_of_variable hk,
        isName_of_variable hv]

end Host.Lexeme

namespace Tag

-- A text in which no statements are merged, whatever stands before it.
structure Unmerged (s : Text) : Prop where
  fixed : ∀ before, mergeFrom before s = s
  apart : ∀ rest, skipBlanks? s = some rest → takeWord "<?py".toList rest = none

theorem unmerged_nil : Unmerged [] where
  fixed _ := rfl
  apart rest h := by simp [skipBlanks?] at h

theorem mergeFrom_append_of_not_mem {s : Text} (hs : '?' ∉ s) (t : Text) (before : Option Char) :
    mergeFrom before (s ++ t) = s ++ mergeFrom (s.getLast?.or before) t := by
  induction s generalizing before with
  | nil => rfl
  | cons c s ih =>
      simp only [List.mem_cons, not_or] at hs
      rw [List.cons_append, mergeFrom_of_none (merge?_of_ne (Ne.symm hs.1) _ _), ih hs.2,
        Piece.getLast?_cons_or]
      rfl

theorem takeWord_statementOpen_of_ne {c : Char} (hc : c ≠ '<') (s : Text) :
    takeWord "<?py".toList (c :: s) = none := by
  have hletter : sameLetter '<' c = false := by
    by_contra h
    exact hc (eq_of_sameLetter (by decide) (by simpa using h))
  simp [takeWord, hletter]

theorem not_mem_of_chunk {s : Text} (hs : isChunk s = true) {c : Char} (hc : isMarkup c = true) :
    c ∉ s := by
  simp only [isChunk, Bool.and_eq_true, List.all_eq_true, Bool.not_eq_true'] at hs
  intro hm
  simp [hs.2 c hm] at hc

-- White space at the start of a text does not reach up to a statement.
theorem takeWord_of_chunk {s t rest : Text} (hs : isChunk s = true)
    (h : skipBlanks? (s ++ t) = some rest) : takeWord "<?py".toList rest = none := by
  obtain ⟨d, hd, hblank⟩ : ∃ d ∈ s, isBlank d = false := by
    simp only [isChunk, Bool.and_eq_true, List.any_eq_true, Bool.not_eq_true'] at hs
    exact hs.1
  cases s with
  | nil => simp at hd
  | cons c s =>
      simp only [List.cons_append, skipBlanks?, Option.ite_none_right_eq_some,
        Option.some.injEq] at h
      obtain ⟨hc, rfl⟩ := h
      have hds : d ∈ s := by
        rcases List.mem_cons.mp hd with rfl | hds
        · simp [hblank] at hc
        · exact hds
      cases hkept : s.dropWhile isBlank with
      | nil => simp [List.dropWhile_eq_nil_iff.mp hkept d hds] at hblank
      | cons e kept =>
          have hne : e ≠ '<' := by
            rintro rfl
            have hm : '<' ∈ s := (List.dropWhile_suffix isBlank).mem (hkept ▸ List.mem_cons_self)
            exact not_mem_of_chunk hs (by decide) (List.mem_cons_of_mem _ hm)
          rw [Text.trimLeft, List.dropWhile_append, hkept]
          exact takeWord_statementOpen_of_ne hne _

theorem question_not_mem {ls : List Lexeme} (hsound : ls.all Lexeme.isSound = true) :
    '?' ∉ Lexeme.spellAll ls := fun hm =>
  absurd (Lexeme.not_isMarkup_of_mem hsound hm) (by decide)

-- A tag of the host up to the last character before its end, which tells whether a gap may begin there.
theorem mergeFrom_hostTag {c last : Char} {inner : Text} (hc : c ≠ '>')
    (hq : '?' ∉ c :: (inner ++ [last])) (s : Text) (before : Option Char) :
    mergeFrom before ('<' :: '?' :: c :: (inner ++ last :: s)) =
      '<' :: '?' :: c :: (inner ++ last :: mergeFrom (some last) s) := by
  have hlast : ∀ before, (c :: (inner ++ [last])).getLast?.or before = some last := fun before => by
    rw [← List.cons_append, List.getLast?_concat, Option.some_or]
  have hs : ∀ s, c :: (inner ++ last :: s) = c :: (inner ++ [last]) ++ s := fun s => by simp
  rw [mergeFrom_of_none (merge?_of_ne (by decide) _ _), mergeFrom_of_none (merge?_question hc _ _),
    hs s, mergeFrom_append_of_not_mem hq, hlast, hs (mergeFrom (some last) s)]

theorem mergeFrom_statementOf {ls : List Lexeme} (hsound : ls.all Lexeme.isSound = true) (t : Text)
    (before : Option Char) :
    mergeFrom before (statementOf ls ++ t) =
      statementOpen ++ ' ' :: (Lexeme.spellAll ls ++ ' ' :: mergeFrom (some ' ') ('?' :: '>' :: t)) := by
  have hls : '?' ∉ Lexeme.spellAll ls := question_not_mem hsound
  have hq : '?' ∉ 'p' :: ('y' :: ' ' :: Lexeme.spellAll ls ++ [' ']) := by simpa using hls
  simpa [statementOf, Host.statement, statementOpen, statementClose] using
    mergeFrom_hostTag (by decide) hq ('?' :: '>' :: t) before

namespace Unmerged

variable {t : Text}

-- White space behind a statement stays when a text follows, for the text is not all white space.
theorem chunk {s : Text} (hs : isChunk s = true) (ht : Unmerged t) : Unmerged (s ++ t) where
  fixed before := by
    rw [mergeFrom_append_of_not_mem (not_mem_of_chunk hs (by decide)), ht.fixed]
  apart _ h := takeWord_of_chunk hs h

-- The end of a tag, behind which no gap begins that is taken out.
theorem mergeFrom_close {last : Char} (hend : merge? (some last) ('?' :: '>' :: t) = none)
    (ht : Unmerged t) : mergeFrom (some last) ('?' :: '>' :: t) = '?' :: '>' :: t := by
  rw [mergeFrom_of_none hend, mergeFrom_of_none (merge?_of_ne (by decide) _ _), ht.fixed]

theorem statement {ls : List Lexeme} (hsound : ls.all Lexeme.isSound = true) (ht : Unmerged t) :
    Unmerged (statementOf ls ++ t) where
  fixed before := by
    have hend : merge? (some ' ') ('?' :: '>' :: t) = none := by
      rw [merge?_statementEnd, if_neg (by decide), Option.bind_eq_none_iff]
      intro rest hrest
      rw [ht.apart rest hrest, Option.map_none]
    rw [mergeFrom_statementOf hsound, ht.mergeFrom_close hend]
    simp [statementOf, Host.statement, statementClose]
  apart rest h := by
    have hblank : isBlank '<' = false := by decide
    simp [statementOf, Host.statement, statementOpen, skipBlanks?, hblank] at h

theorem output {ls : List Lexeme} (hsound : ls.all Lexeme.isSound = true) (ht : Unmerged t) :
    Unmerged (outputOf ls ++ t) where
  fixed before := by
    have hls : '?' ∉ Lexeme.spellAll ls := question_not_mem hsound
    have hq : '?' ∉ '=' :: (' ' :: Lexeme.spellAll ls ++ [' '] ++ ['=']) := by simpa using hls
    have hend : merge? (some '=') ('?' :: '>' :: t) = none := by
      rw [merge?_statementEnd, if_pos rfl]
    have htag := mergeFrom_hostTag (by decide) hq ('?' :: '>' :: t) before
    rw [ht.mergeFrom_close hend] at htag
    simpa [outputOf, Host.output, outputOpen, outputClose] using htag
  apart rest h := by
    have hblank : isBlank '<' = false := by decide
    simp [outputOf, Host.output, outputOpen, skipBlanks?, hblank] at h

end Unmerged

end Tag

open Host.Lexeme

mutual

theorem Tree.unmerged_host (t : Tree) (ht : t.isValid = true) {s : Text} (hs : Tag.Unmerged s) :
    Tag.Unmerged (t.host ++ s) := by
  cases t with
  | done => exact hs
  | chunk u rest =>
      simp only [Tree.isValid, Bool.and_eq_true] at ht
      rw [Tree.host, List.append_assoc]
      exact (rest.unmerged_host ht.2 hs).chunk ht.1
  | output x rest =>
      simp only [Tree.isValid, Bool.and_eq_true] at ht
      rw [Tree.host, List.append_assoc]
      exact (rest.unmerged_host ht.2 hs).output (sound_filtered ht.1 (by decide))
  | choose x body more rest =>
      simp only [Tree.isValid, Bool.and_eq_true] at ht
      obtain ⟨⟨⟨hx, hbody⟩, hmore⟩, hrest⟩ := ht
      simp only [Tree.host, List.append_assoc]
      exact (body.unmerged_host hbody (more.unmerged_host hmore
        ((rest.unmerged_host hrest hs).statement (by decide)))).statement
          (sound_test hx (by decide))
  | each x binder body rest =>
      simp only [Tree.isValid, Bool.and_eq_true] at ht
      obtain ⟨⟨⟨hx, hb⟩, hbody⟩, hrest⟩ := ht
      simp only [Tree.host, List.append_assoc]
      exact (body.unmerged_host hbody ((rest.unmerged_host hrest hs).statement (by decide))).statement
        (sound_loop hx hb)

theorem Branches.unmerged_host (b : Branches) (hb : b.isValid = true) {s : Text}
    (hs : Tag.Unmerged s) : Tag.Unmerged (b.host ++ s) := by
  cases b with
  | done => exact hs
  | otherwise body =>
      rw [Branches.host, List.append_assoc]
      exact (body.unmerged_host hb hs).statement (by decide)
  | elseif x body more =>
      simp only [Branches.isValid, Bool.and_eq_true] at hb
      obtain ⟨⟨hx, hbody⟩, hmore⟩ := hb
      simp only [Branches.host, List.append_assoc]
      exact (body.unmerged_host hbody (more.unmerged_host hmore hs)).statement
        (sound_test hx (by decide))

end

-- A segment without braces in it that is no insertion and starts no literal block.
structure Segment.Ordinary (segment : Segment) : Prop where
  sound : segment.Sound
  noLiteral : ∀ body, segment = .group body → Tag.wholeWord ["literal".toList] body = none
  noInsertion : ∀ body, segment = .group body → Tag.readInsertion body = none

namespace Segment

theorem ordinary_group {body : Text} (hs : Text.BraceFree body)
    (hl : Tag.wholeWord ["literal".toList] body = none) (hi : Tag.readInsertion body = none) :
    Ordinary (.group body) where
  sound := hs
  noLiteral other he := by
    cases he
    exact hl
  noInsertion other he := by
    cases he
    exact hi

theorem ordinary_chars {s : Text} (hs : isChunk s = true) :
    ∀ segment ∈ chars s, segment.Ordinary := by
  intro segment hm
  obtain ⟨c, hc, rfl⟩ := List.mem_map.mp hm
  have hbrace : Text.isBrace c = false := by
    rw [Text.isBrace_eq_false_iff]
    constructor <;> (rintro rfl; exact Tag.not_mem_of_chunk hs (by decide) hc)
  exact ⟨hbrace, by simp, by simp⟩

theorem braceFree_variable {x : Text} (hx : isVariable x = true) : Text.BraceFree x := by
  intro c hc
  rw [Text.isBrace_eq_false_iff]
  constructor <;> (rintro rfl; exact not_mem_of_variable hx (by decide) hc)

theorem braceFree_clause {binder : Binder} (hb : binder.isValid = true) :
    Text.BraceFree binder.clause := by
  cases binder with
  | value v =>
      have hv : isVariable v = true := hb
      simpa [Binder.clause] using ⟨by decide, braceFree_variable hv⟩
  | pair k v =>
      simp only [Binder.isValid, Bool.and_eq_true] at hb
      obtain ⟨⟨hk, hv⟩, -⟩ := hb
      simp only [Binder.clause, Text.braceFree_cons, Text.braceFree_append, braceFree_variable hk,
        braceFree_variable hv]
      decide

theorem ordinary_output {x : Text} (hx : isVariable x = true) : Ordinary (.group ('$' :: x)) :=
  ordinary_group (by simpa using ⟨by decide, braceFree_variable hx⟩) rfl rfl

theorem ordinary_if {x : Text} (hx : isVariable x = true) : Ordinary (.ofIf x) := by
  refine ordinary_group ?_ rfl rfl
  simp only [Text.braceFree_cons, braceFree_variable hx]
  decide

theorem ordinary_elseif {x : Text} (hx : isVariable x = true) : Ordinary (.ofElseif x) := by
  refine ordinary_group ?_ rfl rfl
  simp only [Text.braceFree_cons, braceFree_variable hx]
  decide

theorem ordinary_foreach {x : Text} (hx : isVariable x = true) {binder : Binder}
    (hb : binder.isValid = true) : Ordinary (.ofForeach x binder) := by
  refine ordinary_group ?_ rfl rfl
  simp only [Text.braceFree_cons, Text.braceFree_append, braceFree_variable hx, braceFree_clause hb]
  decide

theorem ordinary_else : Ordinary (.group "else".toList) := ordinary_group (by decide) rfl rfl

theorem ordinary_endif : Ordinary (.group "/if".toList) := ordinary_group (by decide) rfl rfl

theorem ordinary_endfor : Ordinary (.group "/foreach".toList) := ordinary_group (by decide) rfl rfl

end Segment

mutual

theorem Tree.ordinary_segments (t : Tree) (ht : t.isValid = true) :
    ∀ segment ∈ t.segments, segment.Ordinary := by
  cases t with
  | done => simp [Tree.segments]
  | chunk s rest =>
      simp only [Tree.isValid, Bool.and_eq_true] at ht
      exact List.forall_mem_append.mpr ⟨Segment.ordinary_chars ht.1, rest.ordinary_segments ht.2⟩
  | output x rest =>
      simp only [Tree.isValid, Bool.and_eq_true] at ht
      exact List.forall_mem_cons.mpr ⟨Segment.ordinary_output ht.1, rest.ordinary_segments ht.2⟩
  | choose x body more rest =>
      simp only [Tree.isValid, Bool.and_eq_true] at ht
      obtain ⟨⟨⟨hx, hbody⟩, hmore⟩, hrest⟩ := ht
      simp only [Tree.segments, List.forall_mem_cons, List.forall_mem_append]
      exact ⟨Segment.ordinary_if hx, body.ordinary_segments hbody, more.ordinary_segments hmore,
        Segment.ordinary_endif, rest.ordinary_segments hrest⟩
  | each x binder body rest =>
      simp only [Tree.isValid, Bool.and_eq_true] at ht
      obtain ⟨⟨⟨hx, hb⟩, hbody⟩, hrest⟩ := ht
      simp only [Tree.segments, List.forall_mem_cons, List.forall_mem_append]
      exact ⟨Segment.ordinary_foreach hx hb, body.ordinary_segments hbody, Segment.ordinary_endfor,
        rest.ordinary_segments hrest⟩

theorem Branches.ordinary_segments (b : Branches) (hb : b.isValid = true) :
    ∀ segment ∈ b.segments, segment.Ordinary := by
  cases b with
  | done => simp [Branches.segments]
  | otherwise body =>
      exact List.forall_mem_cons.mpr ⟨Segment.ordinary_else, body.ordinary_segments hb⟩
  | elseif x body more =>
      simp only [Branches.isValid, Bool.and_eq_true] at hb
      obtain ⟨⟨hx, hbody⟩, hmore⟩ := hb
      simp only [Branches.segments, List.forall_mem_cons, List.forall_mem_append]
      exact ⟨Segment.ordinary_elseif hx, body.ordinary_segments hbody, more.ordinary_segments hmore⟩

end

-- A template is compiled tag by tag.
theorem Tree.compile_source {c : Compiler} (hc : c.extensions = []) (fs : FileSystem) {t : Tree}
    (ht : t.isValid = true) : c.compile fs t.source = .ok t.host := by
  have hordinary := t.ordinary_segments ht
  have hs : Segment.SoundAll t.segments := fun segment hm => (hordinary segment hm).sound
  have hplain : t.source.Plain := (Text.plain_spellAll_iff hs).mpr
    ⟨fun body hm => (hordinary _ hm).noLiteral body rfl,
      fun body hm => (hordinary _ hm).noInsertion body rfl⟩
  have hmerge : Tag.mergeStatements t.host = t.host := by
    have h := t.unmerged_host ht Tag.unmerged_nil
    rw [List.append_nil] at h
    exact h.fixed none
  rw [Tree.source, Compiler.compile_spellAll_eq_ok_iff hc hs hplain]
  exact ⟨t.host, t.translate_segments ht, hmerge.symm⟩

end BraceTemplate

import BraceTemplate.Proofs.Single.Group
import Mathlib.Data.List.DropRight

namespace BraceTemplate

open Text

-- The tags that open and close a block, under a spelling of its keyword.

def Segment.ofOpening (spelling subject : Text) : Segment :=
  .group (spelling ++ ' ' :: subject)

def Segment.ofClosing (spelling : Text) : Segment :=
  .group ('/' :: spelling)

-- Whether a letter in a spelling passes for another one that it does not turn into in small letters.
def Text.Strays (spelling : Text) : Prop :=
  ∃ c ∈ spelling, c ∈ strayLetters

instance (spelling : Text) : Decidable spelling.Strays :=
  decidable_of_iff (spelling.any strayLetters.contains = true) (by simp [Text.Strays])

section Spelling

variable {word spelling : Text}

theorem Spells.refl (word : Text) : Spells word word :=
  List.forall₂_same.mpr fun l _ => by simp [sameLetter]

theorem not_mem_of_spells {c : Char} (hspells : Spells word spelling)
    (hc : ∀ l ∈ word, sameLetter l c = false) : c ∉ spelling := by
  intro hm
  obtain ⟨l, hl, hsame⟩ := sameLetter_of_mem_spelling
    (takeWord_eq_some_iff.mpr ⟨(List.append_nil spelling).symm, hspells⟩) hm
  rw [hc l hl] at hsame
  cases hsame

theorem not_strays_of_mem (hword : word ∈ Tag.closers) : ¬ word.Strays := by
  revert word
  decide

theorem lowerText_of_spells (hword : word ∈ Tag.closers) (hspells : Spells word spelling)
    (h : ¬ spelling.Strays) : lowerText spelling = word :=
  lowerFrom_of_spells (isBlockLetter_of_mem hword) hspells (fun c hc hstray => h ⟨c, hc, hstray⟩) []

theorem lowerText_of_mem (hword : word ∈ Tag.closers) : lowerText word = word :=
  lowerText_of_spells hword (.refl word) (not_strays_of_mem hword)

-- In small letters a spelling with a stray letter is no keyword.
theorem lowerText_ne_of_strays (h : spelling.Strays) {keyword : Text} (hkeyword : keyword ∈ Tag.closers) :
    lowerText spelling ≠ keyword := by
  obtain ⟨c, hm, hc⟩ := h
  obtain ⟨d, hd, hlarge⟩ := exists_mem_lowerFrom_of_stray hc hm []
  rintro rfl
  have hsmall := (isBlockLetter_of_mem hkeyword d hd).2.2.2.1
  omega

-- Only the letters s and i are spelled in such ways.
theorem mem_of_strays (hword : word ∈ Tag.closers) (hspells : Spells word spelling) (h : spelling.Strays) :
    's' ∈ word ∨ 'i' ∈ word := by
  obtain ⟨c, hm, hc⟩ := h
  obtain ⟨l, hl, hsame⟩ := sameLetter_of_mem_spelling
    (takeWord_eq_some_iff.mpr ⟨(List.append_nil spelling).symm, hspells⟩) hm
  have heq := eq_of_sameLetter_of_stray (isBlockLetter_of_mem hword l hl) hc hsame
  split at heq
  · exact .inl (heq ▸ hl)
  · exact .inr (heq ▸ hl)

end Spelling

namespace Tag

section Words

variable {words : List Text} {word spelling : Text}

-- Where a blank follows, a spelling of a word is read as that word and as no other.
theorem bodyAfterWord_spelling (hwords : ∀ w ∈ words, ∀ l ∈ w, IsBlockLetter l)
    (hblank : ∀ w ∈ words, ∀ l ∈ w, sameLetter l ' ' = false) (hspells : Spells word spelling)
    (hfirst : words.find? (·.isPrefixOf word) = some word) (s : Text) :
    bodyAfterWord words (spelling ++ ' ' :: s) = some (spelling, Text.trimLeft s) := by
  rw [bodyAfterWord, takeFirstWord_append_cons words spelling s hblank,
    takeFirstWord_of_spells hwords hspells hfirst]
  rfl

theorem takeWord_spelling_eq_none {w : Text} (hw : ∀ l ∈ w, IsBlockLetter l)
    (hblank : ∀ l ∈ w, sameLetter l ' ' = false) (hword : ∀ l ∈ word, IsBlockLetter l)
    (hspells : Spells word spelling) (hother : ¬ w <+: word) (s : Text) :
    takeWord w (spelling ++ ' ' :: s) = none := by
  rw [takeWord_append_cons w spelling s hblank, Option.map_eq_none_iff, ← Option.not_isSome_iff_eq_none]
  exact fun hsome => hother (prefix_of_takeWord hw hword hspells hsome)

end Words

-- What a tag opens under a spelling of a keyword.
def opened (word spelling subject : Text) : Tag :=
  if word = "function".toList then .define subject else .opening spelling subject

section Opened

variable {word spelling : Text}

theorem eq_function_or_mem_openers (hword : word ∈ closers) : word = "function".toList ∨ word ∈ openers := by
  revert word
  decide

theorem isBlockLetter_of_mem_openers : ∀ w ∈ openers, ∀ l ∈ w, IsBlockLetter l := by
  unfold IsBlockLetter
  decide

theorem read_opening (hword : word ∈ closers) (hspells : Spells word spelling) (subject : Text) :
    read (spelling ++ ' ' :: subject) = some (opened word spelling subject.trim) := by
  have htrim : Text.trim (Text.trimLeft subject) = Text.trim subject := by
    simp only [Text.trim, Text.trimLeft, List.dropWhile_idempotent]
  obtain ⟨other, hread⟩ : ∃ other, read (spelling ++ ' ' :: subject) =
      (readOpening (spelling ++ ' ' :: subject)).or
        ((readWord "function" .define (spelling ++ ' ' :: subject)).or other) := ⟨_, rfl⟩
  rcases eq_function_or_mem_openers hword with rfl | hopener
  · have hnone : takeFirstWord openers (spelling ++ ' ' :: subject) = none := by
      have hother : ∀ w ∈ openers, (∀ l ∈ w, sameLetter l ' ' = false) ∧ ¬ w <+: "function".toList := by
        decide
      refine List.findSome?_eq_none_iff.mpr fun w hw => ?_
      exact takeWord_spelling_eq_none (isBlockLetter_of_mem_openers w hw) (hother w hw).1
        (isBlockLetter_of_mem hword) hspells (hother w hw).2 subject
    have hdefine : bodyAfterWord ["function".toList] (spelling ++ ' ' :: subject) =
        some (spelling, Text.trimLeft subject) :=
      bodyAfterWord_spelling (by simpa using isBlockLetter_of_mem hword) (by decide) hspells (by decide) subject
    have hopening : readOpening (spelling ++ ' ' :: subject) = none := by
      rw [readOpening, bodyAfterWord, hnone]
      rfl
    simp only [hread, hopening, readWord, hdefine, Option.map_some, Option.none_or, Option.some_or, htrim,
      opened, if_true]
  · have hkeyword : ∀ word ∈ openers, openers.find? (·.isPrefixOf word) = some word ∧
        word ≠ "function".toList := by decide
    obtain ⟨hfirst, hother⟩ := hkeyword word hopener
    have hbody := bodyAfterWord_spelling isBlockLetter_of_mem_openers (by decide) hspells hfirst subject
    simp only [hread, readOpening, hbody, Option.map_some, Option.some_or, htrim, opened, if_neg hother]

-- What is no keyword opens what the last of them opens.
theorem openBlock_of_strays (h : spelling.Strays) (s : Text) :
    openBlock (lowerText spelling) s = openBlock "switch".toList s := by
  have hforeach := lowerText_ne_of_strays h (show "foreach".toList ∈ closers by decide)
  have hfor := lowerText_ne_of_strays h (show "for".toList ∈ closers by decide)
  have hif := lowerText_ne_of_strays h (show "if".toList ∈ closers by decide)
  rw [openBlock, if_neg hforeach, if_neg hfor, if_neg hif]
  rfl

-- A conditional opens a choice among cases instead.
theorem rewrite_opened_of_strays (hif : word = "if".toList) (h : spelling.Strays) (s : Text) :
    (opened word spelling s).rewrite = (opened "switch".toList "switch".toList s).rewrite := by
  rw [hif]
  change Except.ok (openBlock (lowerText spelling) s) = .ok (openBlock (lowerText "switch".toList) s)
  rw [openBlock_of_strays h, lowerText_of_mem (by decide)]

theorem rewrite_opened (hword : word ∈ closers) (hspells : Spells word spelling)
    (h : spelling.Strays → word ≠ "if".toList) (s : Text) :
    (opened word spelling s).rewrite = (opened word word s).rewrite := by
  rcases eq_function_or_mem_openers hword with rfl | hopener
  · rfl
  · have hother : ∀ word ∈ openers, word ≠ "function".toList ∧
        ('s' ∈ word ∨ 'i' ∈ word → word ≠ "if".toList → word = "switch".toList) := by decide
    obtain ⟨hne, hswitch⟩ := hother word hopener
    rw [opened, opened, if_neg hne, if_neg hne]
    change Except.ok (openBlock (lowerText spelling) s) = .ok (openBlock (lowerText word) s)
    rw [lowerText_of_mem hword]
    by_cases hstray : spelling.Strays
    · rw [openBlock_of_strays hstray, hswitch (mem_of_strays hword hspells hstray) (h hstray)]
    · rw [lowerText_of_spells hword hspells hstray]

end Opened

-- What stands at the front of a statement stays there when statements are merged.
theorem exists_mergeStatements_statement {c : Char} (hc : c ≠ '?') (s : Text) :
    ∃ t, mergeStatements (Host.statement (c :: s)) = "<?py ".toList ++ c :: t := by
  have hspelled : Host.statement (c :: s) =
      '<' :: '?' :: 'p' :: 'y' :: ' ' :: c :: (s ++ ' ' :: Host.statementClose) := rfl
  rw [hspelled, mergeStatements, mergeFrom_of_none (merge?_of_ne (by decide) _ _),
    mergeFrom_of_none (merge?_question (by decide) _ _), mergeFrom_of_none (merge?_of_ne (by decide) _ _),
    mergeFrom_of_none (merge?_of_ne (by decide) _ _), mergeFrom_of_none (merge?_of_ne (by decide) _ _),
    mergeFrom_of_none (merge?_of_ne hc _ _)]
  exact ⟨_, rfl⟩

end Tag

namespace Compiler

open Segment

variable {c : Compiler} (fs : FileSystem) {word spelling subject : Text}

theorem braceFree_of_spells (hword : word ∈ Tag.closers) (hspells : Spells word spelling) :
    spelling.BraceFree := by
  have hforeign : ∀ word ∈ Tag.closers, ∀ c ∈ ['\x7b', '\x7d'], ∀ l ∈ word, sameLetter l c = false := by
    decide
  exact braceFree_iff_not_mem.mpr ⟨not_mem_of_spells hspells (hforeign word hword _ (by decide)),
    not_mem_of_spells hspells (hforeign word hword _ (by decide))⟩

-- The tag that opens a block is compiled by what it opens.
theorem compile_ofOpening (hword : word ∈ Tag.closers) (hspells : Spells word spelling)
    (hsubject : subject.BraceFree) :
    c.compile fs (ofOpening spelling subject).spell =
      (Tag.opened word spelling subject.trim).rewrite.mapError .badTag >>= fun t =>
        c.extended (Tag.mergeStatements t) := by
  have hb : BraceFree (spelling ++ ' ' :: subject) := by
    rw [braceFree_append]
    exact ⟨braceFree_of_spells hword hspells, List.forall_mem_cons.mpr ⟨by decide, hsubject⟩⟩
  have hother : ∀ w ∈ ["literal".toList, "include".toList],
      (∀ l ∈ w, IsBlockLetter l) ∧ (∀ l ∈ w, sameLetter l ' ' = false) ∧
        ∀ word ∈ Tag.closers, ¬ w <+: word := by
    unfold IsBlockLetter
    decide
  have hnone : ∀ w ∈ ["literal".toList, "include".toList],
      takeWord w (spelling ++ ' ' :: subject) = none := by
    intro w hw
    obtain ⟨hletters, hblank, hfront⟩ := hother w hw
    exact Tag.takeWord_spelling_eq_none hletters hblank (isBlockLetter_of_mem hword) hspells
      (hfront word hword) subject
  have hliteral : Tag.wholeWord ["literal".toList] (spelling ++ ' ' :: subject) = none := by
    rw [Tag.wholeWord, takeFirstWord, List.findSome?_cons, hnone _ (by decide)]
    rfl
  have hinsertion : Tag.readInsertion (spelling ++ ' ' :: subject) = none := by
    rw [Tag.readInsertion, hnone _ (by decide)]
    rfl
  rw [ofOpening, compile_group fs hb hliteral hinsertion, Tag.read_opening hword hspells]
  rfl

theorem exists_compile_ofOpening (hc : c.extensions = []) (hword : word ∈ Tag.closers)
    (hsubject : subject.BraceFree) {d : Char} (hd : d ≠ '?') {s : Text}
    (hout : (Tag.opened word word subject.trim).rewrite = .ok (Host.statement (d :: s))) :
    ∃ t, c.compile fs (ofOpening word subject).spell = .ok ("<?py ".toList ++ d :: t) := by
  obtain ⟨t, ht⟩ := Tag.exists_mergeStatements_statement hd s
  refine ⟨t, ?_⟩
  rw [compile_ofOpening fs hword (.refl word) hsubject, hout, ← ht, ← extended_eq hc]
  rfl

-- A condition and a choice among cases are told apart by their first letter.
theorem compile_ofOpening_ne (hc : c.extensions = []) (hsubject : subject.BraceFree) :
    c.compile fs (ofOpening "switch".toList subject).spell ≠
      c.compile fs (ofOpening "if".toList subject).spell := by
  obtain ⟨t, ht⟩ := exists_compile_ofOpening fs hc (show "switch".toList ∈ Tag.closers by decide) hsubject
    (d := 'w') (by decide) rfl
  obtain ⟨u, hu⟩ := exists_compile_ofOpening fs hc (show "if".toList ∈ Tag.closers by decide) hsubject
    (d := 'i') (by decide) rfl
  rw [ht, hu]
  simp

theorem compile_ofClosing (hword : word ∈ Tag.closers) (hspells : Spells word spelling) :
    c.compile fs (ofClosing spelling).spell =
      (Tag.closing spelling).rewrite.mapError .badTag >>= fun t => c.extended (Tag.mergeStatements t) := by
  have hb : BraceFree ('/' :: spelling) :=
    List.forall_mem_cons.mpr ⟨by decide, braceFree_of_spells hword hspells⟩
  rw [ofClosing, compile_group fs hb rfl rfl, Tag.read_closing hword hspells]
  rfl

-- A block is opened and closed under every spelling of its keyword as under the keyword itself, unless a letter
-- strays. With such a letter its end is an error, and `if` opens a choice among cases, which is not the same.
theorem compile_spelling (hword : word ∈ Tag.closers) (hspells : Spells word spelling)
    (hsubject : subject.BraceFree) :
    ((spelling.Strays → word ≠ "if".toList) →
      c.compile fs (ofOpening spelling subject).spell = c.compile fs (ofOpening word subject).spell) ∧
    (spelling.Strays → word = "if".toList →
      c.compile fs (ofOpening spelling subject).spell =
          c.compile fs (ofOpening "switch".toList subject).spell ∧
        (c.extensions = [] →
          c.compile fs (ofOpening spelling subject).spell ≠ c.compile fs (ofOpening word subject).spell)) ∧
    (¬ spelling.Strays →
      c.compile fs (ofClosing spelling).spell = c.compile fs (ofClosing word).spell) ∧
    (spelling.Strays →
      c.compile fs (ofClosing spelling).spell = .error (.badTag (.unknownBlock (lowerText spelling)))) := by
  have hopening := compile_ofOpening (c := c) fs hword hspells hsubject
  have hplain := compile_ofOpening (c := c) fs hword (.refl word) hsubject
  have hclosing := compile_ofClosing (c := c) fs hword hspells
  refine ⟨fun h => ?_, fun hstray hif => ?_, fun h => ?_, fun h => ?_⟩
  · rw [hopening, hplain, Tag.rewrite_opened hword hspells h]
  · have hswitch := compile_ofOpening (c := c) fs (by decide) (.refl "switch".toList) hsubject
    have hsame : c.compile fs (ofOpening spelling subject).spell =
        c.compile fs (ofOpening "switch".toList subject).spell := by
      rw [hopening, hswitch, Tag.rewrite_opened_of_strays hif hstray]
    refine ⟨hsame, fun hc => ?_⟩
    rw [hsame, hif]
    exact compile_ofOpening_ne fs hc hsubject
  · have hplain := compile_ofClosing (c := c) fs hword (.refl word)
    rw [hclosing, hplain, Tag.rewrite, Tag.rewrite, lowerText_of_spells hword hspells h, lowerText_of_mem hword]
  · have hnone := (Tag.closeBlock?_eq_none_iff hword hspells).mpr h
    rw [hclosing, Tag.rewrite, hnone]
    rfl

-- A definition and a condition with letters that stray, and the end of a loop without any.
theorem compile_spelling_strays :
    let c : Compiler := ⟨default, defaultMaxDepth, [], defaultRoom⟩
    let fs : FileSystem := .ofFiles fun _ => none
    (Spells "function".toList "FUNCTıON".toList ∧ Strays "FUNCTıON".toList ∧
      c.compile fs "\x7bFUNCTıON f($x) ?> <?py\x7d".toList =
        c.compile fs "\x7bfunction f($x) ?> <?py\x7d".toList) ∧
    (Spells "if".toList "İF".toList ∧ Strays "İF".toList ∧
      c.compile fs "\x7bİF $x\x7d".toList = c.compile fs "\x7bswitch $x\x7d".toList) ∧
    (Spells "foreach".toList "ForEach".toList ∧ ¬ Strays "ForEach".toList ∧
      c.compile fs "\x7b/ForEach\x7d".toList = c.compile fs "\x7b/foreach\x7d".toList) := by
  intro c fs
  have hfunction : Spells "function".toList "FUNCTıON".toList :=
    (takeWord_eq_some_iff.mp (show takeWord "function".toList "FUNCTıON".toList = some (_, []) from rfl)).2
  have hif : Spells "if".toList "İF".toList :=
    (takeWord_eq_some_iff.mp (show takeWord "if".toList "İF".toList = some (_, []) from rfl)).2
  have hforeach : Spells "foreach".toList "ForEach".toList :=
    (takeWord_eq_some_iff.mp (show takeWord "foreach".toList "ForEach".toList = some (_, []) from rfl)).2
  have hbrace : BraceFree "f($x) ?> <?py".toList ∧ BraceFree "$x".toList := by
    unfold BraceFree
    decide
  obtain ⟨hdefinition, -⟩ := compile_spelling (c := c) fs (by decide) hfunction hbrace.1
  obtain ⟨-, hcondition, -⟩ := compile_spelling (c := c) fs (by decide) hif hbrace.2
  obtain ⟨-, -, hend, -⟩ := compile_spelling (c := c) fs (by decide) hforeach hbrace.2
  exact ⟨⟨hfunction, by decide, hdefinition fun _ => by decide⟩, ⟨hif, by decide, (hcondition (by decide) rfl).1⟩,
    hforeach, by decide, hend (by decide)⟩

-- A condition that opens a choice among cases, and two blocks that cannot be closed.
theorem compile_spelling_departs :
    let c : Compiler := ⟨default, defaultMaxDepth, [], defaultRoom⟩
    let fs : FileSystem := .ofFiles fun _ => none
    Spells "if".toList "ıf".toList ∧ Spells "switch".toList "ſwitch".toList ∧
      c.compile fs "\x7bif $x\x7d".toList = .ok "<?py if (x) ?>".toList ∧
      c.compile fs "\x7bıf $x\x7d".toList =
        .ok "<?py with _switch = namespace(subject=(x), done=false) ?>".toList ∧
      c.compile fs "\x7b/switch\x7d".toList = .ok "<?py endwith ?>".toList ∧
      c.compile fs "\x7b/ſwitch\x7d".toList = .error (.badTag (.unknownBlock "ſwitch".toList)) ∧
      c.compile fs "\x7b/ıf\x7d".toList = .error (.badTag (.unknownBlock "ıf".toList)) := by
  refine ⟨.cons rfl (.cons rfl .nil), ?_, ?_⟩
  · iterate 6 refine .cons rfl ?_
    exact .nil
  · decide +kernel

end Compiler

end BraceTemplate

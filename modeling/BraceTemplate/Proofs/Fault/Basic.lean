import BraceTemplate.Proofs.Fault.Spelling
import BraceTemplate.Proofs.Flat.Translate

namespace BraceTemplate

open Text

-- Digits of a script that has ten of them, and no more than are read.
def Text.IsIndex (segment : Text) : Prop :=
  segment.length ≤ maxNumeralLength ∧ ∀ c ∈ segment, isDecimalDigit c = true

-- The bodies of groups that are taken for tags and yet have no meaning, each with what is reported: a
-- block that is closed under a name with a stray letter, and a path with a segment that is made of
-- digits and is no index.
inductive Fault : Text → TagError → Prop where
  | block {word spelling : Text} {c : Char} (hword : word ∈ Tag.closers)
      (hspells : Spells word spelling) (hc : c ∈ spelling) (hstray : c ∈ strayLetters) :
      Fault ('/' :: spelling) (.unknownBlock (lowerText spelling))
  | index {parts head segment : Text} {segments : List Text}
      (hparts : ∀ c ∈ parts, Tag.isPathChar c = true ∨ c = '.')
      (hsplit : Text.split '.' parts = head :: segments) (hfull : ∀ part ∈ head :: segments, part ≠ [])
      (hsegment : segment ∈ segments) (hdigits : ∀ c ∈ segment, isDigitLike c = true)
      (hindex : ¬ segment.IsIndex) : Fault ('$' :: parts) (.badIndex segment)

-- Digits have no underscores between them.
theorem dropUnderscores?_eq_self {s : Text} (hs : '_' ∉ s) : dropUnderscores? s = some s := by
  induction s with
  | nil => rfl
  | cons c s ih =>
      rw [List.mem_cons, not_or] at hs
      rw [dropUnderscores?, ih hs.2, Option.map_some, if_neg (Ne.symm hs.1)]
      · rintro rfl
        exact absurd rfl hs.1
      · rintro tail rfl
        exact absurd rfl hs.1

theorem isSome_foldlM_digitValue? (s : Text) (n : Nat) :
    (s.foldlM (fun n c => (digitValue? c).map (n * 10 + ·)) n).isSome = true ↔
      ∀ c ∈ s, isDecimalDigit c = true := by
  induction s generalizing n with
  | nil => simp
  | cons c s ih =>
      cases hc : digitValue? c with
      | none => simp [List.foldlM_cons, hc, isDecimalDigit]
      | some d => simp [List.foldlM_cons, hc, isDecimalDigit, ih]

theorem isSome_readNumeral?_iff {s : Text} (hne : s ≠ []) (hs : ∀ c ∈ s, isDigitLike c = true) :
    (readNumeral? s).isSome = true ↔ s.IsIndex := by
  have hunderscore : '_' ∉ s := fun h => absurd (hs _ h) (by decide +kernel)
  have hhead : s.head? ≠ some '_' := fun h => hunderscore (List.mem_of_mem_head? h)
  rw [readNumeral?, if_neg hhead, dropUnderscores?_eq_self hunderscore]
  by_cases hlen : maxNumeralLength < s.length
  · simp [hlen, Text.IsIndex, Nat.not_le.mpr hlen]
  · simp [hne, hlen, Text.IsIndex, Nat.le_of_not_lt hlen, readDigits?, isSome_foldlM_digitValue?]

namespace Tag

theorem mem_closers_of_closeBlock? {keyword body : Text} (h : closeBlock? keyword = some body) :
    keyword ∈ closers := by
  unfold closeBlock? at h
  split_ifs at h with hfor hif hfunction hswitch
  · rcases hfor with rfl | rfl <;> decide
  · exact hif ▸ by decide
  · exact hfunction ▸ by decide
  · exact hswitch ▸ by decide

theorem isSome_closeBlock?_of_mem {word : Text} (hword : word ∈ closers) :
    (closeBlock? word).isSome = true := by
  revert word
  decide

theorem closeBlock?_eq_none_iff {word spelling : Text} (hword : word ∈ closers)
    (hspells : Spells word spelling) :
    closeBlock? (lowerText spelling) = none ↔ ∃ c ∈ spelling, c ∈ strayLetters := by
  constructor
  · intro h
    by_contra hplain
    push Not at hplain
    have hlower : lowerText spelling = word :=
      lowerFrom_of_spells (isBlockLetter_of_mem hword) hspells hplain []
    have hsome := isSome_closeBlock?_of_mem hword
    rw [← hlower, h] at hsome
    cases hsome
  · rintro ⟨c, hm, hc⟩
    obtain ⟨d, hd, hlarge⟩ := exists_mem_lowerFrom_of_stray hc hm []
    cases h : closeBlock? (lowerText spelling) with
    | none => rfl
    | some body =>
        have hsmall := (isBlockLetter_of_mem (mem_closers_of_closeBlock? h) d hd).2.2.2.1
        omega

theorem subscript_eq_error_iff {segment : Text} (hne : segment ≠ []) {e : TagError} :
    subscript segment = .error e ↔
      (∀ c ∈ segment, isDigitLike c = true) ∧ ¬ segment.IsIndex ∧ e = .badIndex segment := by
  by_cases hdigits : segment.all isDigitLike = true
  · have hall := List.all_eq_true.mp hdigits
    rw [subscript, if_pos hdigits, ← isSome_readNumeral?_iff hne hall]
    cases readNumeral? segment with
    | none =>
        change Except.error _ = Except.error e ↔ _
        rw [Except.error.injEq]
        exact ⟨fun h => ⟨hall, by simp, h.symm⟩, fun h => h.2.2.symm⟩
    | some n => simp
  · have hall : ¬ ∀ c ∈ segment, isDigitLike c = true := fun h =>
      hdigits (List.all_eq_true.mpr h)
    simp [subscript, hdigits, hall]

-- Segments fail where one of them does.
theorem exists_of_subscripts_eq_error {segments : List Text} {e : TagError}
    (h : subscripts segments = .error e) : ∃ segment ∈ segments, subscript segment = .error e := by
  induction segments with
  | nil => cases h
  | cons segment segments ih =>
      cases hfirst : subscript segment with
      | error e' =>
          simp only [subscripts, hfirst] at h
          cases h
          exact ⟨segment, by simp, hfirst⟩
      | ok first =>
          cases hothers : subscripts segments with
          | error e' =>
              simp only [subscripts, hfirst, hothers] at h
              cases h
              obtain ⟨other, hm, ho⟩ := ih hothers
              exact ⟨other, List.mem_cons_of_mem _ hm, ho⟩
          | ok others =>
              simp only [subscripts, hfirst, hothers] at h
              cases h

theorem exists_subscript_of_subscripts {segments : List Text} {keys : Text}
    (h : subscripts segments = .ok keys) : ∀ segment ∈ segments, ∃ out, subscript segment = .ok out := by
  induction segments generalizing keys with
  | nil => simp
  | cons segment segments ih =>
      obtain ⟨first, hfirst, h⟩ := Except.bind_eq_ok.mp h
      obtain ⟨others, hothers, -⟩ := Except.bind_eq_ok.mp h
      exact List.forall_mem_cons.mpr ⟨⟨first, hfirst⟩, ih hothers⟩

-- Only the ends of blocks and the paths can fail.
theorem closing_or_path_of_rewrite_eq_error {tag : Tag} {e : TagError} (h : tag.rewrite = .error e) :
    (∃ spelling, tag = .closing spelling ∧ closeBlock? (lowerText spelling) = none ∧
      e = .unknownBlock (lowerText spelling)) ∨
    ∃ head segments, tag = .path head segments ∧ subscripts segments = .error e := by
  cases tag with
  | closing spelling =>
      simp only [rewrite] at h
      split at h
      · cases h
      · next hnone =>
        cases h
        exact .inl ⟨spelling, rfl, hnone, rfl⟩
  | path head segments =>
      cases hkeys : subscripts segments with
      | error e' =>
          simp only [rewrite, hkeys] at h
          cases h
          exact .inr ⟨head, segments, rfl, hkeys⟩
      | ok keys =>
          simp only [rewrite, hkeys] at h
          cases h
  | _ => cases h

theorem spells_of_wholeWord {words : List Text} {s spelling : Text}
    (h : wholeWord words s = some spelling) :
    s = spelling ∧ ∃ word ∈ words, Spells word spelling := by
  simp only [wholeWord, Option.bind_eq_some_iff, Prod.exists] at h
  obtain ⟨found, left, hfirst, h⟩ := h
  split at h
  · next hleft =>
    cases h
    obtain ⟨word, hword, htake⟩ := List.exists_of_findSome?_eq_some hfirst
    obtain ⟨rfl, hspells⟩ := takeWord_eq_some_iff.mp htake
    rw [List.isEmpty_iff.mp hleft, List.append_nil]
    exact ⟨rfl, word, hword, hspells⟩
  · cases h

theorem wholeWord_closers_of_spells {word spelling : Text} (hword : word ∈ closers)
    (hspells : Spells word spelling) : wholeWord closers spelling = some spelling := by
  have hfirst : ∀ word ∈ closers, closers.find? (·.isPrefixOf word) = some word := by decide
  rw [wholeWord, takeFirstWord_of_spells (fun w hw => isBlockLetter_of_mem hw) hspells
    (hfirst word hword)]
  rfl

theorem fault_of_readClosing {body : Text} {tag : Tag} {e : TagError} (h : readClosing body = some tag)
    (he : tag.rewrite = .error e) : Fault body e := by
  obtain ⟨s, spelling, rfl, hwhole, rfl⟩ := Reader.exists_of_readClosing h
  obtain ⟨rfl, word, hword, hspells⟩ := spells_of_wholeWord hwhole
  rcases closing_or_path_of_rewrite_eq_error he with ⟨_, heq, hnone, rfl⟩ | ⟨_, _, heq, -⟩
  · cases heq
    obtain ⟨c, hm, hc⟩ := (closeBlock?_eq_none_iff hword hspells).mp hnone
    exact .block hword hspells hm hc
  · cases heq

theorem fault_of_readPath {body : Text} {tag : Tag} {e : TagError} (h : readPath body = some tag)
    (he : tag.rewrite = .error e) : Fault body e := by
  obtain ⟨parts, head, segments, rfl, hparts, hsplit, -, hfull, rfl⟩ := readPath_eq_some_iff.mp h
  rcases closing_or_path_of_rewrite_eq_error he with ⟨_, heq, -⟩ | ⟨_, _, heq, hsubscripts⟩
  · cases heq
  · cases heq
    obtain ⟨segment, hm, hsubscript⟩ := exists_of_subscripts_eq_error hsubscripts
    obtain ⟨hdigits, hindex, rfl⟩ :=
      (subscript_eq_error_iff (hfull _ (List.mem_cons_of_mem _ hm))).mp hsubscript
    exact .index hparts hsplit hfull hm hdigits hindex

-- The readers of the ends of blocks and of paths are the only ones whose tags can fail.
theorem Reader.fault_of_read {reader : Reader} (hreader : reader ∈ early ++ late) {body : Text}
    {tag : Tag} {e : TagError} (h : reader.read body = some tag) (he : tag.rewrite = .error e) :
    Fault body e := by
  have hmade : ∀ {α : Type} {found : Option α} {make : α → Tag},
      (∀ a, ∃ out, (make a).rewrite = .ok out) → found.map make = some tag → Fault body e := by
    intro α found make hmake hfound
    obtain ⟨a, -, rfl⟩ := Option.map_eq_some_iff.mp hfound
    obtain ⟨out, hout⟩ := hmake a
    rw [hout] at he
    cases he
  simp only [early, late, List.cons_append, List.nil_append, List.mem_cons, List.not_mem_nil,
    or_false] at hreader
  rcases hreader with rfl | rfl | rfl | rfl | rfl | rfl | rfl | rfl | rfl | rfl | rfl | rfl | rfl |
    rfl | rfl | rfl | rfl
  any_goals exact hmade (fun _ => ⟨_, rfl⟩) h
  · simp only [fallback, readFallback, Option.bind_eq_some_iff, Option.ite_none_right_eq_some] at h
    obtain ⟨_, _, _, h⟩ := h
    cases h
    cases he
  · exact fault_of_readClosing h he
  · rw [eq_of_readClosingBranch h] at he
    cases he
  · simp only [otherwise, readOtherwise, Option.bind_eq_some_iff, Option.ite_none_right_eq_some] at h
    obtain ⟨_, _, _, h⟩ := h
    cases h
    cases he
  · exact fault_of_readPath h he
  · obtain ⟨_, -, rfl⟩ := exists_of_readInterpolation h
    cases he
  · obtain ⟨_, -, rfl⟩ := exists_of_readShortEcho h
    cases he

theorem read_closing {word spelling : Text} (hword : word ∈ closers) (hspells : Spells word spelling) :
    read ('/' :: spelling) = some (.closing spelling) := by
  have hleave : readFixed "/php" .leave ('/' :: spelling) = none := by
    have hwords : ∀ word ∈ closers, ¬ "php".toList <+: word := by decide
    have hletters : ∀ l ∈ "php".toList, IsBlockLetter l := by
      unfold IsBlockLetter
      decide
    have hnone : takeWord "php".toList spelling = none := by
      rw [← Option.not_isSome_iff_eq_none]
      exact fun hsome => hwords word hword
        (prefix_of_takeWord hletters (isBlockLetter_of_mem hword) hspells hsome)
    have htake : takeWord "/php".toList ('/' :: spelling) = none := by
      change (takeWord "php".toList spelling).map _ = none
      rw [hnone]
      rfl
    simp only [readFixed, wholeWord, takeFirstWord, List.findSome?_cons, htake, List.findSome?_nil,
      Option.bind_none, Option.map_none]
  have hearlier : ∀ reader ∈ Reader.early.take 10, reader.read ('/' :: spelling) = none := by
    simp only [Reader.early, List.take_succ_cons, List.take_zero, List.mem_cons, List.not_mem_nil,
      or_false, forall_eq_or_imp, forall_eq]
    exact ⟨rfl, rfl, rfl, rfl, rfl, rfl, rfl, rfl, rfl, hleave⟩
  have hclosing : readClosing ('/' :: spelling) = some (.closing spelling) := by
    rw [readClosing, wholeWord_closers_of_spells hword hspells]
    rfl
  rw [read, ← List.take_append_drop 10 Reader.early, readWith_append_of_none hearlier]
  change (readClosing ('/' :: spelling)).or _ = _
  rw [hclosing, Option.some_or]

theorem read_path {parts head : Text} {segments : List Text}
    (hparts : ∀ c ∈ parts, isPathChar c = true ∨ c = '.')
    (hsplit : Text.split '.' parts = head :: segments) (hne : segments ≠ [])
    (hfull : ∀ part ∈ head :: segments, part ≠ []) :
    read ('$' :: parts) = some (.path ('$' :: head) segments) := by
  have hearlier : ∀ reader ∈ Reader.early, reader.read ('$' :: parts) = none := by
    simp only [Reader.early, List.mem_cons, List.not_mem_nil, or_false, forall_eq_or_imp, forall_eq]
    exact ⟨rfl, rfl, rfl, rfl, rfl, rfl, rfl, rfl, rfl, rfl, rfl, rfl, rfl, rfl⟩
  have hinsertion : readInsertion ('$' :: parts) = none := rfl
  have hpath : readPath ('$' :: parts) = some (.path ('$' :: head) segments) :=
    readPath_eq_some_iff.mpr ⟨parts, head, segments, rfl, hparts, hsplit, hne, hfull, rfl⟩
  rw [read, ← List.append_nil Reader.early, readWith_append_of_none hearlier]
  change (readInsertion ('$' :: parts)).or ((readPath ('$' :: parts)).or _) = _
  rw [hinsertion, hpath, Option.none_or, Option.some_or]

end Tag

-- No fault has a host text.
theorem Fault.translateGroup_ne_ok {body : Text} {e : TagError} (h : Fault body e) (out : Text) :
    Tag.translateGroup body ≠ .ok out := by
  cases h with
  | @block word spelling c hword hspells hc hstray =>
      have hnone := (Tag.closeBlock?_eq_none_iff hword hspells).mpr ⟨c, hc, hstray⟩
      rw [Tag.translateGroup, Tag.read_closing hword hspells]
      simp [Tag.rewrite, hnone]
  | @index parts head segment segments hparts hsplit hfull hsegment hdigits hindex =>
      rw [Tag.translateGroup,
        Tag.read_path hparts hsplit (List.ne_nil_of_mem hsegment) hfull]
      intro hok
      obtain ⟨keys, hkeys, -⟩ := Except.bind_eq_ok.mp hok
      obtain ⟨out, hout⟩ := Tag.exists_subscript_of_subscripts hkeys segment hsegment
      rw [(Tag.subscript_eq_error_iff (hfull segment (List.mem_cons_of_mem _ hsegment))).mpr
        ⟨hdigits, hindex, rfl⟩] at hout
      cases hout

end BraceTemplate

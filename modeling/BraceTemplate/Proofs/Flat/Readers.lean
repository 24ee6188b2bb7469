import BraceTemplate.Proofs.Flat.Recognise

namespace BraceTemplate.Tag

open Text

-- What each recogniser reads in the body of a group.

def readOpening (body : Text) : Option Tag :=
  (bodyAfterWord openers body).map fun (spelling, inner) => .opening spelling inner.trim

def readWord (word : String) (make : Text → Tag) (body : Text) : Option Tag :=
  (bodyAfterWord [word.toList] body).map fun (_, inner) => make inner.trim

def readStatement (word : String) (make : Text → Tag) (body : Text) : Option Tag :=
  (bodyAfterWord [word.toList] body).map fun (_, inner) => make inner.trimStatementEnd.trim

def readFixed (word : String) (tag : Tag) (body : Text) : Option Tag :=
  (wholeWord [word.toList] body).map fun _ => tag

def readFallback (body : Text) : Option Tag :=
  (takeWord "default".toList body).bind fun (_, left) =>
    if left.trimLeft.isEmpty then some .fallback else none

def readClosing : Text → Option Tag
  | '/' :: s => (wholeWord closers s).map .closing
  | _ => none

def readClosingBranch : Text → Option Tag
  | '/' :: s => (wholeWord ["case".toList, "default".toList] s).map fun _ => .closingBranch
  | _ => none

def readOtherwise (body : Text) : Option Tag :=
  (takeWord "else".toList body).bind fun (_, left) =>
    if left = [] ∨ left = ['/'] then some .otherwise else none

def readInsertion (body : Text) : Option Tag :=
  (takeWord "include".toList body).bind fun (_, left) =>
    if left.trimLeft.all isListChar then some (.insertion left.trimLeft) else none

def readPath : Text → Option Tag
  | '$' :: s =>
    if s.all fun c => isPathChar c || c == '.' then
      match Text.split '.' s with
      | head :: segments =>
        if segments.isEmpty || head.isEmpty || segments.any List.isEmpty then none
        else some (.path ('$' :: head) segments)
      | [] => none
    else none
  | _ => none

def readInterpolation : Text → Option Tag
  | '$' :: s => some (.interpolation (Text.trim ('$' :: s)))
  | _ => none

def readShortEcho : Text → Option Tag
  | ':' :: s => some (.interpolation (Text.trim (Text.trimStatementEnd s)))
  | _ => none

-- A path is read where its parts are made of characters of paths, and there are at least two of them.
theorem readPath_eq_some_iff {body : Text} {tag : Tag} :
    readPath body = some tag ↔
      ∃ parts head segments, body = '$' :: parts ∧
        (∀ c ∈ parts, isPathChar c = true ∨ c = '.') ∧ Text.split '.' parts = head :: segments ∧
        segments ≠ [] ∧ (∀ part ∈ head :: segments, part ≠ []) ∧
        tag = .path ('$' :: head) segments := by
  constructor
  · intro h
    unfold readPath at h
    split at h
    · next parts =>
      split at h
      · next hparts =>
        split at h
        · next head segments hsplit =>
          split at h
          · cases h
          · next hfull =>
            simp only [Bool.or_eq_true, List.any_eq_true, List.isEmpty_iff, not_or, not_exists,
              not_and] at hfull
            simp only [List.all_eq_true, Bool.or_eq_true, beq_iff_eq] at hparts
            cases h
            exact ⟨parts, head, segments, rfl, hparts, hsplit, hfull.1.1,
              by simpa using ⟨hfull.1.2, hfull.2⟩, rfl⟩
        · cases h
      · cases h
    · cases h
  · rintro ⟨parts, head, segments, rfl, hparts, hsplit, hne, hfull, rfl⟩
    have hall : (parts.all fun c => isPathChar c || c == '.') = true := by
      simpa using hparts
    have hempty : (segments.isEmpty || head.isEmpty || segments.any List.isEmpty) = false := by
      simp only [List.mem_cons, forall_eq_or_imp] at hfull
      simpa using ⟨⟨hne, hfull.1⟩, hfull.2⟩
    simp only [readPath, hall, if_true, hsplit, hempty]
    rfl

theorem grouped_opening : Grouped opening? readOpening where
  outside before c s hc := by simp [opening?, wordAndBody_outside openers hc]
  closed before s found h := by
    obtain ⟨_, h, -⟩ := Option.map_eq_some_iff.mp h
    exact mem_of_wordAndBody h
  upTo before body rest hb := by
    left
    simp only [opening?, readOpening, wordAndBody_group openers (by decide) hb]
    cases bodyAfterWord openers body <;> rfl

theorem grouped_wordTag {word : String} (hw : ∀ l ∈ word.toList, sameLetter l '\x7d' = false)
    (make : Text → Tag) : Grouped (wordTag word make) (readWord word make) where
  outside before c s hc := by simp [wordTag, wordAndBody_outside _ hc]
  closed before s found h := by
    obtain ⟨_, h, -⟩ := Option.map_eq_some_iff.mp h
    exact mem_of_wordAndBody h
  upTo before body rest hb := by
    left
    simp only [wordTag, readWord,
      wordAndBody_group [word.toList] (by simpa using hw) hb]
    cases bodyAfterWord [word.toList] body <;> rfl

theorem grouped_statementTag {word : String} (hw : ∀ l ∈ word.toList, sameLetter l '\x7d' = false)
    (make : Text → Tag) : Grouped (statementTag word make) (readStatement word make) where
  outside before c s hc := by simp [statementTag, wordAndBody_outside _ hc]
  closed before s found h := by
    obtain ⟨_, h, -⟩ := Option.map_eq_some_iff.mp h
    exact mem_of_wordAndBody h
  upTo before body rest hb := by
    left
    simp only [statementTag, readStatement,
      wordAndBody_group [word.toList] (by simpa using hw) hb]
    cases bodyAfterWord [word.toList] body <;> rfl

theorem grouped_fixedTag {word : String} (hw : ∀ l ∈ word.toList, sameLetter l '\x7d' = false)
    (tag : Tag) : Grouped (fixedTag word tag) (readFixed word tag) where
  outside before c s hc := by simp [fixedTag, bareWord_outside _ hc]
  closed before s found h := by
    obtain ⟨_, h, -⟩ := Option.map_eq_some_iff.mp h
    exact mem_of_bareWord h
  upTo before body rest hb := by
    left
    simp only [fixedTag, readFixed, bareWord_group [word.toList] (by simpa using hw) hb]
    cases wholeWord [word.toList] body <;> rfl

theorem grouped_fallback : Grouped fallback? readFallback where
  outside before c s hc := by
    unfold fallback?
    split <;> simp_all
  closed before s found h := by
    unfold fallback? at h
    split at h
    · simp only [Option.bind_eq_bind, Option.bind_eq_some_iff, Prod.exists] at h
      obtain ⟨spelling, left, hword, after, hafter, -⟩ := h
      rw [(takeWord_eq_some hword).1]
      exact List.mem_cons_of_mem _ (List.mem_append_right _
        ((List.dropWhile_suffix isBlank).subset (mem_of_after? hafter)))
    · cases h
  upTo before body rest hb := by
    left
    simp only [fallback?, readFallback,
      takeWord_append_closing "default".toList body rest (by decide)]
    cases hf : takeWord "default".toList body with
    | none => rfl
    | some found =>
        obtain ⟨spelling, left⟩ := found
        rw [(takeWord_eq_some hf).1, List.mem_append, not_or] at hb
        simp only [Option.map_some, Option.bind_eq_bind, Option.bind_some, Text.trimLeft,
          after?_dropWhile_closing isBlank (by decide) hb.2 rest]
        by_cases hall : left.all isBlank
        · have hd : (left.dropWhile isBlank).isEmpty := by
            simpa [List.isEmpty_iff, List.dropWhile_eq_nil_iff] using hall
          simp [hall, hd]
        · have hd : (left.dropWhile isBlank).isEmpty = false := by
            simpa [List.isEmpty_iff, List.dropWhile_eq_nil_iff] using hall
          simp [hall, hd]

theorem grouped_closing : Grouped closing? readClosing where
  outside before c s hc := by
    unfold closing?
    split <;> simp_all
  closed before s found h := by
    unfold closing? at h
    split at h
    · obtain ⟨_, h, -⟩ := Option.map_eq_some_iff.mp h
      rcases List.mem_cons.mp (mem_of_bareWord h) with he | hm
      · cases he
      · exact List.mem_cons_of_mem _ (List.mem_cons_of_mem _ hm)
    · cases h
  upTo before body rest hb := by
    left
    cases body with
    | nil => simp [closing?, readClosing]
    | cons c s =>
        rw [List.mem_cons, not_or] at hb
        by_cases hc : c = '/'
        · subst hc
          simp only [closing?, readClosing, List.cons_append,
            bareWord_group closers (by decide) hb.2]
          cases wholeWord closers s <;> rfl
        · simp [closing?, readClosing, hc]

theorem grouped_closingBranch : Grouped closingBranch? readClosingBranch where
  outside before c s hc := by
    unfold closingBranch?
    split <;> simp_all
  closed before s found h := by
    unfold closingBranch? at h
    split at h
    · obtain ⟨_, h, -⟩ := Option.map_eq_some_iff.mp h
      rcases List.mem_cons.mp (mem_of_bareWord h) with he | hm
      · cases he
      · exact List.mem_cons_of_mem _ (List.mem_cons_of_mem _ hm)
    · cases h
  upTo before body rest hb := by
    left
    cases body with
    | nil => simp [closingBranch?, readClosingBranch]
    | cons c s =>
        rw [List.mem_cons, not_or] at hb
        by_cases hc : c = '/'
        · subst hc
          simp only [closingBranch?, readClosingBranch, List.cons_append,
            bareWord_group ["case".toList, "default".toList] (by decide) hb.2]
          cases wholeWord ["case".toList, "default".toList] s <;> rfl
        · simp [closingBranch?, readClosingBranch, hc]

theorem grouped_otherwise : Grouped otherwise? readOtherwise where
  outside before c s hc := by
    unfold otherwise?
    split <;> simp_all
  closed before s found h := by
    unfold otherwise? at h
    split at h
    · simp only [Option.bind_eq_bind, Option.bind_eq_some_iff, Prod.exists] at h
      obtain ⟨spelling, left, hword, h⟩ := h
      have hleft : '\x7d' ∈ left := by
        split at h
        · simp
        · simp
        · cases h
      rw [(takeWord_eq_some hword).1]
      exact List.mem_cons_of_mem _ (List.mem_append_right _ hleft)
    · cases h
  upTo before body rest hb := by
    left
    simp only [otherwise?, readOtherwise, takeWord_append_closing "else".toList body rest (by decide)]
    cases hf : takeWord "else".toList body with
    | none => rfl
    | some found =>
        obtain ⟨spelling, left⟩ := found
        rw [(takeWord_eq_some hf).1, List.mem_append, not_or] at hb
        cases left with
        | nil => simp
        | cons c left =>
            have hk : c ≠ '\x7d' := by
              rintro rfl
              simp at hb
            by_cases hs : c = '/'
            · subst hs
              cases left with
              | nil => simp
              | cons d left =>
                  have hk : d ≠ '\x7d' := by
                    rintro rfl
                    simp at hb
                  simp [hk]
            · simp [hk, hs]

theorem grouped_insertion : Grouped insertion? readInsertion where
  outside before c s hc := by
    unfold insertion?
    split <;> simp_all
  closed before s found h := by
    unfold insertion? at h
    split at h
    · simp only [Option.bind_eq_bind, Option.bind_eq_some_iff, Prod.exists] at h
      obtain ⟨spelling, left, hword, after, hafter, -⟩ := h
      rw [(takeWord_eq_some hword).1]
      exact List.mem_cons_of_mem _ (List.mem_append_right _ ((List.dropWhile_suffix isBlank).subset
        ((List.dropWhile_suffix isListChar).subset (mem_of_after? hafter))))
    · cases h
  upTo before body rest hb := by
    left
    simp only [insertion?, readInsertion,
      takeWord_append_closing "include".toList body rest (by decide)]
    cases hf : takeWord "include".toList body with
    | none => rfl
    | some found =>
        obtain ⟨spelling, left⟩ := found
        rw [(takeWord_eq_some hf).1, List.mem_append, not_or] at hb
        have hl : '\x7d' ∉ left.trimLeft := fun hc =>
          hb.2 ((List.dropWhile_suffix isBlank).subset hc)
        have hp : isListChar '\x7d' = false := by decide
        simp only [Option.map_some, Option.bind_eq_bind, Option.bind_some,
          Text.trimLeft_append_closing, after?_dropWhile_closing isListChar hp hl rest,
          takeWhile_append_closing isListChar hp]
        by_cases hall : left.trimLeft.all isListChar
        · simp [hall, takeWhile_eq_self_of_all hall]
        · simp [hall]

theorem grouped_path : Grouped path? readPath where
  outside before c s hc := by
    unfold path?
    split <;> simp_all
  closed before s found h := by
    unfold path? at h
    split at h
    · simp only [Option.bind_eq_bind, Option.bind_eq_some_iff] at h
      obtain ⟨after, hafter, -⟩ := h
      exact List.mem_cons_of_mem _ (List.mem_cons_of_mem _
        ((List.dropWhile_suffix _).subset (mem_of_after? hafter)))
    · cases h
  upTo before body rest hb := by
    left
    cases body with
    | nil => simp [path?, readPath]
    | cons c s =>
        rw [List.mem_cons, not_or] at hb
        by_cases hc : c = '$'
        · subst hc
          simp only [path?, readPath, List.cons_append,
            takeWhile_append_closing (fun c => isPathChar c || c == '.') (by decide),
            after?_dropWhile_closing (fun c => isPathChar c || c == '.') (by decide) hb.2 rest]
          by_cases hall : s.all fun c => isPathChar c || c == '.'
          · simp only [hall, if_true, takeWhile_eq_self_of_all hall, Option.bind_eq_bind,
              Option.bind_some]
            cases Text.split '.' s with
            | nil => rfl
            | cons head segments =>
                by_cases hn : segments.isEmpty || head.isEmpty || segments.any List.isEmpty
                · simp [hn]
                · simp [hn]
          · simp [hall]
        · simp [path?, readPath, hc]

theorem grouped_interpolation : Grouped interpolation? readInterpolation where
  outside before c s hc := by
    unfold interpolation?
    split <;> simp_all
  closed before s found h := by
    unfold interpolation? at h
    split at h
    · obtain ⟨_, h, -⟩ := Option.map_eq_some_iff.mp h
      exact List.mem_cons_of_mem _ (List.mem_cons_of_mem _ (mem_of_toClosingBrace h))
    · cases h
  upTo before body rest hb := by
    cases body with
    | nil => simp [interpolation?, readInterpolation]
    | cons c s =>
        rw [List.mem_cons, not_or] at hb
        by_cases hc : c = '$'
        · subst hc
          simp only [interpolation?, readInterpolation, List.cons_append]
          rcases toClosingBrace_append_closing hb.2 rest with h | ⟨ho, h⟩
          · exact .inl (by rw [h]; rfl)
          · exact .inr ⟨List.mem_cons_of_mem _ ho, by rw [h]; rfl⟩
        · simp [interpolation?, readInterpolation, hc]

theorem grouped_shortEcho : Grouped shortEcho? readShortEcho where
  outside before c s hc := by
    unfold shortEcho?
    split <;> simp_all
  closed before s found h := by
    unfold shortEcho? at h
    split at h
    · obtain ⟨_, h, -⟩ := Option.map_eq_some_iff.mp h
      exact List.mem_cons_of_mem _ (List.mem_cons_of_mem _ (mem_of_toClosingBrace h))
    · cases h
  upTo before body rest hb := by
    cases body with
    | nil => simp [shortEcho?, readShortEcho]
    | cons c s =>
        rw [List.mem_cons, not_or] at hb
        by_cases hc : c = ':'
        · subst hc
          simp only [shortEcho?, readShortEcho, List.cons_append]
          rcases toClosingBrace_append_closing hb.2 rest with h | ⟨ho, h⟩
          · exact .inl (by rw [h]; rfl)
          · exact .inr ⟨List.mem_cons_of_mem _ ho, by rw [h]; rfl⟩
        · simp [shortEcho?, readShortEcho, hc]

end BraceTemplate.Tag

import BraceTemplate.Proofs.Flat.Readers
import BraceTemplate.Proofs.Flat.Rewrite

namespace BraceTemplate

open Text

namespace Tag

-- A tag whose host text depends on nothing but the tag.
def Direct : Tag → Prop
  | .insertion _ => False
  | .merge => False
  | _ => True

-- A recogniser with what it reads in a group: texts of that group only, and nothing to insert.
structure Reader where
  find : Recogniser Tag
  read : Text → Option Tag
  grouped : Grouped find read
  direct : ∀ {body tag}, read body = some tag → tag.Direct
  texts_subset : ∀ {body tag}, read body = some tag → ∀ s ∈ tag.texts, ∀ c ∈ s, c ∈ body

theorem mem_of_bodyAfterWord {words : List Text} {body spelling inner : Text}
    (h : bodyAfterWord words body = some (spelling, inner)) :
    (∀ c ∈ spelling, c ∈ body) ∧ ∀ c ∈ inner, c ∈ body := by
  simp only [bodyAfterWord, Option.bind_eq_bind, Option.bind_eq_some_iff, Prod.exists,
    Option.some.injEq, Prod.mk.injEq] at h
  obtain ⟨sp, rest, hword, inn, hblank, rfl, rfl⟩ := h
  rw [takeFirstWord_eq_some hword]
  exact ⟨fun c hc => List.mem_append_left _ hc,
    fun c hc => List.mem_append_right _ (mem_of_skipBlanks? hblank c hc)⟩

theorem mem_of_wholeWord {words : List Text} {body spelling : Text}
    (h : wholeWord words body = some spelling) : ∀ c ∈ spelling, c ∈ body := by
  simp only [wholeWord, Option.bind_eq_some_iff, Prod.exists] at h
  obtain ⟨sp, left, hword, h⟩ := h
  split at h
  · simp only [Option.some.injEq] at h
    rw [takeFirstWord_eq_some hword, ← h]
    exact fun c hc => List.mem_append_left _ hc
  · simp at h

namespace Reader

def opening : Reader where
  find := opening?
  read := readOpening
  grouped := grouped_opening
  direct h := by
    simp only [readOpening, Option.map_eq_some_iff] at h
    obtain ⟨_, _, rfl⟩ := h
    trivial
  texts_subset h := by
    simp only [readOpening, Option.map_eq_some_iff, Prod.exists] at h
    obtain ⟨spelling, inner, hb, rfl⟩ := h
    obtain ⟨hs, hi⟩ := mem_of_bodyAfterWord hb
    simp only [texts, List.mem_cons, List.not_mem_nil, or_false, forall_eq_or_imp, forall_eq]
    exact ⟨hs, fun c hc => hi c (Text.mem_of_mem_trim hc)⟩

-- A tag that is made of the text behind its word.
def word (word : String) (hw : ∀ l ∈ word.toList, sameLetter l '\x7d' = false) (make : Text → Tag)
    (hd : ∀ s, (make s).Direct) (ht : ∀ s, (make s).texts = [s]) : Reader where
  find := wordTag word make
  read := readWord word make
  grouped := grouped_wordTag hw make
  direct h := by
    simp only [readWord, Option.map_eq_some_iff] at h
    obtain ⟨_, _, rfl⟩ := h
    exact hd _
  texts_subset h := by
    simp only [readWord, Option.map_eq_some_iff, Prod.exists] at h
    obtain ⟨_, inner, hb, rfl⟩ := h
    rw [ht]
    simp only [List.mem_singleton, forall_eq]
    exact fun c hc => (mem_of_bodyAfterWord hb).2 c (Text.mem_of_mem_trim hc)

def statement (word : String) (hw : ∀ l ∈ word.toList, sameLetter l '\x7d' = false)
    (make : Text → Tag) (hd : ∀ s, (make s).Direct) (ht : ∀ s, (make s).texts = [s]) : Reader where
  find := statementTag word make
  read := readStatement word make
  grouped := grouped_statementTag hw make
  direct h := by
    simp only [readStatement, Option.map_eq_some_iff] at h
    obtain ⟨_, _, rfl⟩ := h
    exact hd _
  texts_subset h := by
    simp only [readStatement, Option.map_eq_some_iff, Prod.exists] at h
    obtain ⟨_, inner, hb, rfl⟩ := h
    rw [ht]
    simp only [List.mem_singleton, forall_eq]
    exact fun c hc => (mem_of_bodyAfterWord hb).2 c
      (Text.mem_of_mem_trimStatementEnd (Text.mem_of_mem_trim hc))

def fixed (word : String) (hw : ∀ l ∈ word.toList, sameLetter l '\x7d' = false) (tag : Tag)
    (hd : tag.Direct) (ht : tag.texts = []) : Reader where
  find := fixedTag word tag
  read := readFixed word tag
  grouped := grouped_fixedTag hw tag
  direct h := by
    simp only [readFixed, Option.map_eq_some_iff] at h
    obtain ⟨_, _, rfl⟩ := h
    exact hd
  texts_subset h := by
    simp only [readFixed, Option.map_eq_some_iff] at h
    obtain ⟨_, _, rfl⟩ := h
    simp [ht]

def fallback : Reader where
  find := fallback?
  read := readFallback
  grouped := grouped_fallback
  direct h := by
    simp only [readFallback, Option.bind_eq_some_iff, Option.ite_none_right_eq_some] at h
    obtain ⟨_, _, _, h⟩ := h
    cases h
    trivial
  texts_subset h := by
    simp only [readFallback, Option.bind_eq_some_iff, Option.ite_none_right_eq_some] at h
    obtain ⟨_, _, _, h⟩ := h
    cases h
    simp [texts]

theorem exists_of_readClosing {body : Text} {tag : Tag} (h : readClosing body = some tag) :
    ∃ s spelling, body = '/' :: s ∧ wholeWord closers s = some spelling ∧ tag = .closing spelling := by
  unfold readClosing at h
  split at h
  · next s =>
    simp only [Option.map_eq_some_iff] at h
    obtain ⟨spelling, hw, rfl⟩ := h
    exact ⟨s, spelling, rfl, hw, rfl⟩
  · simp at h

def closing : Reader where
  find := closing?
  read := readClosing
  grouped := grouped_closing
  direct h := by
    obtain ⟨_, _, _, _, rfl⟩ := exists_of_readClosing h
    trivial
  texts_subset h := by
    obtain ⟨s, spelling, rfl, hw, rfl⟩ := exists_of_readClosing h
    simp only [texts, List.mem_singleton, forall_eq]
    exact fun c hc => List.mem_cons_of_mem _ (mem_of_wholeWord hw c hc)

theorem eq_of_readClosingBranch {body : Text} {tag : Tag} (h : readClosingBranch body = some tag) :
    tag = .closingBranch := by
  unfold readClosingBranch at h
  split at h
  · simp only [Option.map_eq_some_iff] at h
    obtain ⟨_, _, rfl⟩ := h
    rfl
  · simp at h

def closingBranch : Reader where
  find := closingBranch?
  read := readClosingBranch
  grouped := grouped_closingBranch
  direct h := by
    rw [eq_of_readClosingBranch h]
    trivial
  texts_subset h := by simp [eq_of_readClosingBranch h, texts]

def otherwise : Reader where
  find := otherwise?
  read := readOtherwise
  grouped := grouped_otherwise
  direct h := by
    simp only [readOtherwise, Option.bind_eq_some_iff, Option.ite_none_right_eq_some] at h
    obtain ⟨_, _, _, h⟩ := h
    cases h
    trivial
  texts_subset h := by
    simp only [readOtherwise, Option.bind_eq_some_iff, Option.ite_none_right_eq_some] at h
    obtain ⟨_, _, _, h⟩ := h
    cases h
    simp [texts]

def path : Reader where
  find := path?
  read := readPath
  grouped := grouped_path
  direct h := by
    obtain ⟨_, _, _, _, _, _, _, _, rfl⟩ := readPath_eq_some_iff.mp h
    trivial
  texts_subset h := by
    obtain ⟨s, head, segments, rfl, -, hs, -, -, rfl⟩ := readPath_eq_some_iff.mp h
    have hpieces : ∀ piece ∈ head :: segments, ∀ c ∈ piece, c ∈ s :=
      fun piece hp c hc => Text.mem_of_mem_split (hs ▸ hp) hc
    simp only [texts, List.mem_cons, forall_eq_or_imp]
    refine ⟨⟨Or.inl trivial, fun c hc => Or.inr (hpieces head (by simp) c hc)⟩, ?_⟩
    exact fun piece hp c hc => Or.inr (hpieces piece (by simp [hp]) c hc)

theorem exists_of_readInterpolation {body : Text} {tag : Tag}
    (h : readInterpolation body = some tag) :
    ∃ s, body = '$' :: s ∧ tag = .interpolation body.trim := by
  unfold readInterpolation at h
  split at h
  · next s => exact ⟨s, rfl, by simpa using h.symm⟩
  · simp at h

def interpolation : Reader where
  find := interpolation?
  read := readInterpolation
  grouped := grouped_interpolation
  direct h := by
    obtain ⟨_, _, rfl⟩ := exists_of_readInterpolation h
    trivial
  texts_subset h := by
    obtain ⟨s, rfl, rfl⟩ := exists_of_readInterpolation h
    simp only [texts, List.mem_singleton, forall_eq]
    exact fun c hc => Text.mem_of_mem_trim hc

theorem exists_of_readShortEcho {body : Text} {tag : Tag} (h : readShortEcho body = some tag) :
    ∃ s, body = ':' :: s ∧ tag = .interpolation (Text.trim (Text.trimStatementEnd s)) := by
  unfold readShortEcho at h
  split at h
  · next s => exact ⟨s, rfl, by simpa using h.symm⟩
  · simp at h

def shortEcho : Reader where
  find := shortEcho?
  read := readShortEcho
  grouped := grouped_shortEcho
  direct h := by
    obtain ⟨_, _, rfl⟩ := exists_of_readShortEcho h
    trivial
  texts_subset h := by
    obtain ⟨s, rfl, rfl⟩ := exists_of_readShortEcho h
    simp only [texts, List.mem_singleton, forall_eq]
    exact fun c hc => List.mem_cons_of_mem _
      (Text.mem_of_mem_trimStatementEnd (Text.mem_of_mem_trim hc))

-- The readers that come before insertions are looked for, in their order.
def early : List Reader := [
  opening,
  word "function" (by decide) .define (fun _ => trivial) fun _ => rfl,
  statement "php" (by decide) .statement (fun _ => trivial) fun _ => rfl,
  statement "dump" (by decide) .dump (fun _ => trivial) fun _ => rfl,
  statement "print" (by decide) .print (fun _ => trivial) fun _ => rfl,
  statement "echo" (by decide) .echo (fun _ => trivial) fun _ => rfl,
  word "case" (by decide) .case (fun _ => trivial) fun _ => rfl,
  fallback,
  fixed "php" (by decide) .enter trivial rfl,
  fixed "/php" (by decide) .leave trivial rfl,
  closing,
  closingBranch,
  word "elseif" (by decide) .elseif (fun _ => trivial) fun _ => rfl,
  otherwise]

-- The readers that come after the insertions, so that they see the inserted text as well.
def late : List Reader := [path, interpolation, shortEcho]

end Reader

theorem recognisers_eq :
    recognisers = Reader.early.map Reader.find ++
      insertion? :: (Reader.late.map Reader.find ++ [merge?]) :=
  rfl

end Tag

end BraceTemplate

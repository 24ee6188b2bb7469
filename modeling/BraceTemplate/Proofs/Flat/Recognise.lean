import BraceTemplate.Proofs.Flat.Segment
import BraceTemplate.Tag.Recognise
import Mathlib.Data.List.Forall2
import Mathlib.Data.List.TakeWhile

namespace BraceTemplate

open Text

theorem toLower_eq_self_or_isLower (c : Char) : c.toLower = c ∨ c.toLower.isLower = true := by
  by_cases h : c.val ≥ 'A'.val ∧ c.val ≤ 'Z'.val
  · right
    have hall : ∀ n < 26, (Char.ofNat (65 + n)).toLower.isLower = true := by decide
    have hlo : 65 ≤ c.toNat := h.1
    have hhi : c.toNat ≤ 90 := h.2
    have hn := hall (c.toNat - 65) (by omega)
    rwa [Nat.add_sub_of_le hlo, Char.ofNat_toNat] at hn
  · left
    exact dif_neg h

-- A letter that has no case is spelled in one way only.
theorem eq_of_sameLetter {l c : Char} (hl : l.isLower = false) (h : sameLetter l c) : c = l := by
  have hs : l ≠ 's' := by rintro rfl; simp at hl
  have hi : l ≠ 'i' := by rintro rfl; simp at hl
  have hk : l ≠ 'k' := by rintro rfl; simp at hl
  have h : c = l ∨ c.toLower = l := by simpa [sameLetter, hs, hi, hk] using h
  rcases h with h | h
  · exact h
  · rcases toLower_eq_self_or_isLower c with hc | hc
    · exact hc ▸ h
    · simp [h, hl] at hc

-- A letter in its other case is the capital, unless it is spelled in some further way.
theorem eq_or_eq_toUpper {l c : Char} (h : c.toLower = l) : c = l ∨ c = l.toUpper := by
  by_cases hc : c.val ≥ 'A'.val ∧ c.val ≤ 'Z'.val
  · right
    have hall : ∀ n < 26, Char.ofNat (65 + n) = (Char.ofNat (65 + n)).toLower.toUpper := by decide
    have hlo : 65 ≤ c.toNat := hc.1
    have hhi : c.toNat ≤ 90 := hc.2
    have hn := hall (c.toNat - 65) (by omega)
    rwa [Nat.add_sub_of_le hlo, Char.ofNat_toNat, h] at hn
  · left
    rw [← h]
    exact (show c.toLower = c from dif_neg hc).symm

-- A character that is no letter of a word ends every spelling of it.
theorem takeWord_append_cons {stop : Char} (word s rest : Text)
    (hw : ∀ l ∈ word, sameLetter l stop = false) :
    takeWord word (s ++ stop :: rest) =
      (takeWord word s).map fun (spelling, left) => (spelling, left ++ stop :: rest) := by
  induction word generalizing s with
  | nil => rfl
  | cons l word ih =>
      have hl := hw l (by simp)
      cases s with
      | nil => simp [takeWord, hl]
      | cons c s =>
          have ih := ih s fun l h => hw l (List.mem_cons_of_mem _ h)
          by_cases hc : sameLetter l c
          · simp [takeWord, hc, ih, Function.comp_def]
          · simp [takeWord, hc]

theorem takeWord_append_closing (word s rest : Text)
    (hw : ∀ l ∈ word, sameLetter l '\x7d' = false) :
    takeWord word (s ++ '\x7d' :: rest) =
      (takeWord word s).map fun (spelling, left) => (spelling, left ++ '\x7d' :: rest) :=
  takeWord_append_cons word s rest hw

theorem takeWord_eq_some {word s spelling left : Text}
    (h : takeWord word s = some (spelling, left)) :
    s = spelling ++ left ∧ spelling.length = word.length := by
  induction word generalizing s spelling left with
  | nil => simp_all [takeWord]
  | cons l word ih =>
      cases s with
      | nil => simp [takeWord] at h
      | cons c s =>
          by_cases hc : sameLetter l c
          · simp only [takeWord, hc, if_true, Option.map_eq_some_iff] at h
            obtain ⟨⟨sp, r⟩, ht, he⟩ := h
            obtain ⟨hs, hlen⟩ := ih ht
            simp only [Prod.mk.injEq] at he
            obtain ⟨rfl, rfl⟩ := he
            simp [hs, hlen]
          · simp [takeWord, hc] at h

theorem forall₂_of_takeWord {word s spelling left : Text}
    (h : takeWord word s = some (spelling, left)) :
    List.Forall₂ (fun l c => sameLetter l c) word spelling := by
  induction word generalizing s spelling left with
  | nil => simp_all [takeWord]
  | cons l word ih =>
      cases s with
      | nil => simp [takeWord] at h
      | cons c s =>
          by_cases hc : sameLetter l c
          · simp only [takeWord, hc, if_true, Option.map_eq_some_iff, Prod.mk.injEq,
              Prod.exists] at h
            obtain ⟨sp, r, ht, rfl, rfl⟩ := h
            exact .cons hc (ih ht)
          · simp [takeWord, hc] at h

theorem takeWord_spelling {word s spelling left : Text}
    (h : takeWord word s = some (spelling, left)) (rest : Text) :
    takeWord word (spelling ++ rest) = some (spelling, rest) := by
  have hspell := forall₂_of_takeWord h
  clear h
  induction hspell with
  | nil => rfl
  | cons hc _ ih => simp [takeWord, hc, ih]

theorem sameLetter_of_mem_spelling {word s spelling left : Text}
    (h : takeWord word s = some (spelling, left)) {c : Char} (hc : c ∈ spelling) :
    ∃ l ∈ word, sameLetter l c = true := by
  have hspell := forall₂_of_takeWord h
  clear h
  induction hspell with
  | nil => simp at hc
  | cons hl _ ih =>
      rcases List.mem_cons.mp hc with rfl | hc
      · exact ⟨_, List.mem_cons_self, hl⟩
      · obtain ⟨l, hm, hs⟩ := ih hc
        exact ⟨l, List.mem_cons_of_mem _ hm, hs⟩

theorem takeWord_append {word s spelling left : Text} (rest : Text)
    (h : takeWord word s = some (spelling, left)) :
    takeWord word (s ++ rest) = some (spelling, left ++ rest) := by
  induction word generalizing s spelling left with
  | nil => simp_all [takeWord]
  | cons l word ih =>
      cases s with
      | nil => simp [takeWord] at h
      | cons c s =>
          by_cases hc : sameLetter l c
          · simp only [takeWord, hc, if_true, Option.map_eq_some_iff, Prod.mk.injEq,
              Prod.exists] at h
            obtain ⟨sp, r, ht, rfl, rfl⟩ := h
            simp [takeWord, hc, ih ht]
          · simp [takeWord, hc] at h

theorem takeFirstWord_append_cons {stop : Char} (words : List Text) (s rest : Text)
    (hw : ∀ w ∈ words, ∀ l ∈ w, sameLetter l stop = false) :
    takeFirstWord words (s ++ stop :: rest) =
      (takeFirstWord words s).map fun (spelling, left) => (spelling, left ++ stop :: rest) := by
  induction words with
  | nil => rfl
  | cons w words ih =>
      have h := takeWord_append_cons w s rest (hw w (by simp))
      have ih := ih fun w h => hw w (List.mem_cons_of_mem _ h)
      simp only [takeFirstWord, List.findSome?_cons] at ih ⊢
      cases ht : takeWord w s with
      | none => simpa [h, ht] using ih
      | some found => simp [h, ht]

theorem takeFirstWord_append_closing (words : List Text) (s rest : Text)
    (hw : ∀ w ∈ words, ∀ l ∈ w, sameLetter l '\x7d' = false) :
    takeFirstWord words (s ++ '\x7d' :: rest) =
      (takeFirstWord words s).map fun (spelling, left) => (spelling, left ++ '\x7d' :: rest) :=
  takeFirstWord_append_cons words s rest hw

theorem takeFirstWord_eq_some {words : List Text} {s spelling left : Text}
    (h : takeFirstWord words s = some (spelling, left)) : s = spelling ++ left := by
  obtain ⟨w, _, hw⟩ := List.exists_of_findSome?_eq_some h
  exact (takeWord_eq_some hw).1

theorem dropWhile_append_cons {stop : Char} (p : Char → Bool) (hp : p stop = false)
    (s rest : Text) : (s ++ stop :: rest).dropWhile p = s.dropWhile p ++ stop :: rest := by
  rw [List.dropWhile_append]
  split
  · simp_all
  · rfl

theorem takeWhile_append_closing (p : Char → Bool) (hp : p '\x7d' = false) (s rest : Text) :
    (s ++ '\x7d' :: rest).takeWhile p = s.takeWhile p := by
  induction s with
  | nil => simp [hp]
  | cons c s ih => by_cases hc : p c <;> simp [hc, ih]

theorem Text.trimLeft_append_cons {stop : Char} (hstop : isBlank stop = false) (s rest : Text) :
    Text.trimLeft (s ++ stop :: rest) = s.trimLeft ++ stop :: rest :=
  dropWhile_append_cons isBlank hstop s rest

theorem Text.trimLeft_append_closing (s rest : Text) :
    Text.trimLeft (s ++ '\x7d' :: rest) = s.trimLeft ++ '\x7d' :: rest :=
  Text.trimLeft_append_cons (by decide) s rest

theorem Text.cutAt_append_closing {s : Text} (hs : '\x7d' ∉ s) (rest : Text) :
    Text.cutAt '\x7d' (s ++ '\x7d' :: rest) = some (s, rest) := by
  induction s with
  | nil => simp [cutAt]
  | cons c s ih =>
      rw [List.mem_cons, not_or] at hs
      obtain ⟨hk, hs⟩ := hs
      simp [cutAt, Ne.symm hk, ih hs]

theorem Text.mem_of_cutAt {stop : Char} {s : Text} {found : Text × Text}
    (h : Text.cutAt stop s = some found) : stop ∈ s := by
  induction s generalizing found with
  | nil => simp [cutAt] at h
  | cons c s ih =>
      by_cases hc : c = stop
      · simp [hc]
      · simp only [cutAt, hc, if_false, Option.map_eq_some_iff] at h
        obtain ⟨_, h, -⟩ := h
        exact List.mem_cons_of_mem _ (ih h)

theorem Text.mem_of_after? {stop : Char} {s after : Text} (h : Text.after? [stop] s = some after) :
    stop ∈ s := by
  cases s with
  | nil => simp [after?] at h
  | cons c s =>
      by_cases hc : stop = c
      · simp [hc]
      · simp [after?, hc] at h

-- The text behind a marker that is reached when a run of characters ends.
theorem Text.after?_dropWhile_closing (p : Char → Bool) (hp : p '\x7d' = false) {s : Text}
    (hs : '\x7d' ∉ s) (rest : Text) :
    Text.after? ['\x7d'] ((s ++ '\x7d' :: rest).dropWhile p) =
      if s.all p then some rest else none := by
  induction s with
  | nil => simp [hp, after?]
  | cons c s ih =>
      rw [List.mem_cons, not_or] at hs
      obtain ⟨hk, hs⟩ := hs
      by_cases hpc : p c
      · simpa [hpc] using ih hs
      · simp [hpc, after?, hk]

theorem takeWhile_eq_self_of_all {p : Char → Bool} {s : Text} (h : s.all p) : s.takeWhile p = s := by
  rw [List.all_eq_true] at h
  exact List.takeWhile_eq_self_iff.mpr h

namespace Tag

theorem skipBlanks?_append_cons {stop : Char} (hstop : isBlank stop = false) (s rest : Text) :
    skipBlanks? (s ++ stop :: rest) = (skipBlanks? s).map (· ++ stop :: rest) := by
  cases s with
  | nil => simp [skipBlanks?, hstop]
  | cons c s =>
      have ht := Text.trimLeft_append_cons hstop s rest
      by_cases hc : isBlank c <;> simp [skipBlanks?, hc, ht]

theorem mem_of_skipBlanks? {s inner : Text} (h : skipBlanks? s = some inner) :
    ∀ c ∈ inner, c ∈ s := by
  cases s with
  | nil => simp [skipBlanks?] at h
  | cons c s =>
      by_cases hc : isBlank c
      · simp only [skipBlanks?, hc, if_true, Option.some.injEq] at h
        subst h
        exact fun d hd => List.mem_cons_of_mem _ ((List.dropWhile_suffix isBlank).subset hd)
      · simp [skipBlanks?, hc] at h

-- A recogniser that looks at one group at a time: it starts at an opening brace, goes up to the next
-- closing one, and finds what `read` reads in the text between, whatever stands around the group. It
-- may do without texts in which another brace is opened.
structure Grouped {α : Type} (find : Recogniser α) (read : Text → Option α) : Prop where
  outside : ∀ before c s, c ≠ '\x7b' → find before (c :: s) = none
  closed : ∀ before s found, find before s = some found → '\x7d' ∈ s
  upTo : ∀ before body rest, '\x7d' ∉ body →
    find before ('\x7b' :: (body ++ '\x7d' :: rest)) = (read body).map (·, rest) ∨
      '\x7b' ∈ body ∧ find before ('\x7b' :: (body ++ '\x7d' :: rest)) = none

theorem Grouped.inside {α : Type} {find : Recogniser α} {read : Text → Option α}
    (h : Grouped find read) (before : Option Char) (body rest : Text) (hb : BraceFree body) :
    find before ('\x7b' :: (body ++ '\x7d' :: rest)) = (read body).map (·, rest) :=
  (h.upTo before body rest (braceFree_iff_not_mem.mp hb).2).resolve_right fun ho =>
    (braceFree_iff_not_mem.mp hb).1 ho.1

-- What is found is a group from its opening brace to the first closing one.
theorem Grouped.exists_group {α : Type} {find : Recogniser α} {read : Text → Option α}
    (h : Grouped find read) {before : Option Char} {s after : Text} {value : α}
    (hf : find before s = some (value, after)) :
    ∃ body, '\x7d' ∉ body ∧ s = '\x7b' :: (body ++ '\x7d' :: after) ∧ read body = some value := by
  have hmem := h.closed _ _ _ hf
  cases s with
  | nil => simp at hmem
  | cons c s =>
      by_cases hc : c = '\x7b'
      · subst hc
        obtain ⟨body, rest, rfl, hb⟩ := List.eq_append_cons_of_mem (List.mem_of_ne_of_mem (by decide) hmem)
        rcases h.upTo before body rest hb with hu | ⟨-, hu⟩
        · rw [hf, eq_comm, Option.map_eq_some_iff] at hu
          obtain ⟨_, hr, he⟩ := hu
          cases he
          exact ⟨body, hb, rfl, hr⟩
        · rw [hf] at hu
          cases hu
      · rw [h.outside before c s hc] at hf
        cases hf

-- The spelling of one of some words at the front, and what follows the blanks behind it.
def bodyAfterWord (words : List Text) (body : Text) : Option (Text × Text) := do
  let (spelling, rest) ← takeFirstWord words body
  let inner ← skipBlanks? rest
  some (spelling, inner)

theorem wordAndBody_group (words : List Text)
    (hw : ∀ w ∈ words, ∀ l ∈ w, sameLetter l '\x7d' = false) {body : Text} (hb : '\x7d' ∉ body)
    (rest : Text) :
    wordAndBody words ('\x7b' :: (body ++ '\x7d' :: rest)) =
      (bodyAfterWord words body).map (·, rest) := by
  simp only [wordAndBody, bodyAfterWord, takeFirstWord_append_closing words body rest hw]
  cases hf : takeFirstWord words body with
  | none => rfl
  | some found =>
      obtain ⟨spelling, left⟩ := found
      have he := takeFirstWord_eq_some hf
      simp only [Option.map_some, Option.bind_eq_bind, Option.bind_some,
        skipBlanks?_append_cons (show isBlank '\x7d' = false by decide) left rest]
      cases hs : skipBlanks? left with
      | none => rfl
      | some inner =>
          have hi : '\x7d' ∉ inner := fun hc => hb (by
            rw [he]
            exact List.mem_append_right _ (mem_of_skipBlanks? hs _ hc))
          simp [cutAt_append_closing hi rest]

theorem wordAndBody_outside (words : List Text) {c : Char} (hc : c ≠ '\x7b') (s : Text) :
    wordAndBody words (c :: s) = none := by
  unfold wordAndBody
  split <;> simp_all

theorem mem_of_wordAndBody {words : List Text} {s : Text} {found : (Text × Text) × Text}
    (h : wordAndBody words s = some found) : '\x7d' ∈ s := by
  unfold wordAndBody at h
  split at h
  · simp only [Option.bind_eq_bind, Option.bind_eq_some_iff, Prod.exists] at h
    obtain ⟨spelling, rest, hword, inner, hblank, body, after, hcut, -⟩ := h
    rw [takeFirstWord_eq_some hword]
    exact List.mem_cons_of_mem _ (List.mem_append_right _
      (mem_of_skipBlanks? hblank _ (mem_of_cutAt hcut)))
  · cases h

theorem bareWord_outside (words : List Text) {c : Char} (hc : c ≠ '\x7b') (s : Text) :
    bareWord words (c :: s) = none := by
  unfold bareWord
  split <;> simp_all

theorem mem_of_bareWord {words : List Text} {s : Text} {found : Text × Text}
    (h : bareWord words s = some found) : '\x7d' ∈ s := by
  unfold bareWord at h
  split at h
  · simp only [Option.bind_eq_bind, Option.bind_eq_some_iff, Prod.exists] at h
    obtain ⟨spelling, rest, hword, after, hafter, -⟩ := h
    rw [takeFirstWord_eq_some hword]
    exact List.mem_cons_of_mem _ (List.mem_append_right _ (mem_of_after? hafter))
  · cases h

-- A word that is the whole text.
def wholeWord (words : List Text) (body : Text) : Option Text :=
  (takeFirstWord words body).bind fun (spelling, left) =>
    if left.isEmpty then some spelling else none

theorem bareWord_group (words : List Text)
    (hw : ∀ w ∈ words, ∀ l ∈ w, sameLetter l '\x7d' = false) {body : Text} (hb : '\x7d' ∉ body)
    (rest : Text) :
    bareWord words ('\x7b' :: (body ++ '\x7d' :: rest)) = (wholeWord words body).map (·, rest) := by
  simp only [bareWord, wholeWord, takeFirstWord_append_closing words body rest hw]
  cases hf : takeFirstWord words body with
  | none => rfl
  | some found =>
      obtain ⟨spelling, left⟩ := found
      have he := takeFirstWord_eq_some hf
      cases left with
      | nil => simp [after?]
      | cons c left =>
          have hk : c ≠ '\x7d' := by
            rintro rfl
            exact hb (by simp [he])
          simp [after?, hk.symm]

theorem toClosingBrace_append_closing {s : Text} (hs : '\x7d' ∉ s) (rest : Text) :
    toClosingBrace (s ++ '\x7d' :: rest) = some (s, rest) ∨
      '\x7b' ∈ s ∧ toClosingBrace (s ++ '\x7d' :: rest) = none := by
  unfold toClosingBrace
  simp only [after?_dropWhile_closing (fun c => !(c == '\x7b' || c == '\x7d')) (by decide) hs,
    takeWhile_append_closing (fun c => !(c == '\x7b' || c == '\x7d')) (by decide)]
  by_cases hall : s.all (fun c => !(c == '\x7b' || c == '\x7d'))
  · rw [if_pos hall, takeWhile_eq_self_of_all hall]
    exact .inl rfl
  · rw [if_neg hall]
    refine .inr ⟨?_, rfl⟩
    simp only [List.all_eq_true, not_forall] at hall
    obtain ⟨c, hc, hbrace⟩ := hall
    have hne : c ≠ '\x7d' := by
      rintro rfl
      exact hs hc
    have ho : c = '\x7b' := by simpa [hne] using hbrace
    exact ho ▸ hc

theorem mem_of_toClosingBrace {s : Text} {found : Text × Text}
    (h : toClosingBrace s = some found) : '\x7d' ∈ s := by
  simp only [toClosingBrace, Option.map_eq_some_iff] at h
  obtain ⟨after, h, -⟩ := h
  exact (List.dropWhile_suffix _).subset (mem_of_after? h)

end Tag

end BraceTemplate

import BraceTemplate.Proofs.Literal.RoundTrip
import BraceTemplate.Text.Case

namespace BraceTemplate

open Text

-- What passes for an s or an i where case is ignored, and is neither of them in small letters.
def strayLetters : List Char := ['ſ', 'ı', 'İ']

-- A letter as the words that close blocks have them.
def IsBlockLetter (l : Char) : Prop :=
  l ≠ 'k' ∧ l.toLower = l ∧ l.toUpper.toLower = l ∧ l.toNat < 128 ∧ l.toUpper.toNat < 128

theorem isBlockLetter_of_mem {word : Text} (hword : word ∈ Tag.closers) :
    ∀ l ∈ word, IsBlockLetter l := by
  unfold IsBlockLetter
  revert word
  decide

theorem lowerChar_of_sameLetter {l c : Char} (hl : IsBlockLetter l) (h : sameLetter l c = true)
    (hc : c ∉ strayLetters) : c.toNat < 128 ∧ lowerChar c = [l] := by
  obtain ⟨hk, hlow, hup, hsmall, hcapital⟩ := hl
  simp only [strayLetters, List.mem_cons, List.not_mem_nil, or_false, not_or] at hc
  have hcase : c = l ∨ c.toLower = l := by
    simpa [sameLetter, hk, hc] using h
  have hforms : c = l ∨ c = l.toUpper := hcase.elim .inl eq_or_eq_toUpper
  rcases hforms with rfl | rfl
  · exact ⟨hsmall, by rw [lowerChar, if_pos hsmall, hlow]⟩
  · exact ⟨hcapital, by rw [lowerChar, if_pos hcapital, hup]⟩

-- Without stray letters a spelling of a word is that word in small letters.
theorem lowerFrom_of_spells {word spelling : Text} (hword : ∀ l ∈ word, IsBlockLetter l)
    (hspells : Spells word spelling) (hplain : ∀ c ∈ spelling, c ∉ strayLetters) (before : Text) :
    lowerFrom before spelling = word := by
  induction hspells generalizing before with
  | nil => rfl
  | @cons l c word spelling hc _ ih =>
      obtain ⟨hsmall, hlower⟩ := lowerChar_of_sameLetter (hword l (by simp)) hc (hplain c (by simp))
      have hsigma : c.toNat ≠ 931 := by omega
      rw [lowerFrom, if_neg hsigma, hlower, ih (fun l hl => hword l (List.mem_cons_of_mem _ hl))
        fun c hc => hplain c (List.mem_cons_of_mem _ hc)]
      rfl

-- A stray letter has no small letter within the alphabet of the words.
theorem exists_mem_lowerFrom_of_stray {c : Char} (hc : c ∈ strayLetters) {spelling : Text}
    (hm : c ∈ spelling) (before : Text) : ∃ d ∈ lowerFrom before spelling, 128 ≤ d.toNat := by
  induction spelling generalizing before with
  | nil => simp at hm
  | cons e spelling ih =>
      rcases List.mem_cons.mp hm with rfl | hm
      · have hstray : ∀ c ∈ strayLetters,
            c.toNat ≠ 931 ∧ (lowerChar c).any (128 ≤ ·.toNat) = true := by decide +kernel
        obtain ⟨hsigma, hany⟩ := hstray c hc
        obtain ⟨d, hd, hlarge⟩ := List.any_eq_true.mp hany
        refine ⟨d, ?_, of_decide_eq_true hlarge⟩
        rw [lowerFrom, if_neg hsigma]
        exact List.mem_append_left _ hd
      · obtain ⟨d, hd, hlarge⟩ := ih hm (e :: before)
        exact ⟨d, List.mem_append_right _ hd, hlarge⟩

theorem eq_of_sameLetter_of_stray {l c : Char} (hl : IsBlockLetter l) (hc : c ∈ strayLetters)
    (h : sameLetter l c = true) : l = if c = 'ſ' then 's' else 'i' := by
  have hforeign : ∀ c ∈ strayLetters, c ≠ l ∧ c.toLower ≠ l := by
    have hlarge : ∀ c ∈ strayLetters, 128 ≤ c.toNat ∧ 128 ≤ c.toLower.toNat := by decide
    intro c hc
    constructor <;> rintro rfl <;> have := hlarge c hc <;> have := hl.2.2.2.1 <;> omega
  obtain ⟨hne, hlower⟩ := hforeign c hc
  simp only [strayLetters, List.mem_cons, List.not_mem_nil, or_false] at hc
  rcases hc with rfl | rfl | rfl <;> simpa [sameLetter, hne, hlower, hl.1] using h

-- No character is a spelling of two letters.
theorem eq_of_sameLetter_of_sameLetter {l k c : Char} (hl : IsBlockLetter l) (hk : IsBlockLetter k)
    (hlc : sameLetter l c = true) (hkc : sameLetter k c = true) : l = k := by
  by_cases hc : c ∈ strayLetters
  · rw [eq_of_sameLetter_of_stray hl hc hlc, eq_of_sameLetter_of_stray hk hc hkc]
  · have h := (lowerChar_of_sameLetter hl hlc hc).2
    rw [(lowerChar_of_sameLetter hk hkc hc).2] at h
    exact (List.singleton_injective h).symm

-- A word is found in a spelling of another word that begins with it, and in no other.
theorem prefix_of_takeWord {w word spelling : Text} (hw : ∀ l ∈ w, IsBlockLetter l)
    (hword : ∀ l ∈ word, IsBlockLetter l) (hspells : Spells word spelling)
    (h : (takeWord w spelling).isSome = true) : w <+: word := by
  induction hspells generalizing w with
  | nil =>
      cases w with
      | nil => exact List.nil_prefix
      | cons l w => cases h
  | @cons k c word spelling hc _ ih =>
      cases w with
      | nil => exact List.nil_prefix
      | cons l w =>
          by_cases hl : sameLetter l c = true
          · simp only [takeWord, hl, if_true, Option.isSome_map] at h
            rw [eq_of_sameLetter_of_sameLetter (hw l (by simp)) (hword k (by simp)) hl hc]
            exact List.cons_prefix_cons.mpr ⟨rfl, ih (fun l hl => hw l (List.mem_cons_of_mem _ hl))
              (fun l hl => hword l (List.mem_cons_of_mem _ hl)) h⟩
          · simp [takeWord, hl] at h

-- Of several words the first that another word begins with is found in a spelling of that word.
theorem takeFirstWord_of_spells {words : List Text} {word spelling : Text}
    (hwords : ∀ w ∈ words, ∀ l ∈ w, IsBlockLetter l) (hspells : Spells word spelling)
    (hfirst : words.find? (·.isPrefixOf word) = some word) :
    takeFirstWord words spelling = some (spelling, []) := by
  induction words with
  | nil => cases hfirst
  | cons w words ih =>
      have hword := hwords word (List.mem_of_find?_eq_some hfirst)
      rw [takeFirstWord, List.findSome?_cons]
      rw [List.find?_cons] at hfirst
      split at hfirst
      · cases hfirst
        rw [takeWord_eq_some_iff.mpr ⟨(List.append_nil spelling).symm, hspells⟩]
      · next hprefix =>
        have hnone : takeWord w spelling = none := by
          rw [← Option.not_isSome_iff_eq_none]
          intro hsome
          have hp := prefix_of_takeWord (hwords w (by simp)) hword hspells hsome
          rw [List.isPrefixOf_iff_prefix.mpr hp] at hprefix
          cases hprefix
        rw [hnone]
        exact ih (fun w hm => hwords w (List.mem_cons_of_mem _ hm)) hfirst

end BraceTemplate

import BraceTemplate.Proofs.Tree.Basic

namespace BraceTemplate

theorem isNameStart_iff (c : Char) :
    Sigil.isNameStart c = true ↔
      (65 ≤ c.toNat ∧ c.toNat ≤ 90) ∨ (97 ≤ c.toNat ∧ c.toNat ≤ 122) ∨ c.toNat = 95 := by
  have hc : c = '_' ↔ c.toNat = 95 := ⟨fun h => h ▸ rfl, fun h => by
    rw [← Char.ofNat_toNat c, h]⟩
  have halpha : c.isAlpha = true ↔
      (65 ≤ c.toNat ∧ c.toNat ≤ 90) ∨ (97 ≤ c.toNat ∧ c.toNat ≤ 122) := by
    change (decide (65 ≤ c.val ∧ c.val ≤ 90) || (decide (97 ≤ c.val) && decide (c.val ≤ 122))) = true ↔ _
    simp only [Bool.or_eq_true, Bool.and_eq_true, decide_eq_true_eq, UInt32.le_iff_toNat_le]
    rfl
  rw [Sigil.isNameStart, Bool.or_eq_true, halpha, beq_iff_eq, hc, or_assoc]

theorem isNamePart_eq (c : Char) : isNamePart c = (Sigil.isNameStart c || c.isDigit) := by
  simp only [isNamePart, Sigil.isNameStart, Char.isAlphanum, Bool.or_right_comm]

-- The characters of a name stand in four ranges.
theorem isNamePart_iff (c : Char) :
    isNamePart c = true ↔ (65 ≤ c.toNat ∧ c.toNat ≤ 90) ∨ (97 ≤ c.toNat ∧ c.toNat ≤ 122) ∨
      c.toNat = 95 ∨ (48 ≤ c.toNat ∧ c.toNat ≤ 57) := by
  simp only [isNamePart_eq, Bool.or_eq_true, isNameStart_iff, Char.isDigit, Bool.and_eq_true,
    decide_eq_true_eq, UInt32.le_iff_toNat_le, ge_iff_le]
  change _ ∨ (48 ≤ c.toNat ∧ c.toNat ≤ 57) ↔ _
  omega

theorem isNamePart_of_start {c : Char} (h : Sigil.isNameStart c = true) : isNamePart c = true := by
  simp [isNamePart_eq, h]

theorem toNat_lt_of_namePart {c : Char} (h : isNamePart c = true) : c.toNat < 128 := by
  rw [isNamePart_iff] at h
  omega

theorem not_isBlank_of_namePart {c : Char} (h : isNamePart c = true) : isBlank c = false := by
  rw [isNamePart_iff] at h
  simp only [isBlank, Bool.or_eq_false_iff, Bool.and_eq_false_iff, decide_eq_false_iff_not,
    beq_eq_false_iff_ne]
  omega

theorem isName_iff {x : Text} :
    isName x = true ↔
      ∃ c rest, x = c :: rest ∧ Sigil.isNameStart c = true ∧ ∀ d ∈ x, isNamePart d = true := by
  cases x with
  | nil => simp [isName]
  | cons c rest =>
      simp only [isName, Bool.and_eq_true, List.all_eq_true, List.cons.injEq, List.forall_mem_cons]
      constructor
      · rintro ⟨hc, hrest⟩
        exact ⟨c, rest, ⟨rfl, rfl⟩, hc, isNamePart_of_start hc, hrest⟩
      · rintro ⟨_, _, ⟨rfl, rfl⟩, hc, -, hrest⟩
        exact ⟨hc, hrest⟩

theorem isName_of_variable {x : Text} (h : isVariable x = true) : isName x = true := by
  simp only [isVariable, Bool.and_eq_true] at h
  exact h.1

theorem not_taken_of_variable {x : Text} (h : isVariable x = true) : x ∉ takenNames := by
  simp only [isVariable, Bool.and_eq_true, Bool.not_eq_true', List.contains_eq_mem,
    decide_eq_false_iff_not] at h
  exact h.2

section Variable

variable {x : Text}

theorem namePart_of_variable (h : isVariable x = true) : ∀ c ∈ x, isNamePart c = true := by
  obtain ⟨_, _, _, _, h⟩ := isName_iff.mp (isName_of_variable h)
  exact h

theorem not_isBlank_of_variable (h : isVariable x = true) : ∀ c ∈ x, isBlank c = false :=
  fun c hc => not_isBlank_of_namePart (namePart_of_variable h c hc)

theorem ne_nil_of_variable (h : isVariable x = true) : x ≠ [] := by
  rintro rfl
  simp [isVariable, isName] at h

theorem not_mem_of_variable (h : isVariable x = true) {c : Char} (hc : isNamePart c = false) :
    c ∉ x := fun hm => by
  simp [namePart_of_variable h c hm] at hc

end Variable

namespace Text

theorem trimLeft_cons_of_not_blank {c : Char} (hc : isBlank c = false) (s : Text) :
    trimLeft (c :: s) = c :: s := by
  simp [trimLeft, hc]

theorem dropTail_eq_self {p : Char → Bool} {s : Text} (h : ∀ c ∈ s, p c = false) :
    dropTail p s = s := by
  induction s with
  | nil => rfl
  | cons c s ih =>
      rw [dropTail, ih fun d hd => h d (List.mem_cons_of_mem _ hd)]
      cases s <;> simp [h c (by simp)]

theorem dropTail_append {p : Char → Bool} {s t : Text} (h : dropTail p t ≠ []) :
    dropTail p (s ++ t) = s ++ dropTail p t := by
  induction s with
  | nil => rfl
  | cons c s ih =>
      rw [List.cons_append, dropTail, ih, List.cons_append]
      cases hs : s ++ dropTail p t with
      | nil => exact absurd (List.append_eq_nil_iff.mp hs).2 h
      | cons d rest => rfl

theorem dropTail_append_of_all {p : Char → Bool} (s : Text) {t : Text} (h : ∀ c ∈ t, p c = true) :
    dropTail p (s ++ t) = dropTail p s := by
  have ht : dropTail p t = [] := by
    induction t with
    | nil => rfl
    | cons c t ih => simp [dropTail, ih fun d hd => h d (List.mem_cons_of_mem _ hd), h c (by simp)]
  induction s with
  | nil => simpa [dropTail] using ht
  | cons c s ih => rw [List.cons_append, dropTail, dropTail, ih]

-- A text that starts and ends with what is not white space is left as it is.
theorem trim_eq_self {c : Char} {s t : Text} (hc : isBlank c = false) (ht : t ≠ [])
    (hblank : ∀ d ∈ t, isBlank d = false) : trim (c :: (s ++ t)) = c :: (s ++ t) := by
  have hkept := dropTail_eq_self hblank
  have hne : dropTail isBlank t ≠ [] := by rwa [hkept]
  rw [trim, trimLeft_cons_of_not_blank hc, trimRight, ← List.cons_append, dropTail_append hne,
    hkept]

theorem trim_eq_self_of_forall {s : Text} (h : ∀ c ∈ s, isBlank c = false) : trim s = s := by
  cases s with
  | nil => rfl
  | cons c s =>
      rw [trim, trimLeft_cons_of_not_blank (h c (by simp)), trimRight, dropTail_eq_self h]

theorem trim_append_blank {s : Text} (hs : ∀ c ∈ s, isBlank c = false) {b : Char}
    (hb : isBlank b = true) : trim (s ++ [b]) = s := by
  cases s with
  | nil => simp [trim, trimLeft, trimRight, dropTail, hb]
  | cons c s =>
      rw [trim, List.cons_append, trimLeft_cons_of_not_blank (hs c (by simp)), trimRight,
        ← List.cons_append, dropTail_append_of_all _ (by simpa using hb), dropTail_eq_self hs]

theorem trim_blank_cons {b : Char} (hb : isBlank b = true) (s : Text) : trim (b :: s) = trim s := by
  simp [trim, trimLeft, hb]

theorem cutAtText_append {first : Char} {mark s rest : Text} (hs : first ∉ s) :
    cutAtText (first :: mark) (s ++ first :: (mark ++ rest)) = some (s, rest) := by
  have hmark : ∀ t, after? mark (mark ++ t) = some t := fun t => by
    induction mark with
    | nil => rfl
    | cons c mark ih => simpa [after?] using ih
  induction s with
  | nil => simp [cutAtText, after?, hmark]
  | cons c s ih =>
      simp only [List.mem_cons, not_or] at hs
      simp [cutAtText, after?, hs.1, ih hs.2]

theorem cutAtText_eq_none {first : Char} {mark s : Text} (hs : first ∉ s) :
    cutAtText (first :: mark) s = none := by
  induction s with
  | nil => rfl
  | cons c s ih =>
      simp only [List.mem_cons, not_or] at hs
      simp [cutAtText, after?, hs.1, ih hs.2]

theorem split_eq_singleton {sep : Char} {s : Text} (hs : sep ∉ s) : split sep s = [s] := by
  induction s with
  | nil => rfl
  | cons c s ih =>
      simp only [List.mem_cons, not_or] at hs
      simp [split, Ne.symm hs.1, ih hs.2]

end Text

end BraceTemplate

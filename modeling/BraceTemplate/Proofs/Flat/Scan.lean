import BraceTemplate.Proofs.Flat.Segment
import BraceTemplate.Proofs.Flat.Recognise

namespace BraceTemplate.Piece

variable {α : Type}

-- A recogniser that takes something off the text whenever it finds something.
def Consumes (find : Recogniser α) : Prop :=
  ∀ before s value after, find before s = some (value, after) → after.length < s.length

-- With such a recogniser fuel beyond the length of the text changes nothing.
theorem scanFrom_eq_of_le {find : Recogniser α} (hfind : Consumes find) (fuel more : Nat)
    (before : Option Char) (s : Text) (hf : s.length ≤ fuel) (hm : s.length ≤ more) :
    scanFrom find fuel before s = scanFrom find more before s := by
  induction fuel generalizing more before s with
  | zero =>
      have hs : s = [] := List.length_eq_zero_iff.mp (Nat.le_zero.mp hf)
      subst hs
      cases more <;> rfl
  | succ fuel ih =>
      cases s with
      | nil => cases more <;> rfl
      | cons c rest =>
          cases more with
          | zero => simp at hm
          | succ more =>
              simp only [List.length_cons, Nat.add_le_add_iff_right] at hf hm
              simp only [scanFrom]
              cases h : find before (c :: rest) with
              | none => simp only [ih more (some c) rest hf hm]
              | some found =>
                  obtain ⟨value, after⟩ := found
                  have ha := hfind _ _ _ _ h
                  simp only [List.length_cons] at ha
                  simp only [ih more none after (by omega) (by omega)]

-- The pieces of a text that follows some character.
def cut (find : Recogniser α) (before : Option Char) (s : Text) : List (Piece α) :=
  scanFrom find s.length before s

theorem scan_eq_cut (find : Recogniser α) (s : Text) : scan find s = cut find none s := rfl

@[simp] theorem cut_nil (find : Recogniser α) (before : Option Char) : cut find before [] = [] := rfl

theorem cut_of_none {find : Recogniser α} {before : Option Char} {c : Char} {rest : Text}
    (h : find before (c :: rest) = none) :
    cut find before (c :: rest) = .char c :: cut find (some c) rest := by
  simp [cut, scanFrom, h]

theorem cut_of_some {find : Recogniser α} (hfind : Consumes find) {before : Option Char} {s after : Text}
    {value : α} (h : find before s = some (value, after)) :
    cut find before s = .hit value :: cut find none after := by
  have ha := hfind _ _ _ _ h
  cases s with
  | nil => simp at ha
  | cons c rest =>
      simp only [List.length_cons] at ha
      simp only [cut, List.length_cons, scanFrom, h]
      rw [scanFrom_eq_of_le hfind rest.length after.length none after (by omega) (Nat.le_refl _)]

-- What holds of the end of a text, and is kept by each character and by each part that is found, holds
-- of all the pieces.
theorem cut_induction {find : Recogniser α} (hfind : Consumes find)
    {motive : Option Char → Text → List (Piece α) → Prop} (nil : ∀ before, motive before [] [])
    (char : ∀ before c rest, find before (c :: rest) = none →
      motive (some c) rest (cut find (some c) rest) →
      motive before (c :: rest) (.char c :: cut find (some c) rest))
    (hit : ∀ before s value after, find before s = some (value, after) →
      motive none after (cut find none after) →
      motive before s (.hit value :: cut find none after))
    (before : Option Char) (s : Text) : motive before s (cut find before s) := by
  induction hlen : s.length using Nat.strong_induction_on generalizing before s with
  | _ n ih =>
      cases s with
      | nil => exact nil before
      | cons c rest =>
          cases hf : find before (c :: rest) with
          | none =>
              rw [cut_of_none hf]
              exact char before c rest hf (ih rest.length (by simp [← hlen]) (some c) rest rfl)
          | some found =>
              obtain ⟨value, after⟩ := found
              rw [cut_of_some hfind hf]
              exact hit before _ value after hf (ih _ (hlen ▸ hfind _ _ _ _ hf) none after rfl)

-- The character before the rest of a text.
theorem getLast?_cons_or (c : Char) (s : Text) (before : Option Char) :
    (c :: s).getLast?.or before = s.getLast?.or (some c) := by
  cases s <;> simp [List.getLast?_cons]

-- A stretch of text in which nothing is found, whatever follows it.
theorem cut_append_of_none {find : Recogniser α} (s rest : Text) (before : Option Char)
    (h : ∀ a c b, s = a ++ c :: b → ∀ before, find before (c :: (b ++ rest)) = none) :
    cut find before (s ++ rest) = s.map .char ++ cut find (s.getLast?.or before) rest := by
  induction s generalizing before with
  | nil => rfl
  | cons c s ih =>
      have hc := h [] c s rfl before
      have ih := ih (some c) fun a d b he => h (c :: a) d b (by simp [he])
      rw [List.cons_append, cut_of_none hc, ih, getLast?_cons_or]
      rfl

end BraceTemplate.Piece

namespace BraceTemplate.Tag

open Text Segment Piece

variable {α : Type}

-- What is read in the groups of a text, and the characters around.
def piecesOf (read : Text → Option α) : List Segment → List (Piece α)
  | [] => []
  | .char c :: rest => .char c :: piecesOf read rest
  | .group body :: rest =>
    match read body with
    | some value => .hit value :: piecesOf read rest
    | none => (Segment.group body).spell.map .char ++ piecesOf read rest

theorem hit_mem_piecesOf_iff {read : Text → Option α} {segments : List Segment} {value : α} :
    .hit value ∈ piecesOf read segments ↔
      ∃ body, .group body ∈ segments ∧ read body = some value := by
  induction segments with
  | nil => simp [piecesOf]
  | cons segment segments ih =>
      cases segment with
      | char c => simpa [piecesOf] using ih
      | group body =>
          cases hr : read body with
          | none => simpa [piecesOf, hr] using ih
          | some found => simp [piecesOf, hr, ih, eq_comm]

theorem Grouped.consumes {find : Recogniser α} {read : Text → Option α} (h : Grouped find read) :
    Consumes find := by
  intro before s value after hf
  obtain ⟨body, -, rfl, -⟩ := h.exists_group hf
  simp only [List.length_cons, List.length_append]
  omega

-- Nothing is found in characters other than the opening brace.
theorem Grouped.scanFrom_append {find : Recogniser α} {read : Text → Option α}
    (h : Grouped find read) {s rest : Text} {pieces : List (Piece α)}
    (hs : ∀ c ∈ s, c ≠ '\x7b')
    (hrest : ∀ fuel before, rest.length ≤ fuel → scanFrom find fuel before rest = pieces)
    (fuel : Nat) (before : Option Char) (hf : (s ++ rest).length ≤ fuel) :
    scanFrom find fuel before (s ++ rest) = s.map .char ++ pieces := by
  induction s generalizing fuel before with
  | nil => exact hrest fuel before hf
  | cons c s ih =>
      cases fuel with
      | zero => simp at hf
      | succ fuel =>
          have hc := h.outside before c (s ++ rest) (hs c (by simp))
          have ih := ih (fun d hd => hs d (List.mem_cons_of_mem _ hd)) fuel (some c)
            (by simpa using hf)
          simp [scanFrom, hc, ih]

theorem Grouped.scanFrom_spellAll {find : Recogniser α} {read : Text → Option α}
    (h : Grouped find read) {segments : List Segment} (hs : SoundAll segments) (fuel : Nat)
    (before : Option Char) (hf : (spellAll segments).length ≤ fuel) :
    scanFrom find fuel before (spellAll segments) = piecesOf read segments := by
  induction segments generalizing fuel before with
  | nil => cases fuel <;> rfl
  | cons segment segments ih =>
      obtain ⟨hsegment, hsegments⟩ := (soundAll_cons _ _).mp hs
      have ih := fun fuel before => ih hsegments fuel before
      cases segment with
      | char c =>
          have hc : ∀ d ∈ [c], d ≠ '\x7b' := by
            simpa using ((isBrace_eq_false_iff c).mp hsegment).1
          simpa [spell, piecesOf] using
            h.scanFrom_append hc ih fuel before (by simpa [spell] using hf)
      | group body =>
          have hb : BraceFree body := hsegment
          simp only [spellAll_cons, spell, List.cons_append, List.append_assoc,
            List.nil_append, List.length_cons] at hf ⊢
          cases fuel with
          | zero => simp at hf
          | succ fuel =>
              have hf : (body ++ '\x7d' :: spellAll segments).length ≤ fuel := by omega
              simp only [scanFrom, h.inside before body _ hb]
              cases hr : read body with
              | some value =>
                  have hlen : (spellAll segments).length ≤ fuel := by
                    simp only [List.length_append, List.length_cons] at hf
                    omega
                  simp [piecesOf, hr, ih fuel none hlen]
              | none =>
                  have hclosed : ∀ d ∈ body ++ ['\x7d'], d ≠ '\x7b' := by
                    intro d hd
                    rcases List.mem_append.mp hd with hd | hd
                    · exact ((isBrace_eq_false_iff d).mp (hb d hd)).1
                    · rw [List.mem_singleton.mp hd]; decide
                  have := h.scanFrom_append hclosed ih fuel (some '\x7b') (by simpa using hf)
                  simpa [piecesOf, hr, spell] using this

theorem Grouped.scan_spellAll {find : Recogniser α} {read : Text → Option α}
    (h : Grouped find read) {segments : List Segment} (hs : SoundAll segments) :
    scan find (spellAll segments) = piecesOf read segments :=
  h.scanFrom_spellAll hs _ none (Nat.le_refl _)

end BraceTemplate.Tag

import BraceTemplate.Proofs.Tree.Compile

namespace BraceTemplate

namespace Host.Token

theorem isNameChar_of_namePart {c : Char} (h : isNamePart c = true) : isNameChar c = true := by
  simp only [isNameChar, isWordChar, toNat_lt_of_namePart h, if_true, Bool.or_eq_true]
  exact Or.inl (by simpa [isNamePart] using h)

theorem isIdentifier_of_name {x : Text} (h : isName x = true) : isIdentifier x = true := by
  obtain ⟨c, rest, rfl, hc, hpart⟩ := isName_iff.mp h
  have hrest : ∀ d ∈ rest, isIdentifierPart d = true := fun d hd => by
    have hd := hpart d (List.mem_cons_of_mem _ hd)
    simpa [isIdentifierPart, toNat_lt_of_namePart hd, isNamePart] using hd
  simp only [isIdentifier, isIdentifierStart, toNat_lt_of_namePart (hpart c (by simp)), if_true,
    Bool.and_eq_true, List.all_eq_true]
  exact ⟨hc, hrest⟩

-- What a tag goes on with after a name.
def EndsName (s : Text) : Prop :=
  ∀ c ∈ s.head?, isNameChar c = false

theorem startsDigit_of_nameStart {c : Char} (hc : Sigil.isNameStart c = true) (s : Text) :
    startsDigit (c :: s) = false := by
  have h := (isNameStart_iff c).mp hc
  have hlt := toNat_lt_of_namePart (isNamePart_of_start hc)
  have hdigit : ¬ (48 ≤ c.toNat ∧ c.toNat < 58) := by omega
  simp [startsDigit, isDecimalDigit, digitValue?, hlt, hdigit]

theorem int?_of_nameStart {c : Char} (hc : Sigil.isNameStart c = true) (s : Text) :
    int? (c :: s) = none := by
  have h := (isNameStart_iff c).mp hc
  have hzero : c ≠ '0' := by
    rintro rfl
    simp at h
  have hnine : ¬ ('1' ≤ c ∧ c ≤ '9') := by
    rintro ⟨-, hle⟩
    have : c.toNat ≤ 57 := hle
    omega
  unfold int?
  split <;> simp_all

theorem next_name {x : Text} (hx : isName x = true) {s : Text} (hs : EndsName s)
    (afterPoint : Bool) : next afterPoint (x ++ s) = .ok (.name x, s) := by
  have hid := isIdentifier_of_name hx
  obtain ⟨c, rest, rfl, hc, hpart⟩ := isName_iff.mp hx
  have hall : ∀ d ∈ c :: rest, isNameChar d = true := fun d hd => isNameChar_of_namePart (hpart d hd)
  have hend : s.takeWhile isNameChar = [] ∧ s.dropWhile isNameChar = s := by
    cases s with
    | nil => exact ⟨rfl, rfl⟩
    | cons d s => simp [hs d (by simp)]
  have htake : (c :: rest ++ s).takeWhile isNameChar = c :: rest := by
    rw [List.takeWhile_append_of_pos hall, hend.1, List.append_nil]
  have hdrop : (c :: rest ++ s).dropWhile isNameChar = s := by
    rw [List.dropWhile_append_of_pos hall, hend.2]
  have hfloat : float? afterPoint (c :: rest ++ s) = none := by
    simp [float?, startsDigit_of_nameStart hc]
  have hint : int? (c :: rest ++ s) = none := int?_of_nameStart hc _
  simp only [next, hfloat, hint, htake, hdrop, hid, if_true]

-- What a text outside of tags, and one inside of a tag, is read as when there is fuel enough.
def ReadsAs (s : Text) (ks : List TokenKind) : Prop :=
  ∀ fuel, 2 * s.length + 2 ≤ fuel → (ofData fuel s).map (·.kind) = ks

def ReadsInTag (statement : Bool) (brackets : List Mark) (s : Text) (ks : List TokenKind) : Prop :=
  ∀ fuel afterPoint, 2 * s.length + 1 ≤ fuel →
    (ofTag fuel statement brackets afterPoint s).map (·.kind) = ks

theorem ReadsAs.scan {s : Text} {ks : List TokenKind} (h : ReadsAs s ks) :
    (scan s).map (·.kind) = ks :=
  h _ (Nat.le_refl _)

section Numbers

variable {ds s : Text} {c : Char}

theorem takeDigits_append (hds : ∀ d ∈ ds, d.isDigit = true) (hc : isDecimalDigit c = false)
    (hline : c ≠ '_') : takeDigits (ds ++ c :: s) = (ds, c :: s) := by
  induction ds with
  | nil => simp [takeDigits, hc, hline]
  | cons d rest ih =>
      have hd : isDecimalDigit d = true := isDecimalDigit_of_isDigit (hds d List.mem_cons_self)
      rw [List.cons_append, takeDigits.eq_def]
      simp only [if_pos hd, ih fun e he => hds e (List.mem_cons_of_mem _ he)]

theorem takeBase_append (hds : ∀ d ∈ ds, d.isDigit = true) (hc : isDecimalDigit c = false)
    (hline : c ≠ '_') : takeBase isDecimalDigit (ds ++ c :: s) = (ds, c :: s) := by
  induction ds with
  | nil => simp [takeBase, hc, hline]
  | cons d rest ih =>
      have hd : isDecimalDigit d = true := isDecimalDigit_of_isDigit (hds d List.mem_cons_self)
      rw [List.cons_append, takeBase.eq_def]
      simp only [if_pos hd, ih fun e he => hds e (List.mem_cons_of_mem _ he)]

-- What may stand behind a numeral: a blank, or what closes brackets.
def endsNumber (c : Char) : Bool :=
  c == ' ' || c == ')' || c == ']'

theorem endsNumber_iff : endsNumber c = true ↔ c = ' ' ∨ c = ')' ∨ c = ']' := by
  simp [endsNumber, or_assoc]

-- Such a numeral is no part of a fraction.
theorem float?_natText (n : Nat) (hc : endsNumber c = true) (s : Text) (afterPoint : Bool) :
    float? afterPoint (natText n ++ c :: s) = none := by
  have hend : isDecimalDigit c = false ∧ c ≠ '_' := by
    rcases endsNumber_iff.mp hc with rfl | rfl | rfl <;> decide
  have hnone : takeFraction (c :: s) = none ∧ takeExponent (c :: s) = none := by
    rcases endsNumber_iff.mp hc with rfl | rfl | rfl <;> exact ⟨rfl, rfl⟩
  simp only [float?, takeDigits_append (fun d hd => isDigit_of_mem_natText hd) hend.1 hend.2, hnone.1,
    hnone.2, ite_self]

theorem int?_natText (n : Nat) (hc : endsNumber c = true) (s : Text) :
    int? (natText n ++ c :: s) =
      some (if maxNumeralLength < (natText n).length then none else some n, c :: s) := by
  have hend : isDecimalDigit c = false ∧ c ≠ '_' := by
    rcases endsNumber_iff.mp hc with rfl | rfl | rfl <;> decide
  rcases natText_cases n with h | ⟨d, rest, h, hd⟩
  · have hzero : some 0 = some n := by rw [← readDigits?_natText n, h]; rfl
    rw [h, ← hzero]
    rcases endsNumber_iff.mp hc with rfl | rfl | rfl <;> rfl
  · have hne : d ≠ '0' := by
      rintro rfl
      exact absurd hd.1 (by decide)
    have hdigits : ∀ d ∈ natText n, d.isDigit = true := fun d hd => isDigit_of_mem_natText hd
    have hbase := takeBase_append (s := s) hdigits hend.1 hend.2
    rw [h] at hbase ⊢
    rw [List.cons_append] at hbase ⊢
    unfold int?
    split
    · next heq => exact absurd (List.cons.inj heq).1 hne
    · next heq => exact absurd (List.cons.inj heq).1 hne
    · next heq =>
        obtain ⟨rfl, -⟩ := List.cons.inj heq
        have hread : readDigits? (d :: rest) = some n := h ▸ readDigits?_natText n
        simp only [if_pos hd, hbase, hread]
    · next heq => exact absurd heq (List.cons_ne_nil _ _)

theorem next_number {n : Nat} (hn : (natText n).length ≤ maxNumeralLength) (hc : endsNumber c = true)
    (s : Text) (afterPoint : Bool) :
    next afterPoint (natText n ++ c :: s) = .ok (.int n, c :: s) := by
  simp only [next, float?_natText n hc s afterPoint, int?_natText n hc s, if_neg (Nat.not_lt.mpr hn)]

theorem next_long {n : Nat} (hn : maxNumeralLength < (natText n).length) (hc : endsNumber c = true)
    (s : Text) (afterPoint : Bool) :
    next afterPoint (natText n ++ c :: s) = .error .wrongValue := by
  simp only [next, float?_natText n hc s afterPoint, int?_natText n hc s, if_pos hn]

end Numbers

-- What can end a statement, and what an output.
def endsTag (statement : Bool) (c : Char) : Bool :=
  c == '-' || if statement then c == '+' || c == '?' else c == '='

theorem tagEnd_of_ne {statement : Bool} {c : Char} (hc : endsTag statement c = false) (s : Text) :
    (if statement then statementEnd? (c :: s) else outputEnd? (c :: s)) = none := by
  cases statement with
  | true =>
      simp only [endsTag, if_true, Bool.or_eq_false_iff, beq_eq_false_iff_ne] at hc
      have hclose : Text.after? statementClose (c :: s) = none := by
        simp [statementClose, Text.after?, Ne.symm hc.2.2]
      rw [if_pos rfl]
      unfold statementEnd?
      split <;> simp_all
  | false =>
      simp only [endsTag, Bool.false_eq_true, if_false, Bool.or_eq_false_iff,
        beq_eq_false_iff_ne] at hc
      have hclose : Text.after? outputClose (c :: s) = none := by
        simp [outputClose, Text.after?, Ne.symm hc.2]
      rw [if_neg Bool.false_ne_true]
      unfold outputEnd?
      split <;> simp_all

section Lexemes

open Lexeme

variable {statement : Bool} {brackets : List Mark} {ks : List TokenKind} {s : Text}

-- A part of a tag that starts with what neither ends the tag nor is blank.
theorem readsInTag_part {c : Char} {t : Text} {k : TokenKind} {left : List Mark}
    (hend : endsTag statement c = false) (hblank : isBlank c = false)
    (hnext : ∀ afterPoint, next afterPoint (c :: t ++ s) = .ok (k, s))
    (hk : (∃ m, k = .mark m ∧ balance brackets m = some left) ∨ (∀ m, k ≠ .mark m) ∧ left = brackets)
    (h : ReadsInTag statement left s ks) : ReadsInTag statement brackets (c :: t ++ s) (k :: ks) := by
  intro fuel afterPoint hfuel
  rw [List.length_append, List.length_cons] at hfuel
  obtain ⟨fuel, rfl⟩ : ∃ n, fuel = n + 1 := ⟨fuel - 1, by omega⟩
  have hnext := hnext afterPoint
  rw [List.cons_append] at hnext ⊢
  simp only [ofTag, tagEnd_of_ne hend, ite_self, hblank, Bool.false_eq_true, if_false, hnext]
  rcases hk with ⟨m, rfl, hm⟩ | ⟨hno, rfl⟩
  · simp only [hm, List.map_cons]
    rw [h fuel _ (by omega)]
  · cases k with
    | mark m => exact absurd rfl (hno m)
    | _ => simp only [List.map_cons]; rw [h fuel _ (by omega)]

theorem readsInTag_blank (h : ReadsInTag statement brackets s ks) :
    ReadsInTag statement brackets (' ' :: s) ks := by
  intro fuel afterPoint hfuel
  rw [List.length_cons] at hfuel
  obtain ⟨fuel, rfl⟩ : ∃ n, fuel = n + 1 := ⟨fuel - 1, by omega⟩
  have hend : endsTag statement ' ' = false := by cases statement <;> decide
  have hblank : isBlank ' ' = true := by decide
  simp only [ofTag, tagEnd_of_ne hend, ite_self, hblank, if_true]
  exact h fuel _ (by omega)

theorem endsTag_of_namePart {c : Char} (hc : isNamePart c = true) : endsTag statement c = false := by
  by_contra h
  cases statement <;>
    simp only [endsTag, Bool.not_eq_false, Bool.or_eq_true, beq_iff_eq, Bool.false_eq_true, if_true,
      if_false] at h
  · rcases h with rfl | rfl <;> exact absurd hc (by decide)
  · rcases h with rfl | rfl | rfl <;> exact absurd hc (by decide)

theorem readsInTag_name {x : Text} (hx : isName x = true) (hs : EndsName s)
    (h : ReadsInTag statement brackets s ks) :
    ReadsInTag statement brackets (x ++ s) (.name x :: ks) := by
  have hnext := next_name hx hs
  obtain ⟨c, rest, rfl, hc, hpart⟩ := isName_iff.mp hx
  exact readsInTag_part (endsTag_of_namePart (hpart c (by simp)))
    (not_isBlank_of_namePart (hpart c (by simp))) hnext (.inr ⟨by simp, rfl⟩) h

theorem exists_natText (n : Nat) : ∃ d rest, natText n = d :: rest ∧ isNamePart d = true := by
  obtain ⟨d, rest, hn, hd⟩ := exists_cons_natText n
  exact ⟨d, rest, hn, by simp [isNamePart_eq, hd]⟩

theorem readsInTag_number {n : Nat} (hn : (natText n).length ≤ maxNumeralLength) {c : Char}
    (hc : endsNumber c = true) (h : ReadsInTag statement brackets (c :: s) ks) :
    ReadsInTag statement brackets (natText n ++ c :: s) (.int n :: ks) := by
  have hnext := next_number hn hc s
  obtain ⟨d, rest, hd, hpart⟩ := exists_natText n
  rw [hd] at hnext ⊢
  exact readsInTag_part (endsTag_of_namePart hpart) (not_isBlank_of_namePart hpart) hnext
    (.inr ⟨by simp, rfl⟩) h

-- Nothing is read on behind a number that is too long.
theorem readsInTag_long {n : Nat} (hn : maxNumeralLength < (natText n).length) {c : Char}
    (hc : endsNumber c = true) :
    ReadsInTag statement brackets (natText n ++ c :: s) [.fault .wrongValue] := by
  intro fuel afterPoint hfuel
  obtain ⟨fuel, rfl⟩ : ∃ n, fuel = n + 1 := ⟨fuel - 1, by omega⟩
  have hnext := next_long hn hc s afterPoint
  obtain ⟨d, rest, hd, hpart⟩ := exists_natText n
  rw [hd, List.cons_append] at hnext ⊢
  simp only [ofTag, tagEnd_of_ne (endsTag_of_namePart hpart), ite_self, not_isBlank_of_namePart hpart,
    Bool.false_eq_true, if_false, hnext]
  rfl

-- A sign for equality could end an output.
def isEquals : Lexeme → Bool
  | .mark .assign => true
  | .mark .eq => true
  | _ => false

-- One sign for equality behind another would be read together with it.
theorem readsInTag_mark {m : Mark} (hm : m.isInTags = true)
    (hstatement : statement = true ∨ isEquals (.mark m) = false)
    (hs : m = .assign → s.head? ≠ some '=') {left : List Mark} (hleft : balance brackets m = some left)
    (h : ReadsInTag statement left s ks) :
    ReadsInTag statement brackets (m.spelling ++ s) (.mark m :: ks) := by
  obtain ⟨c, t, hspell, hend, hblank, hnext⟩ : ∃ c t, m.spelling = c :: t ∧
      endsTag statement c = false ∧ isBlank c = false ∧
        ∀ afterPoint, next afterPoint (c :: t ++ s) = .ok (.mark m, s) := by
    cases m
    case assign =>
      obtain rfl : statement = true := by simpa [isEquals] using hstatement
      refine ⟨_, _, rfl, by decide, by decide, fun afterPoint => ?_⟩
      have hmark : mark? ('=' :: s) = some (.assign, s) := by
        cases s with
        | nil => rfl
        | cons d s =>
            have hd : d ≠ '=' := by simpa using hs rfl
            simp [mark?, hd]
      have hfloat : float? afterPoint ('=' :: s) = none := by cases afterPoint <;> rfl
      have hint : int? ('=' :: s) = none := rfl
      have hname : ('=' :: s).takeWhile isNameChar = [] := rfl
      simp only [List.singleton_append, next, hfloat, hint, hname, hmark]
      rfl
    case eq =>
      obtain rfl : statement = true := by simpa [isEquals] using hstatement
      exact ⟨_, _, rfl, by decide, by decide, fun afterPoint => by cases afterPoint <;> rfl⟩
    all_goals first
      | exact absurd hm Bool.false_ne_true
      | exact ⟨_, _, rfl, by cases statement <;> decide, by decide,
          fun afterPoint => by cases afterPoint <;> rfl⟩
  rw [hspell]
  exact readsInTag_part hend hblank hnext (.inl ⟨m, rfl, hleft⟩) h

-- Lexemes that are still read one by one when nothing stands between them.
def mayTouch : Lexeme → Lexeme → Bool
  | .name _, .name _ => false
  | .name _, .number _ => false
  | .number _, .blank => true
  | .number _, .mark .rightParen => true
  | .number _, _ => false
  | .mark .assign, l => !isEquals l
  | _, _ => true

def spaced : List Lexeme → Bool
  | l :: l' :: rest => mayTouch l l' && spaced (l' :: rest)
  | _ => true

-- The brackets that are open behind some lexemes.
def bracketsAfter : List Mark → List Lexeme → Option (List Mark)
  | brackets, [] => some brackets
  | brackets, l :: rest =>
    match l.kind? with
    | some (.mark m) => (balance brackets m).bind (bracketsAfter · rest)
    | _ => bracketsAfter brackets rest

theorem spaced_tail {l : Lexeme} {ls : List Lexeme} (h : spaced (l :: ls) = true) :
    spaced ls = true := by
  cases ls with
  | nil => rfl
  | cons l' ls =>
      simp only [spaced, Bool.and_eq_true] at h
      exact h.2

theorem endsName_of_spaced {x : Text} {ls : List Lexeme} (hsound : ls.all isSound = true)
    (h : spaced (.name x :: ls) = true) : EndsName (spellAll ls ++ ' ' :: s) := by
  cases ls with
  | nil => simp only [EndsName, spellAll, List.flatMap_nil, List.nil_append, List.head?_cons,
      Option.mem_def, Option.some.injEq, forall_eq']; decide
  | cons l ls =>
      simp only [List.all_cons, Bool.and_eq_true] at hsound
      cases l with
      | blank => simp only [EndsName, spellAll, List.flatMap_cons, spell, List.cons_append,
          List.head?_cons, Option.mem_def, Option.some.injEq, forall_eq']; decide
      | name y => simp [spaced, mayTouch] at h
      | number n => simp [spaced, mayTouch] at h
      | mark m =>
          have hm := hsound.1
          cases m <;> first
            | exact absurd hm Bool.false_ne_true
            | simp only [EndsName, spellAll, List.flatMap_cons, spell, Mark.spelling,
                List.cons_append, List.nil_append, List.head?_cons, Option.mem_def,
                Option.some.injEq, forall_eq']; decide

theorem exists_of_spaced {n : Nat} {ls : List Lexeme} (h : spaced (.number n :: ls) = true) :
    ∃ c t, spellAll ls ++ ' ' :: s = c :: t ∧ endsNumber c = true := by
  cases ls with
  | nil => exact ⟨_, _, rfl, rfl⟩
  | cons l ls =>
      simp only [spaced, Bool.and_eq_true] at h
      cases l with
      | blank => exact ⟨_, _, rfl, rfl⟩
      | mark m =>
          cases m <;> first
            | exact absurd h.1 Bool.false_ne_true
            | exact ⟨_, _, rfl, rfl⟩
      | _ => exact absurd h.1 Bool.false_ne_true

theorem head?_ne_of_spaced {ls : List Lexeme} (hsound : ls.all isSound = true)
    (h : spaced (.mark .assign :: ls) = true) : (spellAll ls ++ ' ' :: s).head? ≠ some '=' := by
  cases ls with
  | nil => simp [spellAll]
  | cons l ls =>
      simp only [List.all_cons, Bool.and_eq_true] at hsound
      simp only [spaced, mayTouch, Bool.and_eq_true, Bool.not_eq_true'] at h
      cases l with
      | blank => simp [spellAll, spell]
      | name y =>
          obtain ⟨c, rest, rfl, hc, -⟩ := isName_iff.mp hsound.1
          have hne : c ≠ '=' := by
            rintro rfl
            exact absurd hc (by decide)
          simpa [spellAll, spell] using hne
      | number n =>
          obtain ⟨d, rest, hd⟩ : ∃ d rest, natText n = d :: rest := by
            rcases natText_cases n with h | ⟨d, rest, h, -⟩
            exacts [⟨_, _, h⟩, ⟨_, _, h⟩]
          have hdigit : d.isDigit = true := isDigit_of_mem_natText (n := n) (by simp [hd])
          have hne : d ≠ '=' := by
            rintro rfl
            exact absurd hdigit (by decide)
          simpa [spellAll, spell, hd] using hne
      | mark m =>
          have hm := hsound.1
          cases m <;> first
            | exact absurd hm Bool.false_ne_true
            | exact absurd h.1 (by decide)
            | simp [spellAll, spell]

-- Lexemes are read one after the other.
theorem readsInTag_lexemes {ls : List Lexeme} {left : List Mark} (hsound : ls.all isSound = true)
    (hshort : ls.all isShort = true) (hspaced : spaced ls = true)
    (hfits : statement = true ∨ ls.all (!isEquals ·) = true) (hbrackets : bracketsAfter brackets ls = some left)
    (h : ReadsInTag statement left (' ' :: s) ks) :
    ReadsInTag statement brackets (spellAll ls ++ ' ' :: s) (kinds ls ++ ks) := by
  induction ls generalizing brackets with
  | nil =>
      obtain rfl : brackets = left := by simpa [bracketsAfter] using hbrackets
      exact h
  | cons l ls ih =>
      simp only [List.all_cons, Bool.and_eq_true] at hsound hshort
      have hfits' : (statement = true ∨ isEquals l = false) ∧
          (statement = true ∨ ls.all (!isEquals ·) = true) := by
        simpa only [List.all_cons, Bool.and_eq_true, Bool.not_eq_true', or_and_left] using hfits
      have ih : ∀ {brackets}, bracketsAfter brackets ls = some left →
          ReadsInTag statement brackets (spellAll ls ++ ' ' :: s) (kinds ls ++ ks) :=
        ih hsound.2 hshort.2 (spaced_tail hspaced) hfits'.2
      cases l with
      | blank => exact readsInTag_blank (ih hbrackets)
      | name x =>
          have hrest := readsInTag_name hsound.1 (endsName_of_spaced hsound.2 hspaced) (ih hbrackets)
          simpa [spellAll, spell, kinds, kind?] using hrest
      | number n =>
          obtain ⟨c, t, ht, hc⟩ := exists_of_spaced (s := s) hspaced
          have hrest := readsInTag_number (of_decide_eq_true hshort.1) hc (ht ▸ ih hbrackets)
          rw [← ht] at hrest
          simpa [spellAll, spell, kinds, kind?] using hrest
      | mark m =>
          obtain ⟨inner, hm, hinner⟩ := Option.bind_eq_some_iff.mp hbrackets
          have hs : m = .assign → (spellAll ls ++ ' ' :: s).head? ≠ some '=' := by
            rintro rfl
            exact head?_ne_of_spaced hsound.2 hspaced
          have hrest := readsInTag_mark hsound.1 hfits'.1 hs hm (ih hinner)
          simpa [spellAll, spell, kinds, kind?] using hrest

end Lexemes

section Openings

variable {before t : Text} {ks : List TokenKind}

theorem map_dataToken (s ahead : Text) : (dataToken s ahead).map (·.kind) = dataKinds s := by
  unfold dataToken dataKinds
  split <;> rfl

-- A text in which no tag of the host begins, whatever stands behind it.
def Untagged (before : Text) : Prop :=
  ∀ t, cutAtOpening (before ++ t) = (before ++ (cutAtOpening t).1, (cutAtOpening t).2)

theorem untagged_of_not_mem (hb : '<' ∉ before) : Untagged before := by
  intro t
  induction before with
  | nil => rfl
  | cons c before ih =>
      simp only [List.mem_cons, not_or] at hb
      have hnone : opening? (c :: (before ++ t)) = none := by
        simp [opening?, statementOpen, commentOpen, outputOpen, Text.after?, hb.1]
      rw [List.cons_append, cutAtOpening, hnone, ih hb.2]
      rfl

-- A tag behind text without tags in it.
theorem readsAs_statement (hb : '<' ∉ before) (hraw : rawStart? (' ' :: t) = none)
    (h : ReadsInTag true [] (' ' :: t) ks) :
    ReadsAs (before ++ (statementOpen ++ ' ' :: t)) (dataKinds before ++ .openStatement :: ks) := by
  intro fuel hfuel
  simp only [List.length_append, List.length_cons] at hfuel
  obtain ⟨fuel, rfl⟩ : ∃ n, fuel = n + 1 := ⟨fuel - 1, by omega⟩
  have hopen : opening? (statementOpen ++ ' ' :: t) = some (.statement, none, ' ' :: t) := by
    simp [opening?, statementOpen, Text.after?, sign, hraw]
  have hcut : cutAtOpening (statementOpen ++ ' ' :: t) = ([], some (.statement, none, ' ' :: t)) := by
    change cutAtOpening ('<' :: '?' :: 'p' :: 'y' :: ' ' :: t) = _
    change opening? ('<' :: '?' :: 'p' :: 'y' :: ' ' :: t) = _ at hopen
    rw [cutAtOpening, hopen]
  rw [ofData, untagged_of_not_mem hb, hcut]
  simp only [List.append_nil, List.map_append, List.map_cons]
  rw [if_neg (by decide), map_dataToken, h fuel _ (by simp; omega)]

theorem readsAs_output (hb : Untagged before) (h : ReadsInTag false [] (' ' :: t) ks) :
    ReadsAs (before ++ (outputOpen ++ ' ' :: t)) (dataKinds before ++ .openOutput :: ks) := by
  intro fuel hfuel
  simp only [List.length_append, List.length_cons] at hfuel
  obtain ⟨fuel, rfl⟩ : ∃ n, fuel = n + 1 := ⟨fuel - 1, by omega⟩
  have hopen : opening? (outputOpen ++ ' ' :: t) = some (.output, none, ' ' :: t) := by
    simp [opening?, statementOpen, commentOpen, outputOpen, Text.after?, sign]
  have hcut : cutAtOpening (outputOpen ++ ' ' :: t) = ([], some (.output, none, ' ' :: t)) := by
    change cutAtOpening ('<' :: '?' :: '=' :: ' ' :: t) = _
    change opening? ('<' :: '?' :: '=' :: ' ' :: t) = _ at hopen
    rw [cutAtOpening, hopen]
  rw [ofData, hb, hcut]
  simp only [List.append_nil, List.map_append, List.map_cons]
  rw [if_neg (by decide), map_dataToken, h fuel _ (by simp; omega)]

theorem readsAs_text (hb : Untagged before) : ReadsAs before (dataKinds before) := by
  intro fuel hfuel
  obtain ⟨fuel, rfl⟩ : ∃ n, fuel = n + 1 := ⟨fuel - 1, by omega⟩
  have hcut := hb []
  simp only [List.append_nil, cutAtOpening] at hcut
  rw [ofData, hcut]
  exact map_dataToken before before

theorem readsInTag_statementEnd (h : ReadsAs t ks) :
    ReadsInTag true [] (statementClose ++ t) (.closeStatement :: ks) := by
  intro fuel afterPoint hfuel
  simp only [List.length_append] at hfuel
  obtain ⟨fuel, rfl⟩ : ∃ n, fuel = n + 1 := ⟨fuel - 1, by omega⟩
  have hend : statementEnd? ('?' :: '>' :: t) = some t := by
    simp [statementEnd?, statementClose, Text.after?]
  change (ofTag (fuel + 1) true [] afterPoint ('?' :: '>' :: t)).map (·.kind) = _
  simp only [ofTag, List.isEmpty_nil, if_true, hend, List.map_cons]
  rw [h fuel (by simp [statementClose] at hfuel; omega)]

theorem readsInTag_outputEnd (h : ReadsAs t ks) :
    ReadsInTag false [] (outputClose ++ t) (.closeOutput :: ks) := by
  intro fuel afterPoint hfuel
  simp only [List.length_append] at hfuel
  obtain ⟨fuel, rfl⟩ : ∃ n, fuel = n + 1 := ⟨fuel - 1, by omega⟩
  have hend : outputEnd? ('=' :: '?' :: '>' :: t) = some t := by
    simp [outputEnd?, outputClose, Text.after?]
  change (ofTag (fuel + 1) false [] afterPoint ('=' :: '?' :: '>' :: t)).map (·.kind) = _
  simp only [ofTag, List.isEmpty_nil, if_true, Bool.false_eq_true, if_false, hend, List.map_cons]
  rw [h fuel (by simp [outputClose] at hfuel; omega)]

-- What a text is read as behind any text without tags in it.
def Follows (t : Text) (ks : List TokenKind) : Prop :=
  ∀ before, '<' ∉ before → ReadsAs (before ++ t) (dataKinds before ++ ks)

theorem follows_nil : Follows [] [] := fun before hb => by
  simpa using readsAs_text (untagged_of_not_mem hb)

-- A tag that can be read whatever stands around it.
structure Clean (statement : Bool) (ls : List Lexeme) : Prop where
  sound : ls.all Lexeme.isSound = true
  short : ls.all Lexeme.isShort = true
  spaced : spaced ls = true
  closed : bracketsAfter [] ls = some []
  fits : statement = true ∨ ls.all (!isEquals ·) = true

-- No word that a statement starts with is taken for the start of a raw block.
theorem rawStart?_word {w : String} (hname : isName w.toList = true) (hw : w.toList.head? ≠ some 'r')
    (s : Text) : rawStart? (' ' :: (w.toList ++ s)) = none := by
  obtain ⟨c, rest, hc, -, hpart⟩ := isName_iff.mp hname
  have hblank : isBlank c = false := not_isBlank_of_namePart (hpart c (by simp [hc]))
  have hspace : isBlank ' ' = true := by decide
  have hne : 'r' ≠ c := by
    rintro rfl
    simp [hc] at hw
  simp [rawStart?, hc, Text.trimLeft, hspace, hblank, Text.after?, hne]

theorem follows_statement {w : String} {ls : List Lexeme} (hls : Clean true (Lexeme.word w :: ls))
    (hw : w.toList.head? ≠ some 'r') (h : ReadsAs t ks) :
    Follows (statementOf (Lexeme.word w :: ls) ++ t)
      (statementKinds (Lexeme.word w :: ls) ++ ks) := by
  intro before hb
  have hinner := readsInTag_lexemes hls.sound hls.short hls.spaced hls.fits hls.closed
    (readsInTag_blank (readsInTag_statementEnd h))
  have hname : isName w.toList = true := by
    have hsound := hls.sound
    simp only [List.all_cons, Bool.and_eq_true] at hsound
    exact hsound.1
  have hno : rawStart? (' ' :: (Lexeme.spellAll (Lexeme.word w :: ls) ++
      ' ' :: (statementClose ++ t))) = none := by
    simpa [Lexeme.spellAll, Lexeme.word, Lexeme.spell] using rawStart?_word hname hw _
  have hwhole := readsAs_statement hb hno (readsInTag_blank hinner)
  simpa [statementOf, statement, statementKinds] using hwhole

theorem readsAs_outputOf {ls : List Lexeme} (hls : Clean false ls) (hb : Untagged before)
    (h : ReadsAs t ks) :
    ReadsAs (before ++ (outputOf ls ++ t)) (dataKinds before ++ (outputKinds ls ++ ks)) := by
  have hinner := readsInTag_lexemes hls.sound hls.short hls.spaced hls.fits hls.closed
    (readsInTag_blank (readsInTag_outputEnd h))
  have hwhole := readsAs_output hb (readsInTag_blank hinner)
  simpa [outputOf, output, outputKinds] using hwhole

theorem follows_output {ls : List Lexeme} (hls : Clean false ls) (h : ReadsAs t ks) :
    Follows (outputOf ls ++ t) (outputKinds ls ++ ks) :=
  fun _ hb => readsAs_outputOf hls (untagged_of_not_mem hb) h

end Openings

section Clauses

open Lexeme

variable {x t : Text} {ks : List TokenKind}

theorem clean_test (hx : isVariable x = true) {w : String} (hw : isName w.toList = true) :
    Clean true (test w x) where
  sound := sound_test hx hw
  short := rfl
  spaced := rfl
  closed := rfl
  fits := .inl rfl

theorem clean_word {w : String} (hw : isName w.toList = true) : Clean true [word w] where
  sound := by simp [word, hw]
  short := rfl
  spaced := rfl
  closed := rfl
  fits := .inl rfl

theorem clean_filtered (hx : isVariable x = true) {w : String} (hw : isName w.toList = true) :
    Clean false (filtered x w) where
  sound := sound_filtered hx hw
  short := rfl
  spaced := rfl
  closed := rfl
  fits := .inr rfl

theorem clean_loop (hx : isVariable x = true) {binder : Binder} (hb : binder.isValid = true) :
    Clean true (loop x binder) where
  sound := sound_loop hx hb
  short := by cases binder <;> rfl
  spaced := by cases binder <;> rfl
  closed := by cases binder <;> rfl
  fits := .inl rfl

end Clauses

end Host.Token

open Host Token

mutual

-- The host text of a tree is read as its parts, whatever text without tags stands before it.
theorem Tree.readsAs_host (t : Tree) (ht : t.isValid = true) {before tail : Text}
    (hb : '<' ∉ before) {ks : List TokenKind} (htail : Follows tail ks) :
    ReadsAs (before ++ (t.host ++ tail)) (t.kinds before ++ ks) := by
  have hnil : '<' ∉ ([] : Text) := by simp
  cases t with
  | done => exact htail before hb
  | chunk s rest =>
      simp only [Tree.isValid, Bool.and_eq_true] at ht
      have hs : '<' ∉ before ++ s := by
        simpa using ⟨hb, Tag.not_mem_of_chunk ht.1 (by decide)⟩
      have h := rest.readsAs_host ht.2 hs htail
      simpa [Tree.host, Tree.kinds] using h
  | output x rest =>
      simp only [Tree.isValid, Bool.and_eq_true] at ht
      have hrest := rest.readsAs_host ht.2 hnil htail
      have h := follows_output (clean_filtered (w := "e") ht.1 (by decide)) hrest before hb
      simpa [Tree.host, Tree.kinds] using h
  | choose x body more rest =>
      simp only [Tree.isValid, Bool.and_eq_true] at ht
      obtain ⟨⟨⟨hx, hbody⟩, hmore⟩, hrest⟩ := ht
      have hend := follows_statement (clean_word (w := "endif") (by decide)) (by decide)
        (rest.readsAs_host hrest hnil htail)
      have hinner := body.readsAs_host hbody hnil (more.follows_host hmore hend)
      have h := follows_statement (clean_test (w := "if") hx (by decide)) (by decide) hinner before hb
      simpa [Tree.host, Tree.kinds, Lexeme.test] using h
  | each x binder body rest =>
      simp only [Tree.isValid, Bool.and_eq_true] at ht
      obtain ⟨⟨⟨hx, hb'⟩, hbody⟩, hrest⟩ := ht
      have hend := follows_statement (clean_word (w := "endfor") (by decide)) (by decide)
        (rest.readsAs_host hrest hnil htail)
      have hinner := body.readsAs_host hbody hnil hend
      have h := follows_statement (clean_loop hx hb') (by decide) hinner before hb
      simpa [Tree.host, Tree.kinds, Lexeme.loop] using h

theorem Branches.follows_host (b : Branches) (hb : b.isValid = true) {tail : Text}
    {ks : List TokenKind} (htail : Follows tail ks) : Follows (b.host ++ tail) (b.kinds ++ ks) := by
  have hnil : '<' ∉ ([] : Text) := by simp
  cases b with
  | done => exact htail
  | otherwise body =>
      have h := follows_statement (clean_word (w := "else") (by decide)) (by decide)
        (body.readsAs_host hb hnil htail)
      simpa [Branches.host, Branches.kinds] using h
  | elseif x body more =>
      simp only [Branches.isValid, Bool.and_eq_true] at hb
      obtain ⟨⟨hx, hbody⟩, hmore⟩ := hb
      have h := follows_statement (clean_test (w := "elif") hx (by decide)) (by decide)
        (body.readsAs_host hbody hnil (more.follows_host hmore htail))
      simpa [Branches.host, Branches.kinds, Lexeme.test] using h

end

theorem Tree.scan_host {t : Tree} (ht : t.isValid = true) :
    (Token.scan t.host).map (·.kind) = t.kinds [] := by
  have h := t.readsAs_host ht (show '<' ∉ [] by simp) follows_nil
  simpa using h.scan

end BraceTemplate

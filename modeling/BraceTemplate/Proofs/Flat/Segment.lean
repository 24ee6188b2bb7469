import BraceTemplate.Text.Basic

namespace BraceTemplate

namespace Text

-- What holds of all characters of a text is decided along the text, not along the alphabet.
instance (priority := high) (p : Char → Prop) [DecidablePred p] (s : Text) :
    Decidable (∀ c ∈ s, p c) :=
  List.decidableBAll p s

def isBrace (c : Char) : Bool :=
  c == '\x7b' || c == '\x7d'

-- A text without braces.
def BraceFree (s : Text) : Prop :=
  ∀ c ∈ s, isBrace c = false

-- Whether braces alternate up to the end, where none is open; `inside` tells whether one is open.
def alternates : (inside : Bool) → Text → Bool
  | inside, [] => !inside
  | inside, c :: rest =>
    if c = '\x7b' then !inside && alternates true rest
    else if c = '\x7d' then inside && alternates false rest
    else alternates inside rest

-- A text whose braces come in pairs, none within another.
def Flat (s : Text) : Prop :=
  alternates false s = true

instance (s : Text) : Decidable s.Flat :=
  inferInstanceAs (Decidable (_ = true))

instance (s : Text) : Decidable s.BraceFree :=
  inferInstanceAs (Decidable (∀ c ∈ s, isBrace c = false))

@[simp] theorem braceFree_nil : BraceFree [] := by
  simp [BraceFree]

@[simp] theorem braceFree_cons (c : Char) (s : Text) :
    BraceFree (c :: s) ↔ isBrace c = false ∧ BraceFree s := by
  simp [BraceFree]

@[simp] theorem braceFree_append (s t : Text) :
    BraceFree (s ++ t) ↔ BraceFree s ∧ BraceFree t := by
  simp [BraceFree, or_imp, forall_and]

theorem BraceFree.of_subset {s t : Text} (ht : BraceFree t) (h : ∀ c ∈ s, c ∈ t) : BraceFree s :=
  fun c hc => ht c (h c hc)

theorem isBrace_eq_false_iff (c : Char) : isBrace c = false ↔ c ≠ '\x7b' ∧ c ≠ '\x7d' := by
  simp [isBrace]

theorem isBrace_iff {c : Char} : isBrace c = true ↔ c = '\x7b' ∨ c = '\x7d' := by
  simp [isBrace]

theorem braceFree_iff_not_mem {s : Text} : BraceFree s ↔ '\x7b' ∉ s ∧ '\x7d' ∉ s := by
  constructor
  · exact fun hs => ⟨fun h => absurd (hs _ h) (by decide), fun h => absurd (hs _ h) (by decide)⟩
  · rintro ⟨ho, hk⟩ c hc
    rw [isBrace_eq_false_iff]
    exact ⟨fun he => ho (he ▸ hc), fun he => hk (he ▸ hc)⟩

-- What is found in two texts put together begins in the first one or is found in the second one.
theorem infix_append_cases {c : Char} {w s t : Text} (h : c :: w <:+: s ++ t) :
    (∃ a b, s = a ++ c :: b ∧ w <+: b ++ t) ∨ c :: w <:+: t := by
  induction s with
  | nil => exact .inr h
  | cons d s ih =>
      rw [List.cons_append, List.infix_cons_iff, List.cons_prefix_cons] at h
      rcases h with ⟨rfl, h⟩ | h
      · exact .inl ⟨[], s, rfl, h⟩
      · rcases ih h with ⟨a, b, rfl, hb⟩ | ht
        · exact .inl ⟨d :: a, b, rfl, hb⟩
        · exact .inr ht

end Text

-- A flat text is made of characters outside of braces and of groups in braces.
inductive Segment where
  | char (c : Char)
  | group (body : Text)
  deriving DecidableEq

namespace Segment

def spell : Segment → Text
  | .char c => [c]
  | .group body => '\x7b' :: (body ++ ['\x7d'])

def Sound : Segment → Prop
  | .char c => Text.isBrace c = false
  | .group body => Text.BraceFree body

def spellAll (segments : List Segment) : Text :=
  segments.flatMap spell

def SoundAll (segments : List Segment) : Prop :=
  ∀ segment ∈ segments, segment.Sound

def chars (s : Text) : List Segment :=
  s.map .char

@[simp] theorem spellAll_nil : spellAll [] = [] := rfl

@[simp] theorem spellAll_cons (segment : Segment) (rest : List Segment) :
    spellAll (segment :: rest) = segment.spell ++ spellAll rest := by
  simp [spellAll]

@[simp] theorem spellAll_append (a b : List Segment) :
    spellAll (a ++ b) = spellAll a ++ spellAll b := by
  simp [spellAll]

@[simp] theorem spellAll_chars (s : Text) : spellAll (chars s) = s := by
  induction s with
  | nil => rfl
  | cons c s ih => simpa [chars, spell] using ih

@[simp] theorem soundAll_nil : SoundAll [] := by
  simp [SoundAll]

@[simp] theorem soundAll_cons (segment : Segment) (rest : List Segment) :
    SoundAll (segment :: rest) ↔ segment.Sound ∧ SoundAll rest := by
  simp [SoundAll]

@[simp] theorem soundAll_append (a b : List Segment) :
    SoundAll (a ++ b) ↔ SoundAll a ∧ SoundAll b := by
  simp [SoundAll, or_imp, forall_and]

theorem soundAll_chars {s : Text} (h : s.BraceFree) : SoundAll (chars s) := by
  intro segment hm
  obtain ⟨c, hc, rfl⟩ := List.mem_map.mp hm
  exact h c hc

-- Of two texts that end at the first closing brace neither begins with the other.
theorem eq_of_prefix_closing {a b rest : Text} (ha : '\x7d' ∉ a) (hb : '\x7d' ∉ b)
    (h : a ++ ['\x7d'] <+: b ++ '\x7d' :: rest) : a = b := by
  induction a generalizing b with
  | nil =>
      cases b with
      | nil => rfl
      | cons d b =>
          rw [List.nil_append, List.cons_append, List.cons_prefix_cons] at h
          exact absurd (h.1 ▸ List.mem_cons_self) hb
  | cons c a ih =>
      cases b with
      | nil =>
          rw [List.cons_append, List.nil_append, List.cons_prefix_cons] at h
          exact absurd (h.1 ▸ List.mem_cons_self) ha
      | cons d b =>
          rw [List.cons_append, List.cons_append, List.cons_prefix_cons] at h
          rw [h.1, ih (List.not_mem_of_not_mem_cons ha) (List.not_mem_of_not_mem_cons hb) h.2]

-- A group that is found in a text is one of its segments.
theorem group_mem_of_infix_spellAll {segments : List Segment} (hs : SoundAll segments) {body : Text}
    (hb : body.BraceFree) (h : (Segment.group body).spell <:+: spellAll segments) :
    .group body ∈ segments := by
  induction segments with
  | nil => simp [spell] at h
  | cons segment segments ih =>
      obtain ⟨hsegment, hrest⟩ := (soundAll_cons _ _).mp hs
      have ih := ih hrest
      cases segment with
      | char c =>
          rw [spellAll_cons, spell, spell, List.singleton_append, List.infix_cons_iff,
            List.cons_prefix_cons] at h
          rcases h with ⟨rfl, -⟩ | h
          · cases hsegment
          · exact List.mem_cons_of_mem _ (ih h)
      | group other =>
          have hother := Text.braceFree_iff_not_mem.mp hsegment
          rw [spellAll_cons, spell, spell, List.cons_append, List.infix_cons_iff,
            List.cons_prefix_cons] at h
          rcases h with ⟨-, h⟩ | h
          · rw [List.append_assoc] at h
            rw [eq_of_prefix_closing (Text.braceFree_iff_not_mem.mp hb).2 hother.2 h]
            exact List.mem_cons_self
          · rcases Text.infix_append_cases h with ⟨a, b, he, -⟩ | h
            · have hm : '\x7b' ∈ other ++ ['\x7d'] := by simp [he]
              simp [hother.1] at hm
            · exact List.mem_cons_of_mem _ (ih h)

end Segment

namespace Text

open Segment

theorem alternates_append_braceFree {s : Text} (hs : BraceFree s) (inside : Bool) (rest : Text) :
    alternates inside (s ++ rest) = alternates inside rest := by
  induction s with
  | nil => rfl
  | cons c s ih =>
      obtain ⟨hc, hs⟩ := (braceFree_cons c s).mp hs
      obtain ⟨ho, hk⟩ := (isBrace_eq_false_iff c).mp hc
      simp [alternates, ho, hk, ih hs]

theorem alternates_group {body : Text} (hb : BraceFree body) (rest : Text) :
    alternates false ('\x7b' :: (body ++ '\x7d' :: rest)) = alternates false rest := by
  simp [alternates, alternates_append_braceFree hb]

theorem alternates_spellAll {segments : List Segment} (hs : SoundAll segments) (rest : Text) :
    alternates false (spellAll segments ++ rest) = alternates false rest := by
  induction segments with
  | nil => rfl
  | cons segment segments ih =>
      obtain ⟨h, ht⟩ := (soundAll_cons segment segments).mp hs
      cases segment with
      | char c =>
          have hc : BraceFree [c] := by simpa [Sound] using h
          simp only [spellAll_cons, spell, List.append_assoc]
          rw [alternates_append_braceFree hc, ih ht]
      | group body =>
          simp only [spellAll_cons, spell, List.cons_append, List.append_assoc, List.nil_append]
          rw [alternates_group h, ih ht]

theorem flat_spellAll {segments : List Segment} (hs : SoundAll segments) :
    Flat (spellAll segments) := by
  have h := alternates_spellAll hs []
  simpa [Flat, alternates] using h

-- Outside of braces the rest of a flat text is made of segments; inside it first closes the group.
private theorem exists_segments_of_alternates (s : Text) :
    (alternates false s = true → ∃ segments, SoundAll segments ∧ spellAll segments = s) ∧
    (alternates true s = true → ∃ body segments, BraceFree body ∧ SoundAll segments ∧
      body ++ '\x7d' :: spellAll segments = s) := by
  induction s with
  | nil => exact ⟨fun _ => ⟨[], soundAll_nil, rfl⟩, by simp [alternates]⟩
  | cons c s ih =>
      obtain ⟨ihOut, ihIn⟩ := ih
      by_cases ho : c = '\x7b'
      · subst ho
        refine ⟨fun h => ?_, by simp [alternates]⟩
        obtain ⟨body, segments, hb, hs, he⟩ := ihIn (by simpa [alternates] using h)
        exact ⟨.group body :: segments, by simp [hs, Sound, hb], by simp [spell, he]⟩
      by_cases hk : c = '\x7d'
      · subst hk
        refine ⟨by simp [alternates], fun h => ?_⟩
        obtain ⟨segments, hs, he⟩ := ihOut (by simpa [alternates] using h)
        exact ⟨[], segments, braceFree_nil, hs, by simp [he]⟩
      have hc := (isBrace_eq_false_iff c).mpr ⟨ho, hk⟩
      constructor
      · intro h
        obtain ⟨segments, hs, he⟩ := ihOut (by simpa [alternates, ho, hk] using h)
        exact ⟨.char c :: segments, by simp [hs, Sound, hc], by simp [spell, he]⟩
      · intro h
        obtain ⟨body, segments, hb, hs, he⟩ := ihIn (by simpa [alternates, ho, hk] using h)
        exact ⟨c :: body, segments, by simp [hb, hc], hs, by simp [he]⟩

theorem flat_iff_exists_segments {s : Text} :
    Flat s ↔ ∃ segments, SoundAll segments ∧ spellAll segments = s := by
  constructor
  · exact (exists_segments_of_alternates s).1
  · rintro ⟨segments, hs, rfl⟩
    exact flat_spellAll hs

theorem Flat.append {s t : Text} (hs : s.Flat) (ht : t.Flat) : Flat (s ++ t) := by
  obtain ⟨a, ha, rfl⟩ := flat_iff_exists_segments.mp hs
  obtain ⟨b, hb, rfl⟩ := flat_iff_exists_segments.mp ht
  rw [← spellAll_append]
  exact flat_spellAll ((soundAll_append a b).mpr ⟨ha, hb⟩)

end Text

end BraceTemplate

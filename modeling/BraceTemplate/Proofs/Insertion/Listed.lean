import BraceTemplate.Proofs.Fault.Spelling
import BraceTemplate.Proofs.Insertion.Insertable

namespace BraceTemplate

open Text Segment

-- Of two words that are found at the front of one text, the one begins with the other.
theorem prefix_or_prefix_of_takeWord {w k s : Text} (hw : ∀ l ∈ w, IsBlockLetter l)
    (hk : ∀ l ∈ k, IsBlockLetter l) (hws : (takeWord w s).isSome = true)
    (hks : (takeWord k s).isSome = true) : w <+: k ∨ k <+: w := by
  induction w generalizing k s with
  | nil => exact .inl List.nil_prefix
  | cons l w ih =>
      cases k with
      | nil => exact .inr List.nil_prefix
      | cons m k =>
          cases s with
          | nil => simp [takeWord] at hws
          | cons c s =>
              by_cases hl : sameLetter l c = true
              · by_cases hm : sameLetter m c = true
                · simp only [takeWord, hl, hm, if_true, Option.isSome_map] at hws hks
                  obtain rfl : l = m :=
                    eq_of_sameLetter_of_sameLetter (hw l (by simp)) (hk m (by simp)) hl hm
                  have ih := ih (fun l hl => hw l (List.mem_cons_of_mem _ hl))
                    (fun l hl => hk l (List.mem_cons_of_mem _ hl)) hws hks
                  exact ih.imp (fun h => List.cons_prefix_cons.mpr ⟨rfl, h⟩)
                    fun h => List.cons_prefix_cons.mpr ⟨rfl, h⟩
                · simp [takeWord, hm] at hks
              · simp [takeWord, hl] at hws

namespace Tag

-- Whether a word and the word for insertions are never found at the front of one text.
def IsOther (word : Text) : Prop :=
  (∀ l ∈ word, IsBlockLetter l) ∧ ¬ word <+: "include".toList ∧ ¬ "include".toList <+: word

instance (word : Text) : Decidable (IsOther word) :=
  inferInstanceAs (Decidable ((∀ l ∈ word, l ≠ 'k' ∧ l.toLower = l ∧ l.toUpper.toLower = l ∧
    l.toNat < 128 ∧ l.toUpper.toNat < 128) ∧ _ ∧ _))

section Insertion

variable {body : Text} {tag : Tag} (h : readInsertion body = some tag)

include h

theorem takeWord_eq_none_of_readInsertion {word : Text} (hword : IsOther word) :
    takeWord word body = none := by
  obtain ⟨hletters, hnot, hnot'⟩ := hword
  rw [← Option.not_isSome_iff_eq_none]
  intro hsome
  obtain ⟨found, hfound, -⟩ := Option.bind_eq_some_iff.mp h
  have hinclude : (takeWord "include".toList body).isSome = true := by rw [hfound]; rfl
  have hblock : ∀ l ∈ "include".toList, IsBlockLetter l := by
    unfold IsBlockLetter
    decide
  exact (prefix_or_prefix_of_takeWord hletters hblock hsome hinclude).elim hnot hnot'

theorem takeFirstWord_eq_none_of_readInsertion {words : List Text}
    (hwords : ∀ word ∈ words, IsOther word) : takeFirstWord words body = none :=
  List.findSome?_eq_none_iff.mpr fun word hm =>
    takeWord_eq_none_of_readInsertion h (hwords word hm)

-- None of the readers that come first takes an insertion for something else.
theorem Reader.read_eq_none_of_readInsertion {reader : Reader} (hreader : reader ∈ Reader.early) :
    reader.read body = none := by
  have hbody : ∀ {words : List Text}, (∀ word ∈ words, IsOther word) →
      bodyAfterWord words body = none := by
    intro words hwords
    rw [bodyAfterWord, takeFirstWord_eq_none_of_readInsertion h hwords]
    rfl
  have hwhole : ∀ {words : List Text}, (∀ word ∈ words, IsOther word) →
      wholeWord words body = none := by
    intro words hwords
    rw [wholeWord, takeFirstWord_eq_none_of_readInsertion h hwords]
    rfl
  have hslash : ∀ s, body ≠ '/' :: s := by
    rintro s rfl
    cases h
  simp only [early, List.mem_cons, List.not_mem_nil, or_false] at hreader
  rcases hreader with rfl | rfl | rfl | rfl | rfl | rfl | rfl | rfl | rfl | rfl | rfl | rfl | rfl | rfl
  · exact Option.map_eq_none_iff.mpr (hbody (by decide))
  · exact Option.map_eq_none_iff.mpr (hbody (by decide))
  · exact Option.map_eq_none_iff.mpr (hbody (by decide))
  · exact Option.map_eq_none_iff.mpr (hbody (by decide))
  · exact Option.map_eq_none_iff.mpr (hbody (by decide))
  · exact Option.map_eq_none_iff.mpr (hbody (by decide))
  · exact Option.map_eq_none_iff.mpr (hbody (by decide))
  · exact Option.bind_eq_none_iff.mpr fun _ hfound => by
      rw [takeWord_eq_none_of_readInsertion h (by decide)] at hfound
      cases hfound
  · exact Option.map_eq_none_iff.mpr (hwhole (by decide))
  · exact Option.map_eq_none_iff.mpr (hwhole (by decide))
  · change readClosing body = none
    unfold readClosing
    split
    · exact absurd rfl (hslash _)
    · rfl
  · change readClosingBranch body = none
    unfold readClosingBranch
    split
    · exact absurd rfl (hslash _)
    · rfl
  · exact Option.map_eq_none_iff.mpr (hbody (by decide))
  · exact Option.bind_eq_none_iff.mpr fun _ hfound => by
      rw [takeWord_eq_none_of_readInsertion h (by decide)] at hfound
      cases hfound

theorem readWith_early_of_readInsertion (last : Text → Option Tag) :
    readWith Reader.early last body = last body := by
  have hnone : readWith (Reader.early ++ []) last body = readWith [] last body :=
    readWith_append_of_none fun _ hm => Reader.read_eq_none_of_readInsertion h hm
  rwa [List.append_nil] at hnone

end Insertion

end Tag

-- A flat text without literal blocks.
structure Text.Bare (s : Text) : Prop where
  flat : s.Flat
  noLiteral : occurs Vault.opening? s = false

-- The lists of references in the insertions of a text, outside of its literal blocks.
def Text.insertions (s : Text) : List Text :=
  (Piece.scan Tag.insertion? (Vault.bare s)).filterMap fun
    | .hit (.insertion list) => some list
    | _ => none

-- The lists that are read in the groups of a text.
def Segment.lists (segments : List Segment) : List Text :=
  segments.filterMap fun
    | .char _ => none
    | .group body =>
      match Tag.readInsertion body with
      | some (.insertion list) => some list
      | _ => none

theorem Segment.lists_append (a b : List Segment) : lists (a ++ b) = lists a ++ lists b :=
  List.filterMap_append

theorem Segment.lists_cons (segment : Segment) (rest : List Segment) :
    lists (segment :: rest) = lists [segment] ++ lists rest :=
  lists_append [segment] rest

theorem Segment.lists_chars (s : Text) : lists (chars s) = [] := by
  simp [lists, chars]

theorem Segment.lists_of_read {body list : Text}
    (hr : Tag.readInsertion body = some (.insertion list)) : lists [.group body] = [list] := by
  simp [lists, hr]

theorem Segment.lists_of_not_read {body : Text} (hr : Tag.readInsertion body = none) :
    lists [.group body] = [] := by
  simp [lists, hr]

theorem Segment.mem_lists_iff {segments : List Segment} {list : Text} :
    list ∈ lists segments ↔
      ∃ body, .group body ∈ segments ∧ Tag.readInsertion body = some (.insertion list) := by
  simp only [lists, List.mem_filterMap]
  constructor
  · rintro ⟨segment, hm, h⟩
    cases segment with
    | char c => cases h
    | group body =>
        refine ⟨body, hm, ?_⟩
        simp only at h
        split at h
        · next found hr =>
          cases h
          exact hr
        · cases h
  · rintro ⟨body, hm, hr⟩
    exact ⟨_, hm, by simp only [hr]⟩

namespace Text

theorem mem_insertions_iff {s list : Text} : list ∈ s.insertions ↔ s.Inserts list := by
  simp only [insertions, Inserts, List.mem_filterMap]
  constructor
  · rintro ⟨piece, hm, h⟩
    split at h
    · cases h
      exact hm
    · cases h
  · exact fun hm => ⟨_, hm, rfl⟩

theorem Bare.exists_segments {s : Text} (h : s.Bare) :
    ∃ segments, SoundAll segments ∧ spellAll segments = s :=
  flat_iff_exists_segments.mp h.flat

theorem bare_spellAll_iff {segments : List Segment} (hs : SoundAll segments) :
    Bare (spellAll segments) ↔
      ∀ body, .group body ∈ segments → Tag.wholeWord ["literal".toList] body = none := by
  rw [← Vault.grouped_opening.occurs_eq_false_iff hs]
  exact ⟨Bare.noLiteral, fun h => ⟨flat_spellAll hs, h⟩⟩

instance (s : Text) : Decidable s.Bare :=
  decidable_of_iff (s.Flat ∧ occurs Vault.opening? s = false)
    ⟨fun h => ⟨h.1, h.2⟩, fun h => ⟨h.flat, h.noLiteral⟩⟩

theorem bare_nil : Bare [] := by
  decide

-- Nothing is taken out of a text without literal blocks.
theorem Bare.protect_eq {s : Text} (h : s.Bare) (v : Vault) : v.protect s = (s, v) := by
  obtain ⟨segments, hs, rfl⟩ := h.exists_segments
  exact Vault.protect_spellAll v hs ((bare_spellAll_iff hs).mp h)

theorem Bare.append {s t : Text} (hs : s.Bare) (ht : t.Bare) : Bare (s ++ t) := by
  obtain ⟨a, ha, rfl⟩ := hs.exists_segments
  obtain ⟨b, hb, rfl⟩ := ht.exists_segments
  rw [bare_spellAll_iff ha] at hs
  rw [bare_spellAll_iff hb] at ht
  rw [← spellAll_append, bare_spellAll_iff ((soundAll_append a b).mpr ⟨ha, hb⟩)]
  exact fun body hm => (List.mem_append.mp hm).elim (hs body) (ht body)

theorem insertions_spellAll {segments : List Segment} (hs : SoundAll segments)
    (h : Bare (spellAll segments)) : insertions (spellAll segments) = Segment.lists segments := by
  have hbare : Vault.bare (spellAll segments) = spellAll segments := by
    rw [← Vault.protect_fst Vault.empty, h.protect_eq]
  rw [insertions, hbare, Tag.grouped_insertion.scan_spellAll hs]
  clear hs h hbare
  induction segments with
  | nil => rfl
  | cons segment segments ih =>
      cases segment with
      | char c => exact ih
      | group body =>
          rw [Segment.lists_cons, ← ih]
          cases hr : Tag.readInsertion body with
          | none =>
              simp only [Tag.piecesOf, hr, List.filterMap_append, List.filterMap_map,
                Segment.lists_of_not_read hr, List.nil_append]
              exact List.append_left_eq_self.mpr (List.filterMap_eq_nil_iff.mpr fun _ _ => rfl)
          | some tag =>
              obtain ⟨list, rfl⟩ := Tag.exists_of_readInsertion hr
              simp only [Tag.piecesOf, hr, List.filterMap_cons, Segment.lists_of_read hr,
                List.singleton_append]

theorem Bare.insertions_append {s t : Text} (hs : s.Bare) (ht : t.Bare) :
    insertions (s ++ t) = s.insertions ++ t.insertions := by
  have happend := hs.append ht
  obtain ⟨a, ha, rfl⟩ := hs.exists_segments
  obtain ⟨b, hb, rfl⟩ := ht.exists_segments
  rw [← spellAll_append] at happend ⊢
  rw [insertions_spellAll ((soundAll_append a b).mpr ⟨ha, hb⟩) happend, insertions_spellAll ha hs,
    insertions_spellAll hb ht, lists_append]

end Text

end BraceTemplate

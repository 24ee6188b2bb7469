import BraceTemplate.Proofs.Literal.Compile

namespace BraceTemplate

open Text Segment

namespace Vault

def keptOf (pieces : List (Piece Text)) : Text :=
  pieces.flatMap fun
    | .char c => [c]
    | .hit _ => []

-- A text with its literal blocks taken out, and the same with placeholders in their stead.
def withoutBlocks (s : Text) : Text :=
  keptOf (Piece.scan find s)

def bare (s : Text) : Text :=
  bareOf (Piece.scan find s)

@[simp] theorem keptOf_chars (s : Text) : keptOf (s.map .char) = s := by
  induction s with
  | nil => rfl
  | cons c s ih => simpa [keptOf] using ih

theorem protect_fst (v : Vault) (s : Text) : (v.protect s).1 = bare s := by
  rw [protect_eq, bare]

theorem protect_snd (v : Vault) (s : Text) :
    (v.protect s).2 = (contentsOf (Piece.scan find s)).foldl put v := by
  rw [protect_eq]

theorem alternates_bareOf (pieces : List (Piece Text)) (inside : Bool) :
    alternates inside (bareOf pieces) = alternates inside (keptOf pieces) := by
  induction pieces generalizing inside with
  | nil => rfl
  | cons piece pieces ih =>
      cases piece with
      | char c =>
          change alternates inside (c :: bareOf pieces) = alternates inside (c :: keptOf pieces)
          simp only [alternates, ih]
      | hit content =>
          rw [bareOf_hit, alternates_append_braceFree (braceFree_placeholder content), ih]
          rfl

theorem flat_bare_iff {s : Text} : (bare s).Flat ↔ (withoutBlocks s).Flat := by
  rw [Flat, Flat, bare, alternates_bareOf, withoutBlocks]

end Vault

-- A text that may be inserted: flat without its literal blocks, each of which is closed, and with no
-- question mark outside of them.
structure Text.Insertable (s : Text) : Prop where
  flat : (Vault.withoutBlocks s).Flat
  closed : occurs Vault.opening? (Vault.bare s) = false
  noQuestion : '?' ∉ Vault.withoutBlocks s

instance (s : Text) : Decidable s.Insertable :=
  decidable_of_iff ((Vault.withoutBlocks s).Flat ∧ occurs Vault.opening? (Vault.bare s) = false ∧
      '?' ∉ Vault.withoutBlocks s)
    ⟨fun h => ⟨h.1, h.2.1, h.2.2⟩, fun h => ⟨h.flat, h.closed, h.noQuestion⟩⟩

namespace Vault

theorem mem_of_takeWord_append {s rest : Text} (word : Text) {stop : Char} {found : Text × Text}
    (h : takeWord (word ++ [stop]) (s ++ rest) = some found)
    (hn : takeWord (word ++ [stop]) s = none) : ∀ c ∈ s, ∃ l ∈ word, sameLetter l c = true := by
  induction word generalizing s found with
  | nil =>
      cases s with
      | nil => simp
      | cons c s =>
          by_cases hc : sameLetter stop c
          · simp [takeWord, hc] at hn
          · simp [takeWord, hc] at h
  | cons l word ih =>
      cases s with
      | nil => simp
      | cons c s =>
          by_cases hc : sameLetter l c
          · simp only [List.cons_append, takeWord, hc, if_true, Option.map_eq_some_iff,
              Option.map_eq_none_iff] at h hn
            obtain ⟨left, h, -⟩ := h
            intro d hd
            rcases List.mem_cons.mp hd with rfl | hd
            · exact ⟨l, by simp, hc⟩
            · obtain ⟨k, hk, hs⟩ := ih h hn d hd
              exact ⟨k, List.mem_cons_of_mem _ hk, hs⟩
          · simp [takeWord, hc] at h

theorem mem_of_closeBlock {s body tail : Text} (h : closeBlock s = some (body, tail)) :
    '\x7b' ∈ s := by
  induction s generalizing body tail with
  | nil => simp [closeBlock] at h
  | cons c s ih =>
      rw [closeBlock_cons] at h
      split at h
      · next spelling left hword =>
        by_cases hc : sameLetter '\x7b' c
        · rw [eq_of_sameLetter (by decide) hc]
          exact List.mem_cons_self
        · rw [show closingTag = '\x7b' :: "/literal\x7d".toList from rfl, takeWord,
            if_neg hc] at hword
          cases hword
      · simp only [Option.map_eq_some_iff, Prod.mk.injEq, Prod.exists] at h
        obtain ⟨b, t, hclose, -, -⟩ := h
        exact List.mem_cons_of_mem _ (ih hclose)

theorem closeBlock_append_of_some {s body tail : Text} (h : closeBlock s = some (body, tail))
    (rest : Text) : closeBlock (s ++ rest) = some (body, tail ++ rest) := by
  induction s generalizing body with
  | nil => simp [closeBlock] at h
  | cons c s ih =>
      rw [closeBlock_cons] at h
      split at h
      · next spelling left hword =>
        simp only [Option.some.injEq, Prod.mk.injEq] at h
        obtain ⟨rfl, rfl⟩ := h
        have hword := takeWord_append rest hword
        rw [List.cons_append] at hword ⊢
        rw [closeBlock_cons, hword]
      · next hword =>
        simp only [Option.map_eq_some_iff, Prod.mk.injEq, Prod.exists] at h
        obtain ⟨b, t, hclose, rfl, rfl⟩ := h
        -- The tag that closes the block starts behind, so none is cut short by the end of the text.
        obtain ⟨u, v, rfl⟩ := List.append_of_mem (mem_of_closeBlock hclose)
        have hshort : takeWord closingTag (c :: u) = none := by
          cases hu : takeWord closingTag (c :: u) with
          | none => rfl
          | some found =>
              have := takeWord_append ('\x7b' :: v) hu
              rw [List.cons_append, hword] at this
              cases this
        have hlong : takeWord closingTag (c :: (u ++ '\x7b' :: (v ++ rest))) = none :=
          takeWord_cons_append (by decide) hshort _
        have ih := ih hclose
        simp only [List.append_assoc, List.cons_append] at ih ⊢
        rw [closeBlock_cons, hlong]
        simp only [ih, Option.map_some]

-- A block that is found in a text is found in a longer one.
theorem find_append {before : Option Char} {s content after : Text}
    (h : find before s = some (content, after)) (rest : Text) :
    find before (s ++ rest) = some (content, after ++ rest) := by
  unfold find at h
  split at h
  · simp only [Option.bind_eq_bind, Option.bind_eq_some_iff, Prod.exists] at h
    obtain ⟨spelling, left, hword, hclose⟩ := h
    have hword := takeWord_append rest hword
    have hclose := closeBlock_append_of_some hclose rest
    simp only [List.cons_append, find, hword, Option.bind_eq_bind, Option.bind_some, hclose]
  · simp at h

theorem find_congr (before before' : Option Char) (s : Text) : find before s = find before' s := by
  unfold find
  split <;> rfl

-- No opening tag begins in a text that closes its groups and ends behind it.
theorem find_append_of_flat {s : Text} {inside : Bool}
    (hflat : alternates inside ('\x7b' :: bareOf (Piece.cut find (some '\x7b') s)) = true)
    (hopen : takeWord "literal\x7d".toList (bareOf (Piece.cut find (some '\x7b') s)) = none)
    (rest : Text) (before : Option Char) : find before ('\x7b' :: (s ++ rest)) = none := by
  have hstart : alternates true (bareOf (Piece.cut find (some '\x7b') s)) = true := by
    simp only [alternates, if_true, Bool.and_eq_true] at hflat
    exact hflat.2
  -- Within a text without braces nothing is found, so that its group would stay open.
  have hbraces : ¬ BraceFree s := by
    intro hs
    have hcut : Piece.cut find (some '\x7b') s = s.map .char := by
      have := Piece.cut_append_of_none s [] (some '\x7b') fun a c b he before =>
        find_of_ne ((isBrace_eq_false_iff c).mp (hs c (by simp [he]))).1 before _
      simpa using this
    rw [hcut, bareOf_chars] at hstart
    have := alternates_append_braceFree hs true []
    rw [List.append_nil] at this
    rw [this] at hstart
    cases hstart
  have hshort : takeWord "literal\x7d".toList s = none := by
    cases hw : takeWord "literal\x7d".toList s with
    | none => rfl
    | some found =>
        obtain ⟨spelling, left⟩ := found
        have hplain : ∀ c ∈ spelling, c ≠ '\x7b' := by
          rintro c hc rfl
          obtain ⟨l, hl, hs⟩ := sameLetter_of_mem_spelling hw hc
          exact absurd hs (by revert l; decide)
        have hcut := Piece.cut_append_of_none spelling left (some '\x7b') fun a c b he before =>
          find_of_ne (hplain c (by simp [he])) before _
        rw [(takeWord_eq_some hw).1, hcut, bareOf_append, bareOf_chars,
          takeWord_spelling hw] at hopen
        cases hopen
  have hlong : takeWord "literal\x7d".toList (s ++ rest) = none := by
    cases hw : takeWord "literal\x7d".toList (s ++ rest) with
    | none => rfl
    | some found =>
        refine absurd (fun c hc => ?_) hbraces
        obtain ⟨l, hl, hs⟩ := mem_of_takeWord_append "literal".toList hw hshort c hc
        rw [isBrace_eq_false_iff]
        constructor <;> rintro rfl <;> revert l <;> decide
  simp only [find, hlong, Option.bind_eq_bind, Option.bind_none]

-- What is left of a text is followed by what is left of the next one.
theorem exists_cut_append (s : Text) (before : Option Char) {inside : Bool}
    (hflat : alternates inside (bareOf (Piece.cut find before s)) = true)
    (hclosed : ∀ a b, bareOf (Piece.cut find before s) = a ++ '\x7b' :: b →
      takeWord "literal\x7d".toList b = none) (rest : Text) :
    ∃ last, Piece.cut find before (s ++ rest) =
      Piece.cut find before s ++ Piece.cut find last rest := by
  induction hlen : s.length using Nat.strong_induction_on generalizing s before inside with
  | _ n ih =>
      cases hf : find before s with
      | some found =>
          obtain ⟨content, after⟩ := found
          have hshort := consumes_find _ _ _ _ hf
          rw [Piece.cut_of_some consumes_find hf, bareOf_hit] at hflat hclosed
          rw [alternates_append_braceFree (braceFree_placeholder content)] at hflat
          obtain ⟨last, hlast⟩ := ih after.length (by omega) after none hflat (fun a b he =>
            hclosed (placeholder content ++ a) b (by rw [he, List.append_assoc])) rfl
          refine ⟨last, ?_⟩
          rw [Piece.cut_of_some consumes_find hf,
            Piece.cut_of_some consumes_find (find_append hf rest), hlast, List.cons_append]
      | none =>
          cases s with
          | nil => exact ⟨before, rfl⟩
          | cons c s =>
              have hbare : bareOf (Piece.cut find before (c :: s)) =
                  c :: bareOf (Piece.cut find (some c) s) := by
                rw [Piece.cut_of_none hf]
                rfl
              rw [hbare] at hflat hclosed
              have hnone : find before (c :: (s ++ rest)) = none := by
                by_cases hc : c = '\x7b'
                · subst hc
                  exact find_append_of_flat hflat (hclosed [] _ rfl) rest before
                · exact find_of_ne hc before _
              have hstep : ∃ state, alternates state (bareOf (Piece.cut find (some c) s)) = true := by
                simp only [alternates] at hflat
                split_ifs at hflat
                · exact ⟨true, (Bool.and_eq_true _ _ ▸ hflat).2⟩
                · exact ⟨false, (Bool.and_eq_true _ _ ▸ hflat).2⟩
                · exact ⟨inside, hflat⟩
              obtain ⟨state, hstate⟩ := hstep
              obtain ⟨last, hlast⟩ := ih s.length (by simp [← hlen]) s (some c) hstate (fun a b he =>
                hclosed (c :: a) b (by rw [he, List.cons_append])) rfl
              refine ⟨last, ?_⟩
              rw [List.cons_append, Piece.cut_of_none hf, Piece.cut_of_none hnone, hlast,
                List.cons_append]

theorem cut_congr (before before' : Option Char) (s : Text) :
    Piece.cut find before s = Piece.cut find before' s := by
  cases s with
  | nil => rfl
  | cons c s =>
      have h := find_congr before before' (c :: s)
      cases hf : find before (c :: s) with
      | none => rw [Piece.cut_of_none hf, Piece.cut_of_none (h.symm.trans hf)]
      | some found =>
          obtain ⟨content, after⟩ := found
          rw [Piece.cut_of_some consumes_find hf, Piece.cut_of_some consumes_find (h.symm.trans hf)]

theorem opening?_of_takeWord {b : Text} {found : Text × Text}
    (h : takeWord "literal\x7d".toList b = some found) : opening? none ('\x7b' :: b) ≠ none := by
  have hsplit : takeWord ("literal".toList ++ ['\x7d']) b = some found := h
  rw [takeWord_append_word, Option.bind_eq_some_iff] at hsplit
  obtain ⟨⟨spelling, left⟩, hword, hleft⟩ := hsplit
  cases left with
  | nil => simp [takeWord] at hleft
  | cons c left =>
      have hc : c = '\x7d' := by
        by_cases hc : sameLetter '\x7d' c
        · exact eq_of_sameLetter (by decide) hc
        · simp [takeWord, hc] at hleft
      subst hc
      simp only [opening?, Tag.bareWord, takeFirstWord, List.findSome?_cons, hword,
        Option.bind_eq_bind, Option.bind_some, after?, if_true]
      exact Option.some_ne_none _

theorem scan_append {s : Text} (hs : s.Insertable) (t : Text) :
    Piece.scan find (s ++ t) = Piece.scan find s ++ Piece.scan find t := by
  have hopen : ∀ a b, bare s = a ++ '\x7b' :: b → takeWord "literal\x7d".toList b = none := by
    intro a b he
    have hnone := occurs_eq_false_iff.mp hs.closed a _ b he
    cases hw : takeWord "literal\x7d".toList b with
    | none => rfl
    | some found => exact absurd hnone (opening?_of_takeWord hw)
  obtain ⟨last, h⟩ := exists_cut_append s none (flat_bare_iff.mpr hs.flat) hopen t
  rw [Piece.scan_eq_cut, h, cut_congr last none]
  rfl

theorem bare_append {s : Text} (hs : s.Insertable) (t : Text) : bare (s ++ t) = bare s ++ bare t := by
  rw [bare, scan_append hs, bareOf_append]
  rfl

theorem withoutBlocks_append {s : Text} (hs : s.Insertable) (t : Text) :
    withoutBlocks (s ++ t) = withoutBlocks s ++ withoutBlocks t := by
  rw [withoutBlocks, scan_append hs]
  exact List.flatMap_append

end Vault

namespace Text

theorem Insertable.exists_segments {s : Text} (h : s.Insertable) :
    ∃ segments, SoundAll segments ∧ spellAll segments = Vault.bare s :=
  flat_iff_exists_segments.mp (Vault.flat_bare_iff.mpr h.flat)

theorem insertable_nil : Insertable [] := by
  decide

theorem Insertable.append {s t : Text} (hs : s.Insertable) (ht : t.Insertable) :
    Insertable (s ++ t) := by
  obtain ⟨a, ha, hsa⟩ := hs.exists_segments
  obtain ⟨b, hb, htb⟩ := ht.exists_segments
  have hca := hs.closed
  have hcb := ht.closed
  rw [← hsa, Vault.grouped_opening.occurs_eq_false_iff ha] at hca
  rw [← htb, Vault.grouped_opening.occurs_eq_false_iff hb] at hcb
  refine ⟨?_, ?_, ?_⟩
  · rw [Vault.withoutBlocks_append hs]
    exact hs.flat.append ht.flat
  · rw [Vault.bare_append hs, ← hsa, ← htb, ← spellAll_append,
      Vault.grouped_opening.occurs_eq_false_iff ((soundAll_append a b).mpr ⟨ha, hb⟩)]
    intro body hm
    exact (List.mem_append.mp hm).elim (hca body) (hcb body)
  · rw [Vault.withoutBlocks_append hs, List.mem_append, not_or]
    exact ⟨hs.noQuestion, ht.noQuestion⟩

-- Whether an insertion of a list of references stands in a text outside of its literal blocks.
def Inserts (s list : Text) : Prop :=
  Piece.hit (.insertion list) ∈ Piece.scan Tag.insertion? (Vault.bare s)

theorem inserts_iff {s : Text} {segments : List Segment} (hs : SoundAll segments)
    (hbare : spellAll segments = Vault.bare s) {list : Text} :
    s.Inserts list ↔
      ∃ body, .group body ∈ segments ∧ Tag.readInsertion body = some (.insertion list) := by
  rw [Inserts, ← hbare, Tag.grouped_insertion.scan_spellAll hs, Tag.hit_mem_piecesOf_iff]

theorem inserts_append {s t list : Text} (hs : s.Insertable) (ht : t.Insertable) :
    Inserts (s ++ t) list ↔ s.Inserts list ∨ t.Inserts list := by
  obtain ⟨a, ha, hsa⟩ := hs.exists_segments
  obtain ⟨b, hb, htb⟩ := ht.exists_segments
  have hab : spellAll (a ++ b) = Vault.bare (s ++ t) := by
    rw [spellAll_append, Vault.bare_append hs, hsa, htb]
  rw [inserts_iff ((soundAll_append a b).mpr ⟨ha, hb⟩) hab, inserts_iff ha hsa, inserts_iff hb htb]
  simp only [List.mem_append, or_and_right, exists_or]

end Text

end BraceTemplate

import BraceTemplate.Proofs.Flat.Merge
import BraceTemplate.Proofs.Flat.Passes

namespace BraceTemplate

open Text Segment

namespace Tag

-- What is read in a group that was inserted or was left over by the readers before.
def lateRead : Text → Option Tag :=
  readWith Reader.late fun _ => none

-- What the first reader that knows a group reads in it.
def read : Text → Option Tag :=
  readWith Reader.early (orElse readInsertion lateRead)

theorem readWith_eq_some {readers : List Reader} {last : Text → Option Tag} {body : Text} {tag : Tag}
    (h : readWith readers last body = some tag) :
    (∃ reader ∈ readers, reader.read body = some tag) ∨ last body = some tag := by
  induction readers with
  | nil => exact Or.inr h
  | cons reader readers ih =>
      simp only [readWith, List.foldr_cons, orElse, Option.or_eq_some_iff] at h
      rcases h with h | ⟨-, h⟩
      · exact Or.inl ⟨reader, by simp, h⟩
      · obtain ⟨other, hm, ho⟩ | hlast := ih h
        · exact Or.inl ⟨other, List.mem_cons_of_mem _ hm, ho⟩
        · exact Or.inr hlast

theorem eq_none_of_readWith {readers : List Reader} {last : Text → Option Tag} {body : Text}
    (h : readWith readers last body = none) : last body = none := by
  induction readers with
  | nil => exact h
  | cons reader readers ih =>
      simp only [readWith, List.foldr_cons, orElse, Option.or_eq_none_iff] at h
      exact ih h.2

theorem readWith_append_of_none {front rest : List Reader} {last : Text → Option Tag} {body : Text}
    (h : ∀ reader ∈ front, reader.read body = none) :
    readWith (front ++ rest) last body = readWith rest last body := by
  induction front with
  | nil => rfl
  | cons reader front ih =>
      have hfirst := h reader (by simp)
      rw [List.cons_append, readWith, List.foldr_cons, orElse, hfirst, Option.none_or]
      exact ih fun other hm => h other (List.mem_cons_of_mem _ hm)

theorem lateRead_direct (body : Text) (tag : Tag) (h : lateRead body = some tag) : tag.Direct := by
  rcases readWith_eq_some h with ⟨reader, -, h⟩ | h
  · exact reader.direct h
  · simp at h

theorem lateRead_eq_none_iff {body : Text} :
    lateRead body = none ↔ body.head? ≠ some '$' ∧ body.head? ≠ some ':' := by
  cases body with
  | nil => decide
  | cons c s =>
      simp only [lateRead, readWith, Reader.late, List.foldr_cons, List.foldr_nil, orElse,
        Option.or_eq_none_iff, Reader.path, Reader.interpolation, Reader.shortEcho,
        List.head?_cons, and_true]
      by_cases hd : c = '$'
      · subst hd
        simp [readInterpolation]
      · by_cases hk : c = ':'
        · subst hk
          simp [readShortEcho]
        · simp [readPath, readInterpolation, readShortEcho, hd, hk]

theorem exists_of_readInsertion {body : Text} {tag : Tag} (h : readInsertion body = some tag) :
    ∃ list, tag = .insertion list := by
  simp only [readInsertion, Option.bind_eq_some_iff, Option.ite_none_right_eq_some] at h
  obtain ⟨_, _, _, h⟩ := h
  cases h
  exact ⟨_, rfl⟩

-- What is read is either a tag of its own or an insertion.
theorem exists_reader_of_read {body : Text} {tag : Tag} (h : read body = some tag) :
    (∃ reader : Reader, reader.read body = some tag) ∨ readInsertion body = some tag := by
  rcases readWith_eq_some h with ⟨reader, -, h⟩ | h
  · exact Or.inl ⟨reader, h⟩
  · rcases Option.or_eq_some_iff.mp h with h | ⟨-, h⟩
    · exact Or.inr h
    · rcases readWith_eq_some h with ⟨reader, -, h⟩ | h
      · exact Or.inl ⟨reader, h⟩
      · simp at h

theorem direct_or_insertion_of_read {body : Text} {tag : Tag} (h : read body = some tag) :
    tag.Direct ∨ readInsertion body = some tag :=
  (exists_reader_of_read h).imp_left fun ⟨reader, h⟩ => reader.direct h

theorem lateRead_eq_none_of_read {body : Text} (h : read body = none) : lateRead body = none :=
  (Option.or_eq_none_iff.mp (eq_none_of_readWith h)).2

-- A text whose groups are none that an expression is written in.
def Inert (s : Text) : Prop :=
  ∃ segments, SoundAll segments ∧ spellAll segments = s ∧
    ∀ body, .group body ∈ segments → lateRead body = none

theorem inert_of_braceFree {s : Text} (h : BraceFree s) : Inert s :=
  ⟨chars s, soundAll_chars h, spellAll_chars s, by simp [chars]⟩

theorem Inert.append {s t : Text} (hs : Inert s) (ht : Inert t) : Inert (s ++ t) := by
  obtain ⟨a, ha, rfl, hna⟩ := hs
  obtain ⟨b, hb, rfl, hnb⟩ := ht
  refine ⟨a ++ b, (soundAll_append a b).mpr ⟨ha, hb⟩, spellAll_append a b, fun body hm => ?_⟩
  rcases List.mem_append.mp hm with hm | hm
  · exact hna body hm
  · exact hnb body hm

theorem inert_group {body : Text} (hb : BraceFree body) (hn : lateRead body = none) :
    Inert (Segment.group body).spell :=
  ⟨[.group body], by simpa [Sound] using hb, by simp, by simpa using hn⟩

-- Merging statements changes a group inside, but not what it starts with.
theorem Inert.mergeStatements {s : Text} (hs : Inert s) : Inert (mergeStatements s) := by
  obtain ⟨segments, hsound, rfl, hn⟩ := hs
  have hall : ∀ front, BraceFree front → Inert (mergeFrom none (front ++ spellAll segments)) := by
    induction segments with
    | nil =>
        intro front hf
        rw [spellAll_nil, List.append_nil]
        exact inert_of_braceFree (braceFree_mergeFrom hf none)
    | cons segment segments ih =>
        intro front hf
        obtain ⟨hsegment, hsegments⟩ := (soundAll_cons _ _).mp hsound
        have ih := ih hsegments fun body hm => hn body (List.mem_cons_of_mem _ hm)
        cases segment with
        | char c =>
            have := ih (front ++ [c]) (by simpa [Sound] using ⟨hf, hsegment⟩)
            simpa [spell] using this
        | group body =>
            have hb : BraceFree body := hsegment
            have hlate : lateRead (Tag.mergeStatements body) = none := by
              have := hn body (by simp)
              rw [lateRead_eq_none_iff] at this ⊢
              rwa [Tag.mergeStatements, head?_mergeFrom]
            have hrest : Inert (Tag.mergeStatements (spellAll segments)) := ih [] braceFree_nil
            have hgroup := inert_group (braceFree_mergeFrom hb none) hlate
            have hfront := inert_of_braceFree (braceFree_mergeFrom hf none)
            have hwhole := hfront.append (hgroup.append hrest)
            simp only [spellAll_cons, spell, List.cons_append, List.append_assoc, List.nil_append]
            rw [mergeFrom_group]
            simpa [spell, Tag.mergeStatements] using hwhole
  exact hall [] braceFree_nil

section Recognisers

variable {insert : List Text → CompileM Text} {segments : List Segment} {v v' : Vault} {t : Text}

-- A group that, if it is an insertion, inserts only what is inert.
def Calm (insert : List Text → CompileM Text) (body : Text) : Prop :=
  ∀ list, readInsertion body = some (.insertion list) →
    ∀ v s w, Yields (insert (Reference.ofList list)) v s w → Inert s

theorem tame_insertion (insert : List Text → CompileM Text) :
    Tame insert (Calm insert) (fun _ => True) readInsertion lateRead where
  keep _ _ _ := trivial
  hit body tag v out w _ hcalm hr hout := by
    obtain ⟨list, rfl⟩ := exists_of_readInsertion hr
    obtain ⟨inner, hs, he, hn⟩ := hcalm list hr v out w hout
    exact ⟨inner, ⟨hs, fun _ _ => trivial⟩, he, hn⟩

theorem rewriteKind_merge (s : Text) :
    Compiler.rewriteKind insert s merge? = pure (mergeStatements s) := by
  refine Piece.cut_induction consumes_merge?
    (motive := fun before s pieces => Piece.assemble (Compiler.rewriteTag insert) pieces =
      pure (mergeFrom before s)) ?_ ?_ ?_ none s
  · exact fun _ => rfl
  · intro before c rest hf ih
    rw [Piece.assemble, ih, pure_bind, mergeFrom_of_none hf]
  · intro before s tag after hf ih
    obtain ⟨-, -, -, -, -, rfl, -⟩ := exists_of_merge? hf
    rw [Piece.assemble, ih, mergeFrom_of_some hf]
    rfl

theorem yields_merge_iff {s : Text} :
    Yields (Compiler.rewriteKind insert s merge?) v t v' ↔ t = mergeStatements s ∧ v' = v := by
  rw [rewriteKind_merge, yields_pure]

-- All the passes over a flat text come to one: each group is rewritten by the first reader that
-- knows it, and in the end statements are merged.
theorem yields_recognisers_iff (hs : Fit (Calm insert) segments) :
    Yields (recognisers.foldlM (Compiler.rewriteKind insert) (spellAll segments)) v t v' ↔
      ∃ x, Rewrites insert read segments v x v' ∧ t = mergeStatements x := by
  have hnone : ∀ {left w t v'}, Fit (fun _ => True) left →
      (Yields (pure (spellAll left)) w t v' ↔ Rewrites insert (fun _ => none) left w t v') := by
    intro left w t v' _
    rw [yields_pure, rewrites_unread_iff (by simp)]
  have hlate : ∀ {left w t v'}, Fit (fun _ => True) left →
      (Yields ((Reader.late.map Reader.find).foldlM (Compiler.rewriteKind insert) (spellAll left) >>=
        pure) w t v' ↔ Rewrites insert lateRead left w t v') :=
    fun hleft => yields_passes_iff hnone _ hleft
  have hinsertion : ∀ {left w t v'}, Fit (Calm insert) left →
      (Yields (Compiler.rewriteKind insert (spellAll left) insertion? >>= fun s =>
        (Reader.late.map Reader.find).foldlM (Compiler.rewriteKind insert) s >>= pure) w t v' ↔
          Rewrites insert (orElse readInsertion lateRead) left w t v') :=
    fun hleft => yields_pass_iff grouped_insertion (tame_insertion insert) (.inr lateRead_direct)
      hlate hleft
  have hmerge : recognisers.foldlM (Compiler.rewriteKind insert) (spellAll segments) =
      ((Reader.early.map Reader.find).foldlM (Compiler.rewriteKind insert) (spellAll segments) >>=
        fun s => Compiler.rewriteKind insert s insertion? >>= fun s =>
          (Reader.late.map Reader.find).foldlM (Compiler.rewriteKind insert) s >>= pure) >>=
        fun s => Compiler.rewriteKind insert s merge? := by
    simp only [recognisers_eq, List.foldlM_append, List.foldlM_cons, List.foldlM_nil, bind_assoc,
      bind_pure]
  rw [hmerge, yields_bind]
  constructor
  · rintro ⟨x, w, hx, ht⟩
    obtain ⟨rfl, rfl⟩ := yields_merge_iff.mp ht
    exact ⟨x, (yields_passes_iff hinsertion Reader.early hs).mp hx, rfl⟩
  · rintro ⟨x, hx, rfl⟩
    exact ⟨x, v', (yields_passes_iff hinsertion Reader.early hs).mpr hx,
      yields_merge_iff.mpr ⟨rfl, rfl⟩⟩

end Recognisers

-- The host text of a flat text without insertions, before statements are merged.
def translateGroup (body : Text) : Except TagError Text :=
  match read body with
  | some tag => tag.rewrite
  | none => .ok (Segment.group body).spell

def translateSegment : Segment → Except TagError Text
  | .char c => .ok [c]
  | .group body => translateGroup body

def translate : List Segment → Except TagError Text
  | [] => .ok []
  | segment :: rest => do
    let head ← translateSegment segment
    let tail ← translate rest
    .ok (head ++ tail)

theorem translate_cons_eq_ok {segment : Segment} {rest : List Segment} {t : Text} :
    translate (segment :: rest) = .ok t ↔
      ∃ x y, translateSegment segment = .ok x ∧ translate rest = .ok y ∧ t = x ++ y := by
  simp only [translate, Except.bind_eq_ok, Except.ok.injEq]
  grind

-- All groups of a text that is translated have a host text.
theorem exists_translateGroup_of_translate {segments : List Segment} {t : Text}
    (h : translate segments = .ok t) :
    ∀ body, .group body ∈ segments → ∃ out, translateGroup body = .ok out := by
  induction segments generalizing t with
  | nil => simp
  | cons segment segments ih =>
      obtain ⟨x, y, hx, hy, -⟩ := translate_cons_eq_ok.mp h
      intro body hm
      rcases List.mem_cons.mp hm with rfl | hm
      · exact ⟨x, hx⟩
      · exact ih hy body hm

theorem translate_append_eq_ok {a b : List Segment} {t : Text} :
    translate (a ++ b) = .ok t ↔
      ∃ x y, translate a = .ok x ∧ translate b = .ok y ∧ t = x ++ y := by
  induction a generalizing t with
  | nil => simp [translate, eq_comm]
  | cons segment a ih =>
      simp only [List.cons_append, translate_cons_eq_ok, ih]
      constructor
      · rintro ⟨x, _, hx, ⟨y, z, hy, hz, rfl⟩, rfl⟩
        exact ⟨_, z, ⟨x, y, hx, hy, rfl⟩, hz, (List.append_assoc x y z).symm⟩
      · rintro ⟨_, z, ⟨x, y, hx, hy, rfl⟩, hz, rfl⟩
        exact ⟨x, _, hx, ⟨y, z, hy, hz, rfl⟩, List.append_assoc x y z⟩

theorem translate_chars (s : Text) : translate (Segment.chars s) = .ok s := by
  induction s with
  | nil => rfl
  | cons c s ih => exact translate_cons_eq_ok.mpr ⟨[c], s, rfl, ih, rfl⟩

theorem rewrites_iff_translate {insert : List Text → CompileM Text} {segments : List Segment}
    (hno : ∀ body, .group body ∈ segments → readInsertion body = none) {v v' : Vault} {t : Text} :
    Rewrites insert read segments v t v' ↔ translate segments = .ok t ∧ v' = v := by
  induction segments generalizing v t with
  | nil => simp [rewrites_nil_iff, translate, eq_comm]
  | cons segment segments ih =>
      have ih := fun v t => ih (v := v) (t := t) fun body hm => hno body (List.mem_cons_of_mem _ hm)
      cases segment with
      | char c =>
          simp only [rewrites_char_iff, translate_cons_eq_ok, translateSegment, ih,
            Except.ok.injEq]
          grind
      | group body =>
          cases hr : read body with
          | none =>
              simp only [rewrites_keep_iff hr, translate_cons_eq_ok, translateSegment,
                translateGroup, hr, ih, Except.ok.injEq]
              grind
          | some tag =>
              have hd : tag.Direct := by
                rcases direct_or_insertion_of_read hr with hd | hi
                · exact hd
                · simp [hno body (by simp)] at hi
              simp only [rewrites_hit_iff hr, translate_cons_eq_ok, translateSegment,
                translateGroup, hr, ih, yields_rewriteTag_iff hd]
              grind

end Tag

end BraceTemplate

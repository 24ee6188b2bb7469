import BraceTemplate.Proofs.Flat.Scan
import BraceTemplate.Tag.Rewrite

namespace BraceTemplate.Tag

open Text Piece

-- One application of the rule that merges statements: between the end of a statement and the start
-- of the next one white space goes.
def mergeFrom (before : Option Char) (s : Text) : Text :=
  (cut merge? before s).flatMap fun
    | .char c => [c]
    | .hit _ => Host.statementClose ++ Host.statementOpen

def mergeStatements (s : Text) : Text :=
  mergeFrom none s

theorem merge?_statementEnd (before : Option Char) (s : Text) :
    merge? before ('?' :: '>' :: s) =
      if before = some '=' then none
      else (skipBlanks? s).bind fun rest =>
        (takeWord "<?py".toList rest).map fun (_, after) => (.merge, after) := by
  simp only [merge?, Option.bind_eq_bind]
  split
  · rfl
  · simp only [Option.map_eq_bind]
    rfl

-- What a gap between two statements looks like, when one is found.
theorem exists_of_merge? {before : Option Char} {s after : Text} {tag : Tag}
    (h : merge? before s = some (tag, after)) :
    ∃ c gap spelling, s = '?' :: '>' :: c :: (gap ++ (spelling ++ after)) ∧ before ≠ some '=' ∧
      tag = .merge ∧ isBlank c = true ∧ (∀ d ∈ gap, isBlank d = true) ∧
      takeWord "<?py".toList (spelling ++ after) = some (spelling, after) := by
  unfold merge? at h
  split at h
  · next rest =>
    split at h
    · simp at h
    · next hb =>
      simp only [Option.bind_eq_bind, Option.bind_eq_some_iff, Option.some.injEq, Prod.mk.injEq,
        Prod.exists] at h
      obtain ⟨inner, hblank, spelling, left, hword, rfl, rfl⟩ := h
      have he := (takeWord_eq_some hword).1
      cases rest with
      | nil => simp [skipBlanks?] at hblank
      | cons c rest =>
          by_cases hc : isBlank c
          · simp only [skipBlanks?, hc, if_true, Option.some.injEq] at hblank
            refine ⟨c, rest.takeWhile isBlank, spelling, ?_, hb, rfl, hc, ?_, he ▸ hword⟩
            · rw [← he, ← hblank, Text.trimLeft, List.takeWhile_append_dropWhile]
            · intro d hd
              exact List.mem_takeWhile_imp hd
          · simp [skipBlanks?, hc] at hblank
  · simp at h

theorem merge?_eq_some {before : Option Char} (hb : before ≠ some '=') {c : Char}
    (hc : isBlank c = true) {gap s spelling after : Text} (hgap : ∀ d ∈ gap, isBlank d = true)
    (hs : takeWord "<?py".toList s = some (spelling, after)) :
    merge? before ('?' :: '>' :: c :: (gap ++ s)) = some (.merge, after) := by
  have hhead : ∃ d r, s = d :: r ∧ isBlank d = false := by
    cases s with
    | nil => simp [takeWord] at hs
    | cons d r =>
        have hd : sameLetter '<' d := by
          by_contra hd
          simp [takeWord, hd] at hs
        exact ⟨d, r, rfl, eq_of_sameLetter (by decide) hd ▸ by decide⟩
  obtain ⟨d, r, rfl, hd⟩ := hhead
  have htrim : Text.trimLeft (gap ++ d :: r) = d :: r := by
    rw [Text.trimLeft_append_cons hd, Text.trimLeft, List.dropWhile_eq_nil_iff.mpr hgap]
    rfl
  simp only [merge?, if_neg hb, skipBlanks?, hc, if_true, htrim, Option.bind_eq_bind,
    Option.bind_some, hs]

theorem consumes_merge? : Consumes merge? := by
  intro before s tag after h
  obtain ⟨c, gap, spelling, rfl, -⟩ := exists_of_merge? h
  simp only [List.length_cons, List.length_append]
  omega

theorem merge?_append {before : Option Char} {s after : Text} {tag : Tag}
    (h : merge? before s = some (tag, after)) (rest : Text) :
    merge? before (s ++ rest) = some (tag, after ++ rest) := by
  obtain ⟨c, gap, spelling, rfl, hb, rfl, hc, hgap, hword⟩ := exists_of_merge? h
  have := merge?_eq_some hb hc hgap (takeWord_append rest hword)
  simpa using this

-- All that matters of the character before is whether it is an equals sign.
theorem merge?_congr {before before' : Option Char} (h : before = some '=' ↔ before' = some '=')
    (s : Text) : merge? before s = merge? before' s := by
  unfold merge?
  split <;> simp only [h]

@[simp] theorem mergeFrom_nil (before : Option Char) : mergeFrom before [] = [] := rfl

theorem mergeFrom_of_none {before : Option Char} {c : Char} {rest : Text}
    (h : merge? before (c :: rest) = none) :
    mergeFrom before (c :: rest) = c :: mergeFrom (some c) rest := by
  simp [mergeFrom, cut_of_none h]

theorem mergeFrom_of_some {before : Option Char} {s after : Text} {tag : Tag}
    (h : merge? before s = some (tag, after)) :
    mergeFrom before s = Host.statementClose ++ Host.statementOpen ++ mergeFrom none after := by
  simp [mergeFrom, cut_of_some consumes_merge? h]

theorem mergeFrom_congr {before before' : Option Char}
    (h : before = some '=' ↔ before' = some '=') (s : Text) :
    mergeFrom before s = mergeFrom before' s := by
  cases s with
  | nil => rfl
  | cons c rest =>
      have hm := merge?_congr h (c :: rest)
      cases hf : merge? before (c :: rest) with
      | none => rw [mergeFrom_of_none hf, mergeFrom_of_none (hm.symm.trans hf)]
      | some found =>
          obtain ⟨tag, after⟩ := found
          rw [mergeFrom_of_some hf, mergeFrom_of_some (hm.symm.trans hf)]

-- The character before plays no part unless the end of a statement comes first.
theorem mergeFrom_eq_of_not_close {s : Text} (h : ¬ Host.statementClose <+: s)
    (before before' : Option Char) : mergeFrom before s = mergeFrom before' s := by
  have hnone : ∀ before, merge? before s = none := by
    intro before
    cases hf : merge? before s with
    | none => rfl
    | some found =>
        obtain ⟨c, gap, spelling, rfl, -⟩ := exists_of_merge? hf
        exact absurd (by simp [Host.statementClose]) h
  cases s with
  | nil => rfl
  | cons c rest => rw [mergeFrom_of_none (hnone before), mergeFrom_of_none (hnone before')]

-- A text that no gap begun before it can reach into.
def Apart (s : Text) : Prop :=
  ∀ before t, t ≠ [] →
    merge? before (t ++ s) = (merge? before t).map fun (tag, after) => (tag, after ++ s)

-- A gap ends in a letter.
theorem getLast?_ne_of_merge? {before : Option Char} {s after : Text} {tag : Tag}
    (h : merge? before s = some (tag, after)) :
    after.getLast?.or none = some '=' ↔ s.getLast?.or before = some '=' := by
  obtain ⟨c, gap, spelling, rfl, -, -, -, -, hword⟩ := exists_of_merge? h
  obtain ⟨init, d, rfl, hd⟩ : ∃ init d, spelling = init ++ [d] ∧ d ≠ '=' := by
    have hspell := forall₂_of_takeWord hword
    rw [show "<?py".toList = ['<', '?', 'p', 'y'] from rfl] at hspell
    rcases hspell with _ | ⟨-, _ | ⟨-, _ | ⟨-, _ | ⟨hd, _ | _⟩⟩⟩⟩
    rename_i l q p d
    refine ⟨[l, q, p], d, rfl, ?_⟩
    rintro rfl
    exact absurd hd (by decide)
  have hs : '?' :: '>' :: c :: (gap ++ (init ++ [d] ++ after)) =
      ('?' :: '>' :: c :: (gap ++ init)) ++ (d :: after) := by simp
  rw [hs, List.getLast?_append_of_ne_nil _ (by simp)]
  cases after with
  | nil => simp [hd]
  | cons e after => simp [List.getLast?_cons_cons]

theorem mergeFrom_append {s : Text} (hs : Apart s) (before : Option Char) (t : Text) :
    mergeFrom before (t ++ s) = mergeFrom before t ++ mergeFrom (t.getLast?.or before) s := by
  induction h : t.length using Nat.strong_induction_on generalizing before t with
  | _ n ih =>
      cases t with
      | nil => simp
      | cons c t =>
          have happ := hs before (c :: t) (by simp)
          cases hf : merge? before (c :: t) with
          | none =>
              rw [hf, Option.map_none, List.cons_append] at happ
              have ih := ih t.length (by simp [← h]) (some c) t rfl
              rw [List.cons_append, mergeFrom_of_none happ, mergeFrom_of_none hf, ih, getLast?_cons_or]
              rfl
          | some found =>
              obtain ⟨tag, after⟩ := found
              rw [hf, Option.map_some] at happ
              have hlen := consumes_merge? _ _ _ _ hf
              have ih := ih after.length (by omega) none after rfl
              rw [mergeFrom_of_some happ, mergeFrom_of_some hf, ih, ← List.append_assoc]
              congr 1
              apply mergeFrom_congr
              exact getLast?_ne_of_merge? hf

-- A character that is no part of a gap.
def isGapChar (c : Char) : Bool :=
  isBlank c || c == '>' || "<?py".toList.any (sameLetter · c)

theorem apart_of {s : Text} {c : Char} {rest : Text} (hs : s = c :: rest) (hend : c ≠ '>')
    (hblank : isBlank c = false)
    (hword : ∀ t, takeWord "<?py".toList (t ++ s) =
      (takeWord "<?py".toList t).map fun (spelling, left) => (spelling, left ++ s)) : Apart s := by
  intro before t ht
  cases t with
  | nil => exact absurd rfl ht
  | cons d t =>
      cases t with
      | nil =>
          subst hs
          have hl : merge? before [d] = none := by unfold merge?; split <;> simp_all
          have hr : merge? before ([d] ++ c :: rest) = none := by
            unfold merge?; split <;> simp_all
          rw [hl, hr, Option.map_none]
      | cons e t =>
          by_cases hstart : d = '?' ∧ e = '>'
          · obtain ⟨rfl, rfl⟩ := hstart
            have hskip := skipBlanks?_append_cons hblank t rest
            rw [← hs] at hskip
            simp only [List.cons_append, merge?_statementEnd, hskip]
            split
            · rfl
            · cases skipBlanks? t with
              | none => rfl
              | some inner =>
                  simp only [Option.map_some, Option.bind_some, hword inner, Option.map_map]
                  rfl
          · have hnone : ∀ r, merge? before (d :: e :: r) = none := by
              intro r
              unfold merge?
              split <;> simp_all
            rw [List.cons_append, List.cons_append, hnone, hnone, Option.map_none]

theorem apart_cons {c : Char} (hc : isGapChar c = false) (s : Text) : Apart (c :: s) := by
  simp only [isGapChar, Bool.or_eq_false_iff, beq_eq_false_iff_ne, List.any_eq_false] at hc
  obtain ⟨⟨hblank, hend⟩, hword⟩ := hc
  exact apart_of rfl hend hblank fun t =>
    takeWord_append_cons _ t s fun l hl => by simpa using hword l hl

-- A gap that begins before the end of a statement does not reach beyond it.
theorem apart_of_statementClose {s : Text} (h : Host.statementClose <+: s) : Apart s := by
  obtain ⟨s, rfl⟩ := h
  change Apart ('?' :: '>' :: s)
  refine apart_of rfl (by decide) (by decide) fun t => ?_
  have hp : sameLetter 'p' '>' = false := by decide
  have hq : sameLetter 'p' '?' = false := by decide
  have hy : sameLetter 'y' '?' = false := by decide
  have hl : sameLetter '<' '?' = false := by decide
  have hk : sameLetter '?' '?' = true := by decide
  rw [show "<?py".toList = ['<', '?', 'p', 'y'] from rfl]
  rcases t with _ | ⟨a, _ | ⟨b, _ | ⟨c, _ | ⟨d, t⟩⟩⟩⟩
  · simp [takeWord, hl]
  · by_cases ha : sameLetter '<' a <;> simp [takeWord, ha, hk, hp]
  · by_cases ha : sameLetter '<' a <;> by_cases hb : sameLetter '?' b <;>
      simp [takeWord, ha, hb, hq]
  · by_cases ha : sameLetter '<' a <;> by_cases hb : sameLetter '?' b <;>
      by_cases hc : sameLetter 'p' c <;> simp [takeWord, ha, hb, hc, hy]
  · by_cases ha : sameLetter '<' a <;> by_cases hb : sameLetter '?' b <;>
      by_cases hc : sameLetter 'p' c <;> by_cases hd : sameLetter 'y' d <;>
      simp [takeWord, ha, hb, hc, hd]

theorem merge?_of_ne {c : Char} (hc : c ≠ '?') (before : Option Char) (s : Text) :
    merge? before (c :: s) = none := by
  unfold merge?
  split <;> simp_all

theorem merge?_question {c : Char} (hc : c ≠ '>') (before : Option Char) (s : Text) :
    merge? before ('?' :: c :: s) = none := by
  unfold merge?
  split <;> simp_all

-- A character that is no part of a gap parts what comes before it from what comes behind.
theorem mergeFrom_append_cons {c : Char} (hc : isGapChar c = false) (hne : c ≠ '=')
    (before : Option Char) (t s : Text) :
    mergeFrom before (t ++ c :: s) = mergeFrom before t ++ c :: mergeStatements s := by
  have hq : c ≠ '?' := by
    rintro rfl
    exact absurd hc (by decide)
  have hbefore : some c = some '=' ↔ none = some '=' := by simp [hne]
  rw [mergeFrom_append (apart_cons hc s), mergeFrom_of_none (merge?_of_ne hq _ s),
    mergeFrom_congr hbefore s, mergeStatements]

-- Statements that have been merged stay as they are.
theorem mergeFrom_merged (before : Option Char) (s : Text) :
    mergeFrom before (Host.statementClose ++ Host.statementOpen ++ s) =
      Host.statementClose ++ Host.statementOpen ++ mergeStatements s := by
  have hgap : merge? before ('?' :: '>' :: '<' :: '?' :: 'p' :: 'y' :: s) = none := by
    rw [merge?_statementEnd]
    split
    · rfl
    · simp [skipBlanks?, show isBlank '<' = false by decide]
  have hopen : merge? (some '<') ('?' :: 'p' :: 'y' :: s) = none := merge?_question (by decide) _ _
  have hbefore : some 'y' = some '=' ↔ none = some '=' := by decide
  change mergeFrom before ('?' :: '>' :: '<' :: '?' :: 'p' :: 'y' :: s) =
    '?' :: '>' :: '<' :: '?' :: 'p' :: 'y' :: mergeStatements s
  rw [mergeFrom_of_none hgap, mergeFrom_of_none (merge?_of_ne (by decide) _ _),
    mergeFrom_of_none (merge?_of_ne (by decide) _ _), mergeFrom_of_none hopen,
    mergeFrom_of_none (merge?_of_ne (by decide) _ _),
    mergeFrom_of_none (merge?_of_ne (by decide) _ _), mergeFrom_congr hbefore, mergeStatements]

-- Part of a text may be merged ahead of the rest, if what comes before it is known.
theorem mergeStatements_context (before : Option Char) (front s rest : Text)
    (h : before = some '=' ↔ front.getLast? = some '=') :
    mergeStatements (front ++ (mergeFrom before s ++ rest)) =
      mergeStatements (front ++ (s ++ rest)) := by
  induction hlen : s.length using Nat.strong_induction_on generalizing before front s with
  | _ n ih =>
      cases s with
      | nil => rfl
      | cons c s =>
          cases hf : merge? before (c :: s) with
          | none =>
              have ih := ih s.length (by simp [← hlen]) (some c) (front ++ [c]) s (by simp) rfl
              rw [mergeFrom_of_none hf]
              simpa using ih
          | some found =>
              obtain ⟨tag, after⟩ := found
              have hshort := consumes_merge? _ _ _ _ hf
              have ih := ih after.length (by omega) none
                (front ++ (Host.statementClose ++ Host.statementOpen)) after
                (by simp [Host.statementClose, Host.statementOpen]) rfl
              have hlast : before = some '=' ↔ front.getLast?.or none = some '=' := by simpa using h
              have hwhole : merge? (front.getLast?.or none) (c :: s ++ rest) =
                  some (tag, after ++ rest) :=
                (merge?_congr hlast _).symm.trans (merge?_append hf rest)
              obtain ⟨d, gap, spelling, hgap, -⟩ := exists_of_merge? hf
              have hclose : Host.statementClose <+: c :: s ++ rest :=
                ⟨d :: (gap ++ (spelling ++ after)) ++ rest, by simp [hgap, Host.statementClose]⟩
              have hmerged : Host.statementClose <+:
                  Host.statementClose ++ Host.statementOpen ++ (after ++ rest) :=
                ⟨Host.statementOpen ++ (after ++ rest), by simp⟩
              calc mergeStatements (front ++ (mergeFrom before (c :: s) ++ rest))
                  = mergeStatements (front ++ (Host.statementClose ++ Host.statementOpen) ++
                      (mergeFrom none after ++ rest)) := by
                    rw [mergeFrom_of_some hf]
                    simp only [List.append_assoc]
                _ = mergeStatements
                      (front ++ (Host.statementClose ++ Host.statementOpen ++ (after ++ rest))) := by
                    rw [ih]
                    simp only [List.append_assoc]
                _ = mergeStatements front ++ mergeFrom (front.getLast?.or none)
                      (Host.statementClose ++ Host.statementOpen ++ (after ++ rest)) :=
                    mergeFrom_append (apart_of_statementClose hmerged) none front
                _ = mergeStatements front ++
                      mergeFrom (front.getLast?.or none) (c :: s ++ rest) := by
                    rw [mergeFrom_merged, mergeFrom_of_some hwhole]
                    rfl
                _ = mergeStatements (front ++ (c :: s ++ rest)) :=
                    (mergeFrom_append (apart_of_statementClose hclose) none front).symm

-- Both halves of a text may be merged first, unless the second half starts with the end of a
-- statement.
theorem mergeStatements_append {s t : Text} (ht : ¬ Host.statementClose <+: t) :
    mergeStatements (mergeStatements s ++ mergeStatements t) = mergeStatements (s ++ t) := by
  have hfirst := mergeStatements_context none [] s t (by simp)
  have hsecond := mergeStatements_context (mergeStatements s).getLast? (mergeStatements s) t []
    (by simp)
  rw [mergeFrom_eq_of_not_close ht _ none] at hsecond
  simp only [List.append_nil, List.nil_append] at hfirst hsecond
  calc mergeStatements (mergeStatements s ++ mergeStatements t)
      = mergeStatements (mergeStatements s ++ t) := hsecond
    _ = mergeStatements (s ++ t) := hfirst

theorem mergeFrom_eq_self {s : Text} (h : '?' ∉ s) (before : Option Char) :
    mergeFrom before s = s := by
  induction s generalizing before with
  | nil => rfl
  | cons c s ih =>
      simp only [List.mem_cons, not_or] at h
      rw [mergeFrom_of_none (merge?_of_ne (Ne.symm h.1) _ _), ih h.2]

theorem head?_mergeFrom (before : Option Char) (s : Text) :
    (mergeFrom before s).head? = s.head? := by
  cases s with
  | nil => rfl
  | cons c s =>
      cases hf : merge? before (c :: s) with
      | none => rw [mergeFrom_of_none hf, List.head?_cons, List.head?_cons]
      | some found =>
          obtain ⟨tag, after⟩ := found
          obtain ⟨d, gap, spelling, he, -⟩ := exists_of_merge? hf
          rw [mergeFrom_of_some hf, he]
          rfl

theorem mem_of_mem_mergeFrom {before : Option Char} {s : Text} {c : Char}
    (h : c ∈ mergeFrom before s) : c ∈ s ∨ c ∈ Host.statementClose ++ Host.statementOpen := by
  induction hlen : s.length using Nat.strong_induction_on generalizing before s with
  | _ n ih =>
      cases s with
      | nil => simp at h
      | cons d s =>
          cases hf : merge? before (d :: s) with
          | none =>
              rw [mergeFrom_of_none hf, List.mem_cons] at h
              rcases h with rfl | h
              · simp
              · have := ih s.length (by simp [← hlen]) h rfl
                grind
          | some found =>
              obtain ⟨tag, after⟩ := found
              have hshort := consumes_merge? _ _ _ _ hf
              obtain ⟨e, gap, spelling, he, -⟩ := exists_of_merge? hf
              rw [mergeFrom_of_some hf, List.mem_append] at h
              rcases h with h | h
              · exact Or.inr h
              · have := ih after.length (by omega) h rfl
                rw [he]
                grind

theorem braceFree_mergeFrom {s : Text} (hs : BraceFree s) (before : Option Char) :
    BraceFree (mergeFrom before s) := by
  intro c hc
  rcases mem_of_mem_mergeFrom hc with hc | hc
  · exact hs c hc
  · exact (show BraceFree (Host.statementClose ++ Host.statementOpen) by decide) c hc

-- Groups keep to themselves when statements are merged, and so do the texts between them.
theorem mergeFrom_group (before : Option Char) (front body s : Text) :
    mergeFrom before (front ++ '\x7b' :: (body ++ '\x7d' :: s)) =
      mergeFrom before front ++ '\x7b' :: (mergeStatements body ++ '\x7d' :: mergeStatements s) := by
  rw [mergeFrom_append_cons (by decide) (by decide), mergeStatements,
    mergeFrom_append_cons (by decide) (by decide)]
  rfl

end BraceTemplate.Tag

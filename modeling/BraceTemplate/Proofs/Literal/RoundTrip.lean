import BraceTemplate.Proofs.Literal.Compile
import Mathlib.Data.List.Forall2

namespace BraceTemplate

open Text

-- A spelling of a word in any case.
def Spells (word spelling : Text) : Prop :=
  List.Forall₂ (fun letter c => sameLetter letter c = true) word spelling

theorem takeWord_eq_some_iff {word s spelling left : Text} :
    takeWord word s = some (spelling, left) ↔ s = spelling ++ left ∧ Spells word spelling := by
  refine ⟨fun h => ⟨(takeWord_eq_some h).1, forall₂_of_takeWord h⟩, ?_⟩
  rintro ⟨rfl, hspells⟩
  induction hspells with
  | nil => rfl
  | cons hletter _ ih => simp [takeWord, hletter, ih]

namespace Vault

theorem takeWord_closingTag {s closing tail : Text} (hs : s = closing ++ tail)
    (h : Spells closingTag closing) : takeWord closingTag s = some (closing, tail) :=
  takeWord_eq_some_iff.mpr ⟨hs, h⟩

theorem closeBlock_of_spells {s closing tail : Text} (hs : s = closing ++ tail)
    (h : Spells closingTag closing) : closeBlock s = some ([], tail) := by
  have hword := takeWord_closingTag hs h
  cases s with
  | nil =>
      have hnone : takeWord closingTag [] = none := rfl
      rw [hnone] at hword
      exact absurd hword (by simp)
  | cons c rest => rw [closeBlock_cons, hword]

-- The content of a block ends at the first closing tag, in any case.
theorem closeBlock_eq_some_iff {s body tail : Text} :
    closeBlock s = some (body, tail) ↔ ∃ closing, s = body ++ (closing ++ tail) ∧
      Spells closingTag closing ∧ ∀ other closing' tail', s = other ++ (closing' ++ tail') →
        Spells closingTag closing' → body.length ≤ other.length := by
  induction s generalizing body with
  | nil =>
      refine ⟨fun h => absurd h (by simp [closeBlock]), ?_⟩
      rintro ⟨closing, hs, hclosing, -⟩
      simp only [List.nil_eq, List.append_eq_nil_iff] at hs
      obtain ⟨-, rfl, -⟩ := hs
      exact absurd hclosing.length_eq (by decide)
  | cons c rest ih =>
      cases hword : takeWord closingTag (c :: rest) with
      | some found =>
          obtain ⟨spelling, left⟩ := found
          obtain ⟨hs, hspells⟩ := takeWord_eq_some_iff.mp hword
          have hhere := closeBlock_of_spells hs hspells
          constructor
          · intro h
            obtain ⟨rfl, rfl⟩ := Prod.mk.inj (Option.some.inj (hhere.symm.trans h))
            exact ⟨spelling, hs, hspells, fun _ _ _ _ _ => Nat.zero_le _⟩
          · rintro ⟨closing, hbody, hclosing, hfirst⟩
            obtain rfl : body = [] := List.length_eq_zero_iff.mp
              (Nat.le_zero.mp (hfirst [] spelling left hs hspells))
            exact closeBlock_of_spells hbody hclosing
      | none =>
          have hnone : ∀ closing tail, c :: rest = closing ++ tail → ¬ Spells closingTag closing :=
            fun closing tail hs h => by simp [takeWord_closingTag hs h] at hword
          rw [closeBlock_cons, hword]
          constructor
          · intro h
            obtain ⟨⟨b, t⟩, hclose, heq⟩ := Option.map_eq_some_iff.mp h
            obtain ⟨rfl, rfl⟩ := Prod.mk.inj heq
            obtain ⟨closing, hrest, hclosing, hfirst⟩ := ih.mp hclose
            refine ⟨closing, congrArg (c :: ·) hrest, hclosing, fun other closing' tail' hs hspells => ?_⟩
            cases other with
            | nil => exact absurd hspells (hnone closing' tail' hs)
            | cons d other =>
                exact Nat.succ_le_succ (hfirst other closing' tail' (List.cons.inj hs).2 hspells)
          · rintro ⟨closing, hs, hclosing, hfirst⟩
            cases body with
            | nil => exact absurd hclosing (hnone closing tail hs)
            | cons d body =>
                obtain ⟨rfl, hrest⟩ := List.cons.inj hs
                have hclose := ih.mpr ⟨closing, hrest, hclosing, fun other closing' tail' hs' hspells =>
                  Nat.le_of_succ_le_succ (hfirst (c :: other) closing' tail'
                    (congrArg (c :: ·) hs') hspells)⟩
                exact Option.map_eq_some_iff.mpr ⟨_, hclose, rfl⟩

-- A block begins with an opening tag, in any case.
theorem find_eq_some_iff {before : Option Char} {s content rest : Text} :
    find before s = some (content, rest) ↔ ∃ opening body, s = opening ++ body ∧
      Spells openingTag opening ∧ closeBlock body = some (content, rest) := by
  constructor
  · intro h
    unfold find at h
    split at h
    · obtain ⟨⟨spelling, body⟩, hword, hclose⟩ := Option.bind_eq_some_iff.mp h
      obtain ⟨rfl, hspells⟩ := takeWord_eq_some_iff.mp hword
      exact ⟨'\x7b' :: spelling, body, rfl, .cons (by decide) hspells, hclose⟩
    · exact absurd h (by simp)
  · rintro ⟨opening, body, rfl, hspells, hclose⟩
    cases opening with
    | nil => exact absurd hspells.length_eq (by decide)
    | cons c spelling =>
        have hcons : Spells ('\x7b' :: "literal\x7d".toList) (c :: spelling) := hspells
        obtain ⟨hbrace, hword⟩ := List.forall₂_cons.mp hcons
        obtain rfl : c = '\x7b' := eq_of_sameLetter rfl hbrace
        have hword : takeWord "literal\x7d".toList (spelling ++ body) = some (spelling, body) :=
          takeWord_eq_some_iff.mpr ⟨rfl, hword⟩
        change (takeWord "literal\x7d".toList (spelling ++ body) >>= fun found => closeBlock found.2) = _
        rw [hword]
        exact hclose

-- A text in which each literal block, the leftmost first, has given way to its escaped content.
def shown (s : Text) : Text :=
  (Piece.scan find s).flatMap fun
    | .char c => [c]
    | .hit content => escape content

-- The contents of the literal blocks of a text.
def contents (s : Text) : List Text :=
  contentsOf (Piece.scan find s)

end Vault

namespace Block

-- Pieces as a text with blocks behind it.
theorem exists_of_pieces (pieces : List (Piece Text)) : ∃ first blocks,
    Vault.bareOf pieces = first ++ fill [] blocks ∧
      Vault.contentsOf pieces = blocks.map content ∧
      (pieces.flatMap fun
        | .char c => [c]
        | .hit content => escape content) = first ++ whole blocks := by
  induction pieces with
  | nil => exact ⟨[], [], rfl, rfl, rfl⟩
  | cons piece pieces ih =>
      obtain ⟨first, blocks, hbare, hcontents, hshown⟩ := ih
      cases piece with
      | char c =>
          exact ⟨c :: first, blocks, congrArg (c :: ·) hbare, hcontents, congrArg (c :: ·) hshown⟩
      | hit content =>
          refine ⟨[], ⟨content, first⟩ :: blocks, ?_, congrArg (content :: ·) hcontents, ?_⟩
          · rw [Vault.bareOf_hit, hbare, fill_cons_of_not_mem List.not_mem_nil, List.nil_append]
          · rw [List.flatMap_cons, hshown, whole_cons, List.nil_append]

end Block

namespace Vault

-- Blocks come back in their places and nothing else changes, as long as different contents have different
-- digests and the digest of a content is not part of what is to come out.
theorem restore_protect (s : Text)
    (hdigest : ∀ a ∈ contents s, ∀ b ∈ contents s, Md5.ofText a = Md5.ofText b → a = b)
    (hfree : ∀ content ∈ contents s, ¬ Md5.ofText content <:+: shown s) :
    (empty.protect s).2.restore (empty.protect s).1 = shown s := by
  obtain ⟨first, blocks, hbare, hcontents, hshown⟩ := Block.exists_of_pieces (Piece.scan find s)
  have hmem : ∀ block ∈ blocks, block.content ∈ contents s := fun block hb => by
    rw [contents, hcontents]
    exact List.mem_map_of_mem hb
  obtain ⟨all, hvault, hall⟩ := exists_of_foldl_put [] (contents s) hdigest
  have hinj : ∀ content ∈ all, ∀ block ∈ blocks,
      Md5.ofText content = Md5.ofText block.content → content = block.content :=
    fun content hc block hb => hdigest content ((hall content).mp hc) _ (hmem block hb)
  have habsent : ∀ content ∈ all, ¬ Md5.ofText content <:+: first ++ Block.whole blocks := by
    intro content hc
    rw [← hshown]
    exact hfree content ((hall content).mp hc)
  have hback : Block.fill (all.reverse ++ []) blocks = Block.whole blocks :=
    Block.fill_eq_whole fun block hb => by simpa using (hall _).mpr (hmem block hb)
  rw [protect_eq, hbare]
  calc ((contents s).foldl put empty).restore (first ++ Block.fill [] blocks)
      = (all.map entry).foldl (fun text e => Text.replaceAll e.1 e.2 text)
          (first ++ Block.fill [] blocks) := by
        rw [restore, ← hvault]
        rfl
    _ = first ++ Block.fill (all.reverse ++ []) blocks := foldl_replaceAll hinj habsent []
    _ = shown s := by rw [hback, shown, hshown]

-- Two blocks with other letters in their tags, and one without content.
theorem restore_protect_three_blocks :
    let s := "a\x7bLITERAL\x7d<\x7b/literal\x7db\x7bliteral\x7d\x7b/Literal\x7d".toList ++
      "\x7bliteral\x7d\x7b$x\x7d\x7b/literal\x7d".toList
    (empty.protect s).2.restore (empty.protect s).1 = "a&lt;b\x7b$x\x7d".toList := by
  intro s
  have hdigest : ∀ a ∈ contents s, ∀ b ∈ contents s, Md5.ofText a = Md5.ofText b → a = b := by
    decide +kernel
  have hfree : ∀ content ∈ contents s, ¬ Md5.ofText content <:+: shown s := by decide +kernel
  exact (restore_protect s hdigest hfree).trans (by decide +kernel)

-- A block that holds the placeholder of another block, and a text that does so outside of all blocks.
theorem restore_protect_placeholder :
    let inside := "\x7bliteral\x7d".toList ++ placeholder ['x'] ++
      "\x7b/literal\x7d\x7bliteral\x7dx\x7b/literal\x7d".toList
    let outside := "\x7bliteral\x7dx\x7b/literal\x7d".toList ++ placeholder ['x']
    (∀ a ∈ contents inside, ∀ b ∈ contents inside, Md5.ofText a = Md5.ofText b → a = b) ∧
      shown inside = placeholder ['x'] ++ ['x'] ∧
      (empty.protect inside).2.restore (empty.protect inside).1 = ['x', 'x'] ∧
      contents outside = [['x']] ∧
      shown outside = 'x' :: placeholder ['x'] ∧
      (empty.protect outside).2.restore (empty.protect outside).1 = ['x', 'x'] := by
  decide +kernel

end Vault

end BraceTemplate

import BraceTemplate.Proofs.Flat.Segment
import BraceTemplate.Tag.Vault
import Mathlib.Data.List.Infix

namespace BraceTemplate

open Text

theorem Md5.hexDigit_mem (n : Nat) : hexDigit n ∈ "0123456789abcdef".toList := by
  by_cases hn : n < 16
  · revert n
    decide
  · have h : hexDigit n = '0' := by
      rw [hexDigit, List.getD_eq_getElem?_getD, List.getElem?_eq_none] <;> simp
      omega
    rw [h]
    decide

theorem Md5.mem_of_mem_ofText {s : Text} {c : Char} (h : c ∈ ofText s) :
    c ∈ "0123456789abcdef".toList := by
  obtain ⟨byte, -, hc⟩ := List.mem_flatMap.mp h
  simp only [List.mem_cons, List.not_mem_nil, or_false] at hc
  rcases hc with rfl | rfl
  · exact hexDigit_mem _
  · exact hexDigit_mem _

-- What stands between the two signs of a placeholder.
def labelOf (digest : Text) : Text := "literal:".toList ++ digest

theorem placeholder_eq (content : Text) :
    placeholder content = '#' :: (labelOf (Md5.ofText content) ++ ['#']) := rfl

theorem mem_labelOf {content : Text} {c : Char} (h : c ∈ labelOf (Md5.ofText content)) :
    c ∈ "literal:0123456789abcdef".toList := by
  have hsplit : "literal:0123456789abcdef".toList =
      "literal:".toList ++ "0123456789abcdef".toList := by decide
  rw [hsplit]
  rcases List.mem_append.mp h with h | h
  · exact List.mem_append_left _ h
  · exact List.mem_append_right _ (Md5.mem_of_mem_ofText h)

theorem sign_not_mem_labelOf (content : Text) : '#' ∉ labelOf (Md5.ofText content) :=
  fun h => absurd (mem_labelOf h) (by decide)

theorem mem_placeholder {content : Text} {c : Char} (h : c ∈ placeholder content) :
    c ∈ "#literal:0123456789abcdef".toList := by
  have hsplit : "#literal:0123456789abcdef".toList =
      '#' :: "literal:0123456789abcdef".toList := by decide
  rw [placeholder_eq, List.mem_cons, List.mem_append, List.mem_singleton] at h
  rw [hsplit, List.mem_cons]
  rcases h with h | h | h
  · exact Or.inl h
  · exact Or.inr (mem_labelOf h)
  · exact Or.inl h

theorem braceFree_placeholder (content : Text) : BraceFree (placeholder content) :=
  fun c hc => (show BraceFree "#literal:0123456789abcdef".toList by decide) c (mem_placeholder hc)

namespace Text

variable {old new : Text}

theorem replaceFrom_skip (s rest : Text) :
    replaceFrom old new s.length (s ++ rest) = replaceFrom old new 0 rest := by
  induction s with
  | nil => rfl
  | cons c s ih => simpa [replaceFrom] using ih

theorem replaceAll_append_self (ho : old ≠ []) (rest : Text) :
    replaceAll old new (old ++ rest) = new ++ replaceAll old new rest := by
  obtain ⟨c, s, rfl⟩ := List.exists_cons_of_ne_nil ho
  have hp : (c :: s).isPrefixOf (c :: (s ++ rest)) = true := by
    rw [List.isPrefixOf_iff_prefix]
    exact ⟨rest, rfl⟩
  simp only [replaceAll, List.cons_append, replaceFrom, hp, List.isEmpty_cons, Bool.not_false,
    Bool.and_self, if_true, List.length_cons, Nat.add_sub_cancel, replaceFrom_skip]

theorem replaceAll_cons {c : Char} {rest : Text} (h : ¬ old <+: c :: rest) :
    replaceAll old new (c :: rest) = c :: replaceAll old new rest := by
  have hp : old.isPrefixOf (c :: rest) = false := by
    rw [← Bool.not_eq_true, List.isPrefixOf_iff_prefix]
    exact h
  simp [replaceAll, replaceFrom, hp]

@[simp] theorem replaceAll_nil : replaceAll old new [] = [] := rfl

theorem replaceAll_append_of_not_mem {c : Char} {left : Text} (ho : old = c :: left) {s : Text}
    (hs : c ∉ s) (rest : Text) : replaceAll old new (s ++ rest) = s ++ replaceAll old new rest := by
  induction s with
  | nil => rfl
  | cons d s ih =>
      simp only [List.mem_cons, not_or] at hs
      have h : ¬ old <+: d :: (s ++ rest) := by
        rintro ⟨t, ht⟩
        rw [ho, List.cons_append, List.cons.injEq] at ht
        exact hs.1 ht.1
      rw [List.cons_append, replaceAll_cons h, ih hs.2]
      rfl

end Text

-- A text without signs up to a sign is found whole before the next sign of another text.
theorem prefix_of_prefix_append {label s rest : Text} (hl : '#' ∉ label)
    (hrest : rest = [] ∨ rest.head? = some '#') (h : label ++ ['#'] <+: s ++ rest) : label <+: s := by
  induction label generalizing s with
  | nil => exact List.nil_prefix
  | cons c label ih =>
      simp only [List.mem_cons, not_or] at hl
      cases s with
      | nil =>
          obtain ⟨t, ht⟩ := h
          rcases hrest with rfl | hrest
          · simp at ht
          · rw [List.nil_append] at ht
            rw [← ht] at hrest
            exact absurd (by simpa using hrest) (Ne.symm hl.1)
      | cons d s =>
          simp only [List.cons_append, List.cons_prefix_cons] at h ⊢
          exact ⟨h.1, ih hl.2 h.2⟩

-- A placeholder that begins within a text holds its digest within that text.
theorem infix_of_placeholder_start {content h rest : Text} (hh : h ≠ [])
    (hrest : rest = [] ∨ rest.head? = some '#') (hp : placeholder content <+: h ++ rest) :
    Md5.ofText content <:+: h.tail := by
  obtain ⟨c, h, rfl⟩ := List.exists_cons_of_ne_nil hh
  rw [placeholder_eq, List.cons_append, List.cons_prefix_cons] at hp
  have hlabel := prefix_of_prefix_append (sign_not_mem_labelOf content) hrest hp.2
  have hdigest : Md5.ofText content <:+: labelOf (Md5.ofText content) :=
    (List.suffix_append _ _).isInfix
  exact hdigest.trans hlabel.isInfix

theorem digest_eq_of_placeholder_start {a b rest : Text}
    (h : placeholder a <+: placeholder b ++ rest) : Md5.ofText a = Md5.ofText b := by
  simp only [placeholder_eq, List.cons_append, List.append_assoc, List.cons_prefix_cons,
    List.nil_append] at h
  obtain ⟨t, ht⟩ := prefix_of_prefix_append (sign_not_mem_labelOf a) (Or.inr rfl) h.2
  have hb := sign_not_mem_labelOf b
  have hnil : t = [] := by
    cases t with
    | nil => rfl
    | cons c t =>
        rw [← ht, List.append_assoc, List.prefix_append_right_inj] at h
        simp only [List.cons_append, List.cons_prefix_cons] at h
        rw [← ht] at hb
        simp [← h.2.1] at hb
  rw [hnil, List.append_nil] at ht
  exact List.append_cancel_left ht

-- A text with literal blocks, each followed by a text without.
structure Block where
  content : Text
  text : Text

namespace Block

-- The text behind the first block with the blocks that are `back` in their places, the others still
-- behind their placeholders.
def fill (back : List Text) (blocks : List Block) : Text :=
  blocks.flatMap fun block =>
    (if block.content ∈ back then escape block.content else placeholder block.content) ++ block.text

-- The same when all are back.
def whole (blocks : List Block) : Text :=
  blocks.flatMap fun block => escape block.content ++ block.text

theorem fill_cons_of_mem {back : List Text} {block : Block} (h : block.content ∈ back)
    (blocks : List Block) :
    fill back (block :: blocks) = escape block.content ++ (block.text ++ fill back blocks) := by
  simp [fill, h]

theorem fill_cons_of_not_mem {back : List Text} {block : Block} (h : block.content ∉ back)
    (blocks : List Block) :
    fill back (block :: blocks) = placeholder block.content ++ (block.text ++ fill back blocks) := by
  simp [fill, h]

theorem whole_cons (block : Block) (blocks : List Block) :
    whole (block :: blocks) = escape block.content ++ (block.text ++ whole blocks) := by
  simp [whole]

theorem fill_eq_whole {back : List Text} {blocks : List Block}
    (h : ∀ block ∈ blocks, block.content ∈ back) : fill back blocks = whole blocks := by
  induction blocks with
  | nil => rfl
  | cons block blocks ih =>
      have ih := ih fun b hb => h b (List.mem_cons_of_mem _ hb)
      rw [fill_cons_of_mem (h block (by simp)), whole_cons, ih]

-- Up to the next placeholder everything is back.
theorem exists_of_fill (back : List Text) (blocks : List Block) :
    ∃ s left rest, fill back blocks = s ++ rest ∧ whole blocks = s ++ left ∧
      (rest = [] ∨ rest.head? = some '#') := by
  induction blocks with
  | nil => exact ⟨[], [], [], rfl, rfl, Or.inl rfl⟩
  | cons block blocks ih =>
      by_cases hb : block.content ∈ back
      · obtain ⟨s, left, rest, hfill, hwhole, hrest⟩ := ih
        refine ⟨escape block.content ++ (block.text ++ s), left, rest, ?_, ?_, hrest⟩
        · rw [fill_cons_of_mem hb, hfill]
          simp only [List.append_assoc]
        · rw [whole_cons, hwhole]
          simp only [List.append_assoc]
      · refine ⟨[], whole (block :: blocks), fill back (block :: blocks), rfl, rfl, Or.inr ?_⟩
        rw [fill_cons_of_not_mem hb]
        rfl

-- No placeholder begins within a text in which its digest is not found.
theorem not_prefix_fill {content h : Text} (hh : h ≠ []) (back : List Text) {blocks : List Block}
    (hfree : ¬ Md5.ofText content <:+: h.tail ++ whole blocks) :
    ¬ placeholder content <+: h ++ fill back blocks := by
  intro hp
  obtain ⟨s, left, rest, hfill, hwhole, hrest⟩ := exists_of_fill back blocks
  rw [hfill, ← List.append_assoc] at hp
  have hinfix := infix_of_placeholder_start (by simp [hh]) hrest hp
  rw [List.tail_append_of_ne_nil hh] at hinfix
  apply hfree
  rw [hwhole, ← List.append_assoc]
  exact hinfix.trans (List.prefix_append _ _).isInfix

theorem replaceAll_append_fill {content : Text} (new : Text) (back : List Text) (s : Text)
    {blocks : List Block} (hfree : ¬ Md5.ofText content <:+: s ++ whole blocks) :
    Text.replaceAll (placeholder content) new (s ++ fill back blocks) =
      s ++ Text.replaceAll (placeholder content) new (fill back blocks) := by
  induction s with
  | nil => rfl
  | cons c s ih =>
      have hs : ¬ Md5.ofText content <:+: s ++ whole blocks :=
        fun hi => hfree (hi.trans (List.suffix_cons c _).isInfix)
      have hnext := not_prefix_fill (h := c :: s) (by simp) back hs
      rw [List.cons_append] at hnext
      rw [List.cons_append, replaceAll_cons hnext, ih hs]
      rfl

-- Putting one block back touches its own placeholders and nothing else.
theorem replaceAll_fill {content : Text} {back : List Text} {blocks : List Block}
    (hinj : ∀ block ∈ blocks, Md5.ofText content = Md5.ofText block.content →
      content = block.content)
    (hfree : ¬ Md5.ofText content <:+: whole blocks) :
    Text.replaceAll (placeholder content) (escape content) (fill back blocks) =
      fill (content :: back) blocks := by
  induction blocks with
  | nil => rfl
  | cons block blocks ih =>
      have hrest : ¬ Md5.ofText content <:+: block.text ++ whole blocks := by
        intro hi
        apply hfree
        rw [whole_cons]
        exact hi.trans (List.suffix_append _ _).isInfix
      have hblocks : ¬ Md5.ofText content <:+: whole blocks :=
        fun hi => hrest (hi.trans (List.suffix_append _ _).isInfix)
      have ih := ih (fun b hb => hinj b (List.mem_cons_of_mem _ hb)) hblocks
      have htext := replaceAll_append_fill (escape content) back block.text hrest
      by_cases hb : block.content ∈ back
      · rw [fill_cons_of_mem hb, fill_cons_of_mem (List.mem_cons_of_mem _ hb), ← List.append_assoc,
          replaceAll_append_fill _ _ _ (by rwa [whole_cons, ← List.append_assoc] at hfree), ih,
          List.append_assoc]
      · by_cases hown : block.content = content
        · have hne : placeholder content ≠ [] := by simp [placeholder_eq]
          rw [fill_cons_of_not_mem hb, fill_cons_of_mem (by simp [hown]), hown,
            replaceAll_append_self hne, htext, ih]
        · have hother : block.content ∉ content :: back := by simp [hown, hb]
          have hstart : ¬ placeholder content <+:
              placeholder block.content ++ (block.text ++ fill back blocks) := fun hp =>
            hown (hinj block (by simp) (digest_eq_of_placeholder_start hp)).symm
          have hend := not_prefix_fill (h := '#' :: block.text) (by simp) back hrest
          rw [fill_cons_of_not_mem hb, fill_cons_of_not_mem hother]
          rw [placeholder_eq block.content] at hstart ⊢
          simp only [List.cons_append, List.append_assoc, List.nil_append] at hstart hend ⊢
          rw [replaceAll_cons hstart,
            replaceAll_append_of_not_mem (placeholder_eq content) (sign_not_mem_labelOf _),
            replaceAll_cons hend, htext, ih]

end Block

namespace Vault

def entry (content : Text) : Text × Text :=
  (placeholder content, escape content)

theorem placeholder_eq_iff {a b : Text} :
    placeholder a = placeholder b ↔ Md5.ofText a = Md5.ofText b := by
  refine ⟨fun h => ?_, fun h => by rw [placeholder_eq, placeholder_eq, h]⟩
  have hp : placeholder a <+: placeholder b ++ [] := by
    rw [List.append_nil, h]
  exact digest_eq_of_placeholder_start hp

-- A block that is there already is put in its own place again.
theorem insertBlock_entry {content : Text} {contents : List Text}
    (hinj : ∀ c ∈ contents, Md5.ofText c = Md5.ofText content → c = content) :
    insertBlock (placeholder content) (escape content) (contents.map entry) =
      if content ∈ contents then contents.map entry else (contents ++ [content]).map entry := by
  induction contents with
  | nil => rfl
  | cons c contents ih =>
      have ih := ih fun d hd => hinj d (List.mem_cons_of_mem _ hd)
      simp only [List.map_cons, entry, insertBlock, placeholder_eq_iff]
      by_cases hd : Md5.ofText c = Md5.ofText content
      · obtain rfl := hinj c (by simp) hd
        simp
      · have hne : content ≠ c := fun h => hd (by rw [h])
        simp only [if_neg hd, List.mem_cons, hne, false_or] at ih ⊢
        rw [ih]
        split <;> rfl

-- A vault holds an entry for each content that was put in it.
theorem exists_of_foldl_put (contents put : List Text)
    (hinj : ∀ a ∈ contents ++ put, ∀ b ∈ contents ++ put, Md5.ofText a = Md5.ofText b → a = b) :
    ∃ all : List Text, (put.foldl Vault.put ⟨contents.map entry⟩).blocks = all.map entry ∧
      ∀ c, c ∈ all ↔ c ∈ contents ++ put := by
  induction put generalizing contents with
  | nil => exact ⟨contents, rfl, by simp⟩
  | cons content put ih =>
      have hinsert := insertBlock_entry fun c (hc : c ∈ contents) h =>
        hinj c (by simp [hc]) content (by simp) h
      rw [List.foldl_cons, Vault.put, hinsert]
      split
      · next hc =>
        obtain ⟨all, hall, hmem⟩ := ih contents fun a ha b hb =>
          hinj a (by grind) b (by grind)
        exact ⟨all, hall, fun c => by rw [hmem]; grind⟩
      · obtain ⟨all, hall, hmem⟩ := ih (contents ++ [content]) fun a ha b hb =>
          hinj a (by grind) b (by grind)
        exact ⟨all, hall, fun c => by rw [hmem]; grind⟩

-- Each block comes back in its places, one after the other.
theorem foldl_replaceAll {first : Text} {blocks : List Block} {contents : List Text}
    (hinj : ∀ c ∈ contents, ∀ block ∈ blocks, Md5.ofText c = Md5.ofText block.content →
      c = block.content)
    (hfree : ∀ c ∈ contents, ¬ Md5.ofText c <:+: first ++ Block.whole blocks) (back : List Text) :
    (contents.map entry).foldl (fun text (key, content) => Text.replaceAll key content text)
      (first ++ Block.fill back blocks) = first ++ Block.fill (contents.reverse ++ back) blocks := by
  induction contents generalizing back with
  | nil => rfl
  | cons content contents ih =>
      have hfirst := hfree content (by simp)
      have hblocks : ¬ Md5.ofText content <:+: Block.whole blocks :=
        fun hi => hfirst (hi.trans (List.suffix_append _ _).isInfix)
      have ih := ih (fun c hc => hinj c (List.mem_cons_of_mem _ hc))
        (fun c hc => hfree c (List.mem_cons_of_mem _ hc)) (content :: back)
      simp only [List.map_cons, List.foldl_cons, entry,
        Block.replaceAll_append_fill _ _ first hfirst, Block.replaceAll_fill (hinj content (by simp)) hblocks]
      rw [ih]
      simp

end Vault

end BraceTemplate

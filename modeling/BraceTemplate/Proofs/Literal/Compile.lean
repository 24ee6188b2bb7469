import BraceTemplate.Proofs.Flat.Plain
import BraceTemplate.Proofs.Literal.Restore

namespace BraceTemplate

open Text Segment

theorem takeWord_self {word : Text} (hw : ∀ l ∈ word, sameLetter l l = true) (rest : Text) :
    takeWord word (word ++ rest) = some (word, rest) := by
  induction word with
  | nil => rfl
  | cons l word ih =>
      have hl := hw l (by simp)
      have ih := ih fun d hd => hw d (List.mem_cons_of_mem _ hd)
      simp [takeWord, hl, ih]

-- A word whose first letter alone could be `stop` does not begin before `stop` and end behind it.
theorem takeWord_cons_append {l c stop : Char} {word s : Text}
    (hw : ∀ d ∈ word, sameLetter d stop = false) (h : takeWord (l :: word) (c :: s) = none)
    (rest : Text) : takeWord (l :: word) (c :: (s ++ stop :: rest)) = none := by
  by_cases hc : sameLetter l c
  · simp only [takeWord, hc, if_true, Option.map_eq_none_iff] at h ⊢
    rw [takeWord_append_cons word s rest hw, h, Option.map_none]
  · simp [takeWord, hc]

namespace Vault

def openingTag : Text := "\x7bliteral\x7d".toList

def closingTag : Text := "\x7b/literal\x7d".toList

theorem closeBlock_cons (c : Char) (rest : Text) :
    closeBlock (c :: rest) =
      match takeWord closingTag (c :: rest) with
      | some (_, tail) => some ([], tail)
      | none => (closeBlock rest).map fun (body, tail) => (c :: body, tail) :=
  rfl

-- No closing tag begins within a content that has none and ends behind it.
theorem closeBlock_append {content : Text} (h : closeBlock content = none) (rest : Text) :
    closeBlock (content ++ (closingTag ++ rest)) = some (content, rest) := by
  have htag : closingTag = '\x7b' :: "/literal\x7d".toList := rfl
  induction content with
  | nil =>
      have hself : takeWord closingTag (closingTag ++ rest) = some (closingTag, rest) :=
        takeWord_self (by decide) rest
      simp only [htag, List.cons_append, List.nil_append] at hself ⊢
      rw [closeBlock_cons, htag, hself]
  | cons c content ih =>
      rw [closeBlock] at h
      split at h
      · simp at h
      · next hnone =>
        have hrest : closeBlock content = none := by simpa using h
        have hopen : takeWord closingTag (c :: (content ++ (closingTag ++ rest))) = none := by
          rw [htag]
          exact takeWord_cons_append (by decide) hnone _
        have ih := ih hrest
        rw [List.cons_append, closeBlock_cons, hopen]
        simp only [ih, Option.map_some]

theorem find_block {content : Text} (h : closeBlock content = none) (before : Option Char)
    (rest : Text) :
    find before (openingTag ++ (content ++ (closingTag ++ rest))) = some (content, rest) := by
  have hword : takeWord "literal\x7d".toList
      ("literal\x7d".toList ++ (content ++ (closingTag ++ rest))) =
        some ("literal\x7d".toList, content ++ (closingTag ++ rest)) :=
    takeWord_self (by decide) _
  change find before ('\x7b' :: ("literal\x7d".toList ++ (content ++ (closingTag ++ rest)))) = _
  simp only [find, hword, Option.bind_eq_bind, Option.bind_some, closeBlock_append h]

theorem suffix_of_closeBlock {s body tail : Text} (h : closeBlock s = some (body, tail)) :
    tail <:+ s := by
  induction s generalizing body with
  | nil => simp [closeBlock] at h
  | cons c s ih =>
      rw [closeBlock] at h
      split at h
      · next spelling left hword =>
        simp only [Option.some.injEq, Prod.mk.injEq] at h
        obtain ⟨-, rfl⟩ := h
        rw [(takeWord_eq_some hword).1]
        exact List.suffix_append spelling left
      · simp only [Option.map_eq_some_iff, Prod.mk.injEq, Prod.exists] at h
        obtain ⟨b, t, hclose, -, rfl⟩ := h
        exact (ih hclose).trans (List.suffix_cons c s)

-- What follows a block stands behind the brace that the block starts with.
theorem suffix_of_find {before : Option Char} {s content after : Text}
    (h : find before s = some (content, after)) : ∃ rest, s = '\x7b' :: rest ∧ after <:+ rest := by
  unfold find at h
  split at h
  · simp only [Option.bind_eq_bind, Option.bind_eq_some_iff, Prod.exists] at h
    obtain ⟨spelling, left, hword, hclose⟩ := h
    refine ⟨_, rfl, (suffix_of_closeBlock hclose).trans ?_⟩
    rw [(takeWord_eq_some hword).1]
    exact List.suffix_append spelling left
  · simp at h

theorem consumes_find : Piece.Consumes find := by
  intro before s content after h
  obtain ⟨rest, rfl, hafter⟩ := suffix_of_find h
  have hlen := hafter.length_le
  simp only [List.length_cons]
  omega

end Vault

namespace Block

def spell (block : Block) : Text :=
  Vault.openingTag ++ (block.content ++ (Vault.closingTag ++ block.text))

-- A text with the blocks behind it, as it is written.
def source (first : Text) (blocks : List Block) : Text :=
  first ++ blocks.flatMap spell

theorem cut_source {first : Text} {blocks : List Block}
    (hplain : ∀ s ∈ first :: blocks.map text, s.Plain)
    (hclosed : ∀ block ∈ blocks, Vault.closeBlock block.content = none) (before : Option Char) :
    Piece.cut Vault.find before (source first blocks) =
      first.map .char ++ blocks.flatMap fun block => .hit block.content :: block.text.map .char := by
  induction blocks generalizing first before with
  | nil =>
      have hfirst := hplain first (by simp)
      obtain ⟨segments, hs, rfl⟩ := hfirst.exists_segments
      obtain ⟨last, hcut⟩ :=
        Vault.cut_spellAll hs ((Text.plain_spellAll_iff hs).mp hfirst).1 before []
      simpa [source] using hcut
  | cons block blocks ih =>
      have hfirst := hplain first (by simp)
      obtain ⟨segments, hs, rfl⟩ := hfirst.exists_segments
      have hrest := @ih block.text (fun s hm => hplain s (List.mem_cons_of_mem _ hm))
        (fun b hb => hclosed b (List.mem_cons_of_mem _ hb)) none
      obtain ⟨last, hcut⟩ := Vault.cut_spellAll hs ((Text.plain_spellAll_iff hs).mp hfirst).1 before
        (spell block ++ blocks.flatMap spell)
      have hhit := Vault.find_block (hclosed block (by simp)) last (source block.text blocks)
      have hblock : spell block ++ blocks.flatMap spell =
          Vault.openingTag ++ (block.content ++ (Vault.closingTag ++ source block.text blocks)) := by
        simp [spell, source]
      rw [hblock, Piece.cut_of_some Vault.consumes_find hhit, hrest] at hcut
      simp only [source, List.flatMap_cons] at hblock ⊢
      rw [hblock]
      simpa [source] using hcut

theorem fill_nil_eq (blocks : List Block) :
    fill [] blocks = blocks.flatMap fun block => placeholder block.content ++ block.text := by
  simp [fill]

theorem protect_source {first : Text} {blocks : List Block}
    (hplain : ∀ s ∈ first :: blocks.map text, s.Plain)
    (hclosed : ∀ block ∈ blocks, Vault.closeBlock block.content = none) (v : Vault) :
    v.protect (source first blocks) =
      (first ++ fill [] blocks, (blocks.map content).foldl Vault.put v) := by
  have hbare : ∀ blocks : List Block, Vault.bareOf (blocks.flatMap fun block =>
      .hit block.content :: block.text.map .char) = fill [] blocks := by
    intro blocks
    induction blocks with
    | nil => rfl
    | cons block blocks ih =>
        rw [fill_cons_of_not_mem (by simp), ← ih, List.flatMap_cons, List.cons_append,
          Vault.bareOf_hit, Vault.bareOf_append, Vault.bareOf_chars]
  have hcontents : ∀ blocks : List Block, Vault.contentsOf (blocks.flatMap fun block =>
      .hit block.content :: block.text.map .char) = blocks.map content := by
    intro blocks
    induction blocks with
    | nil => rfl
    | cons block blocks ih =>
        rw [List.map_cons, ← ih, List.flatMap_cons, List.cons_append, Vault.contentsOf_hit,
          Vault.contentsOf_append, Vault.contentsOf_chars, List.nil_append]
  rw [Vault.protect_eq, Piece.scan_eq_cut, cut_source hplain hclosed, Vault.bareOf_append,
    Vault.bareOf_chars, Vault.contentsOf_append, Vault.contentsOf_chars, hbare, hcontents,
    List.nil_append]

-- The blocks with host texts behind them.
def mapText (host : Text → Text) (block : Block) : Block :=
  { block with text := host block.text }

end Block

namespace Tag

-- Statements are merged neither into a placeholder nor across it.
theorem mergeStatements_placeholder (s content rest : Text) :
    mergeStatements (s ++ (placeholder content ++ rest)) =
      mergeStatements s ++ (placeholder content ++ mergeStatements rest) := by
  have hlabel : '?' ∉ labelOf (Md5.ofText content) :=
    fun h => absurd (mem_labelOf h) (by decide)
  rw [placeholder_eq]
  simp only [List.cons_append, List.append_assoc, List.nil_append]
  rw [mergeStatements, mergeFrom_append_cons (by decide) (by decide), mergeStatements,
    mergeFrom_append_cons (by decide) (by decide), mergeFrom_eq_self hlabel]
  rfl

end Tag

namespace Compiler

variable {c : Compiler} {fs : FileSystem}

-- Texts between placeholders are translated each on its own.
theorem exists_translate_fill (hc : c.extensions = []) {blocks : List Block} {host : Text → Text}
    (h : ∀ block ∈ blocks, block.text.Plain ∧ c.compile fs block.text = .ok (host block.text)) :
    ∃ segments x, SoundAll segments ∧ spellAll segments = Block.fill [] blocks ∧
      (∀ body, .group body ∈ segments → Tag.readInsertion body = none) ∧
      Tag.translate segments = .ok x ∧
      ∀ s, Tag.mergeStatements (s ++ x) =
        Tag.mergeStatements s ++ Block.fill [] (blocks.map (Block.mapText host)) := by
  induction blocks with
  | nil => exact ⟨[], [], soundAll_nil, rfl, by simp, rfl, by simp [Block.fill]⟩
  | cons block blocks ih =>
      obtain ⟨segments, x, hs, he, hn, hx, hmerge⟩ := ih fun b hb => h b (List.mem_cons_of_mem _ hb)
      obtain ⟨hplain, hcompile⟩ := h block (by simp)
      obtain ⟨inner, hinner, htext⟩ := hplain.exists_segments
      rw [← htext] at hplain hcompile
      obtain ⟨y, hy, hhost⟩ := (compile_spellAll_eq_ok_iff hc hinner hplain).mp hcompile
      have hmark := soundAll_chars (braceFree_placeholder block.content)
      refine ⟨chars (placeholder block.content) ++ (inner ++ segments),
        placeholder block.content ++ (y ++ x), by simp [hmark, hinner, hs], ?_, ?_, ?_, ?_⟩
      · rw [Block.fill_cons_of_not_mem (by simp), spellAll_append, spellAll_append, spellAll_chars,
          htext, he]
      · intro body hm
        have hm : .group body ∈ inner ∨ .group body ∈ segments := by simpa [chars] using hm
        exact hm.elim (((Text.plain_spellAll_iff hinner).mp hplain).2 body) (hn body)
      · exact Tag.translate_append_eq_ok.mpr ⟨_, _, Tag.translate_chars _,
          Tag.translate_append_eq_ok.mpr ⟨y, x, hy, hx, rfl⟩, rfl⟩
      · intro s
        rw [Tag.mergeStatements_placeholder, hmerge, List.map_cons,
          Block.fill_cons_of_not_mem (by simp), ← hhost, htext]
        rfl

-- Literal blocks pass through untouched: the host text is that of the texts around them with the
-- escaped contents in between. No rule reads a block, no white space is taken out across one, and
-- each placeholder gives way to its own block and to nothing else.
theorem compile_literals (hc : c.extensions = []) (fs : FileSystem) {first : Text}
    {blocks : List Block} {host : Text → Text} {whole : Text}
    (hplain : ∀ s ∈ first :: blocks.map Block.text, s.Plain ∧ c.compile fs s = .ok (host s))
    (hclosed : ∀ block ∈ blocks, Vault.closeBlock block.content = none)
    (hwhole : whole =
      host first ++ blocks.flatMap fun block => escape block.content ++ host block.text)
    (hdigest : ∀ a ∈ blocks, ∀ b ∈ blocks,
      Md5.ofText a.content = Md5.ofText b.content → a.content = b.content)
    (hfree : ∀ block ∈ blocks, ¬ Md5.ofText block.content <:+: whole) :
    c.compile fs (Block.source first blocks) = .ok whole := by
  obtain ⟨hfirst, hcompile⟩ := hplain first (by simp)
  obtain ⟨front, hfront, rfl⟩ := hfirst.exists_segments
  obtain ⟨y, hy, hhost⟩ := (compile_spellAll_eq_ok_iff hc hfront hfirst).mp hcompile
  obtain ⟨segments, x, hs, he, hn, hx, hmerge⟩ :=
    exists_translate_fill hc fun (block : Block) (hb : block ∈ blocks) =>
      hplain block.text (by simp; grind)
  have hprotect := Block.protect_source (fun s hm => (hplain s hm).1) hclosed .empty
  rw [← he, ← spellAll_append] at hprotect
  obtain ⟨contents, hvault, hmem⟩ :=
    Vault.exists_of_foldl_put [] (blocks.map Block.content) (by
      rw [List.nil_append]
      intro a ha b hb
      obtain ⟨blockA, hblockA, rfl⟩ := List.mem_map.mp ha
      obtain ⟨blockB, hblockB, rfl⟩ := List.mem_map.mp hb
      exact hdigest blockA hblockA blockB hblockB)
  have hcontents : ∀ content ∈ contents, ∃ block ∈ blocks, block.content = content :=
    fun content hm => List.mem_map.mp (by simpa using (hmem content).mp hm)
  have hback : whole = host (spellAll front) ++ Block.whole (blocks.map (Block.mapText host)) := by
    rw [hwhole, Block.whole, List.flatMap_map]
    rfl
  have hinj : ∀ content ∈ contents, ∀ block ∈ blocks.map (Block.mapText host),
      Md5.ofText content = Md5.ofText block.content → content = block.content := by
    intro content hm block hb
    obtain ⟨own, hown, rfl⟩ := hcontents content hm
    obtain ⟨other, hother, rfl⟩ := List.mem_map.mp hb
    exact hdigest own hown other hother
  have habsent : ∀ content ∈ contents, ¬ Md5.ofText content <:+:
      host (spellAll front) ++ Block.whole (blocks.map (Block.mapText host)) := by
    intro content hm
    obtain ⟨own, hown, rfl⟩ := hcontents content hm
    rw [← hback]
    exact hfree own hown
  have hfill : Block.fill (contents.reverse ++ []) (blocks.map (Block.mapText host)) =
      Block.whole (blocks.map (Block.mapText host)) := by
    refine Block.fill_eq_whole fun block hb => ?_
    obtain ⟨own, hown, rfl⟩ := List.mem_map.mp hb
    have : own.content ∈ contents := (hmem _).mpr (by simpa using ⟨own, hown, rfl⟩)
    simpa [Block.mapText] using this
  rw [compile_eq_ok_iff_of_protect hc ((soundAll_append front segments).mpr ⟨hfront, hs⟩)
    (fun body hm =>
      (List.mem_append.mp hm).elim (((Text.plain_spellAll_iff hfront).mp hfirst).2 body) (hn body))
    hprotect]
  refine ⟨y ++ x, Tag.translate_append_eq_ok.mpr ⟨y, x, hy, hx, rfl⟩, ?_⟩
  rw [hmerge, ← hhost, Vault.restore, Vault.empty]
  simp only [List.map_nil] at hvault
  rw [hvault, Vault.foldl_replaceAll hinj habsent, hfill, hback]

-- Two blocks, of which one holds a tag and the other what means something in markup.
theorem compile_literals_two_blocks :
    Compiler.compile ⟨default, defaultMaxDepth, [], defaultRoom⟩ (.ofFiles fun _ => none)
      (Block.source "a".toList [⟨"\x7b$x\x7d".toList, "b".toList⟩, ⟨"<".toList, []⟩]) =
      .ok "a\x7b$x\x7db&lt;".toList := by
  let blocks : List Block := [⟨"\x7b$x\x7d".toList, "b".toList⟩, ⟨"<".toList, []⟩]
  have hplain : ∀ s ∈ "a".toList :: blocks.map Block.text, Plain s ∧
      Compiler.compile ⟨default, defaultMaxDepth, [], defaultRoom⟩ (.ofFiles fun _ => none) s =
        .ok (id s) := by
    simp only [blocks, List.map_cons, List.map_nil, List.mem_cons, List.not_mem_nil, or_false,
      forall_eq_or_imp, forall_eq]
    exact ⟨⟨by decide, rfl⟩, ⟨by decide, rfl⟩, by decide, rfl⟩
  have hclosed : ∀ block ∈ blocks, Vault.closeBlock block.content = none := by decide
  have hdigest : ∀ a ∈ blocks, ∀ b ∈ blocks,
      Md5.ofText a.content = Md5.ofText b.content → a.content = b.content := by decide +kernel
  have hfree : ∀ block ∈ blocks,
      ¬ Md5.ofText block.content <:+: "a\x7b$x\x7db&lt;".toList := by decide +kernel
  exact compile_literals rfl _ hplain hclosed (by decide) hdigest hfree

end Compiler

end BraceTemplate

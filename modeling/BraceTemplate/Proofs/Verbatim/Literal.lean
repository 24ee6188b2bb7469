import BraceTemplate.Proofs.Verbatim.Plain

namespace BraceTemplate

open Text Segment

section Escape

variable {content : Text}

theorem escapeChar_cases (c : Char) :
    (∀ d ∈ escapeChar c, d ∈ "&amp;&lt;&gt;&#34;&#39;".toList) ∨ (c ≠ '<' ∧ escapeChar c = [c]) := by
  by_cases hc : c ∈ ['&', '<', '>', '"', '\'']
  · left
    revert hc
    revert c
    decide
  · right
    simp only [List.mem_cons, List.not_mem_nil, or_false, not_or] at hc
    refine ⟨hc.2.1, ?_⟩
    unfold escapeChar
    split <;> simp_all

theorem not_mem_escape : '<' ∉ escape content := by
  intro h
  obtain ⟨c, -, hc⟩ := List.mem_flatMap.mp h
  rcases escapeChar_cases c with hall | ⟨hne, hself⟩
  · exact absurd (hall _ hc) (by decide)
  · rw [hself, List.mem_singleton] at hc
    exact hne hc.symm

theorem return_not_mem_escape (h : '\r' ∉ content) : '\r' ∉ escape content := by
  intro hm
  obtain ⟨c, hcontent, hc⟩ := List.mem_flatMap.mp hm
  rcases escapeChar_cases c with hall | ⟨-, hself⟩
  · exact absurd (hall _ hc) (by decide)
  · rw [hself, List.mem_singleton] at hc
    exact h (hc ▸ hcontent)

end Escape

namespace Text

-- A literal block can only be part of a tag of the host where the text before it ends in the first
-- characters of one.
theorem hostFree_around_escape {p q : Text} (content : Text) (hp : p.HostFree) (hq : q.HostFree)
    (hend : ∀ start ∈ ["<".toList, "<?".toList, "<?p".toList], ¬ start <:+ p) :
    HostFree (p ++ (escape content ++ q)) := by
  intro opening ho hin
  obtain ⟨tail, rfl⟩ : ∃ tail, opening = '<' :: tail :=
    List.head?_eq_some_iff.mp ((by decide : ∀ o ∈ Host.openings, o.head? = some '<') opening ho)
  rcases infix_append_cases hin with ⟨a, b, rfl, htail⟩ | hin
  · have hwhole : ¬ tail <+: b := fun h => hp _ ho
      ((List.prefix_cons_inj '<').mpr h |>.isInfix.trans (List.suffix_append a _).isInfix)
    have hpart : b <+: tail :=
      (List.prefix_or_prefix_of_prefix htail (List.prefix_append b _)).resolve_left hwhole
    have hstarts : ∀ o ∈ Host.openings, ∀ start ∈ o.inits,
        start = [] ∨ start = o ∨ start ∈ ["<".toList, "<?".toList, "<?p".toList] := by decide
    rcases hstarts _ ho ('<' :: b) ((List.mem_inits _ _).mpr ((List.prefix_cons_inj '<').mpr hpart))
      with h | h | h
    · cases h
    · exact hwhole ((List.cons.inj h).2 ▸ List.prefix_rfl)
    · exact hend _ h (List.suffix_append a _)
  · rcases infix_append_cases hin with ⟨a, b, he, -⟩ | hin
    · exact not_mem_escape (by rw [he]; simp)
    · exact hq _ ho hin

theorem replaceAll_eq_self {key new s : Text} (h : ¬ key <:+: s) : replaceAll key new s = s := by
  induction s with
  | nil => rfl
  | cons c s ih =>
      rw [List.infix_cons_iff, not_or] at h
      rw [replaceAll_cons h.1, ih h.2]

-- A placeholder that begins in a text before it is found in that text, or all but its last sign.
theorem not_prefix_before_placeholder {content h : Text} (hne : h ≠ [])
    (hfree : ¬ placeholder content <:+: h ++ ['#']) (rest : Text) :
    ¬ placeholder content <+: h ++ (placeholder content ++ rest) := by
  intro hp
  obtain ⟨c, h, rfl⟩ := List.exists_cons_of_ne_nil hne
  have hlabel := hp
  rw [placeholder_eq, List.cons_append, List.cons_prefix_cons] at hlabel
  obtain ⟨rfl, hlabel⟩ := hlabel
  obtain ⟨left, rfl⟩ := prefix_of_prefix_append (sign_not_mem_labelOf content) (Or.inr rfl) hlabel
  cases left with
  | nil =>
      apply hfree
      rw [placeholder_eq, List.append_nil]
      exact List.infix_rfl
  | cons d left =>
      rw [List.append_assoc, List.prefix_append_right_inj, List.cons_append,
        List.cons_prefix_cons] at hlabel
      obtain ⟨rfl, -⟩ := hlabel
      refine hfree ⟨[], left ++ ['#'], ?_⟩
      simp [placeholder_eq]

theorem replaceAll_placeholder {content p q : Text} (new : Text)
    (hp : ¬ placeholder content <:+: p ++ ['#']) (hq : ¬ placeholder content <:+: q) :
    replaceAll (placeholder content) new (p ++ (placeholder content ++ q)) = p ++ (new ++ q) := by
  induction p with
  | nil =>
      have hne : placeholder content ≠ [] := by simp [placeholder_eq]
      rw [List.nil_append, replaceAll_append_self hne, replaceAll_eq_self hq]
      rfl
  | cons c p ih =>
      have hstart := not_prefix_before_placeholder (List.cons_ne_nil c p) hp q
      have htail : ¬ placeholder content <:+: p ++ ['#'] :=
        fun hi => hp (hi.trans (List.suffix_cons c _).isInfix)
      rw [List.cons_append] at hstart ⊢
      rw [replaceAll_cons hstart, ih htail]
      rfl

end Text

namespace Compiler

variable {c : Compiler} {p q content : Text}

theorem plain_of_braceFree (hp : BraceFree p) : p.Plain := by
  rw [← spellAll_chars p, plain_spellAll_iff (soundAll_chars hp)]
  constructor <;> simp [chars]

theorem compile_literal (hc : c.extensions = []) (fs : FileSystem) (hp : BraceFree p)
    (hq : BraceFree q) (hpEnd : ¬ Host.statementClose <:+: p) (hqEnd : ¬ Host.statementClose <:+: q)
    (hcontent : Vault.closeBlock content = none)
    (hpFree : ¬ placeholder content <:+: p ++ ['#']) (hqFree : ¬ placeholder content <:+: q) :
    c.compile fs (p ++ (Vault.openingTag ++ (content ++ (Vault.closingTag ++ q)))) =
      .ok (p ++ (escape content ++ q)) := by
  have hplain : ∀ s ∈ p :: [Block.mk content q].map Block.text, s.Plain := by
    simpa using ⟨plain_of_braceFree hp, plain_of_braceFree hq⟩
  have hclosed : ∀ block ∈ [Block.mk content q], Vault.closeBlock block.content = none := by
    simpa using hcontent
  have hbare : p ++ Block.fill [] [⟨content, q⟩] = p ++ (placeholder content ++ q) := by
    simp [Block.fill]
  have hsource : Block.source p [⟨content, q⟩] =
      p ++ (Vault.openingTag ++ (content ++ (Vault.closingTag ++ q))) := by
    simp [Block.source, Block.spell]
  have hprotect := Block.protect_source hplain hclosed .empty
  rw [hbare, hsource, ← spellAll_chars (p ++ (placeholder content ++ q))] at hprotect
  have hmark : BraceFree (p ++ (placeholder content ++ q)) := by
    simp [hp, hq, braceFree_placeholder]
  rw [compile_eq_ok_iff_of_protect hc (soundAll_chars hmark) (by simp [chars]) hprotect]
  refine ⟨_, Tag.translate_chars _, ?_⟩
  rw [Tag.mergeStatements_placeholder, Tag.mergeStatements_eq_self_of_not_infix hpEnd,
    Tag.mergeStatements_eq_self_of_not_infix hqEnd]
  exact (replaceAll_placeholder (escape content) hpFree hqFree).symm

-- Between texts without tags the content of a literal block is put out escaped and is never run,
-- whatever it holds, unless the text before it runs over into it as a tag of the host does, or a text
-- around it spells out its placeholder.
theorem rendered_literal (hc : c.extensions = []) (fs : FileSystem) {r : Renderer} (hr : r.Faithful)
    (hp : BraceFree p) (hq : BraceFree q) (hpEnd : ¬ Host.statementClose <:+: p)
    (hqEnd : ¬ Host.statementClose <:+: q) (hcontent : Vault.closeBlock content = none)
    (hreturn : '\r' ∉ p ++ (content ++ q)) (hhost : HostFree (p ++ (escape content ++ q)))
    (hpFree : ¬ placeholder content <:+: p ++ ['#']) (hqFree : ¬ placeholder content <:+: q)
    (env : Environment) (store : Host.Store) :
    c.rendered fs r (p ++ (Vault.openingTag ++ (content ++ (Vault.closingTag ++ q)))) env.entries
      store = .ok (p ++ (escape content ++ q)) := by
  simp only [List.mem_append, not_or] at hreturn
  have hreturn' : '\r' ∉ p ++ (escape content ++ q) := by
    simp only [List.mem_append, not_or]
    exact ⟨hreturn.1, return_not_mem_escape hreturn.2.1, hreturn.2.2⟩
  have hcompile := compile_literal hc fs hp hq hpEnd hqEnd hcontent hpFree hqFree
  rw [rendered_hostFree hcompile hhost hr env store, Host.normalNewlines_of_not_mem hreturn']

-- Tags of both kinds in a block, and the name that they ask for in the data.
theorem rendered_literal_tags :
    Compiler.rendered ⟨default, defaultMaxDepth, [], defaultRoom⟩ (.ofFiles fun _ => none)
      (.empty (some Renderer.defaultLimit))
      ("<b>".toList ++ (Vault.openingTag ++ ("<?= x =?>\x7b$x\x7d<?py".toList ++
        (Vault.closingTag ++ " y?".toList)))) [(.str "x".toList, .str "secret".toList)] .empty =
      .ok "<b>&lt;?= x =?&gt;\x7b$x\x7d&lt;?py y?".toList := by
  have hhost : HostFree ("<b>".toList ++ (escape "<?= x =?>\x7b$x\x7d<?py".toList ++ " y?".toList)) :=
    hostFree_around_escape _ (by decide) (by decide) (by decide)
  have hpFree : ¬ placeholder "<?= x =?>\x7b$x\x7d<?py".toList <:+: "<b>".toList ++ ['#'] := by
    decide +kernel
  have hqFree : ¬ placeholder "<?= x =?>\x7b$x\x7d<?py".toList <:+: " y?".toList := by
    decide +kernel
  exact rendered_literal (c := ⟨default, defaultMaxDepth, [], defaultRoom⟩) rfl (.ofFiles fun _ => none)
    (Renderer.faithful_empty (some Renderer.defaultLimit)) (by decide) (by decide) (by decide)
    (by decide) (by decide) (by decide) hhost hpFree hqFree
    [("x".toList, .str "secret".toList)] .empty

-- A text before a block that makes a tag of the host of what is in the block, and one that is the
-- placeholder of the block.
theorem rendered_literal_departs :
    let rendered := fun (p content q : Text) (data : List (Datum × Datum)) =>
      Compiler.rendered ⟨default, defaultMaxDepth, [], defaultRoom⟩ (.ofFiles fun _ => none)
        (.empty (some Renderer.defaultLimit))
        (p ++ (Vault.openingTag ++ (content ++ (Vault.closingTag ++ q)))) data .empty
    let plain := fun s : Text =>
      BraceFree s ∧ '\r' ∉ s ∧ HostFree s ∧ ¬ Host.statementClose <:+: s
    (plain "<?".toList ∧ Vault.closeBlock "= x =?".toList = none ∧ plain ">".toList ∧
      rendered "<?".toList "= x =?".toList ">".toList [(.str "x".toList, .str "secret".toList)] =
        .ok "secret".toList) ∧
    (plain "#literal:9dd4e461268c8034f5c8564e155c67a6#".toList ∧ Vault.closeBlock ['x'] = none ∧
      rendered "#literal:9dd4e461268c8034f5c8564e155c67a6#".toList ['x'] [] [] = .ok "xx".toList) := by
  refine ⟨⟨?_, ?_, ?_, ?_⟩, ?_, ?_, ?_⟩
  · decide
  · decide
  · decide
  · decide +kernel
  · decide
  · decide
  · decide +kernel

end Compiler

end BraceTemplate

import BraceTemplate.Proofs.Literal.RoundTrip
import BraceTemplate.Proofs.Verbatim.Read

namespace BraceTemplate

open Text Segment

-- The white space between what looks like the end of a statement and what looks like the start of
-- the next one, be that in small letters or in capitals.
def Text.HasGap (s : Text) : Prop :=
  ∃ front gap p y after, s = front ++ (Host.statementClose ++ (gap ++ '<' :: '?' :: p :: y :: after)) ∧
    front.getLast? ≠ some '=' ∧ gap ≠ [] ∧ (∀ c ∈ gap, isBlank c = true) ∧
    (p = 'p' ∨ p = 'P') ∧ (y = 'y' ∨ y = 'Y')

namespace Tag

theorem sameLetter_iff {l c : Char} (hl : l ∉ ['s', 'i', 'k']) (hlow : l.toUpper.toLower = l) :
    sameLetter l c = true ↔ c = l ∨ c = l.toUpper := by
  simp only [List.mem_cons, List.not_mem_nil, or_false, not_or] at hl
  have hsame : sameLetter l c = true ↔ c = l ∨ c.toLower = l := by
    simp [sameLetter, hl.1, hl.2.1, hl.2.2]
  rw [hsame]
  constructor
  · exact fun h => h.elim .inl eq_or_eq_toUpper
  · rintro (rfl | rfl)
    · exact .inl rfl
    · exact .inr hlow

-- The letters in the start of a statement have no case but the usual two.
theorem spells_statementOpen_iff {spelling : Text} :
    Spells "<?py".toList spelling ↔
      ∃ p y, spelling = ['<', '?', p, y] ∧ (p = 'p' ∨ p = 'P') ∧ (y = 'y' ∨ y = 'Y') := by
  have hletters : ∀ l ∈ "<?py".toList, l ∉ ['s', 'i', 'k'] ∧ l.toUpper.toLower = l := by decide
  have hsame : ∀ l ∈ "<?py".toList, ∀ c, sameLetter l c = true ↔ c = l ∨ c = l.toUpper :=
    fun l hl c => sameLetter_iff (hletters l hl).1 (hletters l hl).2
  constructor
  · intro h
    rcases h with _ | ⟨hl, _ | ⟨hq, _ | ⟨hp, _ | ⟨hy, ⟨⟩⟩⟩⟩⟩
    rw [hsame _ (by decide)] at hl hq hp hy
    obtain rfl : _ = '<' := hl.elim id id
    obtain rfl : _ = '?' := hq.elim id id
    exact ⟨_, _, rfl, hp, hy⟩
  · rintro ⟨p, y, rfl, hp, hy⟩
    exact .cons ((hsame '<' (by decide) _).mpr (.inl rfl))
      (.cons ((hsame '?' (by decide) _).mpr (.inl rfl))
        (.cons ((hsame 'p' (by decide) _).mpr hp) (.cons ((hsame 'y' (by decide) _).mpr hy) .nil)))

-- The gaps are what the rule that merges statements finds.
theorem occurs_merge?_eq_false_iff {s : Text} : occurs merge? s = false ↔ ¬ s.HasGap := by
  rw [occurs_eq_false_iff]
  constructor
  · rintro h ⟨front, gap, p, y, after, rfl, hbefore, hgap, hblank, hp, hy⟩
    obtain ⟨c, gap, rfl⟩ := List.exists_cons_of_ne_nil hgap
    have hword : takeWord "<?py".toList ('<' :: '?' :: p :: y :: after) =
        some (['<', '?', p, y], after) :=
      takeWord_eq_some_iff.mpr ⟨rfl, spells_statementOpen_iff.mpr ⟨p, y, rfl, hp, hy⟩⟩
    have hmerge := merge?_eq_some hbefore (hblank c (by simp))
      (fun d hd => hblank d (List.mem_cons_of_mem _ hd)) hword
    exact absurd ((h front _ _ rfl).symm.trans hmerge) (by simp)
  · intro h a c b he
    cases hmerge : merge? a.getLast? (c :: b) with
    | none => rfl
    | some found =>
        obtain ⟨tag, after⟩ := found
        obtain ⟨d, gap, spelling, hs, hbefore, -, hd, hblank, hword⟩ := exists_of_merge? hmerge
        obtain ⟨p, y, rfl, hp, hy⟩ := spells_statementOpen_iff.mp (takeWord_eq_some_iff.mp hword).2
        refine absurd ⟨a, d :: gap, p, y, after, ?_, hbefore, by simp, ?_, hp, hy⟩ h
        · rw [he, hs]
          rfl
        · exact List.forall_mem_cons.mpr ⟨hd, hblank⟩

theorem mergeStatements_eq_self {s : Text} (h : occurs merge? s = false) : mergeStatements s = s := by
  rw [mergeStatements, mergeFrom, ← Piece.scan_eq_cut, scan_eq_chars h, List.flatMap_map]
  exact List.flatMap_singleton' s

theorem mergeStatements_eq_self_of_not_infix {s : Text} (h : ¬ Host.statementClose <:+: s) :
    mergeStatements s = s := by
  refine mergeStatements_eq_self (occurs_merge?_eq_false_iff.mpr ?_)
  rintro ⟨front, gap, p, y, after, rfl, -⟩
  exact h ⟨front, gap ++ '<' :: '?' :: p :: y :: after, by simp⟩

end Tag

namespace Compiler

variable {insert : List Text → CompileM Text} {s : Text}

theorem foldlM_of_not_mem (readers : List Tag.Reader) (hs : '\x7b' ∉ s) :
    (readers.map Tag.Reader.find).foldlM (rewriteKind insert) s = pure s := by
  refine foldlM_eq_pure fun find hm => ?_
  obtain ⟨reader, -, rfl⟩ := List.mem_map.mp hm
  exact rewriteKind_eq_pure (occurs_of_not_mem reader.grouped.outside hs)

variable {c : Compiler}

-- Without opening braces a text is left alone but for the gaps between statements.
theorem compile_of_not_mem (hc : c.extensions = []) (fs : FileSystem) (hs : '\x7b' ∉ s) :
    c.compile fs s = .ok (Tag.mergeStatements s) := by
  have hbare : ∀ v : Vault, v.protect s = (s, v) := fun v => by
    rw [Vault.protect_eq,
      scan_eq_chars (occurs_of_not_mem (fun before c s hc => Vault.find_of_ne hc before s) hs),
      Vault.bareOf_chars, Vault.contentsOf_chars]
    rfl
  have hpass : ∀ insert, Tag.recognisers.foldlM (rewriteKind insert) s =
      pure (Tag.mergeStatements s) := fun insert => by
    rw [Tag.recognisers_eq, List.foldlM_append, foldlM_of_not_mem Tag.Reader.early hs, pure_bind,
      List.foldlM_cons, rewriteKind_eq_pure (occurs_of_not_mem Tag.grouped_insertion.outside hs),
      pure_bind, List.foldlM_append, foldlM_of_not_mem Tag.Reader.late hs, pure_bind,
      List.foldlM_cons, Tag.rewriteKind_merge]
    rfl
  rw [compile_eq_ok_iff]
  refine ⟨Tag.mergeStatements s, .empty, ?_, rfl⟩
  rw [rewriteAt_eq, yields_rewriteWith_iff hc, hbare, hpass]
  exact yields_pure.mpr ⟨rfl, rfl⟩

-- Text without opening braces and without tags of the host is put out as it is, with its line ends
-- made the same, unless it has a gap of the kind that is closed between statements.
theorem rendered_plain (hc : c.extensions = []) (fs : FileSystem) {r : Renderer} (hr : r.Faithful)
    (hs : '\x7b' ∉ s) (hhost : s.HostFree) (hgap : ¬ s.HasGap) (env : Environment)
    (store : Host.Store) :
    c.rendered fs r s env.entries store = .ok (normalNewlines s) := by
  have hmerge : Tag.mergeStatements s = s :=
    Tag.mergeStatements_eq_self (Tag.occurs_merge?_eq_false_iff.mpr hgap)
  have hcompile := compile_of_not_mem hc fs hs
  rw [hmerge] at hcompile
  exact rendered_hostFree hcompile hhost hr env store

-- Ends of statements and of outputs, and what is nearly the start of a statement.
theorem rendered_plain_near_statements :
    Compiler.rendered ⟨default, defaultMaxDepth, [], defaultRoom⟩ (.ofFiles fun _ => none)
      (.empty (some Renderer.defaultLimit)) "\x7d?>\r\n<?PHP =?> <?PY\r".toList
      [(.str "x".toList, .int 1)] .empty = .ok "\x7d?>\n<?PHP =?> <?PY\n".toList := by
  have hgap : ¬ Text.HasGap "\x7d?>\r\n<?PHP =?> <?PY\r".toList :=
    Tag.occurs_merge?_eq_false_iff.mp (by decide)
  exact rendered_plain (c := ⟨default, defaultMaxDepth, [], defaultRoom⟩) rfl (.ofFiles fun _ => none)
    (Renderer.faithful_empty (some Renderer.defaultLimit)) (by decide) (by decide) hgap
    [("x".toList, .int 1)] .empty

-- A gap in front of capitals is closed with small letters, and what follows is run.
theorem rendered_plain_gap :
    '\x7b' ∉ "?> <?PY set x = 1 ?>y".toList ∧ Text.HostFree "?> <?PY set x = 1 ?>y".toList ∧
      Compiler.rendered ⟨default, defaultMaxDepth, [], defaultRoom⟩ (.ofFiles fun _ => none)
        (.empty (some Renderer.defaultLimit)) "?> <?PY set x = 1 ?>y".toList [] .empty =
        .ok "?>y".toList := by
  refine ⟨by decide, by decide, by decide +kernel⟩

end Compiler

end BraceTemplate

import BraceTemplate.Proofs.Tree.Render
import Mathlib.Data.List.Infix

namespace BraceTemplate

open Host

-- What a tag of the host starts with.
def Host.openings : List Text :=
  [statementOpen, outputOpen, commentOpen]

-- A text in which the host finds no tag.
def Text.HostFree (s : Text) : Prop :=
  ∀ opening ∈ openings, ¬ opening <:+: s

instance (s : Text) : Decidable s.HostFree :=
  inferInstanceAs (Decidable (∀ opening ∈ openings, ¬ opening <:+: s))

namespace Text

theorem HostFree.of_infix {s t : Text} (ht : HostFree t) (h : s <:+: t) : HostFree s :=
  fun opening ho hs => ht opening ho (hs.trans h)

theorem HostFree.tail {c : Char} {s : Text} (h : HostFree (c :: s)) : HostFree s :=
  h.of_infix (List.suffix_cons c s).isInfix

theorem after?_eq_some {lead s rest : Text} (h : after? lead s = some rest) : s = lead ++ rest := by
  induction lead generalizing s with
  | nil =>
      rw [after?, Option.some.injEq] at h
      exact h
  | cons p lead ih =>
      cases s with
      | nil => cases h
      | cons c s =>
          by_cases hc : p = c
          · rw [after?, if_pos hc] at h
            rw [hc, ih h, List.cons_append]
          · rw [after?, if_neg hc] at h
            cases h

theorem HostFree.after?_eq_none {s opening : Text} (h : HostFree s) (ho : opening ∈ openings) :
    after? opening s = none := by
  cases hafter : after? opening s with
  | none => rfl
  | some rest => exact absurd ⟨[], rest, (after?_eq_some hafter).symm⟩ (h opening ho)

section Newlines

theorem return_not_mem_normalNewlines (s : Text) : '\r' ∉ normalNewlines s := by
  fun_induction normalNewlines s with
  | case1 => simp
  | case2 rest ih => simpa using ih
  | case3 c rest _ ih =>
      rw [List.mem_cons, not_or]
      refine ⟨?_, ih⟩
      split
      · decide
      · next hc => exact Ne.symm hc

-- What is no line end stands where it stood before line ends were made the same.
theorem prefix_of_prefix_normalNewlines {d s : Text} (hline : '\n' ∉ d)
    (h : d <+: normalNewlines s) : d <+: s := by
  induction d generalizing s with
  | nil => exact List.nil_prefix
  | cons e d ih =>
      rw [List.mem_cons, not_or] at hline
      fun_cases normalNewlines s with
      | case1 => exact h
      | case2 rest =>
          rw [normalNewlines, List.cons_prefix_cons] at h
          exact absurd h.1.symm hline.1
      | case3 c rest hcr =>
          rw [normalNewlines.eq_3 _ _ hcr, List.cons_prefix_cons] at h
          obtain ⟨hhead, h⟩ := h
          split at hhead
          · exact absurd hhead.symm hline.1
          · rw [hhead, List.cons_prefix_cons]
            exact ⟨rfl, ih hline.2 h⟩

theorem infix_of_infix_normalNewlines {d s : Text} (hline : '\n' ∉ d)
    (h : d <:+: normalNewlines s) : d <:+: s := by
  induction s using normalNewlines.induct with
  | case1 => exact h
  | case2 rest ih =>
      have hall := prefix_of_prefix_normalNewlines (s := '\r' :: '\n' :: rest) hline
      rw [normalNewlines, List.infix_cons_iff] at h
      rw [normalNewlines] at hall
      rcases h with h | h
      · exact (hall h).isInfix
      · exact (ih h).trans (List.suffix_append ['\r', '\n'] rest).isInfix
  | case3 c rest hcr ih =>
      have hall := prefix_of_prefix_normalNewlines (s := c :: rest) hline
      rw [normalNewlines.eq_3 _ _ hcr, List.infix_cons_iff] at h
      rw [normalNewlines.eq_3 _ _ hcr] at hall
      rcases h with h | h
      · exact (hall h).isInfix
      · exact (ih h).trans (List.suffix_cons c rest).isInfix

theorem HostFree.normalNewlines {s : Text} (h : HostFree s) : HostFree (normalNewlines s) :=
  fun opening ho hin => h opening ho
    (infix_of_infix_normalNewlines ((by decide : ∀ o ∈ openings, '\n' ∉ o) opening ho) hin)

end Newlines

end Text

namespace Host

section Reading

variable {s : Text}

theorem Token.opening?_eq_none (h : s.HostFree) : Token.opening? s = none := by
  simp only [Token.opening?, h.after?_eq_none (by decide : statementOpen ∈ openings),
    h.after?_eq_none (by decide : commentOpen ∈ openings),
    h.after?_eq_none (by decide : outputOpen ∈ openings), Option.map_none]

theorem Token.cutAtOpening_eq (h : s.HostFree) : Token.cutAtOpening s = (s, none) := by
  induction s with
  | nil => rfl
  | cons c s ih => simp only [Token.cutAtOpening, Token.opening?_eq_none h, ih h.tail]

theorem Token.map_scan (h : s.HostFree) : (Token.scan s).map (·.kind) = dataKinds s := by
  rw [Token.scan, Token.ofData, Token.cutAtOpening_eq h]
  exact Token.map_dataToken s s

theorem nodesOfText_normalNewlines (s : Text) : nodesOfText (normalNewlines s) = nodesOfText s := by
  rw [nodesOfText, nodesOfText,
    normalNewlines_of_not_mem (Text.return_not_mem_normalNewlines s)]

theorem nodesOfText_hostFree (h : s.HostFree) :
    nodesOfText s = .ok (dataNodes (normalNewlines s)) := by
  have hend : ∀ m, 1 ≤ m → Reader.Takes (Reader.nodes m [])
      ⟨templateRoom, Reader.lineEndsIn (normalNewlines s)⟩ [] [] [] := by
    intro m hm
    obtain ⟨m, rfl⟩ : ∃ k, m = k + 1 := ⟨m - 1, by omega⟩
    exact Reader.takes_peek.bind (Reader.takes_pure [])
  have hparse := Reader.takes_nodes_data (normalNewlines s) hend
    (20 * (dataKinds (normalNewlines s)).length + 20) (by omega)
  rw [List.append_nil, List.append_nil] at hparse
  rw [← nodesOfText_normalNewlines]
  exact nodesOfText_eq_ok (Text.return_not_mem_normalNewlines s)
    (Token.map_scan h.normalNewlines) (Reader.faultless_data _) hparse

-- Such a text is a template without tags.
theorem Template.ofText_hostFree (h : s.HostFree) :
    Template.ofText s = .ok ⟨dataNodes (normalNewlines s)⟩ := by
  have hdepth : reachOfNodes Expr.depth (dataNodes (normalNewlines s)) = 0 := by
    simpa [reachOfNodes] using reach_data (normalNewlines s) [] Expr.depth
  have hbrackets : reachOfNodes Expr.brackets (dataNodes (normalNewlines s)) = 0 := by
    simpa [reachOfNodes] using reach_data (normalNewlines s) [] Expr.brackets
  have hmisfits : misfitsInNodes (dataNodes (normalNewlines s)) = false := by
    simpa [misfitsInNodes] using misfits_data (normalNewlines s) []
  have hblocks : blockDepthOfAll (dataNodes (normalNewlines s)) = 0 := by
    simpa [blockDepthOfAll] using blockDepth_data (normalNewlines s) []
  have hloops : loopDepthOfAll (dataNodes (normalNewlines s)) = 0 := by
    simpa [loopDepthOfAll] using loopDepth_data (normalNewlines s) []
  have hnesting : nestingOfAll (dataNodes (normalNewlines s)) ≤ 1 := by
    rw [← List.append_nil (dataNodes _), nesting_data]
    split <;> simp [nestingOfAll]
  have hready : Run.Stays false (dataNodes (normalNewlines s)) := by
    simpa using Run.stays_nil.data (normalNewlines s)
  have hprepare : Host.prepare (dataNodes (normalNewlines s)) = .ok (dataNodes (normalNewlines s)) := by
    rw [Host.prepare, hready.ready]
    rfl
  rw [Template.ofText_eq (nodesOfText_hostFree h) (hdepth ▸ Nat.zero_le _) hprepare hmisfits
    (hbrackets ▸ Nat.zero_le _), hblocks, hloops, if_neg (by decide),
    if_neg (Nat.not_lt.mpr (hnesting.trans (by decide))), if_neg (by decide)]

theorem Template.run_data (t : Text) (values : List (Text × Value)) (store : Store) :
    ((Template.mk (dataNodes t)).run values store).1 = .ok t := by
  have hgives : ((Template.mk (dataNodes t)).run values store).1 = .ok (t ++ []) := by
    unfold dataNodes
    split
    · next hempty =>
        obtain rfl : t = [] := by simpa using hempty
        rfl
    · rfl
  rw [hgives, List.append_nil]

end Reading

end Host

namespace Bindings

variable {α : Type}

-- Whatever is bound under texts, what comes of it is bound under texts.
theorem exists_insertEntry_spelled (bound : List (Text × α)) (x : Text) (v : α) :
    ∃ bound', Datum.insertEntry (.str x) v (spelled bound) = spelled bound' := by
  induction bound with
  | nil => exact ⟨[(x, v)], rfl⟩
  | cons first rest ih =>
      obtain ⟨rest', hrest⟩ := ih
      change ∃ bound', Datum.insertEntry (.str x) v ((.str first.1, first.2) :: spelled rest) = _
      rw [Datum.insertEntry]
      split
      · exact ⟨(first.1, v) :: rest, rfl⟩
      · exact ⟨first :: rest', by rw [hrest]; rfl⟩

theorem exists_merged_spelled (bound values : List (Text × α)) :
    ∃ bound', merged ⟨spelled bound⟩ (spelled values) = ⟨spelled bound'⟩ := by
  induction values generalizing bound with
  | nil => exact ⟨bound, rfl⟩
  | cons value rest ih =>
      change ∃ bound', merged ⟨Datum.insertEntry (.str value.1) value.2 (spelled bound)⟩
        (spelled rest) = _
      obtain ⟨next, hnext⟩ := exists_insertEntry_spelled bound value.1 value.2
      rw [hnext]
      exact ih next

end Bindings

-- What is compiled into a text without tags of the host is rendered as that text, but for its line
-- ends, whatever the data and whatever has been rendered before.
theorem Compiler.rendered_hostFree {c : Compiler} {fs : FileSystem} {r : Renderer} {source t : Text}
    (hcompile : c.compile fs source = .ok t) (ht : t.HostFree) (hr : r.Faithful) (env : Environment)
    (s : Store) : c.rendered fs r source env.entries s = .ok (normalNewlines t) := by
  obtain ⟨values, hvalues, -⟩ := stored_named env s
  obtain ⟨bound, hbound⟩ := Bindings.exists_merged_spelled [] values
  rw [Compiler.rendered, hcompile]
  change Except.mapError EngineError.run
    (r.render (.str t) (.ofList (Engine.stored s env.entries).1) _).1 = _
  rw [hvalues, Bindings.ofList]
  change Except.mapError EngineError.run (r.render (.str t) (.merged ⟨Bindings.spelled []⟩ _) _).1 = _
  rw [hbound]
  by_cases hne : t = []
  · subst hne
    rfl
  · have hnamed : Renderer.named (Bindings.mk (Bindings.spelled bound)).entries = .ok bound :=
      Renderer.named_spelled bound
    rw [hr.render_eq_of_named hne hnamed, Template.ofText_hostFree ht]
    exact congrArg _ (Template.run_data _ _ _)

end BraceTemplate

import BraceTemplate.Host.Eval
import BraceTemplate.Proofs.Tree.Scope

namespace BraceTemplate.Host

open Run

section Values

variable {s₀ s : Store} {g : Setting} {v : Value} {d : Datum}

-- What is held by the data is held by every later store.
theorem Store.Grows.find?_of_lt {a : Nat} {c : Cell} (hg : s₀.Grows s) (ha : a < s₀.cells.size)
    (hc : s₀.find? a = some c) : s.find? a = some c :=
  (hg.cells a ha).trans hc

theorem isEmpty_of_holdsAll {bound : Nat} {vs : List Value} {items : List Datum}
    (h : s.HoldsAll bound vs items) : vs.isEmpty = items.isEmpty := by
  cases items with
  | nil =>
      obtain rfl := h
      rfl
  | cons d rest =>
      obtain ⟨v, others, rfl, -⟩ := h
      rfl

theorem isEmpty_of_holdsEntries {bound : Nat} {es : List (Entry Value)}
    {entries : List (Datum × Datum)} (h : s.HoldsEntries bound es entries) :
    es.isEmpty = entries.isEmpty := by
  cases entries with
  | nil =>
      obtain rfl := h
      rfl
  | cons entry rest =>
      obtain ⟨e, others, rfl, -⟩ := h
      rfl

theorem gives_truth (hg : s₀.Grows s) (h : s₀.Holds s₀.cells.size v d) :
    Gives (truth v) g s d.truth s := by
  cases d with
  | scalar c =>
      obtain ⟨rfl, -⟩ := h
      exact gives_pure _
  | list items =>
      obtain ⟨a, vs, rfl, ha, hcell, hitems⟩ := h
      refine (gives_cell? a).bind ?_
      rw [hg.find?_of_lt ha hcell, Datum.truth, ← isEmpty_of_holdsAll hitems]
      simpa using gives_pure (!vs.isEmpty)
  | dict entries =>
      obtain ⟨a, es, rfl, ha, hcell, hentries⟩ := h
      refine (gives_cell? a).bind ?_
      rw [hg.find?_of_lt ha hcell, Datum.truth, ← isEmpty_of_holdsEntries hentries,
        ← Store.isEmpty_ofDistinct]
      exact gives_pure _
  | _ => exact h.elim

theorem reify_eq (hg : s₀.Grows s) (h : s₀.Holds s₀.cells.size v d) : s.reify v = d :=
  (hg.holds h).reify (Nat.le_succ _) (by simp) d

-- The text of a value that has parts.
theorem meets_printed (hg : s₀.Grows s) (h : s₀.Holds s₀.cells.size v d) :
    Meets (do let d ← reify v; writable d; pure d.printed) g s
      (if d.writable then .ok d.printed else .error .wrongValue) fun a b s' => a = b ∧ s' = s := by
  have hreify : Gives (reify v) g s d s := by
    rw [← reify_eq hg h]
    rfl
  refine hreify.bind_meets ?_
  unfold writable
  cases d.writable with
  | true => exact (gives_pure _).meets ⟨rfl, rfl⟩
  | false => exact meets_fail _

-- The text that a value is put out as.
theorem meets_text (hg : s₀.Grows s) (h : s₀.Holds s₀.cells.size v d) :
    Meets (text v) g s (if d.writable then .ok d.printed else .error .wrongValue)
      fun a b s' => a = b ∧ s' = s := by
  have hprinted := meets_printed (g := g) hg h
  cases d with
  | scalar c =>
      obtain ⟨rfl, -⟩ := h
      exact .ite (fun _ => (gives_pure _).meets ⟨rfl, rfl⟩) fun _ => meets_fail _
  | list items =>
      obtain ⟨a, vs, rfl, ha, hcell, hitems⟩ := h
      refine (gives_cell? a).bind_meets ?_
      rw [hg.find?_of_lt ha hcell]
      exact hprinted
  | dict entries =>
      obtain ⟨a, es, rfl, ha, hcell, hentries⟩ := h
      refine (gives_cell? a).bind_meets ?_
      rw [hg.find?_of_lt ha hcell]
      exact hprinted
  | _ => exact h.elim

-- Escaped text is put out as it is.
theorem meets_escaped (hg : s₀.Grows s) (h : s₀.Holds s₀.cells.size v d) :
    Meets (Run.escaped v >>= text) g s (Tree.shown d) fun a b s' => a = b ∧ s' = s := by
  have hescaped : Run.escaped v = do return .scalar (.safe (escape (← text v))) := by
    cases d with
    | scalar c =>
        obtain ⟨rfl, hc⟩ := h
        cases c <;> first | rfl | exact absurd hc Bool.false_ne_true
    | list items =>
        obtain ⟨a, vs, rfl, -⟩ := h
        rfl
    | dict entries =>
        obtain ⟨a, es, rfl, -⟩ := h
        rfl
    | _ => exact h.elim
  have hshown : Tree.shown d = (if d.writable then .ok d.printed else .error .wrongValue) >>= fun s =>
      Except.ok (escape s) := by
    unfold Tree.shown
    split <;> rfl
  rw [hescaped, hshown, bind_assoc]
  refine (meets_text hg h).bind ?_
  rintro t - s' ⟨rfl, rfl⟩
  exact (gives_pure _).meets ⟨rfl, rfl⟩

end Values

end BraceTemplate.Host

import BraceTemplate.Host.Run

namespace BraceTemplate.Host

theorem Store.lt_of_find? {s : Store} {a : Nat} {c : Cell} (h : s.find? a = some c) : a < s.cells.size :=
  (Array.getElem?_eq_some_iff.mp h).1

namespace Run

section Outcome

variable {α β : Type} {g : Setting} {s s' : Store}

-- What comes of a run in a setting, and the store behind it.
def outcome (r : Run α) (g : Setting) (s : Store) : Except Error α × Store :=
  (r.run g).run.run s

-- A run that gives a value and leaves a store.
def Gives (r : Run α) (g : Setting) (s : Store) (a : α) (s' : Store) : Prop :=
  outcome r g s = (.ok a, s')

theorem outcome_fail (e : Error) : outcome (fail e : Run α) g s = (.error e, s) := rfl

theorem outcome_bind (r : Run α) (f : α → Run β) :
    outcome (r >>= f) g s = match outcome r g s with
      | (.ok a, s') => outcome (f a) g s'
      | (.error e, s') => (.error e, s') := by
  unfold outcome
  rw [ReaderT.run_bind, ExceptT.run_bind, StateT.run_bind]
  rcases h : ((r.run g).run.run s) with ⟨_ | _, _⟩ <;> simp <;> rfl

theorem gives_pure (a : α) : Gives (pure a) g s a s := rfl

theorem gives_get : Gives get g s s s := rfl

theorem gives_cell? (address : Nat) : Gives (cell? address) g s (s.find? address) s := rfl

theorem gives_read : Gives read g s g s := rfl

theorem gives_update (address : Nat) (c : Cell) :
    Gives (update address c) g s () (s.update address c) := rfl

theorem Gives.bind {r : Run α} {f : α → Run β} {a : α} {b : β} {s'' : Store}
    (h : Gives r g s a s') (hf : Gives (f a) g s' b s'') : Gives (r >>= f) g s b s'' := by
  rw [Gives, outcome_bind, h]
  exact hf

-- A first step of what stands before another step.
theorem Gives.bind_bind {γ : Type} {r : Run α} {f : α → Run β} {k : β → Run γ} {a : α} {c : γ}
    {s'' : Store} (h : Gives r g s a s') (hf : Gives (f a >>= k) g s' c s'') :
    Gives (r >>= f >>= k) g s c s'' := by
  rw [bind_assoc]
  exact h.bind hf

end Outcome

section Meets

variable {α β γ δ : Type} {g : Setting} {s s' : Store}

-- A run that comes out as expected: it fails as it should, or gives a value and leaves a store of which
-- something holds.
def Meets (r : Run α) (g : Setting) (s : Store) (expected : Except Error β)
    (post : α → β → Store → Prop) : Prop :=
  match expected with
  | .ok b => ∃ a s', Gives r g s a s' ∧ post a b s'
  | .error e => (outcome r g s).1 = .error e

variable {post : α → β → Store → Prop} {post' : γ → δ → Store → Prop}

theorem Gives.meets {r : Run α} {a : α} {b : β} (h : Gives r g s a s') (hp : post a b s') :
    Meets r g s (.ok b) post :=
  ⟨a, s', h, hp⟩

theorem meets_fail (e : Error) : Meets (fail e) g s (.error e) post := by
  simp only [Meets, outcome_fail]

-- What a step gives is used by what follows it.
theorem Gives.bind_meets {r : Run α} {f : α → Run γ} {a : α} {expected : Except Error δ}
    (h : Gives r g s a s') (hf : Meets (f a) g s' expected post') :
    Meets (r >>= f) g s expected post' := by
  cases expected with
  | ok d =>
      obtain ⟨c, s'', hc, hp⟩ := hf
      exact ⟨c, s'', h.bind hc, hp⟩
  | error e =>
      rw [Meets, outcome_bind, h]
      exact hf

theorem Meets.bind {r : Run α} {f : α → Run γ} {expected : Except Error β}
    {k : β → Except Error δ} (h : Meets r g s expected post)
    (hf : ∀ a b s', post a b s' → Meets (f a) g s' (k b) post') :
    Meets (r >>= f) g s (expected >>= k) post' := by
  cases expected with
  | ok b =>
      obtain ⟨a, s', ha, hp⟩ := h
      exact ha.bind_meets (hf a b s' hp)
  | error e =>
      have herror : (outcome r g s).1 = .error e := h
      change (outcome (r >>= f) g s).1 = .error e
      rw [outcome_bind]
      rcases ho : outcome r g s with ⟨_ | _, _⟩ <;> rw [ho] at herror <;> simp_all

theorem Meets.mono {r : Run α} {expected : Except Error β} {post' : α → β → Store → Prop}
    (h : Meets r g s expected post) (hp : ∀ a b s', post a b s' → post' a b s') :
    Meets r g s expected post' := by
  cases expected with
  | ok b =>
      obtain ⟨a, s', ha, ha'⟩ := h
      exact ⟨a, s', ha, hp a b s' ha'⟩
  | error e => exact h

theorem Meets.ite {c : Prop} [Decidable c] {r r' : Run α} {expected expected' : Except Error β}
    (h : c → Meets r g s expected post) (h' : ¬c → Meets r' g s expected' post) :
    Meets (if c then r else r') g s (if c then expected else expected') post := by
  by_cases hc : c
  · rw [if_pos hc, if_pos hc]
    exact h hc
  · rw [if_neg hc, if_neg hc]
    exact h' hc

end Meets

end Run

end BraceTemplate.Host

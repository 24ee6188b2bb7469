import BraceTemplate.Cache.Shelf

namespace BraceTemplate

namespace Cache

theorem find?_insert (key k : Text) (value : Datum) (entries : List (Text × Datum)) :
    find? (insert key value entries) k = if k = key then some value else find? entries k := by
  induction entries with
  | nil =>
      by_cases h : key = k
      · simp [insert, find?, h]
      · simp [insert, find?, h, Ne.symm h]
  | cons entry rest ih =>
      obtain ⟨l, old⟩ := entry
      have hcons : ∀ (l : Text) (v : Datum) (rest : List (Text × Datum)),
          find? ((l, v) :: rest) k = if k = l then some v else find? rest k := by
        intro l v rest
        by_cases h : l = k
        · simp [find?, h]
        · simp [find?, h, Ne.symm h]
      rw [insert]
      split
      · next h =>
          subst h
          rw [hcons, hcons]
          split <;> rfl
      · next h =>
          rw [hcons, hcons, ih]
          by_cases hk : k = l
          · rw [if_pos hk, if_pos hk, if_neg (hk ▸ h)]
          · rw [if_neg hk, if_neg hk]

-- A cache that never refuses.
structure Willing (c : Cache) : Prop where
  reads : c.refusesReads = false
  writes : c.refusesWrites = false

-- Whatever is in a cache is a text that belongs under its key.
def Keeps (c : Cache) (made : Text → Text → Prop) : Prop :=
  ∀ key value, find? c.entries key = some value → ∃ text, value = .str text ∧ made key text

variable {c : Cache} {made : Text → Text → Prop} {key : Text}

theorem willing_empty : empty.Willing := ⟨rfl, rfl⟩

theorem keeps_empty (made : Text → Text → Prop) : empty.Keeps made := by
  intro key value h
  simp [find?, empty] at h

theorem Keeps.insert (h : c.Keeps made) {text : Text} (hmade : made key text) :
    Keeps { c with entries := insert key (.str text) c.entries } made := by
  intro k value hfind
  rw [find?_insert] at hfind
  split at hfind
  · next hk =>
      obtain rfl := Option.some.inj hfind
      exact ⟨text, rfl, hk ▸ hmade⟩
  · exact h k value hfind

-- What a cache that keeps texts answers with: the text that belongs under the key, or nothing.
theorem Keeps.get?_eq (hc : c.Willing) (h : c.Keeps made) (key : Text) :
    c.get? key = .ok none ∨ ∃ text, c.get? key = .ok (some (.str text)) ∧ made key text := by
  rw [get?, hc.reads, if_neg Bool.false_ne_true]
  cases hfind : find? c.entries key with
  | none => exact .inl rfl
  | some value =>
      obtain ⟨text, rfl, hmade⟩ := h key value hfind
      exact .inr ⟨text, rfl, hmade⟩

theorem Willing.set_eq (hc : c.Willing) (key : Text) (value : Datum) :
    c.set key value = .ok { c with entries := Cache.insert key value c.entries } := by
  rw [set, hc.writes, if_neg Bool.false_ne_true]

end Cache

namespace Shelf

variable {s : Shelf} {c : Cache} {made : Text → Text → Prop} {identity : Text}
  {make : Unit → Except CompileError Text}

-- What is fetched comes to a text or an error, whether it was kept or is made anew.
def Fetches (fetched : Fetched) (outcome : Except CompileError Text) : Prop :=
  fetched.outcome.map (·.source) = outcome.map .str ∧ fetched.warnings = []

theorem debug_keep (s : Shelf) (key source : Text) : (s.keep key source).1.debug = s.debug := by
  unfold keep
  split
  · rfl
  · split <;> rfl

theorem debug_fetch (s : Shelf) (identity : Text) (make : Unit → Except CompileError Text) :
    (s.fetch identity make).2.debug = s.debug := by
  unfold fetch
  dsimp only
  split
  · rfl
  · split
    · rfl
    · exact s.debug_keep _ _

-- Where no cache is used everything is made anew, and the shelf stays as it is.
theorem fetches_of_inactive (h : s.active = none) (identity : Text)
    (make : Unit → Except CompileError Text) :
    Fetches (s.fetch identity make).1 (make ()) ∧ (s.fetch identity make).2 = s := by
  unfold fetch lookUp keep
  rw [h]
  cases make () <;> exact ⟨⟨rfl, rfl⟩, rfl⟩

-- Where what belongs under a key is what is made for it, nobody can tell a text that was kept from one
-- that is made anew.
theorem fetches_of_keeps (make : Unit → Except CompileError Text) (hcache : s.cache = some c)
    (hc : c.Willing) (h : c.Keeps made)
    (hmade : ∀ text, made (Cache.keyOf identity) text ↔ make () = .ok text) :
    Fetches (s.fetch identity make).1 (make ()) ∧
      ∃ c', (s.fetch identity make).2 = { s with cache := some c' } ∧ c'.Willing ∧ c'.Keeps made := by
  have hsame : s = { s with cache := some c } := by rw [← hcache]
  by_cases hactive : s.active = none
  · obtain ⟨hfetches, hstays⟩ := fetches_of_inactive hactive identity make
    exact ⟨hfetches, c, hstays.trans hsame, hc, h⟩
  have hactive : s.active = some c := by
    unfold active at hactive ⊢
    split at hactive
    · exact absurd rfl hactive
    · next hdebug => rw [if_neg hdebug, hcache]
  unfold fetch lookUp keep
  rw [hactive]
  rcases h.get?_eq hc (Cache.keyOf identity) with hget | ⟨text, hget, htext⟩
  · simp only [hget, hc.set_eq]
    cases hmake : make () with
    | error e => exact ⟨⟨rfl, rfl⟩, c, hsame, hc, h⟩
    | ok text =>
        exact ⟨⟨rfl, rfl⟩, _, rfl, ⟨hc.reads, hc.writes⟩, h.insert ((hmade text).mpr hmake)⟩
  · simp only [hget]
    rw [(hmade text).mp htext]
    exact ⟨⟨rfl, rfl⟩, c, hsame, hc, h⟩

-- What stands under a key is fetched for every name that has the key.
theorem fetches_of_get? (hactive : s.active = some c) {text : Text}
    (hget : c.get? (Cache.keyOf identity) = .ok (some (.str text)))
    (make : Unit → Except CompileError Text) :
    Fetches (s.fetch identity make).1 (.ok text) ∧ (s.fetch identity make).2 = s := by
  unfold fetch lookUp
  rw [hactive]
  simp only [hget]
  exact ⟨⟨rfl, rfl⟩, trivial⟩

end Shelf

end BraceTemplate

import BraceTemplate.Source.Registry
import Mathlib.Data.List.Induction

namespace BraceTemplate

-- Before another root among those of one name: by a higher priority, or added earlier at the same one.
def Root.Precedes (a b : Root) : Prop :=
  b.priority < a.priority ∨ a.priority = b.priority ∧ a.order < b.order

instance (a b : Root) : Decidable (a.Precedes b) :=
  inferInstanceAs (Decidable (_ ∨ _))

namespace Registry

-- What can be done to a registry.
inductive Change where
  | add (name : Text) (directory : Path) (priority : Int)
  | remove (name : Text)
  deriving DecidableEq

def apply (r : Registry) : Change → Registry
  | .add name directory priority => r.add name directory priority
  | .remove name => r.remove name

-- What a registry that was empty has become after changes, the first one first.
def after (changes : List Change) : Registry :=
  changes.foldl apply empty

def Change.isAddition : Change → Bool
  | .add .. => true
  | .remove _ => false

-- How many roots were added, under whatever name.
def additions (changes : List Change) : Nat :=
  changes.countP Change.isAddition

-- A root that was added under a name and not removed since. Its number is that of the additions before
-- its own.
def Standing (changes : List Change) (name : Text) (root : Root) : Prop :=
  ∃ before rest, changes = before ++ .add name root.directory root.priority :: rest ∧
    root.order = additions before ∧ .remove name ∉ rest

section Standing

variable {changes later : List Change} {name other : Text} {root : Root}

theorem additions_append (changes later : List Change) :
    additions (changes ++ later) = additions changes + additions later :=
  List.countP_append

theorem additions_add (name : Text) (directory : Path) (priority : Int) (rest : List Change) :
    additions (.add name directory priority :: rest) = additions rest + 1 :=
  List.countP_cons_of_pos rfl

theorem not_standing_nil : ¬ Standing [] name root := by
  rintro ⟨before, rest, h, -⟩
  simp at h

theorem Standing.order_lt (h : Standing changes name root) : root.order < additions changes := by
  obtain ⟨before, rest, rfl, horder, -⟩ := h
  rw [additions_append, additions_add]
  omega

-- After further changes a root stands if it stood before and its name was not removed, or if it is one of
-- those that were added meanwhile.
theorem standing_append : Standing (changes ++ later) name root ↔
    (Standing changes name root ∧ .remove name ∉ later) ∨
      ∃ before rest, later = before ++ .add name root.directory root.priority :: rest ∧
        root.order = additions changes + additions before ∧ .remove name ∉ rest := by
  constructor
  · rintro ⟨before, rest, h, horder, hrest⟩
    rcases List.append_eq_append_iff.mp h with ⟨middle, rfl, hlater⟩ | ⟨middle, rfl, hmiddle⟩
    · exact .inr ⟨middle, rest, hlater, by rw [horder, additions_append], hrest⟩
    · cases middle with
      | nil =>
          refine .inr ⟨[], rest, hmiddle.symm, ?_, hrest⟩
          rw [horder, List.append_nil]
          rfl
      | cons change middle =>
          obtain ⟨rfl, rfl⟩ := List.cons.inj hmiddle
          have hrest : .remove name ∉ middle ++ later := hrest
          rw [List.mem_append, not_or] at hrest
          exact .inl ⟨⟨before, middle, rfl, horder, hrest.1⟩, hrest.2⟩
  · rintro (⟨⟨before, rest, rfl, horder, hrest⟩, hlater⟩ | ⟨before, rest, rfl, horder, hrest⟩)
    · refine ⟨before, rest ++ later, by rw [List.append_assoc, List.cons_append], horder, ?_⟩
      rw [List.mem_append, not_or]
      exact ⟨hrest, hlater⟩
    · exact ⟨changes ++ before, rest, (List.append_assoc ..).symm, by rw [horder, additions_append],
        hrest⟩

theorem standing_add {directory : Path} {priority : Int} :
    Standing (changes ++ [.add name directory priority]) other root ↔
      Standing changes other root ∨ other = name ∧ root = ⟨directory, priority, additions changes⟩ := by
  rw [standing_append]
  refine or_congr (and_iff_left (by simp)) ⟨?_, ?_⟩
  · rintro ⟨before, rest, h, horder, -⟩
    obtain rfl : before = [] := by cases before <;> simp_all
    obtain ⟨rfl, rfl, rfl⟩ := Change.add.inj (List.cons.inj h).1
    exact ⟨rfl, by rw [show additions changes = root.order from horder.symm]⟩
  · rintro ⟨rfl, rfl⟩
    exact ⟨[], [], rfl, rfl, by simp⟩

theorem standing_remove :
    Standing (changes ++ [.remove name]) other root ↔ other ≠ name ∧ Standing changes other root := by
  rw [standing_append, and_comm]
  refine (or_iff_left ?_).trans (and_congr_left' (by simp))
  rintro ⟨before, rest, h, -⟩
  cases before <;> simp at h

-- No two roots have one number, whatever their names.
theorem Standing.eq_of_order_eq {a b : Root} (ha : Standing changes name a)
    (hb : Standing changes other b) (h : a.order = b.order) : name = other ∧ a = b := by
  induction changes using List.reverseRecOn with
  | nil => exact absurd ha not_standing_nil
  | append_singleton changes change ih =>
      cases change with
      | remove gone => exact ih (standing_remove.mp ha).2 (standing_remove.mp hb).2
      | add new directory priority =>
          rcases standing_add.mp ha with hold | ⟨rfl, rfl⟩ <;>
            rcases standing_add.mp hb with hold' | ⟨rfl, rfl⟩
          · exact ih hold hold'
          · exact absurd h (Nat.ne_of_lt hold.order_lt)
          · exact absurd h (Nat.ne_of_gt hold'.order_lt)
          · exact ⟨rfl, rfl⟩

end Standing

section Lists

variable {name other : Text} {root : Root} {roots : List Root} {change : List Root → List Root}

theorem mem_rank {x : Root} : x ∈ rank root roots ↔ x = root ∨ x ∈ roots := by
  induction roots with
  | nil => exact List.mem_cons
  | cons first rest ih =>
      rw [rank]
      split
      · rw [List.mem_cons, ih, List.mem_cons]
        exact or_left_comm
      · exact List.mem_cons

-- A root that was added after all others finds its place by its priority alone.
theorem pairwise_rank (h : roots.Pairwise Root.Precedes) (hlast : ∀ x ∈ roots, x.order < root.order) :
    (rank root roots).Pairwise Root.Precedes := by
  induction roots with
  | nil => exact List.pairwise_singleton ..
  | cons first rest ih =>
      obtain ⟨hfirst, hrest⟩ := List.pairwise_cons.mp h
      rw [rank]
      split
      · next hle =>
          have hbehind : first.Precedes root :=
            (Int.lt_or_eq_of_le hle).imp_right fun heq => ⟨heq.symm, hlast first List.mem_cons_self⟩
          refine List.pairwise_cons.mpr ⟨fun x hx => ?_, ih hrest fun x hx => hlast x (List.mem_cons_of_mem _ hx)⟩
          rcases mem_rank.mp hx with rfl | hx
          · exact hbehind
          · exact hfirst x hx
      · next hlt =>
          -- those behind the first one have no higher priority than it
          refine List.pairwise_cons.mpr ⟨fun x hx => .inl ?_, h⟩
          rcases List.mem_cons.mp hx with rfl | hx
          · omega
          · rcases hfirst x hx with hx | ⟨hx, -⟩ <;> omega

theorem find?_update (lists : List (Text × List Root)) :
    (((update name change lists).find? (·.1 == other)).map (·.2)).getD [] =
      if other = name then change (((lists.find? (·.1 == name)).map (·.2)).getD [])
      else ((lists.find? (·.1 == other)).map (·.2)).getD [] := by
  induction lists with
  | nil =>
      by_cases h : other = name
      · simp [update, h]
      · simp [update, h, Ne.symm h]
  | cons entry rest ih =>
      obtain ⟨first, roots⟩ := entry
      by_cases hfirst : first = name <;> by_cases hother : first = other <;>
        grind [update]

theorem map_fst_update (lists : List (Text × List Root)) :
    (update name change lists).map (·.1) =
      if name ∈ lists.map (·.1) then lists.map (·.1) else lists.map (·.1) ++ [name] := by
  induction lists with
  | nil => rfl
  | cons entry rest ih => grind [update]

end Lists

section Operations

variable (r : Registry) (name other : Text) (directory : Path) (priority : Int)

theorem roots_add : (r.add name directory priority).roots other =
    if other = name then rank ⟨directory, priority, r.added⟩ (r.roots name) else r.roots other :=
  find?_update r.lists

theorem names_add : (r.add name directory priority).names =
    if name ∈ r.names then r.names else r.names ++ [name] :=
  map_fst_update r.lists

theorem roots_remove : (r.remove name).roots other = if other = name then [] else r.roots other := by
  unfold remove roots
  rw [List.find?_filter]
  split
  · next h =>
      subst h
      rw [List.find?_eq_none.mpr fun entry _ => by simp]
      rfl
  · next h =>
      congr 3
      funext entry
      by_cases hentry : entry.1 = other
      · simp [hentry, h]
      · simp [hentry]

theorem names_remove : (r.remove name).names = r.names.filter (· != name) := by
  unfold remove names
  rw [List.filter_map]
  rfl

end Operations

-- What a registry holds after changes. Under each name stand the roots that were added and not removed
-- since, ranked, each under the number of the additions before its own, which no other root has. The names are
-- those with such a root, in the order in which the first of them was added.
structure Recorded (changes : List Change) (r : Registry) : Prop where
  added : r.added = additions changes
  mem_roots : ∀ name root, root ∈ r.roots name ↔ Standing changes name root
  ranked : ∀ name, (r.roots name).Pairwise Root.Precedes
  distinct : ∀ name other a b, a ∈ r.roots name → b ∈ r.roots other → a.order = b.order →
    name = other ∧ a = b
  mem_names : ∀ name, name ∈ r.names ↔ ∃ root, root ∈ r.roots name
  nodup_names : r.names.Nodup
  ordered_names : r.names.Pairwise fun name other =>
    ∃ a ∈ r.roots name, ∀ b ∈ r.roots other, a.order < b.order

section Recorded

variable {changes : List Change} {r : Registry}

theorem Recorded.order_lt (h : Recorded changes r) {name : Text} {root : Root} (hroot : root ∈ r.roots name) :
    root.order < r.added :=
  h.added ▸ ((h.mem_roots name root).mp hroot).order_lt

theorem recorded_nil : Recorded [] empty where
  added := rfl
  mem_roots _ _ := iff_of_false List.not_mem_nil not_standing_nil
  ranked _ := .nil
  distinct _ _ _ _ h := absurd h List.not_mem_nil
  mem_names _ := iff_of_false List.not_mem_nil fun ⟨_, h⟩ => List.not_mem_nil h
  nodup_names := .nil
  ordered_names := .nil

theorem Recorded.add (h : Recorded changes r) (name : Text) (directory : Path) (priority : Int) :
    Recorded (changes ++ [.add name directory priority]) (r.add name directory priority) := by
  have hmem : ∀ other root, root ∈ (r.add name directory priority).roots other ↔
      root ∈ r.roots other ∨ other = name ∧ root = ⟨directory, priority, r.added⟩ := by
    intro other root
    rw [roots_add]
    split
    · next hother => rw [mem_rank, or_comm, hother]; simp
    · next hother => simp [hother]
  have hstanding : ∀ other root, root ∈ (r.add name directory priority).roots other ↔
      Standing (changes ++ [.add name directory priority]) other root := by
    intro other root
    rw [hmem, standing_add, h.mem_roots, h.added]
  refine ⟨?_, hstanding, ?_, ?_, ?_, ?_, ?_⟩
  · show r.added + 1 = _
    rw [additions_append, additions_add, h.added]
    rfl
  · intro other
    rw [roots_add]
    split
    · exact pairwise_rank (h.ranked name) fun x hx => h.order_lt hx
    · exact h.ranked other
  · intro first other a b ha hb
    exact ((hstanding first a).mp ha).eq_of_order_eq ((hstanding other b).mp hb)
  · intro other
    have hnames : other ∈ (r.add name directory priority).names ↔ other ∈ r.names ∨ other = name := by
      rw [names_add]
      split
      · next hold => exact ⟨.inl, fun h => h.elim id fun h => h ▸ hold⟩
      · simp
    simp only [hnames, hmem, h.mem_names, exists_or, exists_and_left, exists_eq, and_true]
  · rw [names_add]
    split
    · exact h.nodup_names
    · next hnew =>
        refine List.nodup_append.mpr ⟨h.nodup_names, List.pairwise_singleton .., fun a ha b hb => ?_⟩
        rintro rfl
        exact hnew (List.mem_singleton.mp hb ▸ ha)
  · -- the new root comes after all others, so it is no first one unless its name is new
    rw [names_add]
    have hold : r.names.Pairwise fun a b => ∃ x ∈ (r.add name directory priority).roots a,
        ∀ y ∈ (r.add name directory priority).roots b, x.order < y.order := by
      refine h.ordered_names.imp fun {a b} ⟨x, hx, hfirst⟩ => ⟨x, (hmem a x).mpr (.inl hx), fun y hy => ?_⟩
      rcases (hmem b y).mp hy with hy | ⟨-, rfl⟩
      · exact hfirst y hy
      · exact h.order_lt hx
    split
    · exact hold
    · next hnew =>
        refine List.pairwise_append.mpr ⟨hold, List.pairwise_singleton .., fun a ha b hb => ?_⟩
        obtain rfl := List.mem_singleton.mp hb
        obtain ⟨x, hx⟩ := (h.mem_names a).mp ha
        refine ⟨x, (hmem a x).mpr (.inl hx), fun y hy => ?_⟩
        rcases (hmem b y).mp hy with hy | ⟨-, rfl⟩
        · exact absurd ((h.mem_names b).mpr ⟨y, hy⟩) hnew
        · exact h.order_lt hx

theorem Recorded.remove (h : Recorded changes r) (name : Text) :
    Recorded (changes ++ [.remove name]) (r.remove name) := by
  have hmem : ∀ other root, root ∈ (r.remove name).roots other ↔ other ≠ name ∧ root ∈ r.roots other := by
    intro other root
    rw [roots_remove]
    split <;> simp_all
  refine ⟨?_, ?_, ?_, ?_, ?_, ?_, ?_⟩
  · show r.added = _
    rw [additions_append, h.added]
    rfl
  · intro other root
    rw [hmem, standing_remove, h.mem_roots]
  · intro other
    rw [roots_remove]
    split
    · exact .nil
    · exact h.ranked other
  · intro first other a b ha hb
    exact h.distinct first other a b ((hmem first a).mp ha).2 ((hmem other b).mp hb).2
  · intro other
    rw [names_remove, List.mem_filter, h.mem_names]
    simp only [hmem, bne_iff_ne, exists_and_left]
    exact and_comm
  · rw [names_remove]
    exact h.nodup_names.filter _
  · rw [names_remove]
    refine (h.ordered_names.filter _).imp_of_mem fun {a b} ha _ ⟨x, hx, hfirst⟩ => ?_
    have hne : a ≠ name := by simpa using (List.mem_filter.mp ha).2
    exact ⟨x, (hmem a x).mpr ⟨hne, hx⟩, fun y hy => hfirst y ((hmem b y).mp hy).2⟩

theorem after_append (changes later : List Change) :
    after (changes ++ later) = later.foldl apply (after changes) :=
  List.foldl_append

theorem recorded_after (changes : List Change) : Recorded changes (after changes) := by
  induction changes using List.reverseRecOn with
  | nil => exact recorded_nil
  | append_singleton changes change ih =>
      rw [after_append]
      cases change with
      | add name directory priority => exact ih.add name directory priority
      | remove name => exact ih.remove name

end Recorded

-- A registry is a record of what was done to it, at every moment; and no number that was given out by
-- then belongs to a root that came later, whatever was removed.
theorem after_history (changes later : List Change) :
    Recorded changes (after changes) ∧ ∀ name, ∀ root ∈ (after (changes ++ later)).roots name,
      root.order < (after changes).added → root ∈ (after changes).roots name := by
  have h := recorded_after changes
  refine ⟨h, fun name root hroot hlt => ?_⟩
  rcases standing_append.mp (((recorded_after (changes ++ later)).mem_roots name root).mp hroot) with
    ⟨hstanding, -⟩ | ⟨before, rest, -, horder, -⟩
  · exact (h.mem_roots name root).mpr hstanding
  · rw [h.added, horder] at hlt
    omega

-- A name that is removed and added again goes last, and its roots have new numbers.
theorem after_history_again :
    let main := "main".toList
    let theme := "theme".toList
    let changes := [Change.add main (.ofText "/a".toList) 1, .add theme (.ofText "/x".toList) 0,
      .remove main, .add main (.ofText "/b".toList) 0, .add main (.ofText "/c".toList) 5]
    let later := [Change.remove theme, .add main (.ofText "/d".toList) 5]
    let root : Root := ⟨.ofText "/b".toList, 0, 2⟩
    Recorded changes (after changes) ∧ (after changes).names = [theme, main] ∧
      (after (changes ++ later)).roots main =
        [⟨.ofText "/c".toList, 5, 3⟩, ⟨.ofText "/d".toList, 5, 4⟩, root] ∧
      root.order < (after changes).added ∧ root ∈ (after changes).roots main := by
  intro main theme changes later root
  have hroots : (after (changes ++ later)).roots main =
      [⟨.ofText "/c".toList, 5, 3⟩, ⟨.ofText "/d".toList, 5, 4⟩, root] := by decide
  have hlt : root.order < (after changes).added := by decide
  have h := after_history changes later
  exact ⟨h.1, by decide, hroots, hlt, h.2 main root (hroots ▸ by decide) hlt⟩

end Registry

end BraceTemplate

import BraceTemplate.Host.Scope
import BraceTemplate.Proofs.Tree.Data
import BraceTemplate.Proofs.Tree.Names
import BraceTemplate.Proofs.Tree.Outcome

namespace BraceTemplate

theorem compatible_of_name {x : Text} (hx : isName x = true) : compatible x = x := by
  obtain ⟨_, _, _, _, hpart⟩ := isName_iff.mp hx
  rw [compatible, if_pos]
  rw [List.all_eq_true]
  exact fun c hc => decide_eq_true (toNat_lt_of_namePart (hpart c hc))

namespace Host

namespace Store

-- Where the names of a run live.
def IsHome (s : Store) (home : Nat) : Prop :=
  ∃ values, s.find? home = some (.names values)

-- Whether an entry of a home belongs to a name of a level.
def answers (level : Nat) (x : Text) (entry : Nat × Text × Option Value) : Bool :=
  entry.1 == level && entry.2.1 == x

theorem answers_iff {level : Nat} {x : Text} {entry : Nat × Text × Option Value} :
    answers level x entry = true ↔ entry.1 = level ∧ entry.2.1 = x := by
  rw [answers, Bool.and_eq_true, beq_iff_eq, beq_iff_eq]

-- What a name of a level stands for.
def named (s : Store) (home level : Nat) (x : Text) : Option Value :=
  match s.find? home with
  | some (.names values) => (values.find? (answers level x)).bind (·.2.2)
  | _ => none

-- What a run leaves of a store that it starts with: cells stay as they are, and so do the names of the
-- levels further out.
structure After (home level : Nat) (s s' : Store) : Prop where
  size : s.cells.size ≤ s'.cells.size
  cells : ∀ address < s.cells.size, address ≠ home → s'.find? address = s.find? address
  isHome : s.IsHome home → s'.IsHome home
  named : ∀ l < level, ∀ x, s'.named home l x = s.named home l x

variable {s s' s'' : Store} {home level : Nat}

theorem IsHome.lt (h : s.IsHome home) : home < s.cells.size := by
  obtain ⟨values, hv⟩ := h
  exact (Array.getElem?_eq_some_iff.mp hv).1

theorem After.refl (home level : Nat) (s : Store) : After home level s s :=
  ⟨Nat.le_refl _, fun _ _ _ => rfl, id, fun _ _ _ => rfl⟩

theorem After.trans (h : After home level s s') (h' : After home level s' s'') :
    After home level s s'' where
  size := Nat.le_trans h.size h'.size
  cells address ha hne :=
    (h'.cells address (Nat.lt_of_lt_of_le ha h.size) hne).trans (h.cells address ha hne)
  isHome hs := h'.isHome (h.isHome hs)
  named l hl x := (h'.named l hl x).trans (h.named l hl x)

theorem After.mono {level' : Nat} (h : After home level' s s') (hl : level ≤ level') :
    After home level s s' :=
  { h with named := fun l hlt => h.named l (Nat.lt_of_lt_of_le hlt hl) }

theorem named_congr (h : s'.find? home = s.find? home) (l : Nat) (x : Text) :
    s'.named home l x = s.named home l x := by
  simp only [Store.named, h]

-- A step that keeps the home as it is.
theorem after_of_cells (hsize : s.cells.size ≤ s'.cells.size)
    (hcells : ∀ address < s.cells.size, s'.find? address = s.find? address) (hs : s.IsHome home) :
    After home level s s' where
  size := hsize
  cells address ha _ := hcells address ha
  isHome := by
    rintro ⟨values, hv⟩
    exact ⟨values, (hcells home hs.lt).trans hv⟩
  named l _ x := named_congr (hcells home hs.lt) l x

theorem Grows.after (h : s.Grows s') (hs : s.IsHome home) : After home level s s' :=
  after_of_cells h.size h.cells hs

-- A change of one name.
structure Sets (home level : Nat) (x : Text) (v : Option Value) (s s' : Store) : Prop where
  after : After home level s s'
  here : s'.named home level x = v
  others : ∀ y, y ≠ x → s'.named home level y = s.named home level y

theorem find?_update_self {address : Nat} (h : address < s.cells.size) (c : Cell) :
    (s.update address c).find? address = some c := by
  simp [update, find?, h]

theorem find?_update_of_ne {address other : Nat} (h : other ≠ address) (c : Cell) :
    (s.update address c).find? other = s.find? other := by
  simp [update, find?, Array.getElem?_setIfInBounds_ne (Ne.symm h)]

theorem size_update (address : Nat) (c : Cell) : (s.update address c).cells.size = s.cells.size := by
  simp [update]

end Store

namespace Run

section PutName

variable {level l : Nat} {x y : Text} {v : Option Value} {values : List (Nat × Text × Option Value)}

theorem find?_putName_self :
    (putName level x v values).find? (Store.answers level x) = some (level, x, v) := by
  have hself : Store.answers level x (level, x, v) = true := Store.answers_iff.mpr ⟨rfl, rfl⟩
  induction values with
  | nil => exact List.find?_cons_of_pos hself
  | cons entry rest ih =>
      obtain ⟨l, n, old⟩ := entry
      rw [putName]
      split
      · next h =>
          obtain ⟨rfl, rfl⟩ := h
          exact List.find?_cons_of_pos hself
      · next h =>
          have hno : ¬Store.answers level x (l, n, old) = true := fun hb => h (Store.answers_iff.mp hb)
          rw [List.find?_cons_of_neg hno, ih]

theorem find?_putName_of_ne (h : ¬(level = l ∧ x = y)) :
    (putName level x v values).find? (Store.answers l y) = values.find? (Store.answers l y) := by
  have hno : ∀ v : Option Value, ¬Store.answers l y (level, x, v) = true :=
    fun v hb => h (Store.answers_iff.mp hb)
  induction values with
  | nil => exact List.find?_cons_of_neg (hno v)
  | cons entry rest ih =>
      obtain ⟨l', n, old⟩ := entry
      rw [putName]
      split
      · next hhere =>
          obtain ⟨rfl, rfl⟩ := hhere
          rw [List.find?_cons_of_neg (hno v), List.find?_cons_of_neg (hno old)]
      · rw [List.find?_cons, List.find?_cons, ih]

end PutName

section Names

variable {g : Setting} {s : Store} {frame : Frame} {x : Text}

theorem gives_valueOf? (hx : isName x = true) :
    Gives (valueOf? frame x) g s (s.named frame.home frame.level x) s := by
  refine (gives_cell? frame.home).bind ?_
  rw [compatible_of_name hx, Store.named]
  generalize s.find? frame.home = cell
  cases cell with
  | none => exact gives_pure _
  | some c => cases c <;> exact gives_pure _

theorem setName_eq {v : Option Value} (hv : v ≠ some .ended) :
    setName frame x v = cell? frame.home >>= fun
      | some (.names values) =>
        update frame.home (.names (putName frame.level (compatible x) v values))
      | _ => pure () := by
  cases v with
  | none => rfl
  | some v =>
      cases v with
      | ended => exact absurd rfl hv
      | _ => rfl

-- Giving a name a value changes nothing else.
theorem gives_setName (hs : s.IsHome frame.home) (hx : isName x = true) {v : Option Value}
    (hv : v ≠ some .ended) :
    ∃ s', Gives (setName frame x v) g s () s' ∧ Store.Sets frame.home frame.level x v s s' := by
  obtain ⟨values, hcell⟩ := hs
  have hlt := Store.IsHome.lt ⟨values, hcell⟩
  refine ⟨s.update frame.home (.names (putName frame.level x v values)), ?_, ?_⟩
  · rw [setName_eq hv, compatible_of_name hx]
    refine (gives_cell? frame.home).bind ?_
    rw [hcell]
    exact gives_update _ _
  · have hnames := Store.find?_update_self hlt (.names (putName frame.level x v values))
    have hnamed : ∀ l y, ¬(frame.level = l ∧ x = y) →
        (s.update frame.home (.names (putName frame.level x v values))).named frame.home l y =
          s.named frame.home l y := fun l y hne => by
      simp only [Store.named, hnames, hcell, find?_putName_of_ne hne]
    refine ⟨⟨?_, ?_, ?_, ?_⟩, ?_, ?_⟩
    · exact Nat.le_of_eq (Store.size_update _ _).symm
    · exact fun address _ hne => Store.find?_update_of_ne hne _
    · exact fun _ => ⟨_, hnames⟩
    · exact fun l hl y => hnamed l y fun h => Nat.ne_of_lt hl h.1.symm
    · simp only [Store.named, hnames, find?_putName_self, Option.bind_some]
    · exact fun y hne => hnamed _ y fun h => hne h.2.symm

-- The value of a name among the data, and outside of all blocks.
def known (g : Setting) (x : Text) : Option Value :=
  (g.data.find? (·.1 == x)).map (·.2)

def contextOf (g : Setting) (x : Text) : Option Value :=
  (known g x).or (builtin? x)

theorem contextOf_of_variable (hx : isVariable x = true) : contextOf g x = known g x := by
  have hne : ∀ w ∈ takenNames, x ≠ w := fun w hw he => not_taken_of_variable hx (he ▸ hw)
  rw [contextOf, builtin?, if_neg (hne _ (by decide)), if_neg (hne _ (by decide)),
    if_neg (hne _ (by decide)), Option.or_none]

theorem gives_context? (x : Text) : Gives (context? x) g s (contextOf g x) s := by
  refine gives_read.bind ?_
  unfold contextOf known
  cases g.data.find? (·.1 == x) <;> exact gives_pure _

end Names

section Blocks

variable {g : Setting} {s : Store} {frame : Frame} {outer : Scope} {slots : List (Text × Origin)}

-- Names that a block binds itself, and names that are looked up when it is entered.
def Opening (slots : List (Text × Origin)) : Prop :=
  ∀ e ∈ slots, isName e.1 = true ∧ (e.2 = .bound ∨ e.2 = .looked)

-- What becomes of the names of a block when it is entered.
structure Loads (g : Setting) (frame : Frame) (slots : List (Text × Origin)) (s s' : Store) :
    Prop where
  after : Store.After frame.home frame.level s s'
  looked : ∀ x, (x, .looked) ∈ slots → s'.named frame.home frame.level x = contextOf g x
  others : ∀ x, (x, .looked) ∉ slots →
    s'.named frame.home frame.level x = s.named frame.home frame.level x

-- Where a name of a block gets its value from.
def fetch (frame : Frame) (outer : Scope) : Text × Origin → Run Unit
  | (x, .looked) => do setName frame x (← context? x)
  | (x, .inherited) => do setName frame x (← inherited? outer x)
  | _ => pure ()

theorem gives_fetch (hs : s.IsHome frame.home) (hslots : Opening slots)
    (hdata : ∀ x, (x, .looked) ∈ slots → contextOf g x ≠ some .ended) :
    ∃ s', Gives (slots.forM (fetch frame outer)) g s () s' ∧ Loads g frame slots s s' := by
  induction slots generalizing s with
  | nil => exact ⟨s, gives_pure (), .refl _ _ s, by simp, fun _ _ => rfl⟩
  | cons entry rest ih =>
      obtain ⟨x, origin⟩ := entry
      obtain ⟨hx, horigin⟩ := hslots _ List.mem_cons_self
      have hrest : Opening rest := fun e he => hslots e (List.mem_cons_of_mem _ he)
      have hothers : ∀ y, (y, .looked) ∈ rest → contextOf g y ≠ some .ended :=
        fun y hy => hdata y (List.mem_cons_of_mem _ hy)
      rcases horigin with rfl | rfl
      · obtain ⟨s', hrun, hloads⟩ := ih hs hrest hothers
        refine ⟨s', (gives_pure ()).bind hrun, hloads.after, fun y hy => ?_, fun y hy => ?_⟩
        · exact hloads.looked y (by simpa using hy)
        · exact hloads.others y (by simpa using hy)
      · obtain ⟨s₁, hset, hsets⟩ := gives_setName hs hx (g := g) (hdata x List.mem_cons_self)
        obtain ⟨s', hrun, hloads⟩ := ih (hsets.after.isHome hs) hrest hothers
        refine ⟨s', ((gives_context? x).bind hset).bind hrun, hsets.after.trans hloads.after,
          fun y hy => ?_, fun y hy => ?_⟩
        · by_cases hmem : (y, Origin.looked) ∈ rest
          · exact hloads.looked y hmem
          · obtain rfl : y = x := by simpa [hmem] using hy
            rw [hloads.others y hmem, hsets.here]
        · simp only [List.mem_cons, Prod.mk.injEq, and_true, not_or] at hy
          rw [hloads.others y hy.2, hsets.others y hy.1]

theorem gives_unset (hslots : Opening slots) :
    Gives (slots.forM fun (x, origin) => if origin = .unset then setName frame x none else pure ())
      g s () s := by
  induction slots with
  | nil => exact gives_pure ()
  | cons entry rest ih =>
      have hno : entry.2 ≠ .unset := by
        rcases (hslots _ List.mem_cons_self).2 with h | h <;> rw [h] <;> decide
      have hfirst : Gives (if entry.2 = .unset then setName frame entry.1 none else pure ()) g s ()
          s := by
        rw [if_neg hno]
        exact gives_pure ()
      exact hfirst.bind (ih fun e he => hslots e (List.mem_cons_of_mem _ he))

theorem gives_enter (outer : Scope) (hs : s.IsHome frame.home) (hslots : Opening frame.slots)
    (hdata : ∀ x, (x, .looked) ∈ frame.slots → contextOf g x ≠ some .ended) :
    ∃ s', Gives (enter (frame :: outer)) g s () s' ∧ Loads g frame frame.slots s s' := by
  obtain ⟨s', hrun, hloads⟩ := gives_fetch hs hslots hdata
  have heq : enter (frame :: outer) = frame.slots.forM (fetch frame outer) >>= fun _ =>
      frame.slots.forM fun entry =>
        if entry.2 = .unset then setName frame entry.1 none else pure () := by
    refine congrArg (fun first => frame.slots.forM first >>= fun _ =>
      frame.slots.forM fun entry =>
        if entry.2 = .unset then setName frame entry.1 none else pure ()) (funext fun entry => ?_)
    obtain ⟨x, origin⟩ := entry
    cases origin <;> rfl
  rw [heq]
  exact ⟨s', hrun.bind (gives_unset hslots), hloads⟩

theorem gives_leave (hs : s.IsHome frame.home) (hslots : Opening frame.slots) :
    ∃ s', Gives (leave frame) g s () s' ∧ Store.After frame.home frame.level s s' := by
  unfold leave
  generalize frame.slots = slots at hslots
  induction slots generalizing s with
  | nil => exact ⟨s, gives_pure (), .refl _ _ s⟩
  | cons entry rest ih =>
      have hx := (hslots _ List.mem_cons_self).1
      obtain ⟨s₁, hset, hsets⟩ := gives_setName hs hx (g := g) (v := none) (by simp)
      obtain ⟨s', hrun, hafter⟩ := ih (hsets.after.isHome hs)
        fun e he => hslots e (List.mem_cons_of_mem _ he)
      exact ⟨s', hset.bind hrun, hsets.after.trans hafter⟩

end Blocks

end Run

end Host

end BraceTemplate

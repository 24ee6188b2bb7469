import BraceTemplate.Proofs.Switch.Space

namespace BraceTemplate

namespace Host

open Run

-- Within a scope every name is read as it is outside of all blocks, but for some that the scope binds
-- itself.
structure Looks (g : Setting) (home : Nat) (scope : Scope) (own : List Text) (s : Store) : Prop where
  isHome : s.IsHome home
  frames : ∀ frame ∈ scope, frame.home = home ∧ frame.level < scope.length
  looked : ∀ x frame origin, isName x = true → x ∉ own → scope.find? x = some (frame, origin) →
    origin = .looked ∧ s.named home frame.level x = contextOf g x

section Looks

variable {g : Setting} {home : Nat} {scope : Scope} {own : List Text} {s s' : Store} {x : Text}

theorem Looks.after (h : Looks g home scope own s) (h' : Store.After home scope.length s s') :
    Looks g home scope own s' where
  isHome := h'.isHome h.isHome
  frames := h.frames
  looked x frame origin hx hown hfind := by
    rw [h'.named _ (h.frames frame (Scope.mem_of_find? hfind)).2 x]
    exact h.looked x frame origin hx hown hfind

theorem Looks.gives_readName (h : Looks g home scope own s) (hx : isName x = true) (hown : x ∉ own) :
    Gives (readName scope x) g s ((contextOf g x).getD (undefinedName x)) s := by
  unfold readName
  cases hfind : scope.find? x with
  | none => exact (gives_context? x).bind (gives_pure _)
  | some entry =>
      obtain ⟨frame, origin⟩ := entry
      obtain ⟨rfl, hnamed⟩ := h.looked x frame origin hx hown hfind
      refine (gives_valueOf? hx).bind ?_
      rw [(h.frames frame (Scope.mem_of_find? hfind)).1, hnamed]
      cases contextOf g x <;> exact gives_pure _

theorem Looks.gives_homeOf (h : Looks g home scope own s) (hscope : scope ≠ []) :
    Gives (homeOf scope) g s home s := by
  cases scope with
  | nil => exact absurd rfl hscope
  | cons frame outer =>
      rw [← (h.frames frame List.mem_cons_self).1]
      exact gives_pure _

-- Giving a value to a name that the scope binds itself.
theorem Looks.sets {frame : Frame} {outer : Scope} {y : Text} {v : Option Value}
    (h : Looks g home (frame :: outer) own s) (hs : Store.Sets home outer.length y v s s') (hy : y ∈ own) :
    Looks g home (frame :: outer) own s' where
  isHome := hs.after.isHome h.isHome
  frames := h.frames
  looked x f origin hx hown hfind := by
    have hnamed : s'.named home f.level x = s.named home f.level x := by
      have hlevel : f.level ≤ outer.length :=
        Nat.le_of_lt_succ (h.frames f (Scope.mem_of_find? hfind)).2
      rcases Nat.lt_or_eq_of_le hlevel with hlt | heq
      · exact hs.after.named _ hlt x
      · exact heq ▸ hs.others x fun he => hown (he ▸ hy)
    rw [hnamed]
    exact h.looked x f origin hx hown hfind

-- Entering a block that looks up whatever it does not bind.
theorem Looks.gives_enter {frame : Frame} {own' : List Text} (h : Looks g home scope own s)
    (hb : IsBlock isName home scope own' frame) (hown : own ⊆ own')
    (hdata : ∀ x, contextOf g x ≠ some .ended) :
    ∃ s', Gives (enter (frame :: scope)) g s () s' ∧ Store.After home scope.length s s' ∧
      Looks g home (frame :: scope) own' s' := by
  obtain ⟨added, hslots, hadded⟩ := hb.slots
  obtain ⟨s', hrun, hloads⟩ := Run.gives_enter scope (hb.home ▸ h.isHome) (hb.opening id) fun x _ => hdata x
  have hafter : Store.After home scope.length s s' := hb.home ▸ hb.level ▸ hloads.after
  refine ⟨s', hrun, hafter, hafter.isHome h.isHome, hb.frames h.frames, fun x f origin hx hno hfind => ?_⟩
  rw [Scope.find?, hslots, find?_slots, if_neg hno] at hfind
  by_cases hmem : x ∈ added
  · simp only [if_pos hmem, Option.some.injEq, Prod.mk.injEq] at hfind
    obtain ⟨rfl, rfl⟩ := hfind
    have hlooked : (x, Origin.looked) ∈ frame.slots := by simp [hslots, hmem]
    exact ⟨rfl, hb.home ▸ hloads.looked x hlooked⟩
  · rw [if_neg hmem] at hfind
    exact (h.after hafter).looked x f origin hx (fun hm => hno (hown hm)) hfind

end Looks

-- A store within a block that keeps the state of a switch. `base` is the store before the switch.
structure Switching (g : Setting) (home : Nat) (base : Store) (frame : Frame) (outer : Scope) (a : Nat)
    (v : Value) (done : Bool) (s : Store) : Prop where
  after : Store.After home outer.length base s
  isHome : base.IsHome home
  fresh : base.cells.size ≤ a
  looks : Looks g home (frame :: outer) [switchName] s
  slot : frame.slots.find? (·.1 == switchName) = some (switchName, .bound)
  here : s.named home frame.level switchName = some (.ref a)
  space : s.find? a = some (.namespace (spaceTable v done))

section Switching

variable {g : Setting} {home : Nat} {base s s' : Store} {frame : Frame} {outer : Scope} {a : Nat} {v : Value}
  {done : Bool}

theorem Switching.gives_readName (h : Switching g home base frame outer a v done s) :
    Gives (readName (frame :: outer) switchName) g s (.ref a) s := by
  have hfind : Scope.find? switchName (frame :: outer) = some (frame, .bound) := by
    rw [Scope.find?, h.slot]
  have hframe := h.looks.frames frame List.mem_cons_self
  simp only [readName, hfind]
  refine (gives_valueOf? (by decide)).bind ?_
  rw [hframe.1, h.here]
  exact gives_pure _

-- What a switch or a text within a branch does leaves the state of the switch as it is.
theorem Switching.of_after (h : Switching g home base frame outer a v done s)
    (h' : Store.After home (frame :: outer).length s s') : Switching g home base frame outer a v done s' where
  after := h.after.trans (h'.mono (Nat.le_succ _))
  isHome := h.isHome
  fresh := h.fresh
  looks := h.looks.after h'
  slot := h.slot
  here := (h'.named _ (h.looks.frames frame List.mem_cons_self).2 _).trans h.here
  space := by
    have hne : a ≠ home := by
      obtain ⟨values, hvalues⟩ := h.looks.isHome
      rintro rfl
      simp [h.space] at hvalues
    exact (h'.cells a (Store.lt_of_find? h.space) hne).trans h.space

theorem Switching.mark (h : Switching g home base frame outer a v done s) :
    Switching g home base frame outer a v true (s.update a (.namespace (spaceTable v true))) := by
  have hne : home ≠ a := Nat.ne_of_lt (Nat.lt_of_lt_of_le h.isHome.lt h.fresh)
  have hhome := Store.find?_update_of_ne (s := s) hne (.namespace (spaceTable v true))
  refine ⟨h.after.update h.isHome h.fresh _, h.isHome, h.fresh, ⟨?_, h.looks.frames, ?_⟩, h.slot, ?_, ?_⟩
  · obtain ⟨values, hvalues⟩ := h.looks.isHome
    exact ⟨values, hhome.trans hvalues⟩
  · intro x f origin hx hno hfind
    rw [Store.named_congr hhome]
    exact h.looks.looked x f origin hx hno hfind
  · rw [Store.named_congr hhome]
    exact h.here
  · exact Store.find?_update_self (Store.lt_of_find? h.space) _

end Switching

namespace Slots

variable {outer : Text → Bool} {a : Slots} {branch : Bool} {body : List Node}

-- What is added by a branch are the names in its test, and what is added by what stands in it.
theorem adds_branch {label : Label} (hl : label.isValid = true)
    (hbody : ∀ a, Adds isName outer a (a.visitAll outer true body)) :
    Adds isName outer a (a.visit outer branch (label.node body)) := by
  have hnames : ∀ x ∈ label.test.names, isName x = true := by
    intro x hx
    rcases List.mem_cons.mp (names_test label hx) with rfl | hx
    · decide
    · cases label with
      | named y =>
          obtain rfl : x = y := by simpa [Label.names] using hx
          exact isName_of_variable hl
      | _ => exact absurd hx List.not_mem_nil
  have hstate : ∀ x ∈ [switchName], isName x = true := by decide
  have hmark : ∀ a : Slots, Adds isName outer a (a.visit outer true marking) := fun a => adds_loadAll hstate
  exact (adds_loadAll hnames).trans ((hmark _).trans (hbody _))

theorem adds_switch {x : Text} (hx : isName x = true) :
    Adds isName outer a (a.visit outer branch (Switch.node x body)) := by
  refine adds_loadAll fun y hy => ?_
  have hy : y = "namespace".toList ∨ y = x := by simpa [names_space] using hy
  rcases hy with rfl | rfl
  · decide
  · exact hx

end Slots

end Host

open Host

-- The names that branches read are all that the block of their switch takes over from them.
theorem Cases.adds_nodes (c : Cases) (hc : c.isValid = true) (outer : Text → Bool) (branch : Bool)
    (a : Slots) : Slots.Adds isName outer a (a.visitAll outer branch c.nodes) := by
  induction c generalizing a with
  | done => exact .refl isName outer a
  | text label s gap rest ih =>
      simp only [isValid, Bool.and_eq_true] at hc
      obtain ⟨⟨⟨hl, -⟩, -⟩, hrest⟩ := hc
      have htext : ∀ a : Slots, Slots.Adds isName outer a (a.visitAll outer true (dataNodes s)) := fun a => by
        rw [← List.append_nil (dataNodes s), Slots.visitAll_data]
        exact .refl isName outer a
      exact (Slots.adds_branch hl htext).trans (ih hrest _)
  | switch label before x first inner after gap rest ihinner ih =>
      simp only [isValid, Bool.and_eq_true] at hc
      obtain ⟨⟨⟨⟨⟨hl, hx⟩, -⟩, hinner⟩, -⟩, hrest⟩ := hc
      have hswitch : ∀ a : Slots,
          Slots.Adds isName outer a (a.visit outer true (Switch.node x inner.nodes)) := fun a =>
        Slots.adds_switch (isName_of_variable hx)
      exact (Slots.adds_branch hl hswitch).trans (ih hrest _)

end BraceTemplate

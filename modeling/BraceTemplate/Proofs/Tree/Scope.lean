import BraceTemplate.Proofs.Tree.Home
import BraceTemplate.Proofs.Tree.Lexeme

namespace BraceTemplate

namespace Environment

variable {env env' : Environment} {x : Text}

theorem get?_append : Environment.get? (env ++ env') x = (env.get? x).or (env'.get? x) := by
  unfold get?
  rw [List.find?_append]
  cases env.find? (·.1 == x) <;> simp

theorem get?_cons_self (x : Text) (d : Datum) (env : Environment) :
    Environment.get? ((x, d) :: env) x = some d := by
  simp [get?]

theorem get?_cons_of_ne {y : Text} (h : y ≠ x) (d : Datum) (env : Environment) :
    Environment.get? ((y, d) :: env) x = env.get? x := by
  rw [get?, get?, List.find?_cons_of_neg (by simpa using h)]

theorem get?_eq_none (h : x ∉ env.map (·.1)) : env.get? x = none := by
  rw [get?, Option.map_eq_none_iff, List.find?_eq_none]
  intro entry he hb
  exact h (List.mem_map.mpr ⟨entry, he, by simpa using hb⟩)

theorem isSome_get? (h : x ∈ env.map (·.1)) : (env.get? x).isSome = true := by
  obtain ⟨entry, he, rfl⟩ := List.mem_map.mp h
  rw [get?, Option.isSome_map, List.find?_isSome]
  exact ⟨entry, he, by simp⟩

end Environment

theorem Binder.names_bindings (binder : Binder) (key value : Datum) :
    (binder.bindings key value).map (·.1) = binder.names := by
  cases binder <;> rfl

theorem isVariable_of_mem_names {binder : Binder} (hb : binder.isValid = true) :
    ∀ y ∈ binder.names, isVariable y = true := by
  cases binder with
  | value v => simpa [Binder.names, Binder.isValid] using hb
  | pair k v =>
      simp only [Binder.isValid, Bool.and_eq_true] at hb
      simpa [Binder.names] using hb.1

namespace Host

-- A value that stands for what a name stands for, or none of both.
def Store.Stands (s : Store) : Option Value → Option Datum → Prop
  | some v, some d => s.Holds s.cells.size v d
  | none, none => True
  | _, _ => False

section Stands

variable {s : Store} {v? : Option Value} {d? : Option Datum}

theorem Store.Stands.of_some {d : Datum} (h : s.Stands v? (some d)) :
    ∃ v, v? = some v ∧ s.Holds s.cells.size v d := by
  cases v? with
  | none => exact h.elim
  | some v => exact ⟨v, rfl, h⟩

theorem Store.Stands.of_none (h : s.Stands v? none) : v? = none := by
  cases v? with
  | none => rfl
  | some v => exact h.elim

theorem Store.Holds.ne_ended {bound : Nat} {v : Value} {d : Datum} (h : s.Holds bound v d) :
    v ≠ .ended := by
  rintro rfl
  cases d <;> simp [Store.Holds] at h

theorem Store.Stands.ne_ended (h : s.Stands v? d?) : v? ≠ some .ended := by
  rintro rfl
  cases d? with
  | none => exact h
  | some d => exact Store.Holds.ne_ended h rfl

end Stands

-- A setting whose data is that of an environment.
def Provides (s₀ : Store) (g : Setting) (env : Environment) : Prop :=
  ∀ x, s₀.Stands (Run.known g x) (env.get? x)

-- Within a scope names stand for what they stand for in an environment. The names of a run live next to
-- the data, and names that no block knows are those of the data.
structure Sees (s₀ : Store) (env₀ : Environment) (scope : Scope) (env : Environment) (s : Store) :
    Prop where
  grows : s₀.Grows s
  isHome : s.IsHome s₀.cells.size
  frames : ∀ frame ∈ scope, frame.home = s₀.cells.size ∧ frame.level < scope.length
  inside : ∀ x frame origin, isVariable x = true → scope.find? x = some (frame, origin) →
    s₀.Stands (s.named frame.home frame.level x) (env.get? x) ∧
      (origin = .looked ∨ (env.get? x).isSome = true)
  outside : ∀ x, isVariable x = true → scope.find? x = none → env.get? x = env₀.get? x

theorem Scope.mem_of_find? {scope : Scope} {x : Text} {frame : Frame} {origin : Origin}
    (h : scope.find? x = some (frame, origin)) : frame ∈ scope := by
  induction scope with
  | nil => simp [Scope.find?] at h
  | cons first rest ih =>
      rw [Scope.find?] at h
      split at h
      · obtain ⟨rfl, -⟩ := Prod.mk.inj (Option.some.inj h)
        exact List.mem_cons_self
      · exact List.mem_cons_of_mem _ (ih h)

theorem Store.Grows.of_after {s₀ s s' : Store} {level : Nat} (h : s₀.Grows s)
    (h' : Store.After s₀.cells.size level s s') : s₀.Grows s' where
  size := Nat.le_trans h.size h'.size
  cells address ha :=
    (h'.cells address (Nat.lt_of_lt_of_le ha h.size) (Nat.ne_of_lt ha)).trans (h.cells address ha)

section Sees

variable {s₀ s s' : Store} {env₀ env : Environment} {scope : Scope} {g : Setting}

theorem Sees.after (h : Sees s₀ env₀ scope env s)
    (h' : Store.After s₀.cells.size scope.length s s') : Sees s₀ env₀ scope env s' where
  grows := h.grows.of_after h'
  isHome := h'.isHome h.isHome
  frames := h.frames
  inside x frame origin hx hfind := by
    obtain ⟨hhome, hlevel⟩ := h.frames frame (Scope.mem_of_find? hfind)
    have hnamed : s'.named frame.home frame.level x = s.named frame.home frame.level x := by
      rw [hhome]
      exact h'.named _ hlevel x
    rw [hnamed]
    exact h.inside x frame origin hx hfind
  outside := h.outside

-- A name is read as what it stands for; one that stands for nothing refuses every use.
theorem Sees.gives_readName (h : Sees s₀ env₀ scope env s) (hp : Provides s₀ g env₀) {x : Text}
    (hx : isVariable x = true) :
    ∃ v?, s₀.Stands v? (env.get? x) ∧
      Run.Gives (Run.readName scope x) g s (v?.getD (Run.undefinedName x)) s := by
  unfold Run.readName
  cases hfind : scope.find? x with
  | none =>
      refine ⟨Run.known g x, h.outside x hx hfind ▸ hp x, ?_⟩
      rw [← Run.contextOf_of_variable hx]
      exact (Run.gives_context? x).bind (Run.gives_pure _)
  | some entry =>
      obtain ⟨frame, origin⟩ := entry
      obtain ⟨hstands, horigin⟩ := h.inside x frame origin hx hfind
      refine ⟨_, hstands, (Run.gives_valueOf? (isName_of_variable hx)).bind ?_⟩
      cases hv : s.named frame.home frame.level x with
      | some v => exact Run.gives_pure v
      | none =>
          rw [hv] at hstands
          cases hd : env.get? x with
          | some d => exact (hd ▸ hstands : s₀.Stands none (some d)).elim
          | none =>
              obtain rfl : origin = .looked := by simpa [hd] using horigin
              exact Run.gives_pure _

end Sees

-- A block within a scope with names of some kind: those that it binds itself, and those that it looks up
-- among the data.
structure IsBlock (kind : Text → Bool) (home : Nat) (scope : Scope) (bound : List Text) (frame : Frame) :
    Prop where
  home : frame.home = home
  level : frame.level = scope.length
  names : ∀ x ∈ bound, kind x = true
  slots : ∃ added : List Text,
    frame.slots = bound.map (·, .bound) ++ added.map (·, .looked) ∧
      ∀ x ∈ added, kind x = true ∧ scope.has x = false ∧ x ∉ bound

section Block

variable {s₀ s : Store} {env₀ env locals : Environment} {scope : Scope} {frame : Frame}
  {bound : List Text} {g : Setting}

theorem IsBlock.opening {kind : Text → Bool} {home : Nat} (h : IsBlock kind home scope bound frame)
    (hkind : ∀ {x}, kind x = true → isName x = true) : Run.Opening frame.slots := by
  obtain ⟨added, hslots, hadded⟩ := h.slots
  intro e he
  rw [hslots, List.mem_append, List.mem_map, List.mem_map] at he
  rcases he with ⟨x, hx, rfl⟩ | ⟨x, hx, rfl⟩
  · exact ⟨hkind (h.names x hx), .inl rfl⟩
  · exact ⟨hkind (hadded x hx).1, .inr rfl⟩

theorem IsBlock.frames {kind : Text → Bool} {home : Nat} (h : IsBlock kind home scope bound frame)
    (hscope : ∀ f ∈ scope, f.home = home ∧ f.level < scope.length) :
    ∀ f ∈ frame :: scope, f.home = home ∧ f.level < (frame :: scope).length := by
  intro f hf
  rw [List.length_cons]
  rcases List.mem_cons.mp hf with rfl | hf
  · exact ⟨h.home, h.level ▸ Nat.lt_succ_self _⟩
  · exact ⟨(hscope f hf).1, Nat.lt_succ_of_lt (hscope f hf).2⟩

-- The first slot of a name tells where its value comes from.
theorem find?_slots {added : List Text} (x : Text) :
    (bound.map (·, Origin.bound) ++ added.map (·, Origin.looked)).find? (·.1 == x) =
      if x ∈ bound then some (x, .bound) else if x ∈ added then some (x, .looked) else none := by
  have hmap : ∀ (o : Origin) (xs : List Text), (xs.map (·, o)).find? (·.1 == x) =
      if x ∈ xs then some (x, o) else none := by
    intro o xs
    induction xs with
    | nil => rfl
    | cons y rest ih =>
        rw [List.map_cons]
        by_cases hyx : y = x
        · rw [List.find?_cons_of_pos (by simpa using hyx), if_pos (by simp [hyx]), hyx]
        · rw [List.find?_cons_of_neg (by simpa using hyx), ih]
          simp [Ne.symm hyx]
  rw [List.find?_append, hmap, hmap]
  split <;> simp

-- When a block is entered that has given its own names their values, names stand for what they stood for
-- before, and the block's own ones for those values.
theorem IsBlock.gives_enter (hb : IsBlock isVariable s₀.cells.size scope (locals.map (·.1)) frame)
    (h : Sees s₀ env₀ scope env s) (hp : Provides s₀ g env₀)
    (hlocals : ∀ x ∈ locals.map (·.1),
      s₀.Stands (s.named s₀.cells.size scope.length x) (locals.get? x)) :
    ∃ s', Run.Gives (Run.enter (frame :: scope)) g s () s' ∧
      Store.After s₀.cells.size scope.length s s' ∧
      Sees s₀ env₀ (frame :: scope) (locals ++ env) s' := by
  obtain ⟨added, hslots, hadded⟩ := hb.slots
  have hlooked : ∀ x, (x, Origin.looked) ∈ frame.slots ↔ x ∈ added := by
    simp [hslots]
  have hknown : ∀ x, (x, Origin.looked) ∈ frame.slots → Run.contextOf g x = Run.known g x :=
    fun x hx => Run.contextOf_of_variable (hadded x ((hlooked x).mp hx)).1
  obtain ⟨s', hrun, hloads⟩ := Run.gives_enter scope (hb.home ▸ h.isHome) (hb.opening isName_of_variable)
    fun x hx => hknown x hx ▸ (hp x).ne_ended
  have hafter : Store.After s₀.cells.size scope.length s s' := hb.home ▸ hb.level ▸ hloads.after
  have hscope := h.after hafter
  refine ⟨s', hrun, hafter, hscope.grows, hscope.isHome, hb.frames h.frames, ?_, ?_⟩
  · intro x f origin hx hfind
    rw [Scope.find?, hslots, find?_slots] at hfind
    by_cases hbound : x ∈ locals.map (·.1)
    · simp only [if_pos hbound, Option.some.injEq, Prod.mk.injEq] at hfind
      obtain ⟨rfl, rfl⟩ := hfind
      have hnot : (x, Origin.looked) ∉ frame.slots := fun hm =>
        (hadded x ((hlooked x).mp hm)).2.2 hbound
      obtain ⟨d, hd⟩ := Option.isSome_iff_exists.mp (Environment.isSome_get? hbound)
      have hget : Environment.get? (locals ++ env) x = locals.get? x := by
        rw [Environment.get?_append, hd, Option.some_or]
      rw [hloads.others x hnot, hb.home, hb.level, hget, hd]
      exact ⟨hd ▸ hlocals x hbound, .inr rfl⟩
    · have hget : Environment.get? (locals ++ env) x = env.get? x := by
        rw [Environment.get?_append, Environment.get?_eq_none hbound, Option.none_or]
      rw [if_neg hbound] at hfind
      rw [hget]
      by_cases hmem : x ∈ added
      · simp only [if_pos hmem, Option.some.injEq, Prod.mk.injEq] at hfind
        obtain ⟨rfl, rfl⟩ := hfind
        have hnone : scope.find? x = none := by simpa [Scope.has] using (hadded x hmem).2.1
        rw [hloads.looked x ((hlooked x).mpr hmem), Run.contextOf_of_variable hx,
          h.outside x hx hnone]
        exact ⟨hp x, .inl rfl⟩
      · rw [if_neg hmem] at hfind
        exact hscope.inside x f origin hx hfind
  · intro x hx hfind
    rw [Scope.find?, hslots, find?_slots] at hfind
    by_cases hbound : x ∈ locals.map (·.1)
    · simp [if_pos hbound] at hfind
    · have hget : Environment.get? (locals ++ env) x = env.get? x := by
        rw [Environment.get?_append, Environment.get?_eq_none hbound, Option.none_or]
      rw [if_neg hbound] at hfind
      by_cases hmem : x ∈ added
      · simp [if_pos hmem] at hfind
      · rw [if_neg hmem] at hfind
        rw [hget, h.outside x hx hfind]

end Block

namespace Slots

-- Names of some kind are added that are looked up among the data, where neither the block nor one
-- around it has them.
def Adds (kind : Text → Bool) (outer : Text → Bool) (before after : Slots) : Prop :=
  ∃ added : List Text, after.entries = before.entries ++ added.map (·, .looked) ∧
    ∀ x ∈ added, kind x = true ∧ outer x = false ∧ before.has x = false

variable {kind outer : Text → Bool} {a b c : Slots}

theorem Adds.refl (kind outer : Text → Bool) (a : Slots) : Adds kind outer a a :=
  ⟨[], by simp, by simp⟩

theorem Adds.trans (h : Adds kind outer a b) (h' : Adds kind outer b c) : Adds kind outer a c := by
  obtain ⟨xs, hb, hxs⟩ := h
  obtain ⟨ys, hc, hys⟩ := h'
  refine ⟨xs ++ ys, by rw [hc, hb, List.map_append, List.append_assoc], fun x hx => ?_⟩
  rcases List.mem_append.mp hx with hx | hx
  · exact hxs x hx
  · obtain ⟨hkind, houter, hno⟩ := hys x hx
    rw [Slots.has, hb, List.any_append, Bool.or_eq_false_iff] at hno
    exact ⟨hkind, houter, hno.1⟩

theorem put_of_not_has {x : Text} {origin : Origin} {entries : List (Text × Origin)}
    (h : entries.any (·.1 == x) = false) : put x origin entries = entries ++ [(x, origin)] := by
  induction entries with
  | nil => rfl
  | cons entry rest ih =>
      obtain ⟨n, o⟩ := entry
      simp only [List.any_cons, Bool.or_eq_false_iff, beq_eq_false_iff_ne] at h
      rw [put, if_neg h.1, ih h.2, List.cons_append]

theorem adds_load {x : Text} (hx : kind x = true) : Adds kind outer a (a.load outer x) := by
  unfold load
  split
  · exact .refl kind outer a
  · next h =>
      simp only [Bool.or_eq_true, not_or, Bool.not_eq_true] at h
      exact ⟨[x], put_of_not_has h.1, by simpa using ⟨hx, h.2, h.1⟩⟩

theorem adds_loadAll {xs : List Text} (hxs : ∀ x ∈ xs, kind x = true) :
    Adds kind outer a (a.loadAll outer xs) := by
  unfold loadAll
  induction xs generalizing a with
  | nil => exact .refl kind outer a
  | cons x rest ih =>
      exact (adds_load (hxs x List.mem_cons_self)).trans
        (ih fun y hy => hxs y (List.mem_cons_of_mem _ hy))

theorem adds_filteredName {x : Text} (hx : kind x = true) (w : String) :
    Adds kind outer a (a.loadAll outer (filteredName x w).names) :=
  adds_loadAll (by simpa [filteredName, Expr.names, namesOfAll, namesOfNamed, namesOfSome] using hx)

-- A block that binds some names and adds others to them.
theorem Adds.isBlock {scope : Scope} {bound : List Text} (h : Adds kind scope.has a b)
    (ha : a.entries = bound.map (·, .bound)) (hbound : ∀ x ∈ bound, kind x = true) (home : Nat) :
    IsBlock kind home scope bound ⟨home, scope.length, b.entries⟩ where
  home := rfl
  level := rfl
  names := hbound
  slots := by
    obtain ⟨added, hentries, hadded⟩ := h
    rw [ha] at hentries
    refine ⟨added, hentries, fun x hx => ?_⟩
    obtain ⟨hkind, houter, hno⟩ := hadded x hx
    refine ⟨hkind, houter, fun hm => ?_⟩
    rw [has, ha, List.any_eq_false] at hno
    exact hno _ (List.mem_map.mpr ⟨x, hm, rfl⟩) (by simp)

theorem visitAll_data (branch : Bool) (before : Text) (ns : List Node) :
    a.visitAll outer branch (dataNodes before ++ ns) = a.visitAll outer branch ns := by
  unfold dataNodes
  split <;> rfl

-- The names that a binder binds belong to the block.
theorem declared_names {binder : Binder} (hb : binder.isValid = true) :
    (declared .bound (targetOf binder).names).entries = binder.names.map (·, .bound) := by
  cases binder with
  | value v => rfl
  | pair k v =>
      simp only [Binder.isValid, Bool.and_eq_true, bne_iff_ne, ne_eq] at hb
      simp [targetOf, Target.names, targetNames, declared, declare, empty, put, hb.2, Binder.names]

end Slots

end Host

open Host

mutual

-- The names that the nodes of a tree read are all that a block takes over from them.
theorem Tree.adds_nodes (t : Tree) (ht : t.isValid = true) (outer : Text → Bool) (branch : Bool)
    (a : Slots) (before : Text) : Slots.Adds isVariable outer a (a.visitAll outer branch (t.nodes before)) := by
  cases t with
  | done =>
      rw [Tree.nodes, ← List.append_nil (dataNodes before), Slots.visitAll_data]
      exact .refl isVariable outer a
  | chunk s rest =>
      simp only [Tree.isValid, Bool.and_eq_true] at ht
      exact rest.adds_nodes ht.2 outer branch a _
  | output x rest =>
      simp only [Tree.isValid, Bool.and_eq_true] at ht
      rw [Tree.nodes, Slots.visitAll_data]
      exact (Slots.adds_filteredName ht.1 "e").trans (rest.adds_nodes ht.2 outer branch _ [])
  | choose x body more rest =>
      simp only [Tree.isValid, Bool.and_eq_true] at ht
      obtain ⟨⟨⟨hx, hbody⟩, hmore⟩, hrest⟩ := ht
      have htest : Slots.Adds isVariable outer a (a.loadAll outer (Expr.name x).names) :=
        Slots.adds_loadAll (by simpa [Expr.names] using hx)
      rw [Tree.nodes, Slots.visitAll_data]
      exact (htest.trans ((body.adds_nodes hbody outer true _ []).trans
        ((more.adds_tests hmore outer _).trans (more.adds_fallback hmore outer _)))).trans
          (rest.adds_nodes hrest outer branch _ [])
  | each x binder body rest =>
      simp only [Tree.isValid, Bool.and_eq_true] at ht
      obtain ⟨⟨⟨hx, hbinder⟩, hbody⟩, hrest⟩ := ht
      rw [Tree.nodes, Slots.visitAll_data]
      exact (Slots.adds_filteredName hx _).trans (rest.adds_nodes hrest outer branch _ [])

theorem Branches.adds_tests (b : Branches) (hb : b.isValid = true) (outer : Text → Bool) (a : Slots) :
    Slots.Adds isVariable outer a (a.visitBranches outer b.tests) := by
  cases b with
  | done => exact .refl isVariable outer a
  | otherwise body => exact .refl isVariable outer a
  | elseif x body more =>
      simp only [Branches.isValid, Bool.and_eq_true] at hb
      obtain ⟨⟨hx, hbody⟩, hmore⟩ := hb
      have htest : Slots.Adds isVariable outer a (a.loadAll outer (Expr.name x).names) :=
        Slots.adds_loadAll (by simpa [Expr.names] using hx)
      exact htest.trans ((body.adds_nodes hbody outer true _ []).trans
        (more.adds_tests hmore outer _))

theorem Branches.adds_fallback (b : Branches) (hb : b.isValid = true) (outer : Text → Bool)
    (a : Slots) : Slots.Adds isVariable outer a (a.visitAll outer true b.fallback) := by
  cases b with
  | done => exact .refl isVariable outer a
  | otherwise body => exact body.adds_nodes hb outer true a []
  | elseif x body more =>
      simp only [Branches.isValid, Bool.and_eq_true] at hb
      exact more.adds_fallback hb.2 outer a

end

end BraceTemplate

import BraceTemplate.Proofs.Switch.Scope

namespace BraceTemplate

namespace Host

open Run

-- A setting in which some names stand for numbers, if for anything, and namespaces can be made.
structure Counting (g : Setting) (env : Environment) (names : List Text) : Prop where
  space : contextOf g "namespace".toList = some (.builtin .namespace)
  kept : ∀ y, contextOf g y ≠ some .ended
  numbers : ∀ y ∈ names, contextOf g y = (env.int? y).map Value.int

theorem Counting.subset {g : Setting} {env : Environment} {names names' : List Text}
    (h : Counting g env names) (hnames : names' ⊆ names) : Counting g env names' :=
  ⟨h.space, h.kept, fun y hy => h.numbers y (hnames hy)⟩

section Tests

variable {g : Setting} {home : Nat} {base s : Store} {frame : Frame} {outer : Scope} {a : Nat} {v : Value}
  {done : Bool} {env : Environment} {x : Text} {label : Label}

theorem gives_truth_bool (b : Bool) : Gives (truth (.bool b)) g s b s := gives_pure b

theorem Switching.gives_denied (h : Switching g home base frame outer a v done s) :
    Gives (Run.eval (frame :: outer) denied) g s (.bool (!done)) s :=
  (h.gives_readName.bind (gives_done h.space)).bind
    ((gives_truth_bool done).bind (gives_pure (Value.bool (!done))))

theorem Switching.meets_subjectIs (h : Switching g home base frame outer a v done s) {e : Expr} {w : Value}
    (he : Gives (Run.eval (frame :: outer) e) g s w s) {expected : Except Error Bool}
    (hsame : Meets (same v w) g s expected fun b c s' => b = c ∧ s' = s) :
    Meets (Run.eval (frame :: outer) (subjectIs e) >>= truth) g s expected
      fun b c s' => b = c ∧ s' = s := by
  have hsubject : Gives (Run.eval (frame :: outer) (.member (.name switchName) "subject".toList)) g s v s :=
    h.gives_readName.bind (gives_subject h.space)
  have heval : Run.eval (frame :: outer) (subjectIs e) >>= truth =
      Run.eval (frame :: outer) (.member (.name switchName) "subject".toList) >>= fun v =>
        Run.eval (frame :: outer) e >>= fun w => same v w >>= pure := by
    simp only [subjectIs, Run.eval, evalOperands, relation, bind_assoc, pure_bind]
    refine bind_congr fun u => bind_congr fun v => bind_congr fun w => bind_congr fun b => ?_
    cases b <;> rfl
  rw [heval]
  refine hsubject.bind_meets (he.bind_meets ?_)
  rwa [bind_pure]

theorem Switching.meets_test (h : Switching g home base frame outer a (countOf env x) false s)
    (hl : label.isValid = true) (hfree : switchName ∉ label.names) (hg : Counting g env label.names) :
    Meets (Run.eval (frame :: outer) label.test >>= truth) g s (label.holds env x)
      fun b c s' => b = c ∧ s' = s := by
  have hboth : ∀ {e : Expr}, Run.eval (frame :: outer) (.both denied e) >>= truth =
      Run.eval (frame :: outer) denied >>= fun u => truth u >>= fun b =>
        if b then Run.eval (frame :: outer) e >>= truth else truth u := by
    intro e
    simp only [Run.eval, bind_assoc]
    refine bind_congr fun u => bind_congr fun b => ?_
    cases b <;> rfl
  cases label with
  | default => exact (h.gives_denied.bind (gives_truth_bool true)).meets ⟨rfl, rfl⟩
  | number n =>
      rw [show (Label.number n).test = .both denied (subjectIs (.literal (.int n))) from rfl, hboth]
      refine h.gives_denied.bind_meets ((gives_truth_bool true).bind_meets ?_)
      have hwritten : Gives (Run.eval (frame :: outer) (.literal (.int n))) g s (.int n) s := gives_pure _
      exact h.meets_subjectIs hwritten (meets_same_int x n)
  | named y =>
      have hne : y ≠ switchName := fun he => hfree (by simp [Label.names, he])
      have hread : Gives (Run.eval (frame :: outer) (.name y)) g s (countOf env y) s := by
        rw [countOf, ← hg.numbers y (by simp [Label.names])]
        exact h.looks.gives_readName (isName_of_variable hl) (by simpa using hne)
      rw [show (Label.named y).test = .both denied (subjectIs (.name y)) from rfl, hboth]
      refine h.gives_denied.bind_meets ((gives_truth_bool true).bind_meets ?_)
      exact h.meets_subjectIs hread (meets_same x y)

-- Where a branch has been taken no further one is, and nothing is compared.
theorem Switching.gives_test (h : Switching g home base frame outer a v true s) (label : Label) :
    Gives (Run.eval (frame :: outer) label.test >>= truth) g s false s := by
  have hboth : ∀ {e : Expr}, Gives (Run.eval (frame :: outer) (.both denied e)) g s (.bool false) s :=
    h.gives_denied.bind ((gives_truth_bool false).bind (gives_pure (Value.bool false)))
  cases label with
  | default => exact h.gives_denied.bind (gives_truth_bool false)
  | number n => exact hboth.bind (gives_truth_bool false)
  | named y => exact hboth.bind (gives_truth_bool false)

end Tests

section Branches

variable {g : Setting} {home : Nat} {base s : Store} {frame : Frame} {outer : Scope} {a : Nat} {v : Value}
  {env : Environment} {x : Text} {label : Label} {body rest : List Node}

-- What branches of a switch put out within the block of the switch.
abbrev Switches (g : Setting) (home : Nat) (base : Store) (frame : Frame) (outer : Scope) (a : Nat) (v : Value)
    (r : Run Text) (s : Store) (expected : Except Error Text) : Prop :=
  Meets r g s expected fun t t' s' => t = t' ∧ ∃ done, Switching g home base frame outer a v done s'

theorem exec_node (scope : Scope) (label : Label) (body : List Node) :
    exec scope (label.node body) = Run.eval scope label.test >>= truth >>= fun b =>
      if b then execAll scope (marking :: body) else pure [] := by
  rw [Label.node, exec_conditional, choiceOf_cons]
  rfl

theorem Switching.skips_node (h : Switching g home base frame outer a v true s)
    (hrest : Gives (execAll (frame :: outer) rest) g s [] s) :
    Gives (execAll (frame :: outer) (label.node body :: rest)) g s [] s := by
  have hnode : Gives (exec (frame :: outer) (label.node body)) g s [] s := by
    rw [exec_node]
    exact (h.gives_test label).bind (gives_pure [])
  exact hnode.bind (hrest.bind (gives_pure []))

-- A branch that is taken is put out, and of those behind it none; else they are looked at.
theorem Switching.switches_node (h : Switching g home base frame outer a (countOf env x) false s)
    (hl : label.isValid = true) (hfree : switchName ∉ label.names) (hg : Counting g env label.names)
    {expected expected' : Except Error Text}
    (hbody : ∀ s', Switching g home base frame outer a (countOf env x) true s' →
      Executes home (frame :: outer).length (execAll (frame :: outer) body) g s' expected)
    (hskip : ∀ s', Switching g home base frame outer a (countOf env x) true s' →
      Gives (execAll (frame :: outer) rest) g s' [] s')
    (hrest : Switches g home base frame outer a (countOf env x) (execAll (frame :: outer) rest) s expected') :
    Switches g home base frame outer a (countOf env x) (execAll (frame :: outer) (label.node body :: rest)) s
      (do if ← label.holds env x then expected else expected') := by
  have hexec : execAll (frame :: outer) (label.node body :: rest) =
      Run.eval (frame :: outer) label.test >>= truth >>= fun b =>
        (if b then execAll (frame :: outer) (marking :: body) else pure []) >>= fun t =>
          execAll (frame :: outer) rest >>= fun tail => pure (t ++ tail) := by
    rw [execAll, exec_node, bind_assoc]
  rw [hexec]
  refine (h.meets_test hl hfree hg).bind ?_
  rintro b _ s' ⟨rfl, rfl⟩
  cases b with
  | false =>
      have hlast : expected' = expected' >>= pure := (bind_pure _).symm
      rw [if_neg Bool.false_ne_true, if_neg Bool.false_ne_true, pure_bind, hlast]
      refine hrest.bind ?_
      rintro tail _ s'' ⟨rfl, hdone⟩
      exact (gives_pure _).meets ⟨rfl, hdone⟩
  | true =>
      have hmark := gives_marking h.gives_readName h.space
      have hlast : expected = expected >>= pure := (bind_pure _).symm
      rw [if_pos rfl, if_pos rfl, execAll, bind_assoc, hlast]
      refine hmark.bind_meets ?_
      rw [bind_assoc]
      refine (hbody _ h.mark).bind ?_
      rintro t _ s'' ⟨rfl, hafter⟩
      have htaken := h.mark.of_after hafter
      refine (gives_pure ([] ++ t)).bind_meets ((hskip s'' htaken).bind_meets ?_)
      exact (gives_pure _).meets ⟨by simp, true, htaken⟩

end Branches

section Switch

variable {g : Setting} {home : Nat} {scope : Scope} {own : List Text} {s : Store} {env : Environment}
  {x : Text} {body : List Node}

-- The block that the branches of a switch are run in.
def switchFrame (home : Nat) (scope : Scope) (body : List Node) : Frame :=
  ⟨home, scope.length, ((Slots.declared .bound [switchName]).visitAll scope.has false body).entries⟩

theorem exec_switch (scope : Scope) (x : Text) (body : List Node) :
    exec scope (Switch.node x body) = homeOf scope >>= fun home =>
      enter (switchFrame home scope body :: scope) >>= fun _ =>
        Run.eval scope (spaceOf x) >>= fun v =>
          setName (switchFrame home scope body) switchName (some v) >>= fun _ =>
            execAll (switchFrame home scope body :: scope) body >>= fun t =>
              leave (switchFrame home scope body) >>= fun _ => pure t := by
  simp only [Switch.node, exec, List.flatMap_cons, List.flatMap_nil, Target.names, List.append_nil,
    List.forIn_cons, List.forIn_nil, assign, bind_assoc, pure_bind]
  rfl

-- A switch on a name puts out what its branches do, and leaves nothing behind.
theorem executes_switch (h : Looks g home scope own s) (hscope : scope ≠ []) (hown : own ⊆ [switchName])
    (hx : isName x = true) (hno : x ∉ own) (hg : Counting g env [x])
    (hb : IsBlock isName home scope [switchName] (switchFrame home scope body))
    {expected : Except Error Text}
    (hbody : ∀ a s', Switching g home s (switchFrame home scope body) scope a (countOf env x) false s' →
      Switches g home s (switchFrame home scope body) scope a (countOf env x)
        (execAll (switchFrame home scope body :: scope) body) s' expected) :
    Executes home scope.length (exec scope (Switch.node x body)) g s expected := by
  obtain ⟨s₁, henter, hafter, hlooks⟩ := h.gives_enter hb hown hg.kept
  have houter := h.after hafter
  have hvalue : Gives (readName scope x) g s₁ (countOf env x) s₁ := by
    rw [countOf, ← hg.numbers x List.mem_cons_self]
    exact houter.gives_readName hx hno
  have hspace : Gives (readName scope "namespace".toList) g s₁ (.builtin .namespace) s₁ := by
    have hread := houter.gives_readName (x := "namespace".toList) (by decide)
      (fun hm => absurd (hown hm) (by decide))
    rwa [hg.space] at hread
  obtain ⟨s₂, hs₂⟩ : ∃ s₂, s₂ = (s₁.new (.namespace (spaceTable (countOf env x) false))).2 := ⟨_, rfl⟩
  have hnew : Store.After home (switchFrame home scope body :: scope).length s₁ s₂ :=
    hs₂ ▸ (Store.grows_new s₁ _).after hlooks.isHome
  have hcell : s₂.find? s₁.cells.size = some (.namespace (spaceTable (countOf env x) false)) :=
    hs₂ ▸ Store.find?_new s₁ _
  obtain ⟨s₃, hset, hsets⟩ : ∃ s₃, Gives (setName (switchFrame home scope body) switchName
      (some (.ref s₁.cells.size))) g s₂ () s₃ ∧
        Store.Sets home scope.length switchName (some (.ref s₁.cells.size)) s₂ s₃ :=
    gives_setName (hnew.isHome hlooks.isHome) (by decide) (by simp)
  have hswitching : Switching g home s (switchFrame home scope body) scope s₁.cells.size (countOf env x)
      false s₃ := by
    obtain ⟨added, hslots, -⟩ := hb.slots
    have hlt : s₁.cells.size < s₂.cells.size := Store.lt_of_find? hcell
    refine ⟨(hafter.trans (hnew.mono (Nat.le_succ _))).trans hsets.after, h.isHome, hafter.size,
      (hlooks.after hnew).sets hsets List.mem_cons_self, ?_, hsets.here, ?_⟩
    · rw [hslots, find?_slots, if_pos List.mem_cons_self]
    · exact (hsets.after.cells _ hlt (Nat.ne_of_gt hlooks.isHome.lt)).trans hcell
  have hlast : expected = expected >>= pure := (bind_pure _).symm
  rw [exec_switch, hlast]
  refine (h.gives_homeOf hscope).bind_meets (henter.bind_meets ?_)
  refine (gives_space hspace hvalue).bind_meets ?_
  rw [← hs₂]
  refine hset.bind_meets ((hbody _ _ hswitching).bind ?_)
  rintro t _ s₄ ⟨rfl, done, hdone⟩
  obtain ⟨s₅, hleave, hleft⟩ : ∃ s', Gives (leave (switchFrame home scope body)) g s₄ () s' ∧
      Store.After home scope.length s₄ s' := gives_leave hdone.looks.isHome (hb.opening id)
  exact hleave.bind_meets ((gives_pure _).meets ⟨rfl, hdone.after.trans hleft⟩)

theorem isBlock_switchFrame (c : Cases) (hc : c.isValid = true) (home : Nat) (scope : Scope) :
    IsBlock isName home scope [switchName] (switchFrame home scope c.nodes) :=
  (c.adds_nodes hc scope.has false _).isBlock rfl (by decide) home

end Switch

end Host

open Host Run

namespace Cases

variable {g : Setting} {home : Nat} {base s : Store} {frame : Frame} {outer : Scope} {a : Nat}

theorem skips_nodes (c : Cases) {v : Value} (h : Switching g home base frame outer a v true s) :
    Gives (execAll (frame :: outer) c.nodes) g s [] s := by
  induction c with
  | done => exact gives_pure []
  | text label t gap rest ih => exact h.skips_node ih
  | switch label before x first inner after gap rest _ ih => exact h.skips_node ih

-- The branches of a switch put out what the first of them does that is taken. The induction is on the
-- branches, those of a switch within them included, which runs in a block of its own.
theorem switches_nodes (c : Cases) (hc : c.isValid = true) (hfree : switchName ∉ c.names)
    {env : Environment} (hg : Counting g env c.names) {x : Text}
    (h : Switching g home base frame outer a (countOf env x) false s) :
    Switches g home base frame outer a (countOf env x) (execAll (frame :: outer) c.nodes) s
      (c.eval env x) := by
  induction c generalizing base frame outer a x s with
  | done => exact (gives_pure []).meets ⟨rfl, false, h⟩
  | text label t gap rest ih =>
      simp only [isValid, Bool.and_eq_true] at hc
      obtain ⟨⟨⟨hl, -⟩, -⟩, hrest⟩ := hc
      simp only [names, List.mem_append, not_or] at hfree
      refine h.switches_node hl hfree.1 (hg.subset (by simp [names])) (fun s' _ => ?body)
        (fun s' h' => rest.skips_nodes h') (ih hrest hfree.2 (hg.subset (by simp [names])) h)
      case body =>
        have hnone : Executes home (frame :: outer).length (execAll (frame :: outer) []) g s' (.ok []) :=
          (gives_pure []).meets ⟨rfl, .refl _ _ s'⟩
        simpa [ok_bind] using executes_data t hnone
  | switch label before y first inner after gap rest ihinner ih =>
      simp only [isValid, Bool.and_eq_true] at hc
      obtain ⟨⟨⟨⟨⟨hl, hy⟩, -⟩, hinner⟩, -⟩, hrest⟩ := hc
      simp only [names, List.mem_append, List.mem_cons, not_or] at hfree
      obtain ⟨hlabel, hne, hfreeinner, hfreerest⟩ := hfree
      refine h.switches_node hl hlabel (hg.subset (by simp [names])) (fun s' h' => ?body)
        (fun s' h' => rest.skips_nodes h')
          (ih hrest hfreerest (hg.subset fun z hz => by simp [names, hz]) h)
      case body =>
        refine executes_one (executes_switch h'.looks (List.cons_ne_nil _ _) (List.Subset.refl _)
          (isName_of_variable hy) (by simpa using Ne.symm hne) (hg.subset (by simp [names]))
          (isBlock_switchFrame inner hinner home (frame :: outer)) fun a' s'' h'' => ?_)
        exact ihinner hinner hfreeinner (hg.subset fun z hz => by simp [names, hz]) h''

end Cases

end BraceTemplate

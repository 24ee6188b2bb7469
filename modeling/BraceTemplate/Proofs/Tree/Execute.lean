import BraceTemplate.Proofs.Tree.Prepare
import BraceTemplate.Proofs.Tree.Walks

namespace BraceTemplate

namespace Host

open Run

section Uses

variable {α β : Type} {s₀ s : Store} {env₀ env : Environment} {scope : Scope} {g : Setting} {x : Text}

theorem eval_filteredName (scope : Scope) (x : Text) (w : String) :
    Run.eval scope (filteredName x w) = readName scope x >>= fun v =>
      applyFilter w.toList v ⟨[], []⟩ := by
  rfl

-- A name is used as what it stands for; where it stands for nothing the use is refused.
theorem Sees.meets_use (h : Sees s₀ env₀ scope env s) (hp : Provides s₀ g env₀)
    (hx : isVariable x = true) {f : Value → Run α} {k : Datum → Except Error β}
    {post : α → β → Store → Prop}
    (hholds : ∀ v d, s₀.Holds s₀.cells.size v d → Meets (f v) g s (k d) post)
    (hmissing : Meets (f (undefinedName x)) g s
      (.error (.undefined (Quoted.text x ++ " is undefined".toList))) post) :
    Meets (readName scope x >>= f) g s (Tree.read env x >>= k) post := by
  obtain ⟨v?, hstands, hread⟩ := h.gives_readName hp hx
  refine hread.bind_meets ?_
  unfold Tree.read
  cases hd : env.get? x with
  | none =>
      rw [hd] at hstands
      rw [hstands.of_none]
      exact hmissing
  | some d =>
      rw [hd] at hstands
      obtain ⟨v, rfl, hv⟩ := hstands.of_some
      exact hholds v d hv

theorem Sees.meets_output (h : Sees s₀ env₀ scope env s) (hp : Provides s₀ g env₀)
    (hx : isVariable x = true) :
    Meets (Run.exec scope (.output (filteredName x "e"))) g s (Tree.read env x >>= Tree.shown)
      fun a b s' => a = b ∧ s' = s := by
  have hexec : Run.exec scope (.output (filteredName x "e")) =
      readName scope x >>= fun v => Run.escaped v >>= text := by
    rw [Run.exec, eval_filteredName, bind_assoc]
    rfl
  rw [hexec]
  exact h.meets_use hp hx (fun v d hv => meets_escaped h.grows hv) (meets_fail _)

theorem Sees.meets_test (h : Sees s₀ env₀ scope env s) (hp : Provides s₀ g env₀)
    (hx : isVariable x = true) :
    Meets (Run.eval scope (.name x) >>= truth) g s (do let d ← Tree.read env x; .ok d.truth)
      fun a b s' => a = b ∧ s' = s :=
  h.meets_use hp hx (fun _ _ hv => (gives_truth h.grows hv).meets ⟨rfl, rfl⟩) (meets_fail _)

theorem Sees.meets_walk (h : Sees s₀ env₀ scope env s) (hp : Provides s₀ g env₀)
    (hx : isVariable x = true) (binder : Binder) (level : Nat) :
    Meets (Run.eval scope (filteredName x (Lexeme.source binder)) >>= walkOf) g s
      (Tree.read env x >>= Tree.entries) fun w entries s' =>
        ∃ vs, Starts s₀.cells.size level s w vs s' ∧ List.Forall₂ (Item s₀ binder) vs entries := by
  have hfilter : ∀ v, applyFilter (Lexeme.source binder).toList v ⟨[], []⟩ = sourceOf binder v := by
    intro v
    cases binder with
    | value x =>
        change applyFilter "values".toList v _ = _
        rw [applyFilter, filter?_values]
        rfl
    | pair k x =>
        change applyFilter "pairs".toList v _ = _
        rw [applyFilter, filter?_pairs]
        rfl
  rw [eval_filteredName, bind_assoc]
  simp only [hfilter]
  refine h.meets_use hp hx (fun v d hv => meets_source h.isHome h.grows binder hv) ?_
  cases binder <;> exact meets_fail _

end Uses

section Nodes

variable {s₀ s : Store} {scope : Scope} {g : Setting} {home level : Nat}

-- What a part of a template does: it puts out what is expected, and leaves the names of the blocks around
-- it alone.
abbrev Executes (home level : Nat) (r : Run Text) (g : Setting) (s : Store)
    (expected : Except Error Text) : Prop :=
  Meets r g s expected fun a b s' => a = b ∧ Store.After home level s s'

theorem executes_data {ns : List Node} {expected : Except Error Text} (before : Text)
    (h : Executes home level (execAll scope ns) g s expected) :
    Executes home level (execAll scope (dataNodes before ++ ns)) g s
      (do let tail ← expected; .ok (before ++ tail)) := by
  have htext : Executes home level (execAll scope (.text before :: ns)) g s
      (do let tail ← expected; .ok (before ++ tail)) := by
    refine Gives.bind_meets (gives_pure before) (h.bind ?_)
    rintro tail _ s' ⟨rfl, hafter⟩
    exact (gives_pure _).meets ⟨rfl, hafter⟩
  unfold dataNodes
  split
  · next hempty =>
      obtain rfl : before = [] := by simpa using hempty
      have hsame : (do let tail ← expected; .ok ([] ++ tail)) = expected := bind_pure expected
      rw [hsame]
      exact h
  · exact htext

theorem executes_cons {n : Node} {ns : List Node} {expected expected' : Except Error Text}
    (hfirst : Executes home level (exec scope n) g s expected)
    (hrest : ∀ s', Store.After home level s s' →
      Executes home level (execAll scope ns) g s' expected') :
    Executes home level (execAll scope (n :: ns)) g s
      (do let a ← expected; let tail ← expected'; .ok (a ++ tail)) := by
  refine Meets.bind hfirst ?_
  rintro a _ s' ⟨rfl, hafter⟩
  refine (hrest s' hafter).bind ?_
  rintro tail _ s'' ⟨rfl, hafter'⟩
  exact (gives_pure _).meets ⟨rfl, hafter.trans hafter'⟩

theorem executes_one {n : Node} {expected : Except Error Text}
    (h : Executes home level (exec scope n) g s expected) :
    Executes home level (execAll scope [n]) g s expected := by
  have hnone : ∀ s', Executes home level (execAll scope []) g s' (.ok []) := fun s' =>
    (gives_pure []).meets ⟨rfl, .refl _ _ s'⟩
  have hsame : (do let a ← expected; let tail ← .ok []; .ok (a ++ tail)) = expected := by
    cases expected with
    | error e => rfl
    | ok a => exact congrArg Except.ok (List.append_nil a)
  rw [← hsame]
  exact executes_cons h fun s' _ => hnone s'

end Nodes

section Assign

variable {s₀ s : Store} {scope : Scope} {g : Setting} {frame : Frame} {binder : Binder}
  {v : Value} {entry : Datum × Datum}

-- A round of a loop gives the names of the loop their values.
theorem IsBlock.gives_assign (hb : IsBlock isVariable s₀.cells.size scope binder.names frame)
    (hbinder : binder.isValid = true) (hs : s.IsHome s₀.cells.size) (hitem : Item s₀ binder v entry) :
    ∃ s', Gives (assign (frame :: scope) v (targetOf binder)) g s () s' ∧
      Store.After s₀.cells.size scope.length s s' ∧
      ∀ x ∈ binder.names, s₀.Stands (s'.named s₀.cells.size scope.length x)
        ((binder.bindings entry.1 entry.2).get? x) := by
  have hset : ∀ {s : Store} {x : Text} {v : Value}, s.IsHome s₀.cells.size → isVariable x = true →
      v ≠ .ended → ∃ s', Gives (setName frame x (some v)) g s () s' ∧
        Store.Sets s₀.cells.size scope.length x (some v) s s' := fun hs hx hv => by
    have h := gives_setName (g := g) (hb.home ▸ hs) (isName_of_variable hx)
      (fun he => hv (Option.some.inj he))
    rwa [hb.home, hb.level] at h
  cases binder with
  | value x =>
      obtain ⟨s', hrun, hsets⟩ := hset hs hbinder (Store.Holds.ne_ended hitem)
      refine ⟨s', hrun, hsets.after, fun y hy => ?_⟩
      obtain rfl : y = x := by simpa [Binder.names] using hy
      rw [hsets.here, Binder.bindings, Environment.get?_cons_self]
      exact hitem
  | pair k x =>
      simp only [Binder.isValid, Bool.and_eq_true, bne_iff_ne] at hbinder
      obtain ⟨⟨hk, hx⟩, hne⟩ := hbinder
      obtain ⟨key, value, rfl, hkey, hvalue⟩ := hitem
      obtain ⟨s₁, hunpacked, hafter⟩ := gives_unpacked (g := g) scope.length hs key value
      obtain ⟨s₂, hfirst, hsets⟩ := hset (hafter.isHome hs) hk hkey.ne_ended
      obtain ⟨s₃, hsecond, hsets'⟩ := hset (hsets.after.isHome (hafter.isHome hs)) hx hvalue.ne_ended
      refine ⟨s₃, hunpacked.bind (hfirst.bind (hsecond.bind (gives_pure ()))),
        hafter.trans (hsets.after.trans hsets'.after), fun y hy => ?_⟩
      simp only [Binder.names, List.mem_cons, List.not_mem_nil, or_false] at hy
      rcases hy with rfl | rfl
      · rw [hsets'.others y hne, hsets.here, Binder.bindings, Environment.get?_cons_self]
        exact hkey
      · rw [hsets'.here, Binder.bindings, Environment.get?_cons_of_ne hne,
          Environment.get?_cons_self]
        exact hvalue

end Assign

section Loop

variable {s₀ s : Store} {env₀ env : Environment} {scope : Scope} {g : Setting} {binder : Binder}
  {body : Tree} {x : Text}

-- The block that the rounds of a loop are run in.
def blockOf (home : Nat) (scope : Scope) (binder : Binder) (body : Tree) : Frame :=
  ⟨home, scope.length, ((Slots.declared .bound (targetOf binder).names).visitAll scope.has false
    (body.nodes [])).entries⟩

def roundOf (inner : Scope) (target : Target) (body : List Node) (done : List Text) (x : Value) :
    Run (List Text) := do
  assign inner x target
  enter inner
  let s ← execAll inner body
  pure (s :: done)

theorem isBlock_blockOf (s₀ : Store) (scope : Scope) (hbinder : binder.isValid = true)
    (hbody : body.isValid = true) :
    IsBlock isVariable s₀.cells.size scope binder.names (blockOf s₀.cells.size scope binder body) :=
  (body.adds_nodes hbody scope.has false _ []).isBlock (Slots.declared_names hbinder)
    (isVariable_of_mem_names hbinder) _

theorem exec_loop (scope : Scope) (w : String) (hname : readsFirst loopName (body.nodes []) = false) :
    exec scope (.loop (targetOf binder) (filteredName x w) none (body.nodes []) []) = (do
      let home ← homeOf scope
      let walk ← Run.eval scope (filteredName x w) >>= walkOf
      let done ← foldAll (roundOf (blockOf home scope binder body :: scope) (targetOf binder)
        (body.nodes [])) walk []
      leave (blockOf home scope binder body)
      pure done.reverse.flatten) := by
  have hempty : ∀ (home : Nat) (done : List Text),
      (if done.isEmpty then
        within ⟨home, scope.length, (Slots.visitAll scope.has false .empty []).entries⟩ scope
          (execAll (⟨home, scope.length, (Slots.visitAll scope.has false .empty []).entries⟩ :: scope) [])
      else pure done.reverse.flatten) = (pure done.reverse.flatten : Run Text) := by
    intro home done
    cases done with
    | nil => rfl
    | cons s rest => rfl
  simp only [exec, hname, startLoop, Bool.false_eq_true, if_false, bind_assoc]
  simp only [hempty]
  rfl

theorem gives_homeOf (h : Sees s₀ env₀ scope env s) (hscope : scope ≠ []) :
    Gives (homeOf scope) g s s₀.cells.size s := by
  cases scope with
  | nil => exact absurd rfl hscope
  | cons frame outer =>
      rw [← (h.frames frame List.mem_cons_self).1]
      exact gives_pure _

-- What is assumed of the body of a loop: it comes out as expected in a block within the scope.
def Rounds (s₀ : Store) (env₀ : Environment) (scope : Scope) (g : Setting) (body : Tree) : Prop :=
  ∀ frame env s, Sees s₀ env₀ (frame :: scope) env s →
    Executes s₀.cells.size (scope.length + 1) (execAll (frame :: scope) (body.nodes [])) g s
      (body.eval env)

theorem meets_round (h : Sees s₀ env₀ scope env s) (hp : Provides s₀ g env₀)
    (hbinder : binder.isValid = true) (hbody : body.isValid = true)
    (hrounds : Rounds s₀ env₀ scope g body) {v : Value} {entry : Datum × Datum}
    (hitem : Item s₀ binder v entry) (done : List Text) :
    Meets (roundOf (blockOf s₀.cells.size scope binder body :: scope) (targetOf binder)
      (body.nodes []) done v) g s (body.eval (binder.bindings entry.1 entry.2 ++ env))
        fun a b s' => a = b :: done ∧ Store.After s₀.cells.size scope.length s s' := by
  have hblock := isBlock_blockOf s₀ scope hbinder hbody
  obtain ⟨s₁, hassign, hafter, hnames⟩ := hblock.gives_assign (g := g) hbinder h.isHome hitem
  have hnames' := binder.names_bindings entry.1 entry.2
  obtain ⟨s₂, henter, hafter', hsees⟩ := IsBlock.gives_enter (hnames'.symm ▸ hblock)
    (h.after hafter) hp (by rwa [hnames'])
  refine hassign.bind_meets (henter.bind_meets ?_)
  have hlast : body.eval (binder.bindings entry.1 entry.2 ++ env) =
      body.eval (binder.bindings entry.1 entry.2 ++ env) >>= pure := (bind_pure _).symm
  rw [hlast]
  refine (hrounds _ _ _ hsees).bind ?_
  rintro t _ s₃ ⟨rfl, hafter''⟩
  exact (gives_pure _).meets ⟨rfl, hafter.trans (hafter'.trans (hafter''.mono (Nat.le_succ _)))⟩

theorem executes_loop (h : Sees s₀ env₀ scope env s) (hp : Provides s₀ g env₀) (hscope : scope ≠ [])
    (hx : isVariable x = true) (hbinder : binder.isValid = true) (hbody : body.isValid = true)
    (hrounds : Rounds s₀ env₀ scope g body) :
    Executes s₀.cells.size scope.length (exec scope (.loop (targetOf binder)
      (filteredName x (Lexeme.source binder)) none (body.nodes []) [])) g s (do
        let entries ← Tree.entries (← Tree.read env x)
        let rounds ← entries.mapM fun (key, value) => body.eval (binder.bindings key value ++ env)
        .ok rounds.flatten) := by
  have hblock := isBlock_blockOf s₀ scope hbinder hbody
  rw [exec_loop scope _ ((body.names_nodes hbody []).readsFirst_taken (by decide)), ← bind_assoc]
  refine (gives_homeOf h hscope).bind_meets ((h.meets_walk hp hx binder scope.length).bind ?_)
  rintro w entries s₁ ⟨vs, hstarts, hitems⟩
  have hround : ∀ done v entry s', Store.After s₀.cells.size scope.length s s' →
      Item s₀ binder v entry →
      Meets (roundOf (blockOf s₀.cells.size scope binder body :: scope) (targetOf binder)
        (body.nodes []) done v) g s' (body.eval (binder.bindings entry.1 entry.2 ++ env))
          fun a b s'' => a = b :: done ∧ Store.After s₀.cells.size scope.length s' s'' :=
    fun done v entry s' hafter hitem =>
      meets_round (h.after hafter) hp hbinder hbody hrounds hitem done
  refine (meets_foldAll h.isHome hstarts.fresh hround hitems hstarts.pending hstarts.after).bind ?_
  rintro _ rounds s₂ ⟨rfl, hafter⟩
  obtain ⟨s₃, hleave, hleft⟩ : ∃ s', Gives (leave (blockOf s₀.cells.size scope binder body)) g s₂ () s' ∧
      Store.After s₀.cells.size scope.length s₂ s' :=
    gives_leave (hafter.isHome h.isHome) (hblock.opening isName_of_variable)
  refine hleave.bind_meets ((gives_pure _).meets ⟨?_, hafter.trans hleft⟩)
  rw [List.reverse_reverse]

end Loop

section Choice

variable {s₀ s : Store} {env₀ env : Environment} {scope : Scope} {g : Setting} {x : Text}

-- What a choice puts out: the branch that is taken, or what is left when none is.
def choiceOf (scope : Scope) (branches : List (Expr × List Node)) (otherwise : List Node) : Run Text := do
  match ← execBranches scope branches with
  | some s => pure s
  | none => execAll scope otherwise

theorem exec_conditional (scope : Scope) (branches : List (Expr × List Node)) (otherwise : List Node) :
    exec scope (.conditional branches otherwise) = choiceOf scope branches otherwise := by
  rw [exec]
  rfl

theorem choiceOf_cons (scope : Scope) (test : Expr) (body : List Node)
    (branches : List (Expr × List Node)) (otherwise : List Node) :
    choiceOf scope ((test, body) :: branches) otherwise =
      Run.eval scope test >>= truth >>= fun b =>
        if b then execAll scope body else choiceOf scope branches otherwise := by
  simp only [choiceOf, execBranches, bind_assoc]
  congr 1
  funext v
  congr 1
  funext b
  cases b with
  | false => rfl
  | true => simp

theorem executes_choice (h : Sees s₀ env₀ scope env s) (hp : Provides s₀ g env₀)
    (hx : isVariable x = true) {body otherwise : List Node} {branches : List (Expr × List Node)}
    {expected expected' : Except Error Text} {home level : Nat}
    (hbody : Executes home level (execAll scope body) g s expected)
    (hothers : Executes home level (choiceOf scope branches otherwise) g s expected') :
    Executes home level (choiceOf scope ((.name x, body) :: branches) otherwise) g s
      (do let d ← Tree.read env x; if d.truth then expected else expected') := by
  have hexpected : (do let d ← Tree.read env x; if d.truth then expected else expected') =
      (do let d ← Tree.read env x; .ok d.truth) >>= fun b => if b then expected else expected' := by
    rw [bind_assoc]
    rfl
  rw [choiceOf_cons, hexpected]
  refine (h.meets_test hp hx).bind ?_
  rintro b _ s' ⟨rfl, rfl⟩
  cases b with
  | true => exact hbody
  | false => exact hothers

end Choice

end Host

open Host Run

-- What stands behind an outcome.
theorem ok_bind {α β : Type} (a : α) (f : α → Except Host.Error β) : (Except.ok a >>= f) = f a := rfl

mutual

-- The nodes of a tree put out what the tree stands for.
theorem Tree.executes_nodes {s₀ : Store} {env₀ : Environment} {g : Setting} (hp : Provides s₀ g env₀)
    (t : Tree) (ht : t.isValid = true) (before : Text) {scope : Scope} {env : Environment} {s : Store}
    (hscope : scope ≠ []) (h : Sees s₀ env₀ scope env s) :
    Executes s₀.cells.size scope.length (execAll scope (t.nodes before)) g s
      (do let tail ← t.eval env; .ok (before ++ tail)) := by
  cases t with
  | done =>
      have hnone : Executes s₀.cells.size scope.length (execAll scope []) g s (.ok []) :=
        (gives_pure []).meets ⟨rfl, .refl _ _ s⟩
      simpa [Tree.nodes, Tree.eval] using executes_data before hnone
  | chunk t rest =>
      simp only [Tree.isValid, Bool.and_eq_true] at ht
      have hrest := rest.executes_nodes hp ht.2 (before ++ t) hscope h
      simpa only [Tree.nodes, Tree.eval, bind_assoc, ok_bind, List.append_assoc] using hrest
  | output x rest =>
      simp only [Tree.isValid, Bool.and_eq_true] at ht
      have hfirst : Executes s₀.cells.size scope.length (exec scope (.output (filteredName x "e"))) g s
          (Tree.read env x >>= Tree.shown) := by
        refine (h.meets_output hp ht.1).mono ?_
        rintro a b s' ⟨rfl, rfl⟩
        exact ⟨rfl, .refl _ _ s'⟩
      have hall := executes_data before (executes_cons hfirst fun s' hafter =>
        rest.executes_nodes hp ht.2 [] hscope (h.after hafter))
      simpa only [Tree.nodes, Tree.eval, bind_assoc, ok_bind, List.nil_append] using hall
  | choose x body more rest =>
      simp only [Tree.isValid, Bool.and_eq_true] at ht
      obtain ⟨⟨⟨hx, hbody⟩, hmore⟩, hrest⟩ := ht
      have hchoice : Executes s₀.cells.size scope.length
          (exec scope (.conditional ((.name x, body.nodes []) :: more.tests) more.fallback)) g s
          (do let d ← Tree.read env x; if d.truth then body.eval env else more.eval env) := by
        rw [exec_conditional]
        exact Host.executes_choice h hp hx (body.executes_block hp hbody hscope h)
          (more.executes_choice hp hmore hscope h)
      have hall := executes_data before (executes_cons hchoice fun s' hafter =>
        rest.executes_nodes hp hrest [] hscope (h.after hafter))
      simpa only [Tree.nodes, Tree.eval, bind_assoc, ok_bind, List.nil_append] using hall
  | each x binder body rest =>
      simp only [Tree.isValid, Bool.and_eq_true] at ht
      obtain ⟨⟨⟨hx, hbinder⟩, hbody⟩, hrest⟩ := ht
      have hrounds : Rounds s₀ env₀ scope g body := fun frame _ _ h =>
        body.executes_block hp hbody (List.cons_ne_nil frame scope) h
      have hall := executes_data before (executes_cons (executes_loop h hp hscope hx hbinder hbody hrounds)
        fun s' hafter => rest.executes_nodes hp hrest [] hscope (h.after hafter))
      simpa only [Tree.nodes, Tree.eval, bind_assoc, ok_bind, List.nil_append] using hall

theorem Tree.executes_block {s₀ : Store} {env₀ : Environment} {g : Setting} (hp : Provides s₀ g env₀)
    (t : Tree) (ht : t.isValid = true) {scope : Scope} {env : Environment} {s : Store}
    (hscope : scope ≠ []) (h : Sees s₀ env₀ scope env s) :
    Executes s₀.cells.size scope.length (execAll scope (t.nodes [])) g s (t.eval env) := by
  have hnodes := t.executes_nodes hp ht [] hscope h
  have hsame : (do let tail ← t.eval env; .ok ([] ++ tail)) = t.eval env := bind_pure _
  rwa [hsame] at hnodes

theorem Branches.executes_choice {s₀ : Store} {env₀ : Environment} {g : Setting}
    (hp : Provides s₀ g env₀) (b : Branches) (hb : b.isValid = true) {scope : Scope}
    {env : Environment} {s : Store} (hscope : scope ≠ []) (h : Sees s₀ env₀ scope env s) :
    Executes s₀.cells.size scope.length (choiceOf scope b.tests b.fallback) g s (b.eval env) := by
  cases b with
  | done => exact (gives_pure []).meets ⟨rfl, .refl _ _ s⟩
  | otherwise body => exact body.executes_block hp hb hscope h
  | elseif x body more =>
      simp only [Branches.isValid, Bool.and_eq_true] at hb
      obtain ⟨⟨hx, hbody⟩, hmore⟩ := hb
      exact Host.executes_choice h hp hx (body.executes_block hp hbody hscope h)
        (more.executes_choice hp hmore hscope h)

end

end BraceTemplate

import BraceTemplate.Proofs.Switch.Execute
import BraceTemplate.Proofs.Tree.Render

namespace BraceTemplate

open Host Run

namespace Cases

variable {x : Text}

theorem isVariable_of_mem_names (c : Cases) (hc : c.isValid = true) (hx : x ∈ c.names) :
    isVariable x = true := by
  have hlabel : ∀ label : Label, label.isValid = true → x ∈ label.names → isVariable x = true := by
    intro label hl hx
    cases label with
    | named y =>
        obtain rfl : x = y := by simpa [Label.names] using hx
        exact hl
    | _ => exact absurd hx List.not_mem_nil
  induction c with
  | done => exact absurd hx List.not_mem_nil
  | text label s gap rest ih =>
      simp only [isValid, Bool.and_eq_true] at hc
      obtain ⟨⟨⟨hl, -⟩, -⟩, hrest⟩ := hc
      rcases List.mem_append.mp hx with hx | hx
      · exact hlabel label hl hx
      · exact ih hrest hx
  | switch label before y first inner after gap rest ihinner ih =>
      simp only [isValid, Bool.and_eq_true] at hc
      obtain ⟨⟨⟨⟨⟨hl, hy⟩, -⟩, hinner⟩, -⟩, hrest⟩ := hc
      simp only [names, List.mem_append, List.mem_cons] at hx
      rcases hx with hx | rfl | hx | hx
      · exact hlabel label hl hx
      · exact hy
      · exact ihinner hinner hx
      · exact ih hrest hx

-- Branches whose names all stand for numbers have a text.
theorem eval_ok (c : Cases) {env : Environment} (hnames : ∀ y ∈ c.names, (env.int? y).isSome = true)
    (hx : (env.int? x).isSome = true) : ∃ t, c.eval env x = .ok t := by
  have hnumber : ∀ {y}, (env.int? y).isSome = true → ∃ i, env.number y = .ok i := fun {y} hy => by
    obtain ⟨i, hi⟩ := Option.isSome_iff_exists.mp hy
    exact ⟨i, by rw [Environment.number, hi]⟩
  have hholds : ∀ label : Label, (∀ y ∈ label.names, (env.int? y).isSome = true) →
      ∀ y, (env.int? y).isSome = true → ∃ b, label.holds env y = .ok b := by
    intro label hlabel y hy
    obtain ⟨i, hi⟩ := hnumber hy
    cases label with
    | default => exact ⟨true, rfl⟩
    | number n => exact ⟨i == n, by rw [Label.holds, hi, ok_bind]⟩
    | named z =>
        obtain ⟨j, hj⟩ := hnumber (hlabel z List.mem_cons_self)
        exact ⟨i == j, by rw [Label.holds, hi, ok_bind, hj, ok_bind]⟩
  induction c generalizing x with
  | done => exact ⟨[], rfl⟩
  | text label s gap rest ih =>
      simp only [names, List.mem_append] at hnames
      obtain ⟨b, hb⟩ := hholds label (fun y hy => hnames y (.inl hy)) x hx
      rw [eval, hb, ok_bind]
      cases b with
      | true => exact ⟨s, rfl⟩
      | false => exact ih (fun y hy => hnames y (.inr hy)) hx
  | switch label before y first inner after gap rest ihinner ih =>
      simp only [names, List.mem_append, List.mem_cons] at hnames
      obtain ⟨b, hb⟩ := hholds label (fun y hy => hnames y (.inl hy)) x hx
      rw [eval, hb, ok_bind]
      cases b with
      | true => exact ihinner (fun y hy => hnames y (.inr (.inr (.inl hy)))) (hnames y (.inr (.inl rfl)))
      | false => exact ih (fun y hy => hnames y (.inr (.inr (.inr hy)))) hx

end Cases

theorem Switch.isVariable_of_mem_names {w : Switch} (hw : w.isValid = true) {x : Text} (hx : x ∈ w.names) :
    isVariable x = true := by
  simp only [isValid, Bool.and_eq_true] at hw
  rcases List.mem_cons.mp hx with rfl | hx
  · exact hw.1.1
  · exact w.branches.isVariable_of_mem_names hw.2 hx

theorem Switch.host_ne_nil (w : Switch) : w.host ≠ [] := by
  simp [Switch.host, Switch.around, statementOf, Host.statement]

namespace Host

theorem load_ne_ended (d : Datum) (s : Store) : (s.load d).1 ≠ .ended := by
  cases d with
  | scalar v =>
      have hmarked : ∃ c, (s.marked v).1 = .scalar c := by
        unfold Store.marked
        split
        · split <;> exact ⟨_, rfl⟩
        · exact ⟨_, rfl⟩
        · exact ⟨_, rfl⟩
      obtain ⟨c, hc⟩ := hmarked
      rw [Store.load, hc]
      exact fun h => by simp at h
  | _ => simp [Store.load, Value.missing]

theorem builtin?_ne_ended (x : Text) : builtin? x ≠ some .ended := by
  unfold builtin?
  split_ifs <;> simp

variable {related : Datum → Value → Prop} {env : Environment} {values : List (Text × Value)}

-- No name of a run stands for the end of a walk.
theorem Named.contextOf_ne_ended (h : Named related env values)
    (hloaded : ∀ d v, related d v → ∃ s : Store, v = (s.load d).1) (depth : Nat) (y : Text) :
    contextOf (.ofDepth values depth) y ≠ some .ended := by
  cases hget : env.get? y with
  | none =>
      rw [contextOf, h.known_none depth hget, Option.none_or]
      exact builtin?_ne_ended y
  | some d =>
      obtain ⟨v, hv, hrelated⟩ := h.known_some depth hget
      obtain ⟨s, rfl⟩ := hloaded d v hrelated
      rw [contextOf, hv, Option.some_or]
      exact fun he => load_ne_ended d s (Option.some.inj he)

end Host

section Counts

variable {env : Environment} {names : List Text} {values : List (Text × Value)} {depth : Nat}

-- What is loaded for an environment in which some names stand for numbers.
theorem Environment.Counts.counting (h : env.Counts names) (hnames : ∀ x ∈ names, isVariable x = true)
    (hvalues : Named (fun d v => ∃ s : Store, v = (s.load d).1) env values) :
    Counting (.ofDepth values depth) env names := by
  refine ⟨?space, hvalues.contextOf_ne_ended (fun d v h => h) depth, fun y hy => ?numbers⟩
  case space =>
    rw [contextOf, hvalues.known_none depth h.free, Option.none_or]
    rfl
  case numbers =>
    rw [contextOf_of_variable (hnames y hy), Environment.int?]
    cases hget : env.get? y with
    | none => exact hvalues.known_none depth hget
    | some d =>
        obtain ⟨i, rfl⟩ := h.numbers y hy d hget
        obtain ⟨v, hv, s, rfl⟩ := hvalues.known_some depth hget
        exact hv

end Counts

section Run

variable {w : Switch} {env : Environment} {values : List (Text × Value)}

-- The names of a run live behind the data, and outside of all blocks there are none.
theorem Host.looks_newHome (g : Setting) (s : Store) :
    Looks g s.cells.size [] [] (s.new (.names [])).2 where
  isHome := ⟨[], Store.find?_new s _⟩
  frames frame hm := absurd hm List.not_mem_nil
  looked x frame origin _ _ hfind := by simp [Scope.find?] at hfind

-- A run puts out what its nodes do in the outermost block, where every name is read from the data.
theorem Host.run_of_looks {ns : List Node} {s : Store} {expected : Except Error Text}
    (hself : readsFirst Template.selfName ns = false)
    (hadds : Slots.Adds isName (Scope.has []) (Slots.declared .bound [])
      ((Slots.declared .bound []).visitAll (Scope.has []) false ns))
    (hkept : ∀ y, contextOf (.ofDepth values maxCallDepth) y ≠ some .ended)
    (h : ∀ frame s', s.Grows s' → Looks (.ofDepth values maxCallDepth) s.cells.size [frame] [] s' →
      Executes s.cells.size 1 (execAll [frame] ns) (.ofDepth values maxCallDepth) s' expected) :
    ((Template.mk ns).run values s).1 = expected := by
  have hblock : IsBlock isName s.cells.size [] [] _ := hadds.isBlock rfl (by simp) s.cells.size
  obtain ⟨s', henter, hafter, hlooks⟩ :=
    (looks_newHome (.ofDepth values maxCallDepth) s).gives_enter hblock (List.Subset.refl _) hkept
  refine run_of_meets ?_
  rw [Template.body, hself]
  refine gives_newHome.bind_meets (henter.bind_meets ?_)
  exact (h _ s' ((Store.grows_new s _).of_after hafter) hlooks).mono fun a b _ h => h.1

theorem Switch.readsFirst_self (hw : w.isValid = true) :
    readsFirst Template.selfName [Switch.node w.subject w.branches.nodes] = false := by
  refine readsFirst_eq_false fun u hu he => ?_
  have huses : Uses w.names u.1 := by
    rw [usesOfNodes, usesOfNodes, List.append_nil] at hu
    rcases Switch.uses_node u hu with hu | hu
    · exact hu.subset (by simp [names])
    · exact (w.branches.uses_nodes u hu).subset (List.subset_cons_self _ _)
  rw [he] at huses
  rcases huses with hstate | hspace | hm
  · exact absurd hstate (by decide)
  · exact absurd hspace (by decide)
  · exact not_taken_of_variable (isVariable_of_mem_names hw hm) (by decide)

-- A run of the template that a switch is read as puts out what the switch stands for.
theorem Switch.run_node (hw : w.isValid = true) (hfree : switchName ∉ w.branches.names)
    (hg : Counting (.ofDepth values maxCallDepth) env w.names) (s : Store) :
    ((Template.mk [Switch.node w.subject w.branches.nodes]).run values s).1 = w.eval env := by
  have hself := Switch.readsFirst_self hw
  simp only [isValid, Bool.and_eq_true] at hw
  obtain ⟨⟨hx, -⟩, hbranches⟩ := hw
  have hname : isName w.subject = true := isName_of_variable hx
  have hadds : Slots.Adds isName (Scope.has []) (Slots.declared .bound [])
      ((Slots.declared .bound []).visit (Scope.has []) false (Switch.node w.subject w.branches.nodes)) :=
    Slots.adds_switch hname
  refine run_of_looks hself hadds hg.kept fun frame s' _ hlooks => ?_
  exact executes_one (executes_switch hlooks (List.cons_ne_nil _ _) (List.nil_subset _) hname
    List.not_mem_nil (hg.subset (by simp [names])) (isBlock_switchFrame _ hbranches _ _) fun a s'' h'' =>
      w.branches.switches_nodes hbranches hfree (hg.subset fun z hz => by simp [names, hz]) h'')

end Run

section Rendered

variable {c : Compiler} {w : Switch} {env : Environment} {r : Renderer}

-- Where there is room to read what a switch is compiled into, rendering its source is a run of its node,
-- unless its branches stand too deep within one another.
theorem Compiler.rendered_node (hc : c.extensions = []) (fs : FileSystem) (hw : w.isValid = true)
    (hshort : w.branches.isShort = true)
    (hroom : Reader.callCost + Reader.bracketCost + Reader.statementCost * (2 * w.branches.depth + 1) ≤
      templateRoom) (hdistinct : (env.map (·.1)).Nodup) (hr : r.Faithful) (values : List (Text × Value))
    {s : Store} (hvalues : (Engine.stored s env.entries).1 = Bindings.spelled values)
    (hnames : values.map (·.1) = env.map (·.1)) :
    c.rendered fs r w.source env.entries s = Except.mapError EngineError.run
      (if maxBlockDepth < w.branches.depth then .error .tooDeepBlocks
      else ((Template.mk [Switch.node w.subject w.branches.nodes]).run values
        (Engine.stored s env.entries).2).1) := by
  rw [Compiler.rendered_eq (Switch.compile_source hc fs hw) w.host_ne_nil hdistinct hr values hvalues hnames,
    Switch.ofText_host hw hshort hroom]
  split_ifs <;> rfl

-- The text of a switch, compiled and rendered, puts out what the first branch does that is taken, and fails
-- only where a name is compared that stands for nothing.
theorem Compiler.rendered_switch (hc : c.extensions = []) (fs : FileSystem) (hw : w.Sound)
    (henv : env.Counts w.names) (hr : r.Faithful) (s : Store) :
    c.rendered fs r w.source env.entries s = (w.eval env).mapError EngineError.run ∧
      ((∀ x ∈ w.names, (env.get? x).isSome = true) →
        ∃ t, c.rendered fs r w.source env.entries s = .ok t) := by
  obtain ⟨values, hvalues, hnamed⟩ := stored_named env s
  have hroom : Reader.callCost + Reader.bracketCost + Reader.statementCost * (2 * w.branches.depth + 1) ≤
      templateRoom := by
    have hdepth := hw.depth
    simp only [Reader.callCost, Reader.bracketCost, Reader.statementCost, templateRoom, maxBlockDepth] at *
    omega
  have hcounting : Counting (.ofDepth values maxCallDepth) env w.names :=
    henv.counting (fun x hx => Switch.isVariable_of_mem_names hw.valid hx) hnamed
  have heval : c.rendered fs r w.source env.entries s = (w.eval env).mapError EngineError.run := by
    rw [rendered_node hc fs hw.valid hw.short hroom henv.distinct hr values hvalues hnamed.names,
      if_neg (Nat.not_lt.mpr hw.depth), Switch.run_node hw.valid hw.free hcounting]
  refine ⟨heval, fun hnames => ?_⟩
  have hint : ∀ x ∈ w.names, (env.int? x).isSome = true := fun x hx => by
    obtain ⟨d, hd⟩ := Option.isSome_iff_exists.mp (hnames x hx)
    obtain ⟨i, rfl⟩ := henv.numbers x hx d hd
    rw [Environment.int?, hd]
    rfl
  obtain ⟨t, ht⟩ := w.branches.eval_ok (fun y hy => hint y (List.mem_cons_of_mem _ hy))
    (hint w.subject List.mem_cons_self)
  exact ⟨t, by rw [heval, Switch.eval, ht]; rfl⟩

-- A switch within another one. Behind the branch that is taken, a name that stands for nothing is not
-- compared.
theorem Compiler.rendered_switch_nested :
    Compiler.rendered ⟨default, defaultMaxDepth, [], defaultRoom⟩ (.ofFiles fun _ => none)
      (.empty (some Renderer.defaultLimit))
      ("\x7bswitch $a\x7d \x7bcase 1\x7dx\x7b/case\x7d\n\x7bcase 2\x7d\x7bswitch $b\x7d".toList ++
        "\x7bcase $a\x7dy\x7b/case\x7d\x7bdefault\x7dz\x7b/default\x7d\x7b/switch\x7d\x7b/case\x7d".toList ++
        "\x7bcase $c\x7du\x7b/case\x7d\x7b/switch\x7d".toList)
      [(.str "a".toList, .int 2), (.str "b".toList, .int (-7)), (.str "t".toList, .str "2".toList)] .empty =
      .ok "z".toList := by
  let w : Switch := ⟨"a".toList, " ".toList, .text (.number 1) "x".toList "\n".toList
    (.switch (.number 2) [] "b".toList [] (.text (.named "a".toList) "y".toList []
      (.text .default "z".toList [] .done)) [] [] (.text (.named "c".toList) "u".toList [] .done))⟩
  let env : Environment := [("a".toList, .int 2), ("b".toList, .int (-7)), ("t".toList, .str "2".toList)]
  have hw : w.Sound := ⟨by decide, by decide, by decide, by decide⟩
  have hnumbers : ∀ x ∈ w.names, x = "a".toList ∨ x = "b".toList ∨ x = "c".toList := by decide
  have henv : env.Counts w.names := by
    refine ⟨by decide, rfl, fun x hx d hd => ?_⟩
    rcases hnumbers x hx with rfl | rfl | rfl
    · exact ⟨2, (Option.some.inj hd).symm⟩
    · exact ⟨-7, (Option.some.inj hd).symm⟩
    · nomatch hd
  have heval : w.eval env = .ok "z".toList := by decide +kernel
  have h := (rendered_switch (c := ⟨default, defaultMaxDepth, [], defaultRoom⟩) rfl
    (.ofFiles fun _ => none) hw henv (Renderer.faithful_empty (some Renderer.defaultLimit)) .empty).1
  rwa [heval] at h

end Rendered

section Limits

-- A switch with a text, the rendering of which comes out otherwise.
def Compiler.Departs (c : Compiler) (w : Switch) (env : Environment) (s : Text)
    (out : Except EngineError Text) : Prop :=
  w.isValid = true ∧ (∀ x ∈ w.names, (env.int? x).isSome = true) ∧ w.eval env = .ok s ∧
    c.rendered (.ofFiles fun _ => none) (.empty (some Renderer.defaultLimit)) w.source env.entries .empty =
      out

-- Branches within one another.
def Cases.within (x s : Text) : Nat → Cases
  | 0 => .text .default s [] .done
  | n + 1 => .switch .default [] x [] (within x s n) [] [] .done

section Within

variable {x s : Text}

theorem Cases.isValid_within (hx : isVariable x = true) (hs : isChunk s = true) (n : Nat) :
    (within x s n).isValid = true := by
  induction n with
  | zero => simp [within, isValid, Label.isValid, isGap, hs]
  | succ n ih => simp [within, isValid, Label.isValid, isGap, hx, ih]

theorem Cases.isShort_within (n : Nat) : (within x s n).isShort = true := by
  induction n with
  | zero => rfl
  | succ n ih => simp [within, isShort, Label.isShort, ih]

theorem Cases.depth_within (n : Nat) : (within x s n).depth = n + 1 := by
  induction n with
  | zero => rfl
  | succ n ih => simp [within, depth, ih]

theorem Cases.names_within (n : Nat) : ∀ y ∈ (within x s n).names, y = x := by
  induction n with
  | zero => simp [within, names, Label.names]
  | succ n ih => simpa [within, names, Label.names] using ih

theorem Cases.eval_within (n : Nat) (env : Environment) (y : Text) : (within x s n).eval env y = .ok s := by
  induction n generalizing y with
  | zero => rfl
  | succ n ih => exact ih x

end Within

section Departs

variable {c : Compiler}

-- The host takes ninety-eight branches within one another, but not more.
theorem Compiler.departs_within (hc : c.extensions = []) :
    c.Departs ⟨['a'], [], .within ['a'] ['x'] 98⟩ [(['a'], .int 1)] ['x'] (.error (.run .tooDeepBlocks)) := by
  have hvalid : (Switch.mk ['a'] [] (.within ['a'] ['x'] 98)).isValid = true := by
    simp only [Switch.isValid, Cases.isValid_within (x := ['a']) (s := ['x']) (by decide) (by decide) 98]
    decide
  have hdepth : (Switch.mk ['a'] [] (.within ['a'] ['x'] 98)).branches.depth = 99 := Cases.depth_within 98
  refine ⟨hvalid, fun y hy => ?names, Cases.eval_within 98 _ _, ?rendered⟩
  case names =>
    obtain rfl : y = ['a'] := by
      rcases List.mem_cons.mp hy with rfl | hy
      · rfl
      · exact Cases.names_within 98 y hy
    rfl
  case rendered =>
    rw [rendered_node hc _ hvalid (Cases.isShort_within 98) (by rw [hdepth]; decide) (by decide)
      (Renderer.faithful_empty _) [(['a'], .int 1)] rfl rfl, hdepth]
    rfl

-- It takes no numerals that are too long.
theorem Compiler.departs_long (hc : c.extensions = []) {n : Nat}
    (hn : maxNumeralLength < (natText n).length) :
    c.Departs ⟨['a'], [], .text (.number n) ['y'] [] (.text .default ['x'] [] .done)⟩
      [(['a'], .int 1)] ['x'] (.error (.run .wrongValue)) := by
  have hvalid : (Switch.mk ['a'] [] (.text (.number n) ['y'] [] (.text .default ['x'] [] .done))).isValid =
      true := rfl
  have hne : ((1 : Int) == n) = false := by
    rw [beq_eq_false_iff_ne]
    intro he
    obtain rfl : n = 1 := by omega
    exact absurd hn (by decide)
  refine ⟨hvalid, fun y hy => ?names, ?eval, ?rendered⟩
  case names =>
    obtain rfl : y = ['a'] := by simpa [Switch.names, Cases.names, Label.names] using hy
    rfl
  case eval =>
    have hholds : (Label.number n).holds [(['a'], .int 1)] ['a'] = .ok ((1 : Int) == n) := rfl
    rw [Switch.eval, Cases.eval, hholds, ok_bind, hne]
    rfl
  case rendered =>
    rw [rendered_eq (Switch.compile_source hc _ hvalid) (Switch.host_ne_nil _) (by decide)
      (Renderer.faithful_empty _) [(['a'], .int 1)] rfl rfl, Template.ofText,
      Switch.nodesOfText_long hvalid hn rfl]
    rfl

-- A switch makes its state by what the data gives as `namespace`.
theorem Compiler.departs_bound (hc : c.extensions = []) :
    c.Departs ⟨['a'], [], .text (.number 1) ['x'] [] .done⟩
      [(['a'], .int 1), ("namespace".toList, .int 0)] ['x'] (.error (.run .wrongType)) := by
  refine ⟨by decide, by decide, by decide, ?_⟩
  rw [rendered_node hc _ (by decide) (by decide) (by decide) (by decide) (Renderer.faithful_empty _)
    [(['a'], .int 1), ("namespace".toList, .int 0)] rfl rfl]
  decide +kernel

-- A switch within another one that is on the name of the state is on that state.
theorem Compiler.departs_state (hc : c.extensions = []) :
    c.Departs ⟨['a'], [], .switch (.number 1) [] switchName [] (.text (.number 5) ['x'] [] .done) [] [] .done⟩
      [(['a'], .int 1), (switchName, .int 5)] ['x'] (.ok []) := by
  refine ⟨by decide, by decide, by decide, ?_⟩
  rw [rendered_node hc _ (by decide) (by decide) (by decide) (by decide) (Renderer.faithful_empty _)
    [(['a'], .int 1), (switchName, .int 5)] rfl rfl]
  decide +kernel

-- None of the conditions can go: where one of them is left, some switch comes out otherwise.
theorem Compiler.rendered_switch_departs :
    let c : Compiler := ⟨default, defaultMaxDepth, [], defaultRoom⟩
    c.Departs ⟨['a'], [], .within ['a'] ['x'] 98⟩ [(['a'], .int 1)] ['x'] (.error (.run .tooDeepBlocks)) ∧
      c.Departs ⟨['a'], [], .text (.number (10 ^ 4300)) ['y'] [] (.text .default ['x'] [] .done)⟩
        [(['a'], .int 1)] ['x'] (.error (.run .wrongValue)) ∧
      c.Departs ⟨['a'], [], .text (.number 1) ['x'] [] .done⟩
        [(['a'], .int 1), ("namespace".toList, .int 0)] ['x'] (.error (.run .wrongType)) ∧
      c.Departs ⟨['a'], [], .switch (.number 1) [] switchName [] (.text (.number 5) ['x'] [] .done) [] [] .done⟩
        [(['a'], .int 1), (switchName, .int 5)] ['x'] (.ok []) :=
  ⟨departs_within rfl, departs_long rfl (lt_length_natText_pow 4300), departs_bound rfl,
    departs_state rfl⟩

end Departs

end Limits

end BraceTemplate

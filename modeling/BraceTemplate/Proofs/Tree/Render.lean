import BraceTemplate.Engine.Basic
import BraceTemplate.Proofs.Tree.Compile
import BraceTemplate.Proofs.Tree.Execute
import BraceTemplate.Proofs.Tree.Limits

namespace BraceTemplate

open Host

-- How an environment is given to a rendering.
def Environment.entries (env : Environment) : List (Datum × Datum) :=
  env.map fun entry => (.str entry.1, entry.2)

-- An environment that gives each name one tree of data.
structure Environment.IsData (env : Environment) : Prop where
  distinct : (env.map (·.1)).Nodup
  plain : ∀ entry ∈ env, entry.2.isPlain = true

-- What comes of compiling a text and rendering it with data that is put into a store.
def Compiler.rendered (c : Compiler) (fs : FileSystem) (r : Renderer) (source : Text)
    (data : List (Datum × Datum)) (s : Store) : Except EngineError Text := do
  let artifact ← (c.compile fs source).mapError EngineError.compile
  let (values, s) := Engine.stored s data
  (r.render (.str artifact) (.ofList values) s).1.mapError EngineError.run

namespace Bindings

variable {α : Type} {bound values : List (Text × α)}

-- Values under texts, as they are bound.
def spelled (values : List (Text × α)) : List (Datum × α) :=
  values.map fun value => (.str value.1, value.2)

theorem insertEntry_spelled {x : Text} (hx : x ∉ bound.map (·.1)) (v : α) :
    Datum.insertEntry (.str x) v (spelled bound) = spelled (bound ++ [(x, v)]) := by
  induction bound with
  | nil => rfl
  | cons first rest ih =>
      simp only [List.map_cons, List.mem_cons, not_or] at hx
      have hsame : Datum.same (.str first.1) (.str x) = false := by
        rw [Datum.same_str]
        exact beq_eq_false_iff_ne.mpr (Ne.symm hx.1)
      change Datum.insertEntry (.str x) v ((.str first.1, first.2) :: spelled rest) = _
      rw [Datum.insertEntry, hsame, if_neg Bool.false_ne_true, ih hx.2]
      rfl

-- Different names are bound next to one another.
theorem merged_spelled (h : ((bound ++ values).map (·.1)).Nodup) :
    merged ⟨spelled bound⟩ (spelled values) = ⟨spelled (bound ++ values)⟩ := by
  induction values generalizing bound with
  | nil => rw [List.append_nil]; rfl
  | cons value rest ih =>
      have hnew : value.1 ∉ bound.map (·.1) := by
        rw [List.map_append, List.map_cons, List.nodup_append] at h
        exact fun hm => h.2.2 _ hm _ List.mem_cons_self rfl
      rw [List.append_cons] at h
      change merged ⟨Datum.insertEntry (.str value.1) value.2 (spelled bound)⟩ (spelled rest) = _
      rw [insertEntry_spelled hnew, ih h, ← List.append_cons]

theorem ofList_spelled (h : (values.map (·.1)).Nodup) : ofList (spelled values) = ⟨spelled values⟩ :=
  @merged_spelled α [] values h

end Bindings

namespace Renderer

theorem named_spelled (values : List (Text × Value)) : named (Bindings.spelled values) = .ok values := by
  induction values with
  | nil => rfl
  | cons value rest ih =>
      change (do return (value.1, value.2) :: (← named (Bindings.spelled rest))) = _
      rw [ih]
      rfl

-- A renderer that remembers for each text the template that the text is read as.
def Faithful (r : Renderer) : Prop :=
  ∀ entry ∈ r.recent.entries, Template.ofText entry.1 = .ok entry.2.template

theorem faithful_empty (limit : Option Int) : (empty limit).Faithful := by
  intro entry hentry
  exact absurd hentry List.not_mem_nil

variable {r : Renderer}

theorem Faithful.touch (hr : r.Faithful) {source : Text} {loaded : Loaded}
    (h : Template.ofText source = .ok loaded.template) :
    ∀ entry ∈ (r.recent.touch source loaded).entries, Template.ofText entry.1 = .ok entry.2.template := by
  intro entry hentry
  have hmem : entry ∈ (source, loaded) :: r.recent.entries.filter (·.1 != source) := by
    cases hlimit : r.recent.limit with
    | none => simpa [Recent.touch, hlimit] using hentry
    | some n =>
        simp only [Recent.touch, hlimit] at hentry
        exact List.mem_of_mem_take hentry
  rcases List.mem_cons.mp hmem with rfl | hmem
  · exact h
  · exact hr entry (List.mem_of_mem_filter hmem)

-- What is loaded for a text does not hang on what has been rendered before.
theorem Faithful.load (hr : r.Faithful) (source : Text) :
    (r.load source).1.map (·.template) = Template.ofText source ∧ (r.load source).2.Faithful := by
  unfold Renderer.load
  cases hfind : r.recent.find? source with
  | some loaded =>
      obtain ⟨⟨x, found⟩, hentry, rfl⟩ := Option.map_eq_some_iff.mp hfind
      obtain rfl : x = source := by simpa using List.find?_some hentry
      have hof := hr _ (List.mem_of_find?_eq_some hentry)
      exact ⟨hof.symm, hr.touch hof⟩
  | none =>
      cases hof : Template.ofText source with
      | error e => exact ⟨rfl, hr⟩
      | ok template => exact ⟨rfl, hr.touch hof⟩

-- Rendering leaves a renderer as faithful as it was, whatever comes of it.
theorem Faithful.after_render (hr : r.Faithful) (source : Datum) (bindings : Bindings Value)
    (s : Store) : (r.render source bindings s).2.1.Faithful := by
  unfold Renderer.render
  split
  · exact hr
  · split
    · next text _ =>
        have hload := (hr.load text).2
        split
        · next hloaded =>
            rw [hloaded] at hload
            exact hload
        · next hloaded =>
            rw [hloaded] at hload
            split <;> exact hload
    · exact hr

-- A rendering is a run of the template that its text is read as.
theorem Faithful.render_eq_of_named (hr : r.Faithful) {source : Text} (hne : source ≠ [])
    {bindings : Bindings Value} {values : List (Text × Value)}
    (hnamed : named bindings.entries = .ok values) (s : Store) :
    (r.render (.str source) bindings s).1 =
      (Template.ofText source >>= fun t => (t.run values s).1) := by
  have htruth : (!(Datum.str source).truth) = false := by
    simpa [Datum.truth, Datum.str, Scalar.truth] using hne
  obtain ⟨hload, -⟩ := hr.load source
  unfold Renderer.render
  rw [htruth, if_neg Bool.false_ne_true]
  simp only [Datum.str, hnamed]
  rw [← hload]
  rcases r.load source with ⟨_ | loaded, r'⟩ <;> rfl

theorem Faithful.render_eq (hr : r.Faithful) {source : Text} (hne : source ≠ [])
    {values : List (Text × Value)} (hdistinct : (values.map (·.1)).Nodup) (s : Store) :
    (r.render (.str source) (.ofList (Bindings.spelled values)) s).1 =
      (Template.ofText source >>= fun t => (t.run values s).1) := by
  rw [Bindings.ofList_spelled hdistinct]
  exact hr.render_eq_of_named hne (named_spelled values) s

end Renderer

namespace Host

variable {env : Environment} {s : Store}

-- Values under the names of an environment, each related to what its name stands for.
def Named (related : Datum → Value → Prop) (env : Environment) (values : List (Text × Value)) : Prop :=
  List.Forall₂ (fun entry value => value.1 = entry.1 ∧ related entry.2 value.2) env values

section Named

variable {related : Datum → Value → Prop} {values : List (Text × Value)}

theorem Named.names (h : Named related env values) : values.map (·.1) = env.map (·.1) := by
  induction h with
  | nil => rfl
  | cons hfirst _ ih => rw [List.map_cons, List.map_cons, hfirst.1, ih]

-- A run finds under each name what is related to what the name stands for.
theorem Named.known (h : Named related env values) (depth : Nat) (x : Text) :
    Option.Rel related (env.get? x) (Run.known (.ofDepth values depth) x) := by
  have hdata : ∀ values, (Setting.ofDepth values depth).data = values := fun _ => by cases depth <;> rfl
  rw [Run.known, hdata]
  induction h with
  | nil => exact .none
  | @cons entry value env values hfirst _ ih =>
      by_cases hx : entry.1 = x
      · rw [List.find?_cons_of_pos (by simpa [hfirst.1] using hx), Environment.get?,
          List.find?_cons_of_pos (by simpa using hx)]
        exact .some hfirst.2
      · rw [List.find?_cons_of_neg (by simpa [hfirst.1] using hx), Environment.get?,
          List.find?_cons_of_neg (by simpa using hx)]
        exact ih

theorem Named.known_none (h : Named related env values) (depth : Nat) {x : Text} (hx : env.get? x = none) :
    Run.known (.ofDepth values depth) x = none := by
  have hrel := h.known depth x
  rw [hx] at hrel
  revert hrel
  generalize Run.known (.ofDepth values depth) x = v?
  rintro (_ | _)
  rfl

theorem Named.known_some (h : Named related env values) (depth : Nat) {x : Text} {d : Datum}
    (hx : env.get? x = some d) : ∃ v, Run.known (.ofDepth values depth) x = some v ∧ related d v := by
  have hrel := h.known depth x
  rw [hx] at hrel
  revert hrel
  generalize Run.known (.ofDepth values depth) x = v?
  rintro (hv | _)
  exact ⟨_, rfl, hv⟩

end Named

-- The entries that are put into a store come out under their names, each as it is loaded.
theorem stored_named (env : Environment) (s : Store) :
    ∃ values, (Engine.stored s env.entries).1 = Bindings.spelled values ∧
      Named (fun d v => ∃ s : Store, v = (s.load d).1) env values := by
  induction env generalizing s with
  | nil => exact ⟨[], rfl, .nil⟩
  | cons entry rest ih =>
      obtain ⟨x, d⟩ := entry
      obtain ⟨values, hvalues, hnamed⟩ := ih (s.load d).2
      refine ⟨(x, (s.load d).1) :: values, ?_, .cons ⟨rfl, s, rfl⟩ hnamed⟩
      rw [Bindings.spelled, List.map_cons]
      exact congrArg _ hvalues

-- What holds of an entry when it is loaded holds when all of them are, if it stays as the store grows.
theorem stored_of_load {related : Store → Datum → Value → Prop}
    (hload : ∀ entry ∈ env, ∀ s : Store,
      s.Grows (s.load entry.2).2 ∧ related (s.load entry.2).2 entry.2 (s.load entry.2).1)
    (hgrows : ∀ {s s' : Store} {d v}, s.Grows s' → related s d v → related s' d v) (s : Store) :
    ∃ values, (Engine.stored s env.entries).1 = Bindings.spelled values ∧
      s.Grows (Engine.stored s env.entries).2 ∧
        Named (related (Engine.stored s env.entries).2) env values := by
  induction env generalizing s with
  | nil => exact ⟨[], rfl, .refl s, .nil⟩
  | cons entry rest ih =>
      obtain ⟨x, d⟩ := entry
      obtain ⟨hfirst, hrelated⟩ := hload _ List.mem_cons_self s
      obtain ⟨values, hvalues, hothers, hnamed⟩ :=
        ih (fun e he => hload e (List.mem_cons_of_mem _ he)) (s.load d).2
      refine ⟨(x, (s.load d).1) :: values, ?_, hfirst.trans hothers, .cons ⟨rfl, ?_⟩ hnamed⟩
      · rw [Bindings.spelled, List.map_cons]
        exact congrArg _ hvalues
      · exact hgrows hothers hrelated

-- Values under the names of an environment, each standing for what its name stands for.
abbrev Store.HoldsNames (s : Store) : Environment → List (Text × Value) → Prop :=
  Named fun d v => s.Holds s.cells.size v d

theorem stored_entries (hplain : ∀ entry ∈ env, entry.2.isPlain = true) (s : Store) :
    ∃ values, (Engine.stored s env.entries).1 = Bindings.spelled values ∧
      s.Grows (Engine.stored s env.entries).2 ∧
        (Engine.stored s env.entries).2.HoldsNames env values :=
  @stored_of_load env (fun s d v => s.Holds s.cells.size v d)
    (fun entry hm s => Store.load_plain entry.2 (hplain entry hm) s) (fun hs h => hs.holds h) s

theorem Store.HoldsNames.provides {values : List (Text × Value)} (h : s.HoldsNames env values)
    (depth : Nat) : Provides s (.ofDepth values depth) env := by
  intro x
  cases hx : env.get? x with
  | none =>
      rw [Named.known_none h depth hx]
      trivial
  | some d =>
      obtain ⟨v, hv, hholds⟩ := Named.known_some h depth hx
      rw [hv]
      exact hholds

open Run

theorem gives_newHome {g : Setting} : Gives newHome g s s.cells.size (s.new (.names [])).2 := rfl

-- The names of a run live behind the data, and outside of all blocks they are those of the data.
theorem sees_newHome (s : Store) (env : Environment) : Sees s env [] env (s.new (.names [])).2 where
  grows := Store.grows_new s _
  isHome := ⟨[], Store.find?_new s _⟩
  frames frame hm := absurd hm List.not_mem_nil
  inside x frame origin _ hfind := by simp [Scope.find?] at hfind
  outside _ _ _ := rfl

-- The block that a whole template runs in.
theorem isBlock_outermost {t : Tree} (ht : t.isValid = true) (s : Store) :
    IsBlock isVariable s.cells.size [] [] ⟨s.cells.size, 0,
      ((Slots.declared .bound []).visitAll (fun _ => false) false (t.nodes [])).entries⟩ :=
  (t.adds_nodes ht (Scope.has []) false (Slots.declared .bound []) []).isBlock rfl (by simp) _

theorem run_of_meets {template : Template} {values : List (Text × Value)} {expected : Except Error Text}
    (h : Meets template.body (.ofDepth values maxCallDepth) s expected fun a b _ => a = b) :
    (template.run values s).1 = expected := by
  rw [Template.run]
  cases expected with
  | ok text =>
      obtain ⟨a, s', hgives, rfl⟩ := h
      exact congrArg Prod.fst hgives
  | error e => exact h

-- A run of the template that a tree is read as puts out what the tree stands for.
theorem run_nodes {t : Tree} (ht : t.isValid = true) {values : List (Text × Value)}
    (h : s.HoldsNames env values) : ((Template.mk (t.nodes [])).run values s).1 = t.eval env := by
  have hp := h.provides maxCallDepth
  have hself : readsFirst Template.selfName (t.nodes []) = false :=
    (t.names_nodes ht []).readsFirst_taken (by decide)
  have hblock : IsBlock isVariable s.cells.size [] (([] : Environment).map (·.1)) _ := isBlock_outermost ht s
  obtain ⟨s', henter, -, hsees⟩ := hblock.gives_enter (sees_newHome s env) hp (by simp)
  refine run_of_meets ?_
  rw [Template.body, hself]
  refine gives_newHome.bind_meets (henter.bind_meets ?_)
  exact (t.executes_block hp ht (List.cons_ne_nil _ _) hsees).mono fun a b _ h => h.1

end Host

theorem Tree.host_ne_nil {t : Tree} (ht : t.isValid = true) (hne : t ≠ .done) : t.host ≠ [] := by
  cases t with
  | done => exact absurd rfl hne
  | chunk s rest =>
      simp only [Tree.isValid, Bool.and_eq_true] at ht
      simp [Tree.host, Tag.ne_nil_of_chunk ht.1]
  | output x rest => simp [Tree.host, outputOf, Host.output]
  | choose x body more rest => simp [Tree.host, statementOf, Host.statement]
  | each x binder body rest => simp [Tree.host, statementOf, Host.statement]

section Rendered

variable {c : Compiler} {t : Tree} {env : Environment} {r : Renderer}

-- Rendering what a text is compiled into is a run of the template that this is read as.
theorem Compiler.rendered_eq {fs : FileSystem} {source artifact : Text}
    (hcompile : c.compile fs source = .ok artifact) (hne : artifact ≠ []) (hdistinct : (env.map (·.1)).Nodup)
    (hr : r.Faithful) (values : List (Text × Value)) {s : Store}
    (hvalues : (Engine.stored s env.entries).1 = Bindings.spelled values)
    (hnames : values.map (·.1) = env.map (·.1)) :
    c.rendered fs r source env.entries s = Except.mapError EngineError.run
      (Template.ofText artifact >>= fun t => (t.run values (Engine.stored s env.entries).2).1) := by
  rw [Compiler.rendered, hcompile]
  change Except.mapError EngineError.run
    (r.render (.str artifact) (.ofList (Engine.stored s env.entries).1) _).1 = _
  rw [hvalues, hr.render_eq hne (hnames ▸ hdistinct)]

-- Where there is room to read what a tree is compiled into, rendering its source puts out what the tree
-- stands for, unless its blocks, its branches or its loops stand too deep within one another.
theorem Compiler.rendered_source (hc : c.extensions = []) (fs : FileSystem) (ht : t.isValid = true)
    (hroom : Reader.bracketCost + Reader.statementCost * t.blocks ≤ templateRoom) (henv : env.IsData)
    (hr : r.Faithful) (s : Store) :
    c.rendered fs r t.source env.entries s = Except.mapError EngineError.run
      (if maxBlockDepth < t.blocks then .error .tooDeepBlocks
      else if maxNesting < t.nesting then .error .tooDeep
      else if maxLoopDepth < t.loops then .error .tooManyLoops
      else t.eval env) := by
  obtain ⟨values, hvalues, -, hholds⟩ := stored_entries henv.plain s
  by_cases hdone : t = .done
  · subst hdone
    rw [Compiler.rendered, Tree.compile_source hc fs ht]
    rfl
  · rw [Compiler.rendered_eq (Tree.compile_source hc fs ht) (Tree.host_ne_nil ht hdone) henv.distinct hr
      values hvalues hholds.names, Tree.ofText_host ht hroom]
    split_ifs
    · rfl
    · rfl
    · rfl
    · exact congrArg _ (run_nodes ht hholds)

-- The text of a tree, compiled and rendered, puts out what the tree stands for, and fails where the tree
-- has no value.
theorem Compiler.rendered_eq_eval (hc : c.extensions = []) (fs : FileSystem) (ht : t.Sound)
    (henv : env.IsData) (hr : r.Faithful) (s : Store) :
    c.rendered fs r t.source env.entries s = (t.eval env).mapError EngineError.run := by
  have hroom : Reader.bracketCost + Reader.statementCost * t.blocks ≤ templateRoom := by
    have hblocks := ht.blocks
    simp only [Reader.bracketCost, Reader.statementCost, templateRoom, maxBlockDepth] at *
    omega
  rw [rendered_source hc fs ht.valid hroom henv hr s, if_neg (Nat.not_lt.mpr ht.blocks),
    if_neg (Nat.not_lt.mpr ht.nesting), if_neg (Nat.not_lt.mpr ht.loops)]

-- Entries of a mapping, one of which has an empty value.
theorem Compiler.rendered_eq_eval_pairs :
    Compiler.rendered ⟨default, defaultMaxDepth, [], defaultRoom⟩ (.ofFiles fun _ => none)
      (.empty (some Renderer.defaultLimit))
      "\x7bforeach $d as $k => $v\x7d\x7bif $v\x7d\x7b$k\x7d: \x7b$v\x7d;\x7belse\x7d-\x7b/if\x7d\x7b/foreach\x7d".toList
      [(.str "d".toList, .dict [(.str "a".toList, .int 7), (.str "b".toList, .list []),
        (.str "<".toList, .str "x".toList)])] .empty =
      .ok "a: 7;-&lt;: x;".toList := by
  let t : Tree := .each "d".toList (.pair "k".toList "v".toList)
    (.choose "v".toList
      (.output "k".toList (.chunk ": ".toList (.output "v".toList (.chunk ";".toList .done))))
      (.otherwise (.chunk "-".toList .done)) .done) .done
  let env : Environment := [("d".toList, .dict [(.str "a".toList, .int 7), (.str "b".toList, .list []),
    (.str "<".toList, .str "x".toList)])]
  have ht : t.Sound := ⟨by decide, by decide, by decide, by decide⟩
  have henv : env.IsData := ⟨by decide, by decide⟩
  have heval : t.eval env = .ok "a: 7;-&lt;: x;".toList := by decide +kernel
  have h := rendered_eq_eval (c := ⟨default, defaultMaxDepth, [], defaultRoom⟩) rfl
    (.ofFiles fun _ => none) ht henv (Renderer.faithful_empty (some Renderer.defaultLimit)) .empty
  rwa [heval] at h

end Rendered

section Limits

-- Loops within one another, choices within one another, and further branches of one choice.
def Tree.loopsWithin (x s : Text) : Nat → Tree
  | 0 => .chunk s .done
  | n + 1 => .each x (.value x) (loopsWithin x s n) .done

def Tree.choicesWithin (x s : Text) : Nat → Tree
  | 0 => .chunk s .done
  | n + 1 => .choose x (choicesWithin x s n) .done .done

def Branches.further (x : Text) : Nat → Branches
  | 0 => .done
  | n + 1 => .elseif x .done (further x n)

variable {x s : Text} {env : Environment}

theorem Tree.isValid_loopsWithin (hx : isVariable x = true) (hs : isChunk s = true) (n : Nat) :
    (loopsWithin x s n).isValid = true := by
  induction n with
  | zero => simp [loopsWithin, isValid, hs]
  | succ n ih => simp [loopsWithin, isValid, Binder.isValid, hx, ih]

theorem Tree.depth_loopsWithin (n : Nat) : (loopsWithin x s n).loops = n ∧
    (loopsWithin x s n).blocks = n ∧ (loopsWithin x s n).nesting = n + 1 := by
  induction n with
  | zero => exact ⟨rfl, rfl, rfl⟩
  | succ n ih => simp [loopsWithin, loops, blocks, nesting, ih]

-- Each loop goes through the one character that the loop around it has bound.
theorem Tree.eval_loopsWithin {c : Char} (h : env.get? x = some (.str [c])) (n : Nat) :
    (loopsWithin x s n).eval env = .ok s := by
  induction n generalizing env with
  | zero => exact congrArg Except.ok (List.append_nil s)
  | succ n ih =>
      have hround := ih (Environment.get?_cons_self x (.str [c]) env)
      have hentries : Tree.entries (.str [c]) = .ok [(.int 0, .str [c])] := rfl
      simp [loopsWithin, Tree.eval, Tree.read, h, ok_bind, hentries, Binder.bindings, hround]

theorem Tree.isValid_choicesWithin (hx : isVariable x = true) (hs : isChunk s = true) (n : Nat) :
    (choicesWithin x s n).isValid = true := by
  induction n with
  | zero => simp [choicesWithin, isValid, hs]
  | succ n ih => simp [choicesWithin, isValid, Branches.isValid, hx, ih]

theorem Tree.depth_choicesWithin (n : Nat) : (choicesWithin x s n).blocks = n := by
  induction n with
  | zero => rfl
  | succ n ih => simp [choicesWithin, blocks, Branches.blocks, ih]

theorem Tree.eval_choicesWithin {d : Datum} (h : env.get? x = some d) (hd : d.truth = true) (n : Nat) :
    (choicesWithin x s n).eval env = .ok s := by
  induction n with
  | zero => exact congrArg Except.ok (List.append_nil s)
  | succ n ih =>
      simp [choicesWithin, Tree.eval, Tree.read, h, hd, ih, ok_bind]

theorem Branches.isValid_further (hx : isVariable x = true) (n : Nat) :
    (further x n).isValid = true := by
  induction n with
  | zero => rfl
  | succ n ih => simp [further, isValid, Tree.isValid, hx, ih]

theorem Branches.depth_further (n : Nat) : (further x n).blocks ≤ 1 ∧ (further x n).nesting = n := by
  induction n with
  | zero => simp [further, blocks, nesting]
  | succ n ih =>
      have h : (further x (n + 1)).blocks = max 1 (further x n).blocks := rfl
      exact ⟨h ▸ max_le (Nat.le_refl 1) ih.1, by simp [further, nesting, Tree.nesting, ih.2]⟩

-- A choice of empty branches.
def Tree.branches (x : Text) (n : Nat) : Tree :=
  .choose x .done (.further x n) .done

theorem Tree.isValid_branches (hx : isVariable x = true) (n : Nat) : (branches x n).isValid = true := by
  simp [branches, isValid, hx, Branches.isValid_further hx]

theorem Tree.depth_branches (n : Nat) :
    (branches x n).blocks ≤ 1 ∧ (branches x n).nesting = n + 1 := by
  simp [branches, blocks, nesting, Branches.depth_further]

theorem Tree.eval_branches {d : Datum} (h : env.get? x = some d) (hd : d.truth = true) (n : Nat) :
    (branches x n).eval env = .ok [] := by
  simp [branches, Tree.eval, Tree.read, h, hd, ok_bind]

-- A tree with a value, the rendering of which fails.
def Compiler.Refuses (c : Compiler) (t : Tree) (env : Environment) (s : Text) (e : Host.Error) : Prop :=
  t.isValid = true ∧ t.eval env = .ok s ∧
    c.rendered (.ofFiles fun _ => none) (.empty (some Renderer.defaultLimit)) t.source env.entries .empty =
      .error (.run e)

theorem Compiler.refuses_of {c : Compiler} (hc : c.extensions = []) {t : Tree} (ht : t.isValid = true)
    (henv : env.IsData) (heval : t.eval env = .ok s) (hblocks : t.blocks ≤ 99) {e : Host.Error}
    (he : (if maxBlockDepth < t.blocks then .error .tooDeepBlocks
      else if maxNesting < t.nesting then .error .tooDeep
      else if maxLoopDepth < t.loops then .error .tooManyLoops
      else t.eval env) = .error e) : c.Refuses t env s e := by
  have hroom : Reader.bracketCost + Reader.statementCost * t.blocks ≤ templateRoom :=
    (Nat.add_le_add_left (Nat.mul_le_mul_left _ hblocks) _).trans (by decide)
  refine ⟨ht, heval, ?_⟩
  rw [rendered_source hc _ ht hroom henv (Renderer.faithful_empty _), he]
  rfl

-- The host takes twenty loops within one another, ninety-eight blocks and some three thousand branches
-- of a choice, but not more.
theorem Compiler.rendered_ne_eval_past_limits :
    let c : Compiler := ⟨default, defaultMaxDepth, [], defaultRoom⟩
    let env : Environment := [(['a'], .str ['x'])]
    c.Refuses (.loopsWithin ['a'] ['x'] 21) env ['x'] .tooManyLoops ∧
      c.Refuses (.choicesWithin ['a'] ['x'] 99) env ['x'] .tooDeepBlocks ∧
        c.Refuses (.branches ['a'] 3000) env [] .tooDeep := by
  intro c env
  have hx : isVariable ['a'] = true := by decide
  have hs : isChunk ['x'] = true := by decide
  have hget : env.get? ['a'] = some (.str ['x']) := rfl
  have henv : env.IsData := ⟨by decide, by decide⟩
  refine ⟨?loops, ?choices, ?branches⟩
  case loops =>
    obtain ⟨hloops, hblocks, hnesting⟩ := Tree.depth_loopsWithin (x := ['a']) (s := ['x']) 21
    refine refuses_of rfl (Tree.isValid_loopsWithin hx hs 21) henv (Tree.eval_loopsWithin hget 21)
      (by omega) ?_
    rw [hloops, hblocks, hnesting]
    rfl
  case choices =>
    have hblocks := Tree.depth_choicesWithin (x := ['a']) (s := ['x']) 99
    refine refuses_of rfl (Tree.isValid_choicesWithin hx hs 99) henv
      (Tree.eval_choicesWithin hget rfl 99) hblocks.le ?_
    rw [hblocks]
    rfl
  case branches =>
    obtain ⟨hblocks, hnesting⟩ := Tree.depth_branches (x := ['a']) 3000
    refine refuses_of rfl (Tree.isValid_branches hx 3000) henv (Tree.eval_branches hget rfl 3000)
      (by omega) ?_
    rw [hnesting, if_neg (Nat.not_lt.mpr (hblocks.trans (by decide))), if_pos (by decide)]

end Limits

end BraceTemplate

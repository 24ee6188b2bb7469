import BraceTemplate.Proofs.Shown.Escape
import BraceTemplate.Proofs.Shown.Values
import BraceTemplate.Proofs.Switch.Render

namespace BraceTemplate

open Host Run

namespace Datum

variable {d : Datum}

theorem numbered_ne_safe (hd : ∀ t, d ≠ .scalar (.safe t)) (n : Nat) :
    ∀ t, (d.numbered n).1 ≠ .scalar (.safe t) := by
  intro t h
  cases d with
  | scalar c =>
      rw [numbered] at h
      split at h
      · cases h
      · exact hd t h
  | _ => cases h

end Datum

-- Trees that are written alike are shown alike, but for what is sorted.
theorem Showing.text_numbered {tag : Showing} {d : Datum} (h : tag ≠ .print ∨ d.hasNoNan = true) (n : Nat) :
    tag.text (d.numbered n).1 = tag.text d := by
  have halike := d.alike_numbered n
  rcases h with h | h
  · cases tag with
    | plain => exact halike.printed
    | short => exact halike.printed
    | dump => exact halike.dump 0
    | print => exact absurd rfl h
  · rw [d.numbered_eq_self h]

namespace Host

-- A value that was put into some store and is read in another one as it should be, if all of it can be
-- shown.
structure Store.Keeps (s : Store) (d : Datum) (v : Value) : Prop where
  loaded : ∃ s' : Store, v = (s'.load d).1
  settles : ∃ n, d.isWhole = true → s.Settles v.reifyWith (d.numbered n).1

theorem Store.Grows.keeps {s s' : Store} {d : Datum} {v : Value} (hs : s.Grows s') (h : s.Keeps d v) :
    s'.Keeps d v := by
  obtain ⟨hloaded, n, hsettles⟩ := h
  exact ⟨hloaded, n, fun hd => (hsettles hd).grow hs⟩

-- The entries that are put into a store are kept in it under their names.
theorem stored_keeps (env : Environment) (s : Store) :
    ∃ values, (Engine.stored s env.entries).1 = Bindings.spelled values ∧
      s.Grows (Engine.stored s env.entries).2 ∧ Named (Engine.stored s env.entries).2.Keeps env values := by
  refine @stored_of_load env Store.Keeps (fun entry _ s => ?_) (fun hs h => hs.keeps h) s
  have hputs := Store.puts_load entry.2 s
  exact ⟨hputs.grows, ⟨s, rfl⟩, s.marks, hputs.settles⟩

theorem names_piped (e : Expr) (filters : List String) : (pipedExpr e filters).names = e.names := by
  induction filters generalizing e with
  | nil => rfl
  | cons w filters ih =>
      rw [pipedExpr, ih]
      simp [Expr.names, namesOfAll, namesOfNamed, namesOfSome]

end Host

namespace Showing

variable (tag : Showing) {x : Text} {s : Store} {scope : Scope} {g : Setting}

theorem nodes_eq : tag.nodes x = dataNodes tag.opening ++
    .output (pipedExpr (.name x) tag.filters) :: (dataNodes tag.closing ++ []) := by
  rw [List.append_nil, nodes]

theorem readsFirst_self (hx : isVariable x = true) : readsFirst Template.selfName (tag.nodes x) = false := by
  have hnames : Names (tag.nodes x) := by
    rw [nodes_eq]
    refine ((names_nil.data _).cons ?_).data _
    intro u hu
    rw [Node.uses, loads, names_piped] at hu
    obtain rfl : u = (x, .load) := by simpa [usesOf, Expr.names] using hu
    exact hx
  exact hnames.readsFirst_taken (by decide)

theorem adds_nodes (hx : isVariable x = true) : Slots.Adds isName (Scope.has []) (Slots.declared .bound [])
    ((Slots.declared .bound []).visitAll (Scope.has []) false (tag.nodes x)) := by
  rw [nodes_eq, Slots.visitAll_data, Slots.visitAll, Slots.visitAll_data]
  refine Slots.adds_loadAll ?_
  rw [names_piped]
  simpa [Expr.names] using isName_of_variable hx

-- The nodes of a tag put out a value, escaped, between what stands around it.
theorem executes_nodes {v : Value} {d : Datum} (hread : Gives (readName scope x) g s v s)
    (h : s.reify v = d) (hd : d.isWhole = true) (hsafe : ∀ t, d ≠ .scalar (.safe t)) (home level : Nat) :
    Executes home level (execAll scope (tag.nodes x)) g s
      (if d.writable then .ok (tag.opening ++ (escape (tag.text d) ++ tag.closing))
      else .error .wrongValue) := by
  have houtput : Executes home level (exec scope (.output (pipedExpr (.name x) tag.filters))) g s
      (if d.writable then .ok (escape (tag.text d)) else .error .wrongValue) := by
    rw [exec_piped]
    exact (hread.bind_writes (tag.writes_pipe h hd hsafe)).executes home level
  have hclosing : ∀ s', Executes home level (execAll scope (dataNodes tag.closing ++ [])) g s'
      (.ok tag.closing) := by
    intro s'
    have hnone : Executes home level (execAll scope []) g s' (.ok []) :=
      (gives_pure []).meets ⟨rfl, .refl _ _ s'⟩
    simpa [ok_bind] using executes_data tag.closing hnone
  have hall := executes_data tag.opening (executes_cons houtput fun s' _ => hclosing s')
  rw [nodes_eq]
  by_cases hw : d.writable = true
  · rw [if_pos hw] at hall ⊢
    exact hall
  · rw [if_neg hw] at hall ⊢
    exact hall

-- A run of the nodes of a tag puts out the value that its variable stands for.
theorem run_nodes (hx : isVariable x = true) {env : Environment} {values : List (Text × Value)}
    (hkept : Named s.Keeps env values) {d : Datum} (hget : env.get? x = some d) (hd : d.isWhole = true)
    (hsafe : ∀ t, d ≠ .scalar (.safe t)) : ∃ n, ((Template.mk (tag.nodes x)).run values s).1 =
      if d.writable then .ok (tag.opening ++ (escape (tag.text (d.numbered n).1) ++ tag.closing))
      else .error .wrongValue := by
  obtain ⟨v, hv, -, n, hsettles⟩ := hkept.known_some maxCallDepth hget
  refine ⟨n, run_of_looks (tag.readsFirst_self hx) (tag.adds_nodes hx)
    (hkept.contextOf_ne_ended (fun _ _ h => h.loaded) maxCallDepth) fun frame s' hgrows hlooks => ?_⟩
  have hread := hlooks.gives_readName (isName_of_variable hx) List.not_mem_nil
  rw [contextOf_of_variable hx, hv, Option.getD_some] at hread
  have halike := d.alike_numbered n
  rw [← halike.writable]
  exact tag.executes_nodes hread ((hsettles hd).reify hgrows) (halike.whole.trans hd)
    (Datum.numbered_ne_safe hsafe n) s.cells.size 1

theorem host_ne_nil (x : Text) : tag.host x ≠ [] := by
  simp [host, outputOf, Host.output]

end Showing

section Rendered

variable {c : Compiler} {r : Renderer} {x : Text} {env : Environment} {d : Datum}

-- A tag that shows a variable, compiled and rendered, puts out text that has no markup in it and stands
-- for what is shown, however the value is built. It fails only where a number in it is too long to be
-- written. What is sorted to be shown may hang on which `nan` is which, and each is one of its own.
theorem Compiler.rendered_showing (hc : c.extensions = []) (fs : FileSystem) (hr : r.Faithful)
    (tag : Showing) (hx : isVariable x = true) (hdistinct : (env.map (·.1)).Nodup)
    (hget : env.get? x = some d) (hd : d.isWhole = true) (hsafe : ∀ t, d ≠ .scalar (.safe t)) (s : Store) :
    ∃ n u, c.rendered fs r (tag.source x) env.entries s =
        (if d.writable then .ok (tag.opening ++ u ++ tag.closing) else .error (.run .wrongValue)) ∧
      unescape u = tag.text (d.numbered n).1 ∧
      (tag ≠ .print ∨ d.hasNoNan = true → unescape u = tag.text d) ∧ Inert u := by
  obtain ⟨values, hvalues, -, hkept⟩ := stored_keeps env s
  obtain ⟨n, hrun⟩ := tag.run_nodes hx hkept hget hd hsafe
  have hrendered := Compiler.rendered_eq (tag.compile_source hc fs hx) (tag.host_ne_nil x) hdistinct hr
    values hvalues hkept.names
  rw [tag.ofText_host hx] at hrendered
  refine ⟨n, escape (tag.text (d.numbered n).1), ?_, unescape_escape _, fun h => ?_, inert_escape _⟩
  · rw [hrendered, List.append_assoc]
    change Except.mapError EngineError.run ((Template.mk (tag.nodes x)).run values _).1 = _
    rw [hrun]
    split <;> rfl
  · rw [unescape_escape, Showing.text_numbered h]

-- A mapping with markup, entities and quotes in its keys and in what stands under them.
theorem Compiler.rendered_showing_nested :
    ∃ u, Compiler.rendered ⟨default, defaultMaxDepth, [], defaultRoom⟩ (.ofFiles fun _ => none)
        (.empty (some Renderer.defaultLimit)) "\x7bprint $x\x7d".toList
        [(.str "x".toList, .dict [(.tuple [.int 1, .str "<b>".toList], .list [.str "&lt;".toList, .null]),
          (.str "\"'".toList, .str "a & b".toList)])] .empty =
        .ok ("<pre>".toList ++ u ++ "</pre>".toList) ∧
      unescape u = "\x7b'\"\\'': 'a & b', (1, '<b>'): ['&lt;', None]\x7d".toList ∧ Inert u := by
  let d : Datum := .dict [(.tuple [.int 1, .str "<b>".toList], .list [.str "&lt;".toList, .null]),
    (.str "\"'".toList, .str "a & b".toList)]
  let env : Environment := [("x".toList, d)]
  have hdistinct : (env.map (·.1)).Nodup := by decide
  have hsafe : ∀ t, d ≠ .scalar (.safe t) := by simp [d]
  obtain ⟨n, u, hrendered, -, htext, hinert⟩ := rendered_showing
    (c := ⟨default, defaultMaxDepth, [], defaultRoom⟩) (x := "x".toList) rfl (.ofFiles fun _ => none)
    (Renderer.faithful_empty (some Renderer.defaultLimit)) .print (by decide) hdistinct rfl rfl hsafe .empty
  have hwritable : d.writable = true := by decide +kernel
  have hpretty : d.pretty = "\x7b'\"\\'': 'a & b', (1, '<b>'): ['&lt;', None]\x7d".toList := by
    decide +kernel
  rw [if_pos hwritable] at hrendered
  exact ⟨u, hrendered, (htext (.inr rfl)).trans hpretty, hinert⟩

end Rendered

end BraceTemplate

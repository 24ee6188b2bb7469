import BraceTemplate.Proofs.Dotted.Reach

namespace BraceTemplate

open Host Run

namespace Datum

-- What is put out for a value: a text that is markup already as it is, and anything else escaped.
def escaped : Datum → Text
  | .scalar (.safe t) => t
  | d => escape d.printed

theorem escaped_of_ne_safe {d : Datum} (h : ∀ t, d ≠ .scalar (.safe t)) : d.escaped = escape d.printed := by
  unfold escaped
  split
  · next t => exact absurd rfl (h t)
  · rfl

-- A value that is the only item of a list, which is the only item of another one, and so on.
def within (d : Datum) : Nat → Datum
  | 0 => d
  | n + 1 => .list [d.within n]

theorem follow_within (d : Datum) (n : Nat) : (d.within n).follow (List.replicate n "0".toList) = some d := by
  induction n with
  | zero => rfl
  | succ n ih =>
      have hfirst : (d.within (n + 1)).part? (.ofSegment "0".toList) = some (d.within n) := rfl
      rw [List.replicate_succ, follow, List.foldlM_cons, hfirst]
      exact ih

end Datum

section Output

variable {s : Store} {d : Datum} {v : Value}

theorem Host.Store.Keeps.writes_output (h : s.Keeps d v) (hd : d.isWhole = true) (g : Setting) :
    Writes (pipe v ["e"] >>= Run.text) g s d d.escaped := by
  obtain ⟨⟨before, hv⟩, n, hsettles⟩ := h
  by_cases hsafe : ∃ t, d = .scalar (.safe t)
  · obtain ⟨t, rfl⟩ := hsafe
    obtain rfl : v = .scalar (.safe t) := hv
    rw [pipe_escape]
    exact (gives_pure t).meets ⟨rfl, rfl⟩
  · have hne := not_exists.mp hsafe
    have halike := d.alike_numbered n
    have hwrites := Showing.plain.writes_pipe (g := g) ((hsettles hd).reify (.refl s))
      (halike.whole.trans hd) (Datum.numbered_ne_safe hne n)
    have htext : Showing.plain.text (d.numbered n).1 = d.printed := halike.printed
    rw [htext, Writes, halike.writable] at hwrites
    rw [Datum.escaped_of_ne_safe hne]
    exact hwrites

end Output

namespace Dotted

variable {p : Dotted}

theorem host_ne_nil (p : Dotted) : p.host ≠ [] := by
  simp [host, Host.output]

theorem names_expr (p : Dotted) : p.expr.names = [p.head] := by
  rw [expr, names_piped, Key.names_subscribed]
  rfl

theorem Sound.readsFirst_self (hp : p.Sound) : readsFirst Template.selfName [.output p.expr] = false := by
  refine readsFirst_eq_false fun u hu he => ?_
  have hhead : u = (p.head, .load) := by
    simpa [usesOfNodes, Node.uses, loads, names_expr, usesOf] using hu
  rw [hhead] at he
  exact ne_of_readable hp.head (by decide) he

-- A run of what a path is read as puts out the value that it leads to.
theorem Sound.run_expr (hp : p.Sound) {s : Store} {env : Environment} {values : List (Text × Value)}
    (hkept : Named s.Loaded env values) {d v : Datum} (hget : env.get? p.head = some d)
    (hfollow : d.follow p.segments = some v) (hv : v.isWhole = true) :
    ((Template.mk [.output p.expr]).run values s).1 =
      if v.writable then .ok v.escaped else .error .wrongValue := by
  have hname := isName_of_readable hp.head
  have hadds : Slots.Adds isName (Scope.has []) (Slots.declared .bound [])
      ((Slots.declared .bound []).visitAll (Scope.has []) false [.output p.expr]) := by
    refine Slots.adds_loadAll ?_
    rw [names_expr]
    simpa using hname
  obtain ⟨x, hx, hloaded⟩ := hkept.known_some maxCallDepth hget
  refine run_of_looks hp.readsFirst_self hadds
    (hkept.contextOf_ne_ended (fun _ _ h => h.keeps.loaded) maxCallDepth) fun frame s' hgrows hlooks => ?_
  have hread := hlooks.gives_readName hname List.not_mem_nil
  rw [contextOf, hx, Option.some_or, Option.getD_some] at hread
  have hkeys : p.keys.foldlM Datum.part? d = some v := Datum.foldlM_keys.trans hfollow
  have heval : Gives (Run.eval [frame] (.name p.head)) (.ofDepth values maxCallDepth) s' x s' := hread
  obtain ⟨w, hw, hreached⟩ := gives_subscribed heval (hgrows.loaded hloaded) hkeys
  refine executes_one ?_
  rw [expr, exec_piped]
  exact (hw.bind_writes (hreached.keeps.writes_output hv _)).executes _ _

end Dotted

section Rendered

variable {c : Compiler} {r : Renderer} {p : Dotted} {env : Environment} {d v : Datum}

-- A path, compiled and rendered, is a run of the expression that it is read as, unless it is too long.
theorem Compiler.rendered_path (hc : c.extensions = []) (fs : FileSystem) (hr : r.Faithful) (hp : p.Sound)
    (hdistinct : (env.map (·.1)).Nodup) (s : Store) :
    ∃ values, Named (Engine.stored s env.entries).2.Loaded env values ∧
      c.rendered fs r p.source env.entries s = Except.mapError EngineError.run
        (if maxReadyDepth < p.segments.length + 2 then .error .tooDeep
        else if maxBrackets < p.segments.length + 3 then .error .misfit
        else ((Template.mk [.output p.expr]).run values (Engine.stored s env.entries).2).1) := by
  obtain ⟨values, hvalues, -, hkept⟩ := @stored_of_load env Store.Loaded
    (fun entry _ s => ⟨(Store.puts_load entry.2 s).grows, Store.loaded_load entry.2 s⟩)
    (fun hs h => hs.loaded h) s
  refine ⟨values, hkept, ?_⟩
  rw [Compiler.rendered_eq (p.compile_source hc fs hp) p.host_ne_nil hdistinct hr values hvalues hkept.names,
    hp.ofText_host]
  split_ifs <;> rfl

-- A path leads to the value that its segments lead to in the data, and this is put out, whatever
-- characters there are in the path. It fails where a number in the value is too long to be written.
theorem Compiler.rendered_dotted (hc : c.extensions = []) (fs : FileSystem) (hr : r.Faithful)
    (hp : p.Sound) (hlength : p.segments.length + 3 ≤ maxBrackets) (hdistinct : (env.map (·.1)).Nodup)
    (hget : env.get? p.head = some d) (hfollow : d.follow p.segments = some v) (hv : v.isWhole = true)
    (s : Store) : c.rendered fs r p.source env.entries s =
      if v.writable then .ok v.escaped else .error (.run .wrongValue) := by
  obtain ⟨values, hkept, hrendered⟩ := Compiler.rendered_path hc fs hr hp hdistinct s
  have hready : ¬ maxReadyDepth < p.segments.length + 2 := by
    have hlimits : maxBrackets ≤ maxReadyDepth := by decide
    omega
  rw [hrendered, if_neg hready, if_neg (Nat.not_lt.mpr hlength), hp.run_expr hkept hget hfollow hv]
  split <;> rfl

-- A position in a list, and a key in which a backslash, a bar, a dollar sign and a letter beyond ASCII
-- stand.
theorem Compiler.rendered_dotted_marks :
    Compiler.rendered ⟨default, defaultMaxDepth, [], defaultRoom⟩ (.ofFiles fun _ => none)
        (.empty (some Renderer.defaultLimit)) "\x7b$a.01.\\|$\u00e9\x7d".toList
        [(.str "a".toList, .list [.null, .dict [(.str "\\|$\u00e9".toList, .str "<b>".toList)]])] .empty =
      .ok "&lt;b&gt;".toList := by
  let key : Text := "\\|$\u00e9".toList
  let position : Text := "01".toList
  let p : Dotted := ⟨"a".toList, [position, key]⟩
  let d : Datum := .list [.null, .dict [(.str key, .str "<b>".toList)]]
  let env : Environment := [("a".toList, d)]
  have hp : p.Sound := ⟨by decide, List.cons_ne_nil _ _, by decide +kernel⟩
  have hlength : p.segments.length + 3 ≤ maxBrackets := by decide
  have hdistinct : (env.map (·.1)).Nodup := by decide
  have hfollow : d.follow p.segments = some (.str "<b>".toList) := by
    have hsame : (Datum.str key).same (.str key) = true := by decide +kernel
    have hindex : Key.ofSegment position = .index 1 := rfl
    have hname : Key.ofSegment key = .name key := rfl
    simp [Datum.follow, d, p, hindex, hname, Datum.part?, Datum.lookup?, hsame]
  have hrendered := Compiler.rendered_dotted (c := ⟨default, defaultMaxDepth, [], defaultRoom⟩) rfl
    (.ofFiles fun _ => none) (Renderer.faithful_empty (some Renderer.defaultLimit)) hp hlength hdistinct
    rfl hfollow rfl .empty
  exact hrendered

-- A path of more keys than the host can nest is refused, wherever it leads.
theorem Compiler.refuses_path (hc : c.extensions = []) (fs : FileSystem) (hr : r.Faithful) (hp : p.Sound)
    (hlength : maxBrackets < p.segments.length + 3) (hdistinct : (env.map (·.1)).Nodup) (s : Store) :
    ∃ e, c.rendered fs r p.source env.entries s = .error (.run e) := by
  obtain ⟨values, -, hrendered⟩ := Compiler.rendered_path hc fs hr hp hdistinct s
  rw [hrendered, if_pos hlength]
  split
  · exact ⟨.tooDeep, rfl⟩
  · exact ⟨.misfit, rfl⟩

-- A path of 197 positions down through lists of one item leads to a number that is not put out.
theorem Compiler.rendered_dotted_departs :
    let p : Dotted := ⟨"a".toList, List.replicate 197 "0".toList⟩
    let d : Datum := (Datum.int 7).within 197
    p.Sound ∧ d.follow p.segments = some (.int 7) ∧ (Datum.int 7).escaped = "7".toList ∧
      ∃ e, Compiler.rendered ⟨default, defaultMaxDepth, [], defaultRoom⟩ (.ofFiles fun _ => none)
        (.empty (some Renderer.defaultLimit)) p.source [(.str "a".toList, d)] .empty = .error (.run e) := by
  intro p d
  have hsegment : isSegment "0".toList = true := by decide
  have hp : p.Sound := by
    refine ⟨by decide, by simp [p], fun segment hm => ?_⟩
    rw [List.eq_of_mem_replicate hm]
    exact hsegment
  have hlength : maxBrackets < p.segments.length + 3 := by
    rw [List.length_replicate]
    decide
  let env : Environment := [("a".toList, d)]
  have hdistinct : (env.map (·.1)).Nodup := by decide
  have hrefused : ∃ e, Compiler.rendered ⟨default, defaultMaxDepth, [], defaultRoom⟩ (.ofFiles fun _ => none)
      (.empty (some Renderer.defaultLimit)) p.source env.entries .empty = .error (.run e) :=
    Compiler.refuses_path rfl _ (Renderer.faithful_empty (some Renderer.defaultLimit)) hp hlength hdistinct
      .empty
  exact ⟨hp, Datum.follow_within _ _, rfl, hrefused⟩

end Rendered

end BraceTemplate

import BraceTemplate.Engine.Basic
import BraceTemplate.Proofs.Engine.Fetch

namespace BraceTemplate

namespace Engine

-- A template that an engine is asked for: a file by its reference, or a text.
inductive Asked where
  | file (reference : Text)
  | text (source : Text)
  deriving DecidableEq

-- What an engine can be asked to do while files and settings stay as they are.
inductive Call where
  | assign (entries : List (Datum × Datum))
  | setDebug (debug : Bool)
  | resolve (reference : Text)
  | compile (asked : Asked)
  | render (asked : Asked) (data : List (Datum × Datum)) (key : Text)

inductive Answer where
  | done
  | resolved (outcome : Except DiskError (Option Path))
  | compiled (outcome : Except CompileError Text)
  | rendered (rendering : Rendering)

-- The name that a template has by itself.
def Asked.identity : Asked → Text
  | .file reference => reference
  | .text source => Md5.ofText source

def make (e : Engine) (fs : FileSystem) : Asked → Except CompileError Text
  | .file reference => e.compileFile fs reference
  | .text source => e.compileText fs source

def answer (fs : FileSystem) (e : Engine) : Call → Answer × Engine
  | .assign entries => (.done, e.assign entries)
  | .setDebug debug => (.done, e.setDebug debug)
  | .resolve reference => (.resolved (e.resolve fs reference), e)
  | .compile asked => (.compiled (e.make fs asked), e)
  | .render (.file reference) data key =>
    let (rendering, e) := e.renderFile fs reference data key
    (.rendered rendering, e)
  | .render (.text source) data key =>
    let (rendering, e) := e.renderText fs source data key
    (.rendered rendering, e)

-- The answers to calls one after the other, and the engine behind them.
def answers (fs : FileSystem) (e : Engine) : List Call → List Answer × Engine
  | [] => ([], e)
  | call :: rest =>
    let (first, e) := e.answer fs call
    let (others, e) := answers fs e rest
    (first :: others, e)

-- The cache key that a call uses, and the template that it stands for there.
def Call.keyed? : Call → Option (Text × Asked)
  | .render asked _ key => some (Cache.keyOf (identityOr key asked.identity), asked)
  | _ => none

-- Calls that use a key for one template only.
def Coherent (calls : List Call) : Prop :=
  ∀ a ∈ calls.filterMap Call.keyed?, ∀ b ∈ calls.filterMap Call.keyed?, a.1 = b.1 → a.2 = b.2

instance (calls : List Call) : Decidable (Coherent calls) := by
  unfold Coherent
  infer_instance

theorem answer_render (fs : FileSystem) (e : Engine) (asked : Asked) (data : List (Datum × Datum))
    (key : Text) :
    e.answer fs (.render asked data key) =
      let (rendering, e') := e.render (identityOr key asked.identity) (fun _ => e.make fs asked) data
      (.rendered rendering, e') := by
  cases asked <;> rfl

-- What comes of rendering what a template is compiled into; the shelf plays no part in it.
def shown (e : Engine) (data : List (Datum × Datum)) : Except CompileError Text → Rendering × Engine
  | .error cause => (⟨.error (.compile cause), []⟩, e)
  | .ok text =>
    let (values, store) := stored e.store data
    let (outcome, renderer, store) := e.renderer.render (.str text) (e.bindings.merged values) store
    (⟨outcome.mapError EngineError.run, []⟩, { e with renderer, store })

theorem shown_shelf (e : Engine) (shelf : Shelf) (data : List (Datum × Datum))
    (outcome : Except CompileError Text) :
    { e with shelf }.shown data outcome =
      ((e.shown data outcome).1, { (e.shown data outcome).2 with shelf }) := by
  cases outcome <;> rfl

theorem shelf_shown (e : Engine) (data : List (Datum × Datum)) (outcome : Except CompileError Text) :
    (e.shown data outcome).2.shelf = e.shelf ∧ (e.shown data outcome).2.compiler = e.compiler := by
  cases outcome <;> exact ⟨rfl, rfl⟩

-- A rendering shows what the shelf fetches.
theorem render_eq_shown {e : Engine} {identity : Text} {make : Unit → Except CompileError Text}
    {outcome : Except CompileError Text}
    (h : Shelf.Fetches (e.shelf.fetch identity make).1 outcome) (data : List (Datum × Datum)) :
    e.render identity make data =
      { e with shelf := (e.shelf.fetch identity make).2 }.shown data outcome := by
  obtain ⟨hsource, hwarnings⟩ := h
  unfold render
  rcases hfetch : e.shelf.fetch identity make with ⟨⟨fetched, n, warnings⟩, shelf⟩
  rw [hfetch] at hsource hwarnings
  change warnings = [] at hwarnings
  subst hwarnings
  cases outcome with
  | error cause =>
      cases fetched with
      | error cause' =>
          obtain rfl : cause' = cause := by simpa [Except.map] using hsource
          rfl
      | ok artifact => simp [Except.map] at hsource
  | ok text =>
      cases fetched with
      | error cause' => simp [Except.map] at hsource
      | ok artifact =>
          have hartifact : artifact.source = .str text := by simpa [Except.map] using hsource
          simp only [hartifact]
          rfl

-- An engine with a cache that holds, under the keys of templates, what they are compiled into.
structure Cached (fs : FileSystem) (keyed : List (Text × Asked)) (e : Engine) : Prop where
  cache : ∃ c, e.shelf.cache = some c ∧ c.Willing ∧
    c.Keeps fun key text => ∃ asked, (key, asked) ∈ keyed ∧ e.make fs asked = .ok text

theorem cached_setCache_empty (fs : FileSystem) (keyed : List (Text × Asked)) (e : Engine) :
    (e.setCache (some .empty)).Cached fs keyed :=
  ⟨.empty, rfl, Cache.willing_empty, Cache.keeps_empty _⟩

section Step

variable {fs : FileSystem} {keyed : List (Text × Asked)} {e : Engine}

theorem make_congr (fs : FileSystem) {e e' : Engine} (h : e'.compiler = e.compiler) : e'.make fs = e.make fs := by
  funext asked
  cases asked <;> simp only [make, compileFile, compileText, h]

-- Whether an engine is cached hangs on its cache and its compiler alone.
theorem Cached.congr {e' : Engine} (h : e.Cached fs keyed) (hcache : e'.shelf.cache = e.shelf.cache)
    (hcompiler : e'.compiler = e.compiler) : e'.Cached fs keyed := by
  obtain ⟨c, hc, hwilling, hkeeps⟩ := h.cache
  exact ⟨c, hcache.trans hc, hwilling, make_congr fs hcompiler ▸ hkeeps⟩

-- Fetching a template from the shelf is as good as making it.
theorem Cached.fetches (h : e.Cached fs keyed)
    (hone : ∀ a ∈ keyed, ∀ b ∈ keyed, a.1 = b.1 → a.2 = b.2) {asked : Asked} {identity : Text}
    (hkeyed : (Cache.keyOf identity, asked) ∈ keyed) :
    Shelf.Fetches (e.shelf.fetch identity fun _ => e.make fs asked).1 (e.make fs asked) ∧
      ({ e with shelf := (e.shelf.fetch identity fun _ => e.make fs asked).2 } : Engine).Cached fs keyed := by
  obtain ⟨c, hcache, hc, hkeeps⟩ := h.cache
  have hmade : ∀ text, (∃ a, (Cache.keyOf identity, a) ∈ keyed ∧ e.make fs a = .ok text) ↔
      e.make fs asked = .ok text := by
    refine fun text => ⟨?_, fun htext => ⟨asked, hkeyed, htext⟩⟩
    rintro ⟨a, ha, htext⟩
    obtain rfl : a = asked := hone _ ha _ hkeyed rfl
    exact htext
  obtain ⟨hfetch, c', hshelf, hc', hkeeps'⟩ :=
    Shelf.fetches_of_keeps (fun _ => e.make fs asked) hcache hc hkeeps hmade
  exact ⟨hfetch, c', congrArg Shelf.cache hshelf, hc', make_congr fs (e := e) rfl ▸ hkeeps'⟩

-- A call is answered as the engine answers it without its cache for a template that makes what is fetched.
theorem answer_of_fetches (asked asked' : Asked) (key : Text) (data : List (Datum × Datum))
    (hfetch : Shelf.Fetches
      (e.shelf.fetch (identityOr key asked.identity) fun _ => e.make fs asked).1 (e.make fs asked'))
    (key' : Text) :
    (e.setCache none).answer fs (.render asked' data key') =
      ((e.answer fs (.render asked data key)).1,
        (e.answer fs (.render asked data key)).2.setCache none) := by
  have hnone : (e.setCache none).shelf.active = none := by
    unfold setCache Shelf.active
    split <;> rfl
  have hmake : (e.setCache none).make fs asked' = e.make fs asked' := congrFun (make_congr fs rfl) asked'
  obtain ⟨hfetch', hshelf'⟩ := Shelf.fetches_of_inactive hnone (identityOr key' asked'.identity)
    fun _ => e.make fs asked'
  rw [answer_render, answer_render, hmake, render_eq_shown hfetch, render_eq_shown hfetch', hshelf',
    shown_shelf e, shown_shelf (e.setCache none), setCache, shown_shelf e]
  simp only [setCache, Shelf.debug_fetch]

theorem answer_fetched (asked : Asked) {asked' : Asked} (key : Text) (data : List (Datum × Datum))
    (hfetch : Shelf.Fetches
      (e.shelf.fetch (identityOr key asked.identity) fun _ => e.make fs asked).1 (e.make fs asked')) :
    (e.answer fs (.render asked data key)).2.shelf =
        (e.shelf.fetch (identityOr key asked.identity) fun _ => e.make fs asked).2 ∧
      (e.answer fs (.render asked data key)).2.compiler = e.compiler := by
  rw [answer_render, render_eq_shown hfetch]
  exact shelf_shown _ data _

-- What one call does to an engine and to the same engine without its cache.
theorem Cached.answer (h : e.Cached fs keyed)
    (hone : ∀ a ∈ keyed, ∀ b ∈ keyed, a.1 = b.1 → a.2 = b.2) {call : Call}
    (hcall : ∀ k, call.keyed? = some k → k ∈ keyed) :
    (e.setCache none).answer fs call = ((e.answer fs call).1, (e.answer fs call).2.setCache none) ∧
      (e.answer fs call).2.Cached fs keyed := by
  cases call with
  | assign entries => exact ⟨rfl, h.congr rfl rfl⟩
  | setDebug debug => exact ⟨rfl, h.congr rfl rfl⟩
  | resolve reference => exact ⟨rfl, h⟩
  | compile asked =>
      refine ⟨?_, h⟩
      cases asked <;> rfl
  | render asked data key =>
      obtain ⟨hfetch, hcached⟩ := h.fetches hone (hcall _ rfl)
      obtain ⟨hshelf, hcompiler⟩ := answer_fetched asked key data hfetch
      refine ⟨answer_of_fetches asked asked key data hfetch key, hcached.congr ?_ hcompiler⟩
      rw [hshelf]

theorem Cached.answers (h : e.Cached fs keyed)
    (hone : ∀ a ∈ keyed, ∀ b ∈ keyed, a.1 = b.1 → a.2 = b.2) {calls : List Call}
    (hcalls : ∀ k ∈ calls.filterMap Call.keyed?, k ∈ keyed) :
    (e.setCache none).answers fs calls =
        ((e.answers fs calls).1, (e.answers fs calls).2.setCache none) ∧
      (e.answers fs calls).2.Cached fs keyed := by
  induction calls generalizing e with
  | nil => exact ⟨rfl, h⟩
  | cons call rest ih =>
      have hcall : ∀ k, call.keyed? = some k → k ∈ keyed := fun k hk =>
        hcalls k (List.mem_filterMap.mpr ⟨call, List.mem_cons_self, hk⟩)
      obtain ⟨hfirst, hcached⟩ := h.answer hone hcall
      obtain ⟨hrest, hcached'⟩ := ih hcached fun k hk => by
        obtain ⟨call', hmem, hk⟩ := List.mem_filterMap.mp hk
        exact hcalls k (List.mem_filterMap.mpr ⟨call', List.mem_cons_of_mem _ hmem, hk⟩)
      refine ⟨?_, hcached'⟩
      simp only [Engine.answers, hfirst, hrest]

end Step

-- A cache that starts out empty does not show: as long as each key is used for one template only, every
-- call is answered as without it.
theorem answers_setCache_empty (e : Engine) (fs : FileSystem) {calls : List Call}
    (h : Coherent calls) :
    ((e.setCache (some .empty)).answers fs calls).1 = ((e.setCache none).answers fs calls).1 := by
  have hcached := cached_setCache_empty fs (calls.filterMap Call.keyed?) e
  obtain ⟨hanswers, -⟩ := hcached.answers h fun _ hk => hk
  exact (congrArg Prod.fst hanswers).symm

-- A file that is asked for three times, and a text, with other data and without the cache in between.
theorem answers_setCache_empty_page :
    let e := (ofSettings .default none).addPath "main".toList (.ofText "/t".toList) 0
    let fs := FileSystem.ofFiles (Files.empty.write (.ofText "/t/default/page.html".toList)
      (Utf8.encode "\x7b$a\x7d".toList)).read?
    let page := Call.render (.file "page@main".toList)
    let calls := [page [(.str "a".toList, .int 1)] [], .assign [(.str "a".toList, .str "<".toList)],
      page [] [], .setDebug true, .render (.text "\x7b$b\x7d".toList) [] [], page [] []]
    Coherent calls ∧
      ((e.setCache (some .empty)).answers fs calls).1 = ((e.setCache none).answers fs calls).1 := by
  intro e fs page calls
  have h : Coherent calls := by decide +kernel
  exact ⟨h, answers_setCache_empty e fs h⟩

end Engine

end BraceTemplate

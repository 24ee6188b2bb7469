import BraceTemplate.Proofs.Engine.First
import BraceTemplate.Proofs.Engine.Transparent

namespace BraceTemplate

namespace Shelf

variable {requests : List Request} {s : Shelf} {debug : Bool}

-- Requests that neither change the mode nor empty the cache.
def Plain (requests : List Request) : Prop :=
  ∀ request ∈ requests, ∃ identity make, request = .fetch identity make

theorem modeAfter_of_plain (h : Plain requests) (debug : Bool) : modeAfter debug requests = debug := by
  induction requests with
  | nil => rfl
  | cons request rest ih =>
      obtain ⟨⟨identity, make, rfl⟩, hrest⟩ := List.forall_mem_cons.mp h
      exact ih hrest

theorem firstMade_of_plain (h : Plain requests) (key : Text) :
    firstMade false requests key = requests.findSome? fun request => made? key (false, request) := by
  induction requests using List.reverseRecOn with
  | nil => rfl
  | append_singleton requests request ih =>
      have hinit : Plain requests := fun r hr => h r (List.mem_append_left _ hr)
      obtain ⟨identity, make, rfl⟩ := h request (List.mem_append_right _ List.mem_cons_self)
      rw [firstMade_append, ih hinit, modeAfter_of_plain hinit, List.findSome?_append]
      simp [Request.isClear]

-- What a filled cache gives for a name: what was made first for its key, or what is made now.
theorem Filled.fetches (h : Filled debug requests s) (identity : Text) (make : Unit → Except CompileError Text) :
    Fetches (s.fetch identity make).1
      (((if s.debug then none else firstMade debug requests (Cache.keyOf identity)).map .ok).getD (make ())) := by
  obtain ⟨-, c, hcache, hc, -, hfind⟩ := h
  obtain ⟨cache, mode⟩ := s
  obtain rfl : cache = some c := hcache
  cases mode with
  | true => exact (fetches_of_inactive rfl identity make).1
  | false =>
      have hfind := hfind (Cache.keyOf identity)
      cases hfirst : firstMade debug requests (Cache.keyOf identity) with
      | some text =>
          rw [hfirst] at hfind
          rw [fetch_of_found hc hfind]
          exact ⟨rfl, rfl⟩
      | none =>
          rw [hfirst] at hfind
          rw [fetch_of_not_found hc hfind]
          exact ⟨by cases make () <;> rfl, rfl⟩

end Shelf

namespace Engine

-- What is done with an engine whose files and registries stay as they are.
inductive Turn where
  | setTypes (types : List Text)
  | render (reference : Text) (data : List (Datum × Datum))

def turn (fs : FileSystem) (e : Engine) : Turn → Engine
  | .setTypes types => e.setTypes types
  | .render reference data => (e.renderFile fs reference data []).2

def turnAll (fs : FileSystem) (e : Engine) (turns : List Turn) : Engine :=
  turns.foldl (turn fs) e

-- The resolver with which a reference was first compiled when it was rendered.
def firstResolver? (fs : FileSystem) (e : Engine) (reference : Text) : List Turn → Option Resolver
  | [] => none
  | .setTypes types :: rest => firstResolver? fs (e.setTypes types) reference rest
  | .render other _ :: rest =>
    if other = reference ∧ (e.compileFile fs reference).isOk then some e.compiler.resolver
    else firstResolver? fs e reference rest

-- The resolver that a reference is rendered with after turns: the first one that it was compiled with, which
-- the cache keeps, or the one that the engine has by now.
def servingResolver (fs : FileSystem) (e : Engine) (turns : List Turn) (reference : Text) : Resolver :=
  ((if e.shelf.debug then none else firstResolver? fs e reference turns)).getD
    (e.turnAll fs turns).compiler.resolver

-- What turns ask of the shelf.
def requests (fs : FileSystem) (e : Engine) : List Turn → List Shelf.Request
  | [] => []
  | .setTypes types :: rest => requests fs (e.setTypes types) rest
  | .render reference _ :: rest =>
    .fetch reference (fun _ => e.compileFile fs reference) :: requests fs e rest

section Turns

variable {fs : FileSystem} {e e' : Engine} {turns : List Turn} {reference : Text}

theorem compiler_setTypes (h : e'.compiler = e.compiler) (types : List Text) :
    (e'.setTypes types).compiler = (e.setTypes types).compiler := by
  simp only [setTypes, withResolver, h]

theorem requests_congr (h : e'.compiler = e.compiler) : requests fs e' turns = requests fs e turns := by
  induction turns generalizing e e' with
  | nil => rfl
  | cons turn rest ih =>
      cases turn with
      | setTypes types => exact ih (compiler_setTypes h types)
      | render reference data =>
          have hmake : e'.compileFile fs reference = e.compileFile fs reference :=
            congrFun (make_congr fs h) (.file reference)
          simp only [requests, hmake, ih h]

theorem plain_requests (fs : FileSystem) (e : Engine) (turns : List Turn) : Shelf.Plain (requests fs e turns) := by
  induction turns generalizing e with
  | nil => exact fun _ h => absurd h List.not_mem_nil
  | cons turn rest ih =>
      cases turn with
      | setTypes types => exact ih _
      | render reference data => exact List.forall_mem_cons.mpr ⟨⟨_, _, rfl⟩, ih e⟩

theorem renderFile_leaves (fs : FileSystem) (e : Engine) (reference : Text) (data : List (Datum × Datum)) :
    (e.renderFile fs reference data []).2.shelf =
        e.shelf.settle (.fetch reference fun _ => e.compileFile fs reference) ∧
      (e.renderFile fs reference data []).2.compiler = e.compiler := by
  show (e.render reference (fun _ => e.compileFile fs reference) data).2.shelf = _ ∧
    (e.render reference (fun _ => e.compileFile fs reference) data).2.compiler = _
  unfold render
  dsimp only
  split <;> exact ⟨rfl, rfl⟩

-- Turns do with the shelf what they ask of it.
theorem shelf_turnAll (fs : FileSystem) (e : Engine) (turns : List Turn) :
    (e.turnAll fs turns).shelf = e.shelf.settleAll (requests fs e turns) := by
  induction turns generalizing e with
  | nil => rfl
  | cons turn rest ih =>
      cases turn with
      | setTypes types => exact ih (e.setTypes types)
      | render reference data =>
          obtain ⟨hshelf, hcompiler⟩ := renderFile_leaves fs e reference data
          have hrest := ih (e.renderFile fs reference data []).2
          rw [requests_congr hcompiler, hshelf] at hrest
          exact hrest

-- Turns change nothing about how templates are compiled but where files are looked for.
theorem compiler_turnAll (fs : FileSystem) (e : Engine) (turns : List Turn) :
    (e.turnAll fs turns).compiler = { e.compiler with resolver := (e.turnAll fs turns).compiler.resolver } := by
  induction turns generalizing e with
  | nil => rfl
  | cons turn rest ih =>
      cases turn with
      | setTypes types => exact ih (e.setTypes types)
      | render reference data =>
          have hrest := ih (e.renderFile fs reference data []).2
          rw [(renderFile_leaves fs e reference data).2] at hrest
          exact hrest

-- What is made first for the key of a reference is what its first resolver makes of it, where no other
-- reference has the key.
theorem findSome?_requests (hkeys : ∀ other data, .render other data ∈ turns →
      Cache.keyOf other = Cache.keyOf reference → other = reference) :
    ((requests fs e turns).findSome? fun request => Shelf.made? (Cache.keyOf reference) (false, request)) =
      (firstResolver? fs e reference turns).bind fun r => ((e.withResolver r).compileFile fs reference).toOption := by
  induction turns generalizing e with
  | nil => rfl
  | cons turn rest ih =>
      have hrest : ∀ other data, .render other data ∈ rest → _ :=
        fun other data hmem => hkeys other data (List.mem_cons_of_mem _ hmem)
      cases turn with
      | setTypes types => exact ih hrest
      | render other data =>
          rw [requests, List.findSome?_cons, firstResolver?]
          have hmade : Shelf.made? (Cache.keyOf reference)
              (false, .fetch other fun _ => e.compileFile fs other) =
                if other = reference then (e.compileFile fs reference).toOption else none := by
            by_cases hother : other = reference
            · rw [hother, if_pos rfl]
              exact if_pos rfl
            · rw [if_neg hother]
              exact if_neg fun hkey => hother (hkeys other data List.mem_cons_self hkey)
          rw [hmade]
          by_cases hother : other = reference
          · simp only [hother, true_and, if_true]
            cases hcompile : e.compileFile fs reference with
            | error cause => exact ih hrest
            | ok text => exact (congrArg Except.toOption hcompile).symm
          · simp only [hother, false_and, if_false]
            exact ih hrest

theorem isOk_of_firstResolver? {r : Resolver} (h : firstResolver? fs e reference turns = some r) :
    ∃ text, (e.withResolver r).compileFile fs reference = .ok text := by
  induction turns generalizing e with
  | nil => cases h
  | cons turn rest ih =>
      cases turn with
      | setTypes types => exact ih (e := e.setTypes types) h
      | render other data =>
          rw [firstResolver?] at h
          split at h
          · next hok =>
              obtain rfl := Option.some.inj h
              cases hcompile : e.compileFile fs reference with
              | error cause => simp [hcompile, Except.isOk, Except.toBool] at hok
              | ok text => exact ⟨text, hcompile⟩
          · exact ih h

-- What the cache has for a reference is what its serving resolver makes of it.
theorem served_eq (fs : FileSystem) (e : Engine)
    (hkeys : ∀ other data, .render other data ∈ turns → Cache.keyOf other = Cache.keyOf reference →
      other = reference) :
    ((if e.shelf.debug then none
      else Shelf.firstMade e.shelf.debug (requests fs e turns) (Cache.keyOf reference)).map .ok).getD
        ((e.turnAll fs turns).compileFile fs reference) =
      ((e.turnAll fs turns).withResolver (e.servingResolver fs turns reference)).compileFile fs reference := by
  have hcompile : ∀ r, ((e.turnAll fs turns).withResolver r).compileFile fs reference =
      (e.withResolver r).compileFile fs reference := by
    intro r
    refine congrFun (make_congr fs ?_) (.file reference)
    show { (e.turnAll fs turns).compiler with resolver := r } = _
    rw [compiler_turnAll]
    rfl
  rw [servingResolver]
  cases e.shelf.debug with
  | true => rfl
  | false =>
      simp only [Bool.false_eq_true, if_false]
      rw [Shelf.firstMade_of_plain (plain_requests fs e turns), findSome?_requests hkeys]
      cases hfirst : firstResolver? fs e reference turns with
      | none => rfl
      | some r =>
          obtain ⟨text, htext⟩ := isOk_of_firstResolver? hfirst
          rw [Option.getD_some, hcompile, Option.bind_some, htext]
          rfl

-- What comes of a rendering does not hang on how the template was found or kept.
theorem render_congr {identity identity' : Text} {make make' : Unit → Except CompileError Text}
    {outcome : Except CompileError Text} (h : Shelf.Fetches (e.shelf.fetch identity make).1 outcome)
    (h' : Shelf.Fetches (e'.shelf.fetch identity' make').1 outcome) (hrenderer : e.renderer = e'.renderer)
    (hbindings : e.bindings = e'.bindings) (hstore : e.store = e'.store) (data : List (Datum × Datum)) :
    (e.render identity make data).1 = (e'.render identity' make' data).1 ∧
      (e.render identity make data).2.store = (e'.render identity' make' data).2.store ∧
      (e.render identity make data).2.renderer = (e'.render identity' make' data).2.renderer := by
  rw [render_eq_shown h, render_eq_shown h']
  cases outcome with
  | error cause => exact ⟨rfl, hstore, hrenderer⟩
  | ok text => simp only [shown, hrenderer, hbindings, hstore, and_self]

end Turns

-- An engine with a cache that starts out empty keeps, with each reference, the directories of types that it was
-- first compiled with. At every moment it renders the reference as an engine without cache does that looks in
-- those directories; before that, and in debug mode, in the directories that were set last.
theorem renderFile_fallback (e : Engine) (fs : FileSystem) {turns : List Turn} {reference : Text}
    (hkeys : ∀ other data, .render other data ∈ turns → Cache.keyOf other = Cache.keyOf reference →
      other = reference) (data : List (Datum × Datum)) :
    let start := e.setCache (some .empty)
    let before := start.turnAll fs turns
    let bare := (before.setCache none).withResolver (start.servingResolver fs turns reference)
    (before.renderFile fs reference data []).1 = (bare.renderFile fs reference data []).1 ∧
      (before.renderFile fs reference data []).2.store = (bare.renderFile fs reference data []).2.store ∧
      (before.renderFile fs reference data []).2.renderer = (bare.renderFile fs reference data []).2.renderer := by
  intro start before bare
  have hfilled : Shelf.Filled start.shelf.debug (requests fs start turns) before.shelf := by
    rw [shelf_turnAll fs start turns]
    exact Shelf.filled_settleAll e.shelf.debug _
  have hdebug : before.shelf.debug = start.shelf.debug :=
    hfilled.mode.trans (Shelf.modeAfter_of_plain (plain_requests fs start turns) _)
  have hfetches := hfilled.fetches reference fun _ => before.compileFile fs reference
  rw [hdebug, served_eq fs start hkeys] at hfetches
  have hinactive : bare.shelf.active = none := by
    show (before.setCache none).shelf.active = none
    unfold setCache Shelf.active
    split <;> rfl
  obtain ⟨hfetches', -⟩ := Shelf.fetches_of_inactive hinactive reference fun _ => bare.compileFile fs reference
  exact render_congr hfetches hfetches' rfl rfl rfl data

-- A page for desks and one for phones.
def twoPages : FileSystem :=
  .ofFiles ((Files.empty.write (.ofText "/t/default/p.html".toList) (Utf8.encode "d".toList)).write
    (.ofText "/t/mobile/p.html".toList) (Utf8.encode "m".toList)).read?

def onePath : Engine :=
  (ofSettings .default none).addPath "main".toList (.ofText "/t".toList) 0

-- A page that is rendered before and after the types change comes from the first directory both times.
theorem renderFile_fallback_kept :
    let start := onePath.setCache (some .empty)
    let turns := [Turn.render "p@main".toList [], .setTypes ["mobile".toList]]
    let before := start.turnAll twoPages turns
    (∀ other data, .render other data ∈ turns → Cache.keyOf other = Cache.keyOf "p@main".toList →
      other = "p@main".toList) ∧
      (start.servingResolver twoPages turns "p@main".toList).types = [] ∧
      (before.renderFile twoPages "p@main".toList [] []).1 =
        (((before.setCache none).withResolver (start.servingResolver twoPages turns "p@main".toList)).renderFile
          twoPages "p@main".toList [] []).1 := by
  intro start turns before
  have hkeys : ∀ other data, .render other data ∈ turns → Cache.keyOf other = Cache.keyOf "p@main".toList →
      other = "p@main".toList := by
    intro other data hmem _
    rcases List.mem_cons.mp hmem with h | h
    · exact (Turn.render.inj h).1
    · simp at h
  exact ⟨hkeys, rfl, (renderFile_fallback onePath twoPages hkeys []).1⟩

-- It is not the page that the reference leads to by then, which is the one that is rendered without the cache.
theorem renderFile_fallback_departs :
    let before := (onePath.setCache (some .empty)).turnAll twoPages
      [.render "p@main".toList [], .setTypes ["mobile".toList]]
    before.resolve twoPages "p@main".toList = .ok (some (.ofText "/t/mobile/p.html".toList)) ∧
      (before.renderFile twoPages "p@main".toList [] []).1 = ⟨.ok "d".toList, []⟩ ∧
      ((before.setCache none).renderFile twoPages "p@main".toList [] []).1 = ⟨.ok "m".toList, []⟩ := by
  exact ⟨rfl, rfl, rfl⟩

end Engine

end BraceTemplate

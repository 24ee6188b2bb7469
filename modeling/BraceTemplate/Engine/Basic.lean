import BraceTemplate.Cache.Shelf
import BraceTemplate.Digest.Md5
import BraceTemplate.Render.Renderer
import BraceTemplate.Settings.Basic

namespace BraceTemplate

-- Why a template cannot be rendered.
inductive EngineError where
  | compile (cause : CompileError)
  | run (cause : Host.Error)
  deriving DecidableEq

-- Everything that templates are compiled and rendered with. Bound values live in the store, so that
-- what a template does to them is seen by the next one.
structure Engine where
  compiler : Compiler
  shelf : Shelf
  renderer : Renderer
  bindings : Bindings Host.Value
  store : Host.Store
  deriving Inhabited

-- What came of a rendering, and what was noted about a cache that refused.
structure Rendering where
  outcome : Except EngineError Text
  warnings : List Text

namespace Engine

def ofSettings (s : Settings) (cache : Option Cache) : Engine :=
  ⟨s.compiler, ⟨cache, s.debug⟩, .empty (some Renderer.defaultLimit), .empty, .empty⟩

def registry (e : Engine) : Registry :=
  e.compiler.resolver.registry

def withResolver (e : Engine) (r : Resolver) : Engine :=
  { e with compiler := { e.compiler with resolver := r } }

def withRegistry (e : Engine) (r : Registry) : Engine :=
  e.withResolver { e.compiler.resolver with registry := r }

def addPath (e : Engine) (name : Text) (root : Path) (priority : Int) : Engine :=
  e.withRegistry (e.registry.add name root priority)

def removePath (e : Engine) (name : Text) : Engine :=
  e.withRegistry (e.registry.remove name)

def setTypes (e : Engine) (types : List Text) : Engine :=
  e.withResolver (e.compiler.resolver.withTypes types)

def setDebug (e : Engine) (debug : Bool) : Engine :=
  { e with shelf := { e.shelf with debug } }

def setCache (e : Engine) (cache : Option Cache) : Engine :=
  { e with shelf := { e.shelf with cache } }

def extension (e : Engine) : Text :=
  e.compiler.resolver.extension

def extend (e : Engine) (x : Extension) : Engine :=
  { e with compiler := e.compiler.extend x }

-- Puts the values of a list of entries into a store.
def stored (s : Host.Store) : List (Datum × Datum) → List (Datum × Host.Value) × Host.Store
  | [] => ([], s)
  | (name, d) :: rest =>
    let (v, s) := s.load d
    let (others, s) := stored s rest
    ((name, v) :: others, s)

-- Binds values for every following rendering.
def assign (e : Engine) (entries : List (Datum × Datum)) : Engine :=
  let (values, store) := stored e.store entries
  { e with bindings := e.bindings.merged values, store }

def resolve (e : Engine) (fs : FileSystem) (reference : Text) : Except DiskError (Option Path) :=
  e.compiler.resolver.resolve fs reference

def compileText (e : Engine) (fs : FileSystem) (source : Text) : Except CompileError Text :=
  e.compiler.compile fs source

-- The compiled text of a file, made anew.
def compileFile (e : Engine) (fs : FileSystem) (reference : Text) : Except CompileError Text := do
  let source ← (e.compiler.resolver.read fs reference).mapError CompileError.unreadable
  e.compiler.compile fs source

-- Renders what the shelf has for a name, with bindings for this rendering alone.
def render (e : Engine) (identity : Text) (make : Unit → Except CompileError Text)
    (data : List (Datum × Datum)) : Rendering × Engine :=
  let (fetched, shelf) := e.shelf.fetch identity make
  let e := { e with shelf }
  match fetched.outcome with
  | .error cause => (⟨.error (.compile cause), fetched.warnings⟩, e)
  | .ok artifact =>
    let (values, store) := stored e.store data
    let (outcome, renderer, store) :=
      e.renderer.render artifact.source (e.bindings.merged values) store
    (⟨outcome.mapError EngineError.run, fetched.warnings⟩, { e with renderer, store })

-- A name given by the caller, or the one that the template has by itself.
def identityOr (key own : Text) : Text :=
  if key.isEmpty then own else key

def renderFile (e : Engine) (fs : FileSystem) (reference : Text) (data : List (Datum × Datum))
    (key : Text) : Rendering × Engine :=
  e.render (identityOr key reference) (fun _ => e.compileFile fs reference) data

-- A text is known by its digest.
def renderText (e : Engine) (fs : FileSystem) (source : Text) (data : List (Datum × Datum))
    (key : Text) : Rendering × Engine :=
  e.render (identityOr key (Md5.ofText source)) (fun _ => e.compileText fs source) data

end Engine

end BraceTemplate

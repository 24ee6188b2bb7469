import BraceTemplate.Compile.Compiler

namespace BraceTemplate

-- A root directory as it is written in settings.
structure RootSetting where
  path : Text
  priority : Int
  deriving DecidableEq, Inhabited

-- What an engine is set up with.
structure Settings where
  extension : Text
  debug : Bool
  types : List Text
  maxDepth : Int
  registries : List (Text × List RootSetting)
  deriving DecidableEq, Inhabited

namespace Settings

def default : Settings := ⟨defaultExtension, false, [], defaultMaxDepth, []⟩

-- A root that is relative is taken inside a directory.
def RootSetting.inside (base : Path) (r : RootSetting) : RootSetting :=
  let path := Path.ofText r.path
  if path.isAbsolute then r else { r with path := (base / path).text }

-- Takes all relative roots inside a directory.
def inside (s : Settings) (base : Path) : Settings :=
  { s with registries := s.registries.map fun (name, roots) =>
      (name, roots.map (RootSetting.inside base)) }

-- The registry that holds the roots in the order in which they are written.
def registry (s : Settings) : Registry :=
  s.registries.foldl (fun r (name, roots) =>
    roots.foldl (fun r root => r.add name (Path.ofText root.path) root.priority) r) .empty

def resolver (s : Settings) : Resolver :=
  Resolver.make s.registry s.extension s.types

def compiler (s : Settings) : Compiler :=
  ⟨s.resolver, s.maxDepth, [], defaultRoom⟩

end Settings

end BraceTemplate

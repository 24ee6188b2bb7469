import BraceTemplate.Source.Files
import BraceTemplate.Source.Registry
import BraceTemplate.Text.Basic
import BraceTemplate.Text.Utf8

namespace BraceTemplate.Reference

-- The file and the registry of a reference `file@registry`. Either may be empty, and what follows
-- a second sign is ignored.
def parts (reference : Text) : Text × Text :=
  match reference.split '@' with
  | file :: registry :: _ => (file, registry)
  | file :: _ => (file, [])
  | [] => ([], [])

-- A part of a list without a sign takes the registry that the list shares.
def complete (shared part : Text) : Text :=
  if part.contains '@' || shared.isEmpty then part else part ++ '@' :: shared

-- The references of a list with commas; the parts share the registry of the last one.
def ofList (list : Text) : List Text :=
  let items := (list.split ',').map Text.trim
  let shared := (parts (items.getLastD [])).2
  items.map (complete shared)

end BraceTemplate.Reference

namespace BraceTemplate

-- Why a template cannot be read: nothing stands behind the reference, its bytes are no text, or
-- looking for it was refused.
inductive ReadError where
  | notFound (reference : Text)
  | notText (path : Path)
  | refused (cause : DiskError)
  deriving DecidableEq

-- The text of an error, for those that have one of their own.
def ReadError.message? : ReadError → Option Text
  | .notFound reference =>
    some ("template file \"".toList ++ reference ++ "\" is not found".toList)
  | .notText _ => none
  | .refused cause => some cause.message

-- The subdirectory that is tried after all others.
def defaultType : Text := "default".toList

def defaultExtension : Text := ".html".toList

-- Where the files behind references are looked for.
structure Resolver where
  registry : Registry
  types : List Text
  extension : Text
  deriving Inhabited

namespace Resolver

-- The default type is always tried last, so it is never kept among the others.
def withTypes (r : Resolver) (types : List Text) : Resolver :=
  { r with types := types.filter (· != defaultType) }

def make (registry : Registry) (extension : Text) (types : List Text) : Resolver :=
  withTypes ⟨registry, [], extension⟩ types

-- The paths to try, root by root and type by type within a root. A reference that lacks a file or
-- a registry has none.
def candidates (r : Resolver) (reference : Text) : List Path :=
  let (file, name) := Reference.parts reference
  if file.isEmpty || name.isEmpty then []
  else
    (r.registry.roots name).flatMap fun root =>
      (r.types ++ [defaultType]).map fun type => root.directory / type / (file ++ r.extension)

-- The paths tried, up to the first that exists or is refused, and what came of that.
def probe (fs : FileSystem) :
    List Path → List Path × Except DiskError (Option (Path × Bytes))
  | [] => ([], .ok none)
  | path :: rest =>
    match fs path with
    | .ok none =>
      let (tried, found) := probe fs rest
      (path :: tried, found)
    | .ok (some content) => ([path], .ok (some (path, content)))
    | .error e => ([path], .error e)

-- The file behind a reference.
def find (r : Resolver) (fs : FileSystem) (reference : Text) :
    Except DiskError (Option (Path × Bytes)) :=
  (probe fs (r.candidates reference)).2

def resolve (r : Resolver) (fs : FileSystem) (reference : Text) : Except DiskError (Option Path) :=
  (r.find fs reference).map (·.map (·.1))

-- The text of the file behind a reference.
def read (r : Resolver) (fs : FileSystem) (reference : Text) : Except ReadError Text :=
  match r.find fs reference with
  | .error e => .error (.refused e)
  | .ok none => .error (.notFound reference)
  | .ok (some (path, content)) =>
    match Utf8.decode? content with
    | some text => .ok text
    | none => .error (.notText path)

end Resolver

end BraceTemplate

import BraceTemplate.Text.Basic

namespace BraceTemplate

-- A path by its names. The root is empty for a relative path, else one slash or two.
structure Path where
  root : Text
  names : List Text
  deriving DecidableEq, Inhabited

namespace Path

-- Exactly two slashes at the front are a root of their own; more are one slash.
def splitRoot (s : Text) : Text × Text :=
  match s with
  | '/' :: '/' :: '/' :: _ => (['/'], s.dropWhile (· == '/'))
  | '/' :: '/' :: rest => (['/', '/'], rest)
  | '/' :: rest => (['/'], rest)
  | _ => ([], s)

-- Empty names and single dots are dropped; double dots stay.
def ofText (s : Text) : Path :=
  let (root, rest) := splitRoot s
  ⟨root, (rest.split '/').filter fun name => !name.isEmpty && name != ['.']⟩

-- The path with no names is written as a dot.
def text (p : Path) : Text :=
  match p.root ++ Text.join ['/'] p.names with
  | [] => ['.']
  | s => s

def isAbsolute (p : Path) : Bool :=
  !p.root.isEmpty

-- A path inside another one; an absolute path stays what it is.
def append (p q : Path) : Path :=
  if q.isAbsolute then q else ⟨p.root, p.names ++ q.names⟩

instance : HDiv Path Path Path := ⟨append⟩

instance : HDiv Path Text Path := ⟨fun p s => append p (ofText s)⟩

def parent (p : Path) : Path :=
  ⟨p.root, p.names.dropLast⟩

end Path

end BraceTemplate

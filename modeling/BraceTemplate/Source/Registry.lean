import BraceTemplate.Source.Path

namespace BraceTemplate

-- A root directory of a registry: its priority, and how many roots were added before it.
structure Root where
  directory : Path
  priority : Int
  order : Nat
  deriving DecidableEq, Inhabited

-- Named lists of roots, the registries in the order of their first addition. `added` counts the
-- additions to all registries.
structure Registry where
  lists : List (Text × List Root)
  added : Nat
  deriving Inhabited

namespace Registry

def empty : Registry := ⟨[], 0⟩

-- Places a root after all those of at least its priority.
def rank (root : Root) : List Root → List Root
  | [] => [root]
  | other :: rest =>
    if root.priority ≤ other.priority then other :: rank root rest else root :: other :: rest

-- Applies a change to the roots under a name, starting a list under a new name.
def update (name : Text) (change : List Root → List Root) :
    List (Text × List Root) → List (Text × List Root)
  | [] => [(name, change [])]
  | (other, roots) :: rest =>
    if other = name then (other, change roots) :: rest
    else (other, roots) :: update name change rest

def add (r : Registry) (name : Text) (directory : Path) (priority : Int) : Registry :=
  ⟨update name (rank ⟨directory, priority, r.added⟩) r.lists, r.added + 1⟩

-- Forgets a name; unknown names change nothing.
def remove (r : Registry) (name : Text) : Registry :=
  { r with lists := r.lists.filter (·.1 != name) }

-- The roots under a name, highest priority first.
def roots (r : Registry) (name : Text) : List Root :=
  ((r.lists.find? (·.1 == name)).map (·.2)).getD []

def names (r : Registry) : List Text :=
  r.lists.map (·.1)

def contains (r : Registry) (name : Text) : Bool :=
  r.lists.any (·.1 == name)

end Registry

end BraceTemplate

import BraceTemplate.Data.Datum

namespace BraceTemplate

-- Values under names, in the order in which the names were first bound. The last value bound to a
-- name wins.
structure Bindings (α : Type) where
  entries : List (Datum × α)
  deriving Inhabited

namespace Bindings

variable {α : Type}

def empty : Bindings α := ⟨[]⟩

def assign (b : Bindings α) (name : Datum) (value : α) : Bindings α :=
  ⟨Datum.insertEntry name value b.entries⟩

-- Binds the names of a list one after the other.
def merged (b : Bindings α) (entries : List (Datum × α)) : Bindings α :=
  entries.foldl (fun b (name, value) => b.assign name value) b

def ofList (entries : List (Datum × α)) : Bindings α :=
  empty.merged entries

def get? (b : Bindings α) (name : Datum) : Option α :=
  Datum.lookup? b.entries name

def contains (b : Bindings α) (name : Datum) : Bool :=
  (b.get? name).isSome

def size (b : Bindings α) : Nat :=
  b.entries.length

def names (b : Bindings α) : List Datum :=
  b.entries.map (·.1)

-- How bindings of plain values are shown.
def shown (b : Bindings Datum) : Text :=
  "DataContext(".toList ++ (Datum.dict b.entries).quoted ++ [')']

end Bindings

end BraceTemplate

import BraceTemplate.Data.Bindings
import BraceTemplate.Host.Template
import BraceTemplate.Text.Basic

namespace BraceTemplate

-- Values that were used of late, the latest first, under the texts they were made from. No more
-- than `limit` of them are kept.
structure Recent (α : Type) where
  limit : Option Nat
  entries : List (Text × α)
  deriving Inhabited

namespace Recent

variable {α : Type}

-- A negative limit keeps nothing, and no limit keeps everything.
def empty (limit : Option Int) : Recent α :=
  ⟨limit.map Int.toNat, []⟩

def find? (r : Recent α) (key : Text) : Option α :=
  (r.entries.find? (·.1 == key)).map (·.2)

-- Makes a value the latest, letting go of the earliest one when there are too many.
def touch (r : Recent α) (key : Text) (value : α) : Recent α :=
  let entries := (key, value) :: r.entries.filter (·.1 != key)
  { r with entries := match r.limit with | some n => entries.take n | none => entries }

end Recent

end BraceTemplate

namespace BraceTemplate

-- A host template that has been read. The number tells it from every other one.
structure Loaded where
  number : Nat
  template : Host.Template
  deriving Inhabited

-- Reads and runs host templates, and remembers those read of late.
structure Renderer where
  recent : Recent Loaded
  loads : Nat
  deriving Inhabited

namespace Renderer

def defaultLimit : Int := 256

def empty (limit : Option Int) : Renderer :=
  ⟨.empty limit, 0⟩

-- The template that a text holds. A text that cannot be read is not remembered.
def load (r : Renderer) (source : Text) : Except Host.Error Loaded × Renderer :=
  match r.recent.find? source with
  | some loaded => (.ok loaded, { r with recent := r.recent.touch source loaded })
  | none =>
    match Host.Template.ofText source with
    | .error e => (.error e, r)
    | .ok template =>
      let loaded := ⟨r.loads, template⟩
      (.ok loaded, ⟨r.recent.touch source loaded, r.loads + 1⟩)

-- The bindings under texts; a template cannot be given anything else.
def named : List (Datum × Host.Value) → Except Host.Error (List (Text × Host.Value))
  | [] => .ok []
  | (.scalar (.str name), value) :: rest => return (name, value) :: (← named rest)
  | _ => .error .wrongType

-- The text that compiled text puts out for bindings, and the store it leaves behind. What is empty
-- puts out nothing, and what is no text is no template.
def render (r : Renderer) (source : Datum) (bindings : Bindings Host.Value) (store : Host.Store) :
    Except Host.Error Text × Renderer × Host.Store :=
  if !source.truth then (.ok [], r, store)
  else
    match source with
    | .scalar (.str text) =>
      match r.load text with
      | (.error e, r) => (.error e, r, store)
      | (.ok loaded, r) =>
        match named bindings.entries with
        | .error e => (.error e, r, store)
        | .ok data =>
          let (outcome, store) := loaded.template.run data store
          (outcome, r, store)
    | _ => (.error .wrongType, r, store)

end Renderer

end BraceTemplate

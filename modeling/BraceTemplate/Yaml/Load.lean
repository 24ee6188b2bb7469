import BraceTemplate.Host.Value
import BraceTemplate.Yaml.Survey

namespace BraceTemplate.Yaml

-- Building values from nodes: the store they live in, and those built already.
structure Building where
  store : Host.Store
  built : Array (Option Host.Value)
  deriving Inhabited

abbrev Build := StateM Building

namespace Build

def remember (id : Nat) (v : Host.Value) : Build Host.Value := do
  modify fun b => { b with built := b.built.setIfInBounds id (some v) }
  pure v

-- A scalar as a value of its own.
def scalar (id : Nat) (s : Scalar) : Build Host.Value := do
  let v ← modifyGet fun ⟨store, built⟩ =>
    let (v, store) := store.marked s
    (v, ⟨store, built⟩)
  remember id v

-- A collection is empty at first, so that it can be met within itself.
def collection (id : Nat) (empty : Host.Cell) (full : Build Host.Cell) : Build Host.Value := do
  let address ← modifyGet fun ⟨store, built⟩ =>
    let (address, store) := store.new empty
    (address, ⟨store, built⟩)
  let v ← remember id (.ref address)
  let cell ← full
  modify fun b => { b with store := b.store.update address cell }
  pure v

-- Entries by their keys: an equal key keeps its place.
def byKey (entries : List (Host.Value × Host.Value)) : List (Host.Entry Host.Value) :=
  entries.foldl (fun all (k, v) =>
    match k with
    | .scalar key => insert key v all
    | _ => all) []
where
  insert (key : Scalar) (v : Host.Value) :
      List (Host.Entry Host.Value) → List (Host.Entry Host.Value)
    | [] => [⟨.scalar key, .scalar key, v⟩]
    | e :: rest =>
      if e.shape.same (.scalar key) then { e with value := v } :: rest
      else e :: insert key v rest

-- The value of a node. What was built before is the same value again.
def build (s : Surveying) : (depth : Nat) → (id : Nat) → Build Host.Value
  | 0, _ => pure .null
  | depth + 1, id => do
    match (← get).built.getD id none, s.scalars.getD id none with
    | some v, _ => pure v
    | none, some v => scalar id v
    | none, none =>
      let each := build s depth
      let entries := fun (id : Nat) =>
        match s.nodes.getD id default with
        | .mapping _ entries => entries
        | _ => []
      match s.nodes.getD id default with
      | .sequence .pairs items =>
        collection id (.list #[]) do
          let all ← (items.flatMap entries).mapM fun (k, v) => do
            let key ← each k
            return .tuple [key, ← each v]
          pure (.list all.toArray)
      | .sequence _ items =>
        collection id (.list #[]) do
          let all ← items.mapM each
          pure (.list all.toArray)
      | .mapping .set entries => do
        let keys ← entries.mapM fun entry => do return (← each entry.1, .null)
        remember id (.set false ((byKey keys).map (·.key)))
      | .mapping _ entries =>
        collection id (.dict .empty) do
          let all ← entries.mapM fun (k, v) => do
            let key ← each k
            return (key, ← each v)
          pure (.dict (.ofDistinct (byKey all)))
      | .scalar .. => pure .null

end Build

-- The value of a document, put into a store. A text without a document is null.
def load (s : Text) (store : Host.Store) : Except Fault (Host.Value × Host.Store) := do
  match ← Document.ofText? s with
  | none => .ok (.null, store)
  | some d =>
    let n := d.nodes.size
    let (v, b) := (Build.build (← d.survey) (n + 1) d.root).run ⟨store, .replicate n none⟩
    .ok (v, b.store)

-- The value of a document as a tree.
def loadDatum (s : Text) : Except Fault Datum := do
  let (v, store) ← load s .empty
  .ok (store.reify v)

end BraceTemplate.Yaml

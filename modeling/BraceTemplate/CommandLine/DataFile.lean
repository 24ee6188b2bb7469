import BraceTemplate.Data.Bindings
import BraceTemplate.Source.Files
import BraceTemplate.Source.Path
import BraceTemplate.Text.Basic
import BraceTemplate.Text.Utf8
import BraceTemplate.Yaml.Load

namespace BraceTemplate

-- Why data cannot be loaded from a file. A `broken` document is malformed or holds a value that does
-- not exist.
inductive DataError where
  | notFound (path : Path)
  | notText
  | broken (fault : Yaml.Fault)
  | notMapping (path : Path)
  deriving DecidableEq

-- The text of an error, for those that have one of their own.
def DataError.message? : DataError → Option Text
  | .notFound path => some ("Data file not found: ".toList ++ path.text)
  | .notMapping path => some (path.text ++ " must contain a mapping at the top level".toList)
  | .notText => none
  | .broken _ => none

namespace DataFile

-- The entries of a value that is a mapping. One that counts as false has none.
def entries? (store : Host.Store) (v : Host.Value) : Option (List (Datum × Host.Value)) :=
  let falsy := if (store.reify v).truth then none else some []
  match v with
  | .ref address =>
    match store.find? address with
    | some (.dict t) => some (t.entries.map fun e => (e.shape, e.value))
    | _ => falsy
  | _ => falsy

-- Entries from the text of a file, their values put into a store.
def ofText (path : Path) (s : Text) (store : Host.Store) :
    Except DataError (List (Datum × Host.Value) × Host.Store) :=
  match Yaml.load s store with
  | .error fault => .error (.broken fault)
  | .ok (v, store) =>
    match entries? store v with
    | none => .error (.notMapping path)
    | some entries => .ok (entries, store)

-- Entries from the content of a file, if there is one. Line ends of every kind are the same.
def load (path : Path) (content : Option Bytes) (store : Host.Store) :
    Except DataError (List (Datum × Host.Value) × Host.Store) :=
  match content with
  | none => .error (.notFound path)
  | some bytes =>
    match Utf8.decode? bytes with
    | none => .error .notText
    | some s => ofText path (normalNewlines s) store

end DataFile

-- Why a list of assignments cannot be read.
inductive AssignmentError where
  | notAssignment (item : Text)
  | unreadable (fault : Yaml.Fault)
  deriving DecidableEq

namespace Assignment

-- The name before the first equals sign and the text after it. Without a name there is none.
def split? (item : Text) : Option (Text × Text) :=
  match Text.cutAt '=' item with
  | some (name, value) => if name.isEmpty then none else some (name, value)
  | none => none

-- The value that a text stands for, put into a store. An empty text is a value of its own.
def value (s : Text) (store : Host.Store) : Except Yaml.Fault (Host.Value × Host.Store) :=
  if s.isEmpty then .ok (.str [], store) else Yaml.load s store

-- Values under names, one assignment after the other.
def readFrom (bindings : Bindings Host.Value) (store : Host.Store) :
    List Text → Except AssignmentError (Bindings Host.Value × Host.Store)
  | [] => .ok (bindings, store)
  | item :: rest =>
    match split? item with
    | none => .error (.notAssignment item)
    | some (name, text) =>
      match value text store with
      | .error fault => .error (.unreadable fault)
      | .ok (v, store) => readFrom (bindings.assign (.str name.trim) v) store rest

def read (items : List Text) (store : Host.Store) :
    Except AssignmentError (Bindings Host.Value × Host.Store) :=
  readFrom .empty store items

end Assignment

namespace AssignmentError

-- The text of an error, for those that have one of their own.
def message? : AssignmentError → Option Text
  | .notAssignment item => some ("Expected KEY=VALUE, got '".toList ++ item ++ ['\''])
  | .unreadable _ => none

end AssignmentError

end BraceTemplate

import BraceTemplate.Settings.Check
import BraceTemplate.Text.Basic
import BraceTemplate.Yaml.Load

namespace BraceTemplate

-- Why settings cannot be loaded from a file. A `broken` document holds a value that does not exist.
inductive SettingsError where
  | notFound (path : Path)
  | notText
  | malformed (path : Path)
  | broken (fault : Yaml.Fault)
  | notMapping (path : Path)
  | invalid (path : Path) (issues : List Issue)
  deriving DecidableEq

namespace SettingsError

-- The text of an error, for those that have one of their own. Issues are only counted.
def message? : SettingsError → Option Text
  | .notFound path => some ("Config file not found: ".toList ++ path.text)
  | .malformed path => some ("Failed to parse ".toList ++ path.text)
  | .notMapping path => some (path.text ++ " must contain a mapping at the top level".toList)
  | .invalid path _ => some ("Invalid config ".toList ++ path.text)
  | .notText => none
  | .broken _ => none

end SettingsError

-- The value of a document as a mapping: one that counts as false is an empty mapping.
def topEntries? : Datum → Option (List (Datum × Datum))
  | .dict entries => some entries
  | d => if d.truth then none else some []

namespace Settings

-- Settings from the text of a file.
def ofText (path : Path) (s : Text) : Except SettingsError Settings :=
  match Yaml.loadDatum s with
  | .error .malformed => .error (.malformed path)
  | .error fault => .error (.broken fault)
  | .ok d =>
    match topEntries? d with
    | none => .error (.notMapping path)
    | some entries =>
      match ofEntries entries with
      | .error issues => .error (.invalid path issues)
      | .ok settings => .ok (settings.inside path.parent)

-- Settings from the content of a file, if there is one. Line ends of every kind are the same.
def load (path : Path) (content : Option Bytes) : Except SettingsError Settings :=
  match content with
  | none => .error (.notFound path)
  | some bytes =>
    match Utf8.decode? bytes with
    | none => .error .notText
    | some s => ofText path (normalNewlines s)

end Settings

end BraceTemplate

import BraceTemplate.Data.Datum

namespace BraceTemplate.Datum

def padding (indent : Int) : Text :=
  List.replicate (2 * indent.toNat) ' '

-- A value without parts: its type, its length if it is text, and the value itself.
def dumpScalar : Scalar → Text
  | .null => "None".toList
  | .bool b => "bool(".toList ++ (Scalar.bool b).quoted ++ [')']
  | .int i => "int(".toList ++ intText i ++ [')']
  | .float x => "float(".toList ++ floatText x ++ [')']
  | .nan i => "float(".toList ++ (Scalar.nan i).quoted ++ [')']
  | .str s => dumpText s
  | .safe s => dumpText s
  | s => dumpOther s.typeName s.quoted
where
  dumpText (s : Text) : Text :=
    "str(".toList ++ natText s.length ++ ") \"".toList ++ s ++ ['"']
  dumpOther (kind shown : Text) : Text :=
    "object(".toList ++ kind ++ ") ".toList ++ shown

-- A block: the type and the number of parts, a line for each part, a closing brace.
def dumpBlock (kind : Text) (count : Nat) (indent : Int) (lines : List Text) : Text :=
  Text.join ['\n']
    ((kind ++ '(' :: natText count ++ ") \x7b".toList) :: lines ++ [padding indent ++ ['\x7d']])

def dumpLine (indent : Int) (key value : Text) : Text :=
  padding indent ++ "  [".toList ++ key ++ "] => ".toList ++ value

mutual

-- The structure of a value with types and sizes, indented by two blanks a level. The parts of
-- sequences and sets are numbered, those of mappings go by their keys.
def dump (indent : Int) : Datum → Text
  | .scalar s => dumpScalar s
  | .list items => dumpBlock "list".toList items.length indent (dumpItems indent 0 items)
  | .tuple items => dumpBlock "tuple".toList items.length indent (dumpItems indent 0 items)
  | .set frozen items =>
    dumpBlock (if frozen then "frozenset".toList else "set".toList) items.length indent
      (dumpItems indent 0 items)
  | .dict entries => dumpBlock "dict".toList entries.length indent (dumpEntries indent entries)
  | .view entries =>
    dumpBlock "mappingproxy".toList entries.length indent (dumpEntries indent entries)
  | .other kind _ shown => dumpScalar.dumpOther kind shown

def dumpItems (indent : Int) (index : Nat) : List Datum → List Text
  | [] => []
  | item :: rest =>
    dumpLine indent (natText index) (dump (indent + 1) item) :: dumpItems indent (index + 1) rest

def dumpEntries (indent : Int) : List (Datum × Datum) → List Text
  | [] => []
  | (key, value) :: rest =>
    dumpLine indent key.quoted (dump (indent + 1) value) :: dumpEntries indent rest

end

end BraceTemplate.Datum

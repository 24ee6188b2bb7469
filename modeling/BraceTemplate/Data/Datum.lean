import BraceTemplate.Data.Scalar

namespace BraceTemplate

-- A value as a finite tree. A `view` is a mapping that cannot be changed; `other` stands for what
-- has no parts that could be shown, with its kind, its identity and its text.
inductive Datum where
  | scalar (s : Scalar)
  | list (items : List Datum)
  | tuple (items : List Datum)
  | set (frozen : Bool) (items : List Datum)
  | dict (entries : List (Datum × Datum))
  | view (entries : List (Datum × Datum))
  | other (kind : Text) (identity : Nat) (shown : Text)
  deriving Inhabited

namespace Datum

def null : Datum := .scalar .null
def bool (b : Bool) : Datum := .scalar (.bool b)
def int (i : Int) : Datum := .scalar (.int i)
def str (s : Text) : Datum := .scalar (.str s)

def typeName : Datum → Text
  | .scalar s => s.typeName
  | .list _ => "list".toList
  | .tuple _ => "tuple".toList
  | .set false _ => "set".toList
  | .set true _ => "frozenset".toList
  | .dict _ => "dict".toList
  | .view _ => "mappingproxy".toList
  | .other kind _ _ => kind

-- The items of a tuple between parentheses; a single one is followed by a comma.
def inParens : List Text → Text
  | [item] => '(' :: item ++ [',', ')']
  | items => '(' :: Text.join ", ".toList items ++ [')']

def inBrackets (items : List Text) : Text :=
  '[' :: Text.join ", ".toList items ++ [']']

def inBraces (items : List Text) : Text :=
  '{' :: Text.join ", ".toList items ++ ['}']

def ofSet (frozen : Bool) (items : List Text) : Text :=
  match frozen, items with
  | false, [] => "set()".toList
  | true, [] => "frozenset()".toList
  | false, items => inBraces items
  | true, items => "frozenset(".toList ++ inBraces items ++ [')']

mutual

-- How a value is written inside another one.
def quoted : Datum → Text
  | .scalar s => s.quoted
  | .list items => inBrackets (quotedItems items)
  | .tuple items => inParens (quotedItems items)
  | .set frozen items => ofSet frozen (quotedItems items)
  | .dict entries => inBraces (quotedEntries entries)
  | .view entries => "mappingproxy(".toList ++ inBraces (quotedEntries entries) ++ [')']
  | .other _ _ shown => shown

def quotedItems : List Datum → List Text
  | [] => []
  | item :: rest => item.quoted :: quotedItems rest

def quotedEntries : List (Datum × Datum) → List Text
  | [] => []
  | (key, value) :: rest => (key.quoted ++ ':' :: ' ' :: value.quoted) :: quotedEntries rest

end

mutual

-- Whether a tree is cut off where a list or a mapping contains itself.
def endless : Datum → Bool
  | .scalar _ => false
  | .list items => endlessItems items
  | .tuple items => endlessItems items
  | .set _ items => endlessItems items
  | .dict entries => endlessEntries entries
  | .view entries => endlessEntries entries
  | .other kind _ _ => kind == "list".toList || kind == "dict".toList

def endlessItems : List Datum → Bool
  | [] => false
  | item :: rest => item.endless || endlessItems rest

def endlessEntries : List (Datum × Datum) → Bool
  | [] => false
  | (key, value) :: rest => key.endless || value.endless || endlessEntries rest

end

-- How a value is written on its own.
def printed : Datum → Text
  | .scalar s => s.printed
  | .view entries => inBraces (quotedEntries entries)
  | d => d.quoted

mutual

-- Whether every number in the tree has a numeral short enough to be written.
def writable : Datum → Bool
  | .scalar s => s.writable
  | .list items => writableItems items
  | .tuple items => writableItems items
  | .set _ items => writableItems items
  | .dict entries => writableEntries entries
  | .view entries => writableEntries entries
  | .other .. => true

def writableItems : List Datum → Bool
  | [] => true
  | item :: rest => item.writable && writableItems rest

def writableEntries : List (Datum × Datum) → Bool
  | [] => true
  | (key, value) :: rest => key.writable && value.writable && writableEntries rest

end

mutual

-- Equality of trees. The entries of mappings and the members of sets are compared in any order, and
-- whatever is the very same thing is equal.
def same : Datum → Datum → Bool
  | .scalar a, .scalar b => a.alike b
  | .list a, .list b => sameItems a b
  | .tuple a, .tuple b => sameItems a b
  | .set _ a, .set _ b => a.length == b.length && allIn a b
  | .dict a, .dict b => a.length == b.length && allEntriesIn a b
  | .dict a, .view b => a.length == b.length && allEntriesIn a b
  | .view a, .dict b => a.length == b.length && allEntriesIn a b
  | .view a, .view b => a.length == b.length && allEntriesIn a b
  | .other kind i _, .other kind' j _ => kind == kind' && i == j
  | _, _ => false

def sameItems : List Datum → List Datum → Bool
  | [], [] => true
  | a :: as, b :: bs => same a b && sameItems as bs
  | _, _ => false

def allIn : List Datum → List Datum → Bool
  | [], _ => true
  | a :: as, bs => bs.any (same a) && allIn as bs

def allEntriesIn : List (Datum × Datum) → List (Datum × Datum) → Bool
  | [], _ => true
  | (key, value) :: as, bs =>
    bs.any (fun entry => same key entry.1 && same value entry.2) && allEntriesIn as bs

end

mutual

-- Whether `a` comes before `b`; `none` where the two have no order. Sequences are ordered by their
-- first items that differ, sets by strict inclusion.
def before? : Datum → Datum → Option Bool
  | .scalar a, .scalar b => a.before? b
  | .list a, .list b => itemsBefore? a b
  | .tuple a, .tuple b => itemsBefore? a b
  | .set _ a, .set _ b => some (decide (a.length < b.length) && allIn a b)
  | _, _ => none

def itemsBefore? : List Datum → List Datum → Option Bool
  | [], bs => some (!bs.isEmpty)
  | _ :: _, [] => some false
  | a :: as, b :: bs => if same a b then itemsBefore? as bs else before? a b

end

-- The entry of a mapping under a key.
def lookup? {α : Type} (entries : List (Datum × α)) (key : Datum) : Option α :=
  (entries.find? fun entry => same entry.1 key).map (·.2)

-- Sets an entry: an equal key keeps its place and its spelling, a new one goes last.
def insertEntry {α : Type} (key : Datum) (value : α) : List (Datum × α) → List (Datum × α)
  | [] => [(key, value)]
  | (k, v) :: rest =>
    if same k key then (k, value) :: rest else (k, v) :: insertEntry key value rest

def dictOf (entries : List (Datum × Datum)) : Datum :=
  .dict (entries.foldl (fun acc (k, v) => insertEntry k v acc) [])

-- Whether a value counts as true: what is empty or zero does not.
def truth : Datum → Bool
  | .scalar s => s.truth
  | .list items => !items.isEmpty
  | .tuple items => !items.isEmpty
  | .set _ items => !items.isEmpty
  | .dict entries => !entries.isEmpty
  | .view entries => !entries.isEmpty
  | .other .. => true

mutual

-- Whether a value can be a key: it has no part that can be changed.
def hashable : Datum → Bool
  | .scalar _ => true
  | .list _ => false
  | .tuple items => hashableItems items
  | .set frozen _ => frozen
  | .dict _ => false
  | .view _ => false
  | .other .. => true

def hashableItems : List Datum → Bool
  | [] => true
  | item :: rest => item.hashable && hashableItems rest

end

end Datum

end BraceTemplate

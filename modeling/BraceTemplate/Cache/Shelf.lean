import BraceTemplate.Compile.Compiler
import BraceTemplate.Data.Datum

namespace BraceTemplate

-- What goes wrong with a cache that refuses to answer.
inductive CacheFault where
  | down
  deriving DecidableEq, Inhabited

def CacheFault.message : CacheFault → Text
  | .down => "cache down".toList

-- Values under keys. A cache may refuse to be read or to be written.
structure Cache where
  entries : List (Text × Datum)
  refusesReads : Bool
  refusesWrites : Bool
  deriving Inhabited

namespace Cache

-- A fresh cache that never refuses.
def empty : Cache := ⟨[], false, false⟩

def find? (entries : List (Text × Datum)) (key : Text) : Option Datum :=
  (entries.find? (·.1 == key)).map (·.2)

def insert (key : Text) (value : Datum) : List (Text × Datum) → List (Text × Datum)
  | [] => [(key, value)]
  | (k, old) :: rest => if k = key then (k, value) :: rest else (k, old) :: insert key value rest

-- The value under a key. Null stands for no value at all.
def get? (c : Cache) (key : Text) : Except CacheFault (Option Datum) :=
  if c.refusesReads then .error .down
  else
    match find? c.entries key with
    | some (.scalar .null) => .ok none
    | found => .ok found

def set (c : Cache) (key : Text) (value : Datum) : Except CacheFault Cache :=
  if c.refusesWrites then .error .down else .ok { c with entries := insert key value c.entries }

def clear (c : Cache) : Cache :=
  { c with entries := [] }

-- Whether anything was put under a key, null included.
def contains (c : Cache) (key : Text) : Bool :=
  (find? c.entries key).isSome

def size (c : Cache) : Nat :=
  c.entries.length

-- Characters that keys do not hold.
def isUnsafe (c : Char) : Bool :=
  "\x7b\x7d()/\\@:".toList.contains c

-- The key for the compiled form of a template: its name, with an underscore for every character
-- that keys do not hold.
def keyOf (identity : Text) : Text :=
  ("tpl_".toList ++ identity).map fun c => if isUnsafe c then '_' else c

end Cache

-- The compiled form of a template, and whether it was found in a cache. A cache that others write
-- to may hold something else than a text.
structure Artifact where
  source : Datum
  identity : Text
  cached : Bool
  deriving Inhabited

-- Where compiled templates are kept. In debug mode the cache is neither read nor written.
structure Shelf where
  cache : Option Cache
  debug : Bool
  deriving Inhabited

-- What came of asking for a compiled template: how often it was made anew, and what was noted
-- about a cache that refused.
structure Fetched where
  outcome : Except CompileError Artifact
  made : Nat
  warnings : List Text

namespace Shelf

-- The cache to use, if there is one.
def active (s : Shelf) : Option Cache :=
  if s.debug then none else s.cache

def enabled (s : Shelf) : Bool :=
  s.active.isSome

def readWarning (key : Text) (fault : CacheFault) : Text :=
  "Cache read failed for ".toList ++ key ++ ": ".toList ++ fault.message

def writeWarning (key : Text) (fault : CacheFault) : Text :=
  "Cache write failed for ".toList ++ key ++ ": ".toList ++ fault.message

-- What the cache holds under a key. A cache that refuses counts as one that holds nothing.
def lookUp (s : Shelf) (key : Text) : Option Datum × List Text :=
  match s.active with
  | none => (none, [])
  | some cache =>
    match cache.get? key with
    | .ok found => (found, [])
    | .error fault => (none, [readWarning key fault])

def keep (s : Shelf) (key source : Text) : Shelf × List Text :=
  match s.active with
  | none => (s, [])
  | some cache =>
    match cache.set key (.str source) with
    | .ok cache => ({ s with cache := some cache }, [])
    | .error fault => (s, [writeWarning key fault])

-- Takes a compiled template from the cache, or makes it and keeps it. A failure is not kept.
def fetch (s : Shelf) (identity : Text) (make : Unit → Except CompileError Text) :
    Fetched × Shelf :=
  let key := Cache.keyOf identity
  let (found, warnings) := s.lookUp key
  match found with
  | some source => (⟨.ok ⟨source, identity, true⟩, 0, warnings⟩, s)
  | none =>
    match make () with
    | .error e => (⟨.error e, 1, warnings⟩, s)
    | .ok source =>
      let (s, more) := s.keep key source
      (⟨.ok ⟨.str source, identity, false⟩, 1, warnings ++ more⟩, s)

end Shelf

end BraceTemplate

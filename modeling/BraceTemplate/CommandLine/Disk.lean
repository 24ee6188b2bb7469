import BraceTemplate.Source.Files
import BraceTemplate.Text.Utf8

namespace BraceTemplate

inductive DiskItem where
  | file (content : Bytes)
  | directory
  deriving DecidableEq

-- Files and directories by their names from the top of the disk, each once and after its directory.
-- Relative paths start at `home`.
structure Disk where
  home : List Text
  items : List (List Text × DiskItem)
  deriving Inhabited

-- A change of a disk may fail; what it changed before it failed stays changed.
abbrev DiskChange := ExceptT DiskError (StateM Disk)

namespace Disk

-- Names may have as many bytes as this, and paths fewer than the second number.
def nameLimit : Nat := 255

def pathLimit : Nat := 4096

-- The top is always there.
def item? (d : Disk) (names : List Text) : Option DiskItem :=
  if names.isEmpty then some .directory else (d.items.find? (·.1 == names)).map (·.2)

def put (d : Disk) (names : List Text) (item : DiskItem) : Disk :=
  if d.items.any (·.1 == names) then
    { d with items := d.items.map fun entry => if entry.1 == names then (names, item) else entry }
  else { d with items := d.items ++ [(names, item)] }

-- The directories that lead to a name, the outermost first.
def above (names : List Text) : List (List Text) :=
  (List.range names.length).map names.take

-- Puts a directory, and all that lead to it, where nothing is.
def putDirectory (d : Disk) (names : List Text) : Disk :=
  (above names ++ [names]).foldl
    (fun d place => if (d.item? place).isSome then d else d.put place .directory) d

def putFile (d : Disk) (names : List Text) (content : Bytes) : Disk :=
  (d.putDirectory names.dropLast).put names (.file content)

def empty (home : List Text) : Disk :=
  putDirectory ⟨home, []⟩ home

-- Follows names from a directory. Double dots lead out of it, but never out of the top.
def walk (d : Disk) (here : List Text) : List Text → Except DiskFault (List Text)
  | [] => .ok here
  | name :: rest =>
    match d.item? here with
    | none => .error .missing
    | some (.file _) => .error .notDirectory
    | some .directory =>
      if name = ['.', '.'] then d.walk here.dropLast rest
      else if nameLimit < (Utf8.encode name).length then .error .nameTooLong
      else d.walk (here ++ [name]) rest

-- The names that a path stands for, whether or not something is there.
def place (d : Disk) (p : Path) : Except DiskFault (List Text) :=
  if pathLimit ≤ (Utf8.encode p.text).length then .error .nameTooLong
  else d.walk (if p.isAbsolute then [] else d.home) p.names

def find (d : Disk) (p : Path) : Except DiskFault DiskItem := do
  match d.item? (← d.place p) with
  | some item => .ok item
  | none => .error .missing

def isDirectory (d : Disk) (p : Path) : Bool :=
  match d.find p with
  | .ok .directory => true
  | _ => false

def read (d : Disk) (p : Path) : Except DiskError Bytes :=
  match d.find p with
  | .ok (.file content) => .ok content
  | .ok .directory => .error ⟨.isDirectory, p⟩
  | .error fault => .error ⟨fault, p⟩

-- The content of a file that need not be there.
def read? (d : Disk) (p : Path) : Except DiskError (Option Bytes) :=
  match d.find p with
  | .error .missing => .ok none
  | .error .notDirectory => .ok none
  | _ => (d.read p).map some

-- The files of a disk, by path. What cannot be reached is not there, but a name that is too long is
-- refused.
def files (d : Disk) : FileSystem := fun p =>
  match d.find p with
  | .ok (.file content) => .ok (some content)
  | .error .nameTooLong => .error ⟨.nameTooLong, p⟩
  | _ => .ok none

-- Makes one directory inside an existing one.
def makeDirectory (p : Path) : DiskChange Unit := do
  let d ← get
  match d.place p with
  | .error fault => throw ⟨fault, p⟩
  | .ok names =>
    if (d.item? names).isSome then throw ⟨.alreadyThere, p⟩
    else set (d.put names .directory)

-- Makes one directory, unless it is there. What is missing on the way to it is dealt with first.
def provide (p : Path) (onMissing : DiskChange Unit) : DiskChange Unit :=
  tryCatch (makeDirectory p) fun e => do
    if e.fault = .missing then onMissing
    else if (← get).isDirectory p then pure ()
    else throw e

-- Makes the directory with the given names, last one first, and all that lead to it.
def provideAll (root : Text) : List Text → DiskChange Unit
  | [] => provide ⟨root, []⟩ (throw ⟨.missing, ⟨root, []⟩⟩)
  | name :: upper => do
    let p : Path := ⟨root, (name :: upper).reverse⟩
    provide p do
      provideAll root upper
      provide p (throw ⟨.missing, p⟩)

def makeDirectories (p : Path) : DiskChange Unit :=
  provideAll p.root p.names.reverse

def write (p : Path) (content : Bytes) : DiskChange Unit := do
  let d ← get
  match d.place p with
  | .error fault => throw ⟨fault, p⟩
  | .ok names =>
    match d.item? names with
    | some .directory => throw ⟨.isDirectory, p⟩
    | _ => set (d.put names (.file content))

-- The items of a disk that another one lacks or has with other content.
def changesTo (before after : Disk) : List (List Text × DiskItem) :=
  after.items.filter fun (names, item) => decide (before.item? names ≠ some item)

-- The files below home that another disk has and this one lacks, by their paths from home.
def newFiles (before after : Disk) : List (Path × Bytes) :=
  (before.changesTo after).filterMap fun (names, item) =>
    match item with
    | .file content =>
      if before.home.isPrefixOf names && (before.item? names).isNone then
        some (⟨[], names.drop before.home.length⟩, content)
      else none
    | .directory => none

end Disk

end BraceTemplate

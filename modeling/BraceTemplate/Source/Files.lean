import BraceTemplate.Number.Digits
import BraceTemplate.Source.Path
import BraceTemplate.Text.Quoted

namespace BraceTemplate

-- Why a disk refuses an operation.
inductive DiskFault where
  | missing
  | alreadyThere
  | notDirectory
  | isDirectory
  | nameTooLong
  deriving DecidableEq

-- A fault, and the path that it was met with.
structure DiskError where
  fault : DiskFault
  path : Path
  deriving DecidableEq

namespace DiskFault

def number : DiskFault → Nat
  | .missing => 2
  | .alreadyThere => 17
  | .notDirectory => 20
  | .isDirectory => 21
  | .nameTooLong => 36

def words : DiskFault → Text
  | .missing => "No such file or directory".toList
  | .alreadyThere => "File exists".toList
  | .notDirectory => "Not a directory".toList
  | .isDirectory => "Is a directory".toList
  | .nameTooLong => "File name too long".toList

end DiskFault

def DiskError.message (e : DiskError) : Text :=
  "[Errno ".toList ++ natText e.fault.number ++ "] ".toList ++ e.fault.words ++ ": ".toList ++
    Quoted.text e.path.text

abbrev Bytes := List UInt8

-- The files that can be read, by path. Even to look for one may be refused.
abbrev FileSystem := Path → Except DiskError (Option Bytes)

-- Files of which none is refused.
def FileSystem.ofFiles (files : Path → Option Bytes) : FileSystem :=
  fun path => .ok (files path)

-- Files held in memory, at most one for each path.
structure Files where
  entries : List (Path × Bytes)
  deriving Inhabited

namespace Files

def empty : Files := ⟨[]⟩

def read? (files : Files) (path : Path) : Option Bytes :=
  (files.entries.find? (·.1 == path)).map (·.2)

def delete (files : Files) (path : Path) : Files :=
  ⟨files.entries.filter (·.1 != path)⟩

def write (files : Files) (path : Path) (content : Bytes) : Files :=
  ⟨(path, content) :: (files.delete path).entries⟩

end Files

end BraceTemplate

import BraceTemplate.CommandLine.Run

namespace BraceTemplate.CommandLine.Machine

-- The machine's spelling of names from the top.
def spelled (names : List Text) : String :=
  String.ofList ('/' :: Text.join ['/'] names)

-- What the machine has under names.
def itemAt (names : List Text) : IO (Option DiskItem) := do
  try
    let path ← IO.FS.realPath (spelled names)
    if ← path.isDir then return some .directory
    return some (.file (← IO.FS.readBinFile path).toList)
  catch _ => return none

-- Takes over what the machine has at a path and on the way to it.
def look (d : Disk) (p : Path) : IO Disk := do
  let mut d := d
  for count in List.range (p.names.length + 1) do
    match d.place ⟨p.root, p.names.take count⟩ with
    | .error _ => break
    | .ok names =>
      if (d.item? names).isNone then
        match ← itemAt names with
        | some item => d := d.put names item
        | none => break
  return d

-- Takes over everything below a directory.
partial def lookBelow (d : Disk) (names : List Text) : IO Disk := do
  match ← itemAt names with
  | none => return d
  | some (.file content) => return d.put names (.file content)
  | some .directory =>
    let mut d := d.putDirectory names
    for entry in ← (← IO.FS.realPath (spelled names)).readDir do
      d ← lookBelow d (names ++ [entry.fileName.toList])
    return d

-- Takes over everything that a template may be made from.
def lookFor (d : Disk) (t : Template) : IO Disk := do
  let mut d := d
  for path in t.config.toList ++ [Path.ofText t.reference] do
    d ← look d path
  match loadSettings d t.config with
  | .error _ => return d
  | .ok settings =>
    for (_, roots) in settings.registries do
      for root in roots do
        let path := Path.ofText root.path
        d ← look d path
        match d.place path with
        | .ok names => d ← lookBelow d names
        | .error _ => pure ()
    return d

-- The part of the machine that a command can see.
def diskFor (c : Command) (home : List Text) : IO Disk := do
  let d := Disk.empty home
  match c with
  | .compile t => lookFor d t
  | .render t data output _ =>
    let mut d ← lookFor d t
    for path in data.file.toList ++ output.toList do
      d ← look d path
    return d
  | _ => return d

-- Brings the changes of a disk to the machine.
def store (before after : Disk) : IO Unit := do
  for (names, item) in before.changesTo after do
    match item with
    | .directory => IO.FS.createDirAll (spelled names)
    | .file content => IO.FS.writeBinFile (spelled names) ⟨content.toArray⟩

def printOutcome (outcome : Outcome) : IO UInt32 := do
  IO.print (String.ofList outcome.output)
  match outcome with
  | .misused => IO.eprint (String.ofList helpText)
  | .unstopped _ => IO.eprintln "Unexpected error"
  | _ =>
    if !outcome.errorLine.isEmpty then IO.eprintln (String.ofList outcome.errorLine)
  return UInt32.ofNat (outcome.exitCode?.getD 1)

end BraceTemplate.CommandLine.Machine

open BraceTemplate BraceTemplate.CommandLine in
def main (arguments : List String) : IO UInt32 := do
  match Command.ofArguments? (arguments.map String.toList) with
  | none => Machine.printOutcome .misused
  | some c =>
    let home := Path.ofText (← IO.currentDir).toString.toList
    let before ← Machine.diskFor c home.names
    let (outcome, after) := c.run before
    Machine.store before after
    Machine.printOutcome outcome

import BraceTemplate.CommandLine.DataFile
import BraceTemplate.CommandLine.Command
import BraceTemplate.CommandLine.Disk
import BraceTemplate.Engine.Basic
import BraceTemplate.Settings.Load
import BraceTemplate.Text.Piece

namespace BraceTemplate.CommandLine

def isSequenceMark (c : Char) : Bool :=
  c == ';' || c == '?' || c.isDigit

-- A control sequence: an escape and a bracket, digits, semicolons and question marks, and a letter.
def controlSequence : Recogniser Unit := fun _ s =>
  match s with
  | '\x1b' :: '[' :: rest =>
    match rest.dropWhile isSequenceMark with
    | c :: after => if c.isAlpha then some ((), after) else none
    | [] => none
  | _ => none

-- A text as it is printed where nothing understands control sequences.
def plain (s : Text) : Text :=
  (Piece.scan controlSequence s).flatMap fun piece =>
    match piece with
    | .char c => [c]
    | .hit _ => []

-- Why a command fails, by what it was doing.
inductive CommandError where
  | disk (cause : DiskError)
  | settings (cause : SettingsError)
  | data (cause : DataError)
  | assignment (cause : AssignmentError)
  | notText (path : Path)
  | engine (cause : EngineError)
  deriving DecidableEq

-- How a command ends: with text, with an error that is reported, with arguments that make no sense, or
-- with an error that nothing stops.
inductive Outcome where
  | done (printed : Text)
  | reported (message : Text)
  | misused
  | unstopped (cause : CommandError)
  deriving DecidableEq

-- Errors of a running template are reported where the template language itself raises them.
def runReport? : Host.Error → Option Text
  | .malformed => some "malformed template".toList
  | .noKey _ => none
  | e => e.message?

-- A key that is no keyword has a text, but is not reported.
def compileReport? : CompileError → Option Text
  | .badTag _ => none
  | e => e.message?

-- Invalid settings are reported with the number of their issues.
def settingsReport? : SettingsError → Option Text
  | .invalid path issues =>
    (SettingsError.invalid path issues).message?.map fun message =>
      message ++ ": ".toList ++ natText issues.length ++
        (if issues.length = 1 then " validation error".toList else " validation errors".toList) ++
        " for EngineConfig".toList
  | e => e.message?

-- The text that an error is reported with, if it is.
def CommandError.report? : CommandError → Option Text
  | .disk cause => some cause.message
  | .settings cause => settingsReport? cause
  | .data cause => cause.message?
  | .assignment _ => none
  | .notText _ => none
  | .engine (.compile cause) => compileReport? cause
  | .engine (.run cause) => runReport? cause

namespace Outcome

-- An item that is no assignment counts as a misuse.
def ofError (e : CommandError) : Outcome :=
  match e, e.report? with
  | .assignment (.notAssignment _), _ => .misused
  | _, some message => .reported message
  | _, none => .unstopped e

def exitCode? : Outcome → Option Nat
  | .done _ => some 0
  | .reported _ => some 1
  | .misused => some 2
  | .unstopped _ => none

-- What is written to the standard output.
def output : Outcome → Text
  | .done printed => plain printed
  | _ => []

-- What is written about an error that is reported.
def errorLine : Outcome → Text
  | .reported message => plain ("Error: ".toList ++ message)
  | _ => []

end Outcome

def versionText : Text := "tagplate 0.1.0\n".toList

def helpText : Text :=
  ("Usage: tagplate [--version] [--help] COMMAND ...\n\n" ++
    "  render REFERENCE [-c FILE] [-d FILE] [-s KEY=VALUE]... [-o FILE] [--string] [--debug] [-v]\n" ++
    "  compile REFERENCE [-c FILE] [--string] [-v]\n").toList

def loadSettings (d : Disk) (config : Option Path) : Except CommandError Settings :=
  match config with
  | none => .ok .default
  | some path => do
    let content ← (d.read? path).mapError CommandError.disk
    (Settings.load path content).mapError CommandError.settings

-- The entries of a data file, if there is one.
def loadData (d : Disk) (file : Option Path) (store : Host.Store) :
    Except CommandError (List (Datum × Host.Value) × Host.Store) :=
  match file with
  | none => .ok ([], store)
  | some path => do
    let content ← (d.read? path).mapError CommandError.disk
    (DataFile.load path content store).mapError CommandError.data

-- The text of a file, its line ends being all the same.
def readText (d : Disk) (path : Path) : Except CommandError Text := do
  let content ← (d.read path).mapError CommandError.disk
  match Utf8.decode? content with
  | some s => .ok (normalNewlines s)
  | none => .error (.notText path)

-- An engine for a template. It has no cache, so that nothing depends on earlier commands.
def engineFor (d : Disk) (t : Template) (debug : Bool) : Except CommandError Engine := do
  let settings ← loadSettings d t.config
  .ok (Engine.ofSettings { settings with debug := settings.debug || debug } none)

-- Binds the content of the data file first, so that assignments win.
def bindData (d : Disk) (data : Data) (e : Engine) : Except CommandError Engine := do
  let (entries, store) ← loadData d data.file e.store
  let (assigned, store) ←
    (Assignment.read data.assignments store).mapError CommandError.assignment
  .ok { e with bindings := (e.bindings.merged entries).merged assigned.entries, store }

def renderedText (d : Disk) (t : Template) (data : Data) (debug : Bool) :
    Except CommandError Text := do
  let e ← bindData d data (← engineFor d t debug)
  let rendering ←
    if t.fromFile then do
      let source ← readText d (Path.ofText t.reference)
      pure (e.renderText d.files source [] []).1
    else pure (e.renderFile d.files t.reference [] []).1
  rendering.outcome.mapError CommandError.engine

def compiledText (d : Disk) (t : Template) : Except CommandError Text := do
  let e ← engineFor d t true
  let compiled ←
    if t.fromFile then do
      let source ← readText d (Path.ofText t.reference)
      pure (e.compileText d.files source)
    else pure (e.compileFile d.files t.reference)
  compiled.mapError fun cause => .engine (.compile cause)

-- Writes a text to a file, and says so, or else prints it. An error of writing is never reported.
def deliver (text : Text) (output : Option Path) (d : Disk) : Outcome × Disk :=
  match output with
  | none => (.done text, d)
  | some path =>
    let writing : DiskChange Unit := do
      Disk.makeDirectories path.parent
      Disk.write path (Utf8.encode text)
    match writing.run d with
    | (.ok _, d) => (.done ("Wrote rendered output to ".toList ++ path.text ++ ['\n']), d)
    | (.error cause, d) => (.unstopped (.disk cause), d)

-- How a command ends, and the disk after it.
def Command.run (c : Command) (d : Disk) : Outcome × Disk :=
  match c with
  | .version => (.done versionText, d)
  | .help => (.done helpText, d)
  | .compile t =>
    match compiledText d t with
    | .ok text => (.done text, d)
    | .error e => (.ofError e, d)
  | .render t data output debug =>
    match renderedText d t data debug with
    | .ok text => deliver text output d
    | .error e => (.ofError e, d)

-- How the command that arguments stand for ends.
def run (arguments : List Text) (d : Disk) : Outcome × Disk :=
  match Command.ofArguments? arguments with
  | some c => c.run d
  | none => (.misused, d)

end BraceTemplate.CommandLine

import BraceTemplate.Source.Path
import BraceTemplate.Text.Basic

namespace BraceTemplate.CommandLine

-- What can be chosen on a command line.
inductive Choice where
  | version
  | help
  | config
  | data
  | assignment
  | output
  | fromFile
  | debug
  | verbose
  deriving DecidableEq

-- How a choice is written: one letter after a dash or a word after two. It may take a value.
structure Switch where
  choice : Choice
  letter : Option Char
  word : Text
  takesValue : Bool

-- A choice with its value, which is empty where there is none.
abbrev Chosen := Choice × Text

namespace Switch

def flag (choice : Choice) (letter : Option Char) (word : String) : Switch :=
  ⟨choice, letter, word.toList, false⟩

def valued (choice : Choice) (letter : Option Char) (word : String) : Switch :=
  ⟨choice, letter, word.toList, true⟩

end Switch

-- Letters written together. One that takes a value takes the remaining letters, or else waits for the
-- next argument.
def readLetters (switches : List Switch) : Text → Option (List Chosen × Option Choice)
  | [] => some ([], none)
  | c :: rest =>
    match switches.find? (·.letter = some c) with
    | none => none
    | some s =>
      if !s.takesValue then
        (readLetters switches rest).map fun (chosen, waiting) => ((s.choice, []) :: chosen, waiting)
      else if rest.isEmpty then some ([], some s.choice)
      else some ([(s.choice, rest)], none)

-- A word, perhaps with an equals sign and a value after it.
def readWord (switches : List Switch) (s : Text) : Option (List Chosen × Option Choice) := do
  let (word, value) := match Text.cutAt '=' s with
    | some (word, value) => (word, some value)
    | none => (s, none)
  let switch ← switches.find? (·.word == word)
  match switch.takesValue, value with
  | true, some value => some ([(switch.choice, value)], none)
  | true, none => some ([], some switch.choice)
  | false, some _ => none
  | false, none => some ([(switch.choice, [])], none)

-- Reads arguments: what was chosen, in order, and the arguments that are no switches. Everything
-- after two dashes is of the latter kind and, unless `anywhere`, everything after the first of them.
-- A `waiting` choice takes the next argument as it is. There is no reading with an unknown switch, a
-- missing value or a value too many.
def readArguments (switches : List Switch) (anywhere : Bool) :
    (waiting : Option Choice) → List Text → Option (List Chosen × List Text)
  | none, [] => some ([], [])
  | some _, [] => none
  | some choice, value :: rest =>
    (readArguments switches anywhere none rest).map fun (chosen, others) =>
      ((choice, value) :: chosen, others)
  | none, argument :: rest =>
    match argument with
    | ['-', '-'] => some ([], rest)
    | '-' :: c :: tail => do
      let (first, waiting) ←
        if c = '-' then readWord switches tail else readLetters switches (c :: tail)
      let (chosen, others) ← readArguments switches anywhere waiting rest
      some (first ++ chosen, others)
    | _ =>
      if anywhere then
        (readArguments switches anywhere none rest).map fun (chosen, others) =>
          (chosen, argument :: others)
      else some ([], argument :: rest)

-- The values given to a choice, in order.
def valuesOf (chosen : List Chosen) (choice : Choice) : List Text :=
  (chosen.filter (·.1 = choice)).map (·.2)

def isChosen (chosen : List Chosen) (choice : Choice) : Bool :=
  chosen.any (·.1 = choice)

-- Where a template comes from: a reference or, with `fromFile`, the path of a file. The settings are
-- those of a file or the default ones.
structure Template where
  reference : Text
  fromFile : Bool
  config : Option Path
  deriving DecidableEq

-- What is bound before a template is rendered: the content of a data file, then single assignments.
structure Data where
  file : Option Path
  assignments : List Text
  deriving DecidableEq

inductive Command where
  | version
  | help
  | render (template : Template) (data : Data) (output : Option Path) (debug : Bool)
  | compile (template : Template)
  deriving DecidableEq

namespace Command

def mainSwitches : List Switch :=
  [.flag .version none "version", .flag .help none "help"]

def compileSwitches : List Switch :=
  [.valued .config (some 'c') "config", .flag .fromFile none "string",
    .flag .verbose (some 'v') "verbose", .flag .help none "help"]

def renderSwitches : List Switch :=
  compileSwitches ++ [.valued .data (some 'd') "data", .valued .assignment (some 's') "set",
    .valued .output (some 'o') "output", .flag .debug none "debug"]

-- The last path given to a choice.
def path? (chosen : List Chosen) (choice : Choice) : Option Path :=
  (valuesOf chosen choice).getLast?.map Path.ofText

def template (chosen : List Chosen) (reference : Text) : Template :=
  ⟨reference, isChosen chosen .fromFile, path? chosen .config⟩

-- Help comes before anything that is missing or left over.
def ofSwitches? (switches : List Switch) (make : List Chosen → Text → Command)
    (arguments : List Text) : Option Command := do
  let (chosen, others) ← readArguments switches true none arguments
  if isChosen chosen .help then some .help
  else
    match others with
    | [reference] => some (make chosen reference)
    | _ => none

def makeRender (chosen : List Chosen) (reference : Text) : Command :=
  .render (template chosen reference) ⟨path? chosen .data, valuesOf chosen .assignment⟩
    (path? chosen .output) (isChosen chosen .debug)

def makeCompile (chosen : List Chosen) (reference : Text) : Command :=
  .compile (template chosen reference)

-- The command that arguments stand for. Before its name only version and help can be chosen, and the
-- first of them counts.
def ofArguments? (arguments : List Text) : Option Command := do
  match ← readArguments mainSwitches false none arguments with
  | ((choice, _) :: _, _) => some (if choice = .version then .version else .help)
  | ([], []) => none
  | ([], name :: rest) =>
    if name = "render".toList then ofSwitches? renderSwitches makeRender rest
    else if name = "compile".toList then ofSwitches? compileSwitches makeCompile rest
    else none

end Command

end BraceTemplate.CommandLine

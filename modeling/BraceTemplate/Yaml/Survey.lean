import BraceTemplate.Text.Base64
import BraceTemplate.Yaml.Kind
import BraceTemplate.Yaml.Node
import BraceTemplate.Yaml.Spot

namespace BraceTemplate.Yaml

def numberOr {α : Type} (f : Fault) : Option α → Except Fault α
  | some a => .ok a
  | none => .error f

-- Whether a number is negative, and its text without the sign and without underscores.
def unsigned (s : Text) : Except Fault (Bool × Text) :=
  match s.filter (· != '_') with
  | [] => .error .emptyNumber
  | '-' :: rest => .ok (true, rest)
  | '+' :: rest => .ok (false, rest)
  | rest => .ok (false, rest)

-- Numbers in base sixty by their parts.
def sixtyInt (parts : List Int) : Int :=
  parts.foldl (fun n part => n * 60 + part) 0

def sixtyFloat (parts : List Float) : Float :=
  (parts.reverse.zipIdx.map fun (x, i) => x * floatOfDecimal (Nat.pow 60 i) 0).foldl (· + ·) 0.0

-- An integer in base two, eight, ten, sixteen or sixty.
def readInteger (s : Text) : Except Fault Int := do
  let (negative, body) ← unsigned s
  let n ← match body with
    | [] => .error .emptyNumber
    | ['0'] => .ok 0
    | '0' :: 'b' :: digits => numberOr .badNumber (readBase? 2 digits)
    | '0' :: 'x' :: digits => numberOr .badNumber (readBase? 16 digits)
    | '0' :: _ => numberOr .badNumber (readBase? 8 body)
    | _ =>
      if body.contains ':' then
        sixtyInt <$> numberOr .badNumber ((body.split ':').mapM readInt?)
      else numberOr .badNumber (readInt? body)
  return if negative then -n else n

def readFloating (s : Text) : Except Fault Float := do
  let (negative, body) ← unsigned (lowerText s)
  let x ←
    if body = ".inf".toList then .ok (1.0 / 0.0)
    else if body = ".nan".toList then .ok (0.0 / 0.0)
    else if body.contains ':' then
      sixtyFloat <$> numberOr .badNumber ((body.split ':').mapM readFloat?)
    else numberOr .badNumber (readFloat? body)
  return if negative then -x else x

-- The value of a scalar of a kind.
def scalarValue (kind : Kind) (s : Text) : Except Fault Scalar :=
  match kind with
  | .null => .ok .null
  | .bool =>
    let word := lowerText s
    match Kind.flags.find? (·.1.toList == word) with
    | some (_, b) => .ok (.bool b)
    | none => .error (.unknownFlag word)
  | .int => return .int (← readInteger s)
  | .float => return .float (← readFloating s)
  | .binary =>
    if s.all (·.toNat < 128) then return .bytes (← numberOr .malformed (Base64.decode? s))
    else .error .malformed
  | .timestamp => do
    let stamp ← numberOr .noDate (Stamp.ofText? (Kind.bare s))
    numberOr .badDate stamp.value?
  | .str => .ok (.str s)
  | _ => .error .malformed

-- A survey of a document: its nodes, which of them were met, the values of the scalars among those, and
-- the collections that are still to be gone into, the last one first. It goes through a document in
-- rounds: what one round meets is gone into in the next one.
structure Surveying where
  nodes : Array Node
  met : Array Bool
  scalars : Array (Option Scalar)
  waiting : List Nat
  deriving Inhabited

abbrev Survey := StateT Surveying (Except Fault)

namespace Survey

def fail {α : Type} (f : Fault) : Survey α :=
  throw f

def node (id : Nat) : Survey Node :=
  return (← get).nodes.getD id default

def setNode (id : Nat) (n : Node) : Survey Unit :=
  modify fun s => { s with nodes := s.nodes.setIfInBounds id n }

-- The entries of a node that is a mapping.
def entries (id : Nat) : Survey (List (Nat × Nat)) := do
  match ← node id with
  | .mapping _ entries => pure entries
  | _ => fail .malformed

def setEntries (id : Nat) (entries : List (Nat × Nat)) : Survey Unit := do
  setNode id (.mapping (← node id).kind entries)

-- Puts the entries of other mappings in front of those of a mapping. They are taken out of the entries
-- that ask for them, from `index` on, and gathered in `taken`. Of several mappings the last goes first.
def merge : (fuel : Nat) → (id index : Nat) → (taken : List (Nat × Nat)) → Survey Unit
  | 0, _, _, _ => fail .malformed
  | fuel + 1, id, index, taken => do
    let all ← entries id
    match all[index]? with
    | none => if taken.isEmpty then pure () else setEntries id (taken ++ all)
    | some (key, value) =>
      match (← node key).kind with
      | .merge =>
        setEntries id (all.eraseIdx index)
        let more ← match ← node value with
          | .sequence _ items => do
            let parts ← items.mapM fun item => do
              let _ ← entries item
              merge fuel item 0 []
              entries item
            pure parts.reverse.flatten
          | _ => do
            let _ ← entries value
            merge fuel value 0 []
            entries value
        merge fuel id index (taken ++ more)
      | .default =>
        match ← node key with
        | .scalar _ text => setNode key (.scalar .str text)
        | .sequence _ items => setNode key (.sequence .str items)
        | .mapping _ entries => setNode key (.mapping .str entries)
        merge fuel id (index + 1) taken
      | _ => merge fuel id (index + 1) taken

-- Merging takes at most so many steps.
def maxMerge : Nat := 1000000

def isCollection (kind : Kind) : Bool :=
  kind = .sequence || kind = .pairs || kind = .mapping || kind = .set

-- The text that a node gives to a scalar. A mapping gives that of the value under its default key.
def textOf : (fuel : Nat) → (id : Nat) → Survey Text
  | 0, _ => fail .malformed
  | fuel + 1, id => do
    match ← node id with
    | .scalar _ text => pure text
    | .sequence .. => fail .malformed
    | .mapping _ entries =>
      match ← entries.findM? fun entry => return (← node entry.1).kind = .default with
      | some (_, value) => textOf fuel value
      | none => fail .malformed

-- Meets a node. A scalar has to be well formed; a collection is gone into later.
def meet (id : Nat) : Survey Unit := do
  if (← get).met.getD id true then pure ()
  else
    let kind := (← node id).kind
    modify fun s => { s with met := s.met.setIfInBounds id true }
    if isCollection kind then modify fun s => { s with waiting := id :: s.waiting }
    else
      let v ← liftM (scalarValue kind (← textOf ((← get).nodes.size + 1) id))
      modify fun s => { s with scalars := s.scalars.setIfInBounds id (some v) }

-- A key has to be a scalar.
def meetKey (id : Nat) : Survey Unit := do
  meet id
  if isCollection (← node id).kind then fail .malformed else pure ()

-- Goes into a collection.
def enter (id : Nat) : Survey Unit := do
  let n ← node id
  match n.kind, n with
  | .sequence, .sequence _ items => items.forM meet
  | .pairs, .sequence _ items => items.forM fun item => do
    match ← entries item with
    | [(key, value)] => do
      meet key
      meet value
    | _ => fail .malformed
  | .sequence, _ => fail .malformed
  | .pairs, _ => fail .malformed
  | _, _ => do
    let _ ← entries id
    merge maxMerge id 0 []
    (← entries id).forM fun (key, value) => do
      meetKey key
      meet value

-- Goes through what is waiting, round by round.
def rounds : (fuel : Nat) → Survey Unit
  | 0 => pure ()
  | fuel + 1 => do
    match (← get).waiting with
    | [] => pure ()
    | waiting =>
      modify fun s => { s with waiting := [] }
      waiting.reverse.forM enter
      rounds fuel

end Survey

-- Surveys a document. Of several faults the one that is nearest to the outermost node is found.
def Document.survey (d : Document) : Except Fault Surveying := do
  let n := d.nodes.size
  let all : Survey Unit := do
    Survey.meet d.root
    Survey.rounds (n + 1)
  let (_, s) ← all.run ⟨d.nodes, .replicate n false, .replicate n none, []⟩
  .ok s

end BraceTemplate.Yaml

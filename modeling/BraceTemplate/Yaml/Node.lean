import BraceTemplate.Yaml.Kind
import BraceTemplate.Yaml.Scan

namespace BraceTemplate.Yaml

-- What a node of a document holds. The nodes within it are given by their numbers, so that one that is
-- met again under an alias is known to be the same.
inductive Node where
  | scalar (kind : Kind) (text : Text)
  | sequence (kind : Kind) (items : List Nat)
  | mapping (kind : Kind) (entries : List (Nat × Nat))
  deriving Inhabited

def Node.kind : Node → Kind
  | .scalar kind _ => kind
  | .sequence kind _ => kind
  | .mapping kind _ => kind

-- The nodes of a document by their numbers, and the number of the outermost one.
structure Document where
  nodes : Array Node
  root : Nat
  deriving Inhabited

-- A reading of tokens: what is left of them, the handles of tags, the nodes under anchors, the nodes
-- that were met, and how many collections may still lie within one another.
structure Reading where
  tokens : List Token
  handles : List (Text × Text)
  anchors : List (Text × Nat)
  nodes : Array Node
  room : Nat
  deriving Inhabited

abbrev Reader := StateT Reading (Except Fault)

namespace Reader

def fail {α : Type} (f : Fault) : Reader α :=
  throw f

def next : Reader Token :=
  return (← get).tokens.headD (.fault .malformed)

def drop : Reader Unit :=
  modify fun r => { r with tokens := r.tokens.tail }

-- A token that fits nowhere.
def refuse {α : Type} : Reader α := do
  match ← next with
  | .fault f => fail f
  | _ => fail .malformed

def expect (t : Token) : Reader Unit := do
  if (← next) = t then drop else refuse

-- The properties of a node: its anchor and its tag, in either order.
structure Properties where
  anchor : Option Text
  tag : Option (Option Text × Text)

def anchor? : Reader (Option Text) := do
  match ← next with
  | .anchor name => drop; pure (some name)
  | _ => pure none

def tag? : Reader (Option (Option Text × Text)) := do
  match ← next with
  | .tag handle suffix => drop; pure (some (handle, suffix))
  | _ => pure none

def properties : Reader Properties := do
  match ← anchor? with
  | some name => return ⟨some name, ← tag?⟩
  | none =>
    match ← tag? with
    | some tag => return ⟨← anchor?, some tag⟩
    | none => pure ⟨none, none⟩

-- The full tag of a node. A lone sign is no tag, but it makes a quoted scalar a plain one.
def fullTag (tag : Option Text × Text) : Reader Text := do
  match tag with
  | (none, suffix) => pure suffix
  | (some handle, suffix) =>
    match (← get).handles.find? (·.1 == handle) with
    | some (_, lead) => pure (lead ++ suffix)
    | none => refuse

def lone : Text := ['!']

def kindOr (kind : Kind) (tag : Option Text) : Kind :=
  match tag with
  | some t => if t = lone then kind else .ofTag t
  | none => kind

def add (node : Node) : Reader Nat :=
  modifyGet fun r => (r.nodes.size, { r with nodes := r.nodes.push node })

def scalarOf (tag : Option Text) (text : Text) (plain : Bool) : Node :=
  let asPlain := (plain && tag.isNone) || tag == some lone
  .scalar (kindOr (if asPlain then .ofPlain text else .str) tag) text

def empty : Reader Nat :=
  add (.scalar .null [])

def bindAnchor (anchor : Option Text) (id : Nat) : Reader Unit :=
  match anchor with
  | some name => modify fun r =>
    { r with anchors := (name, id) :: r.anchors.filter (·.1 != name) }
  | none => pure ()

-- A scalar under an anchor.
def scalar (anchor tag : Option Text) (text : Text) (plain : Bool) : Reader Nat := do
  let id ← add (scalarOf tag text plain)
  bindAnchor anchor id
  pure id

-- A collection. Its anchor is known from within.
def collection (anchor : Option Text) (read : Reader Node) : Reader Nat := do
  let room := (← get).room
  if room = 0 then fail .tooDeep
  let id ← add default
  bindAnchor anchor id
  modify fun r => { r with room := room - 1 }
  let node ← read
  modify fun r => { r with nodes := r.nodes.setIfInBounds id node, room }
  pure id

-- Where a node stands: only outside of brackets may it be a block, and only in a mapping may a
-- sequence go without an indentation of its own.
structure Place where
  block : Bool
  loose : Bool

def inBrackets : Place := ⟨false, false⟩
def inSequence : Place := ⟨true, false⟩
def inMapping : Place := ⟨true, true⟩

def endsValue (t : Token) : Bool :=
  t = .key || t = .value || t = .blockEnd

def endsItem (stop t : Token) : Bool :=
  t = .flowEntry || t = stop

-- A node with properties may have nothing else.
def bare (anchor tag : Option Text) : Reader Nat :=
  if anchor.isNone && tag.isNone then refuse else scalar anchor tag [] tag.isNone

mutual

def node (place : Place) : (fuel : Nat) → Reader Nat
  | 0 => fail .malformed
  | fuel + 1 => do
    match ← next with
    | .alias name =>
      drop
      match (← get).anchors.find? (·.1 == name) with
      | some (_, id) => pure id
      | none => fail .malformed
    | _ =>
      let p ← properties
      let tag ← p.tag.mapM fullTag
      let known := (← get).anchors
      if p.anchor.any fun name => (known.find? (·.1 == name)).isSome then fail .malformed
      content place p.anchor tag fuel

-- What a node holds, after its properties.
def content (place : Place) (anchor tag : Option Text) : (fuel : Nat) → Reader Nat
  | 0 => fail .malformed
  | fuel + 1 => do
    let items (read : Reader (List Nat)) :=
      collection anchor do return .sequence (kindOr .sequence tag) (← read)
    let entries (read : Reader (List (Nat × Nat))) :=
      collection anchor do return .mapping (kindOr .mapping tag) (← read)
    match ← next with
    | .scalar text plain =>
      drop
      scalar anchor tag text plain
    | .flowSequenceStart => drop; items (flowItems true fuel)
    | .flowMappingStart => drop; entries (flowEntries true fuel)
    | .blockEntry => if place.loose then items (looseItems fuel) else bare anchor tag
    | .blockSequenceStart => if place.block then drop; items (blockItems fuel) else bare anchor tag
    | .blockMappingStart => if place.block then drop; entries (blockEntries fuel) else bare anchor tag
    | _ => bare anchor tag

-- A node, or an empty one where something else follows.
def nodeUnless (ends : Token → Bool) (place : Place) : (fuel : Nat) → Reader Nat
  | 0 => fail .malformed
  | fuel + 1 => do if ends (← next) then empty else node place fuel

-- A value, or an empty one where there is no sign for it.
def valueUnless (ends : Token → Bool) (place : Place) : (fuel : Nat) → Reader Nat
  | 0 => fail .malformed
  | fuel + 1 => do
    if (← next) = .value then
      drop
      nodeUnless ends place fuel
    else empty

def blockItems : (fuel : Nat) → Reader (List Nat)
  | 0 => fail .malformed
  | fuel + 1 => do
    if (← next) = .blockEntry then
      drop
      let item ← nodeUnless (fun t => t = .blockEntry || t = .blockEnd) inSequence fuel
      return item :: (← blockItems fuel)
    else
      expect .blockEnd
      pure []

def looseItems : (fuel : Nat) → Reader (List Nat)
  | 0 => fail .malformed
  | fuel + 1 => do
    if (← next) = .blockEntry then
      drop
      let item ← nodeUnless (fun t => t = .blockEntry || endsValue t) inSequence fuel
      return item :: (← looseItems fuel)
    else pure []

def blockEntries : (fuel : Nat) → Reader (List (Nat × Nat))
  | 0 => fail .malformed
  | fuel + 1 => do
    if (← next) = .key then
      drop
      let key ← nodeUnless endsValue inMapping fuel
      let value ← valueUnless endsValue inMapping fuel
      return (key, value) :: (← blockEntries fuel)
    else
      expect .blockEnd
      pure []

-- A key and its value between brackets.
def flowPair (stop : Token) : (fuel : Nat) → Reader (Nat × Nat)
  | 0 => fail .malformed
  | fuel + 1 => do
    drop
    let key ← nodeUnless (fun t => t = .value || endsItem stop t) inBrackets fuel
    let value ← valueUnless (endsItem stop) inBrackets fuel
    pure (key, value)

-- An item of a sequence between brackets; a pair is a mapping of its own.
def flowItem : (fuel : Nat) → Reader Nat
  | 0 => fail .malformed
  | fuel + 1 => do
    if (← next) = .key then
      collection none do return .mapping .mapping [← flowPair .flowSequenceEnd fuel]
    else node inBrackets fuel

def flowEntry : (fuel : Nat) → Reader (Nat × Nat)
  | 0 => fail .malformed
  | fuel + 1 => do
    if (← next) = .key then flowPair .flowMappingEnd fuel
    else
      let key ← node inBrackets fuel
      return (key, ← empty)

def flowItems (first : Bool) : (fuel : Nat) → Reader (List Nat)
  | 0 => fail .malformed
  | fuel + 1 => do
    if !first && (← next) ≠ .flowSequenceEnd then expect .flowEntry
    if (← next) = .flowSequenceEnd then
      drop
      pure []
    else
      let item ← flowItem fuel
      return item :: (← flowItems false fuel)

def flowEntries (first : Bool) : (fuel : Nat) → Reader (List (Nat × Nat))
  | 0 => fail .malformed
  | fuel + 1 => do
    if !first && (← next) ≠ .flowMappingEnd then expect .flowEntry
    if (← next) = .flowMappingEnd then
      drop
      pure []
    else
      let entry ← flowEntry fuel
      return entry :: (← flowEntries false fuel)

end

-- Directives before a document: one version at most, and one lead for each handle.
def directives (versioned : Bool) : (fuel : Nat) → Reader Unit
  | 0 => pure ()
  | fuel + 1 => do
    match ← next with
    | .version major =>
      if versioned || major ≠ 1 then fail .malformed
      drop
      directives true fuel
    | .tagHandle handle lead =>
      let r ← get
      if r.handles.any (·.1 == handle) then fail .malformed
      set { r with handles := r.handles ++ [(handle, lead)] }
      drop
      directives versioned fuel
    | .otherDirective =>
      drop
      directives versioned fuel
    | _ => pure ()

def isDirective : Token → Bool
  | .version _ => true
  | .tagHandle .. => true
  | .otherDirective => true
  | _ => false

def endsDocument (t : Token) : Bool :=
  isDirective t || t = .documentStart || t = .documentEnd || t = .streamEnd

-- What handles stand for unless a directive says otherwise.
def commonHandles : List (Text × Text) := [(['!'], ['!']), (['!', '!'], Kind.tagLead)]

def dropEnds : (fuel : Nat) → Reader Unit
  | 0 => pure ()
  | fuel + 1 => do
    if (← next) = .documentEnd then
      drop
      dropEnds fuel
    else pure ()

-- The only document of a text, if there is one. More than one is a fault.
def document (fuel : Nat) : Reader (Option Nat) := do
  let t ← next
  if t = .streamEnd then return none
  let explicit := isDirective t || t = .documentStart
  if explicit then
    directives false fuel
    expect .documentStart
  modify fun r => { r with handles := r.handles ++ commonHandles }
  let root ← nodeUnless (fun t => explicit && endsDocument t) inSequence fuel
  dropEnds fuel
  expect .streamEnd
  pure (some root)

end Reader

-- Collections lie at most so deep within one another.
def maxDepth : Nat := 488

-- The document that a text holds, if it holds one.
def Document.ofText? (s : Text) : Except Fault (Option Document) := do
  let tokens := tokensOf s
  let (root, r) ← (Reader.document (8 * tokens.length + 8)).run ⟨tokens, [], [], #[], maxDepth⟩
  return root.map (⟨r.nodes, ·⟩)

end BraceTemplate.Yaml

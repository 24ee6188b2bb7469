import BraceTemplate.Host.Grammar
import BraceTemplate.Host.Prepare

namespace BraceTemplate.Host

-- A host template that has been read and made ready to run.
structure Template where
  nodes : List Node
  deriving Inhabited

namespace Template

-- Reads a template. It is made ready before its blocks and names are looked over.
def ofText (source : Text) : Except Error Template := do
  let nodes ← nodesOfText source
  if maxNamedDepth < reachOfNodes Expr.depth nodes then .error .tooDeep
  let nodes ← prepare nodes
  if maxBlockDepth < blockDepthOfAll nodes then .error .tooDeepBlocks
  else if misfitsInNodes nodes || maxBrackets < reachOfNodes Expr.brackets nodes then .error .misfit
  else if maxNesting < nestingOfAll nodes then .error .tooDeep
  else if maxLoopDepth < loopDepthOfAll nodes then .error .tooManyLoops
  else .ok ⟨nodes⟩

def selfName : Text := "self".toList

-- The text that a template puts out.
def body (t : Template) : Run Text := do
  let asksSelf := readsFirst selfName t.nodes
  let slots := Slots.declared .bound (if asksSelf then [selfName] else [])
  let slots := slots.visitAll (fun _ => false) false t.nodes
  let frame : Frame := ⟨← Run.newHome, 0, slots.entries⟩
  if asksSelf then Run.setName frame selfName (some .self)
  Run.enter [frame]
  Run.execAll [frame] t.nodes

-- The outcome for data, and the store that it leaves behind.
def run (t : Template) (data : List (Text × Value)) (s : Store) : Except Error Text × Store :=
  (t.body.run (.ofDepth data maxCallDepth)).run.run s

end Template

end BraceTemplate.Host

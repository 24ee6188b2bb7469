import BraceTemplate.Number.Digits
import BraceTemplate.Tag.Basic
import BraceTemplate.Tag.Clause
import BraceTemplate.Text.Case
import BraceTemplate.Text.Quoted

namespace BraceTemplate

namespace Host

def statementOpen : Text := "<?py".toList
def statementClose : Text := "?>".toList
def outputOpen : Text := "<?=".toList
def outputClose : Text := "=?>".toList
def commentOpen : Text := "<?#".toList
def commentClose : Text := "#?>".toList

def statement (body : Text) : Text :=
  statementOpen ++ ' ' :: body ++ ' ' :: statementClose

def output (expr : Text) : Text :=
  outputOpen ++ ' ' :: expr ++ ' ' :: outputClose

def escaped (expr : Text) : Text :=
  output ('(' :: expr ++ ") | e".toList)

end Host

namespace Tag

def loopHead : LoopClause → Text
  | .plain clause => clause
  | .values iterable target => target ++ " in (".toList ++ iterable ++ ") | values".toList
  | .pairs iterable key value =>
    key ++ ", ".toList ++ value ++ " in (".toList ++ iterable ++ ") | pairs".toList

-- The statement that a block starts with. A keyword that is none of the three others chooses
-- among cases: the subject and whether a case was taken are kept under one name.
def openBlock (keyword subject : Text) : Text :=
  if keyword = "foreach".toList then
    Host.statement ("for ".toList ++ loopHead (LoopClause.ofText subject))
  else if keyword = "for".toList then Host.statement ("for ".toList ++ Sigil.strip subject)
  else if keyword = "if".toList then
    Host.statement ("if (".toList ++ Sigil.strip subject ++ [')'])
  else
    Host.statement ("with _switch = namespace(subject=(".toList ++ Sigil.strip subject ++
      "), done=false)".toList)

def closeBlock? (keyword : Text) : Option Text :=
  if keyword = "foreach".toList ∨ keyword = "for".toList then some "endfor".toList
  else if keyword = "if".toList then some "endif".toList
  else if keyword = "function".toList then some "endmacro".toList
  else if keyword = "switch".toList then some "endwith".toList
  else none

def hostStatement : Statement → Text
  | .update target operator value =>
    "set ".toList ++ target ++ " = ".toList ++ target ++ ' ' :: operator ++ " (".toList ++ value ++
      [')']
  | .set body => "set ".toList ++ body
  | .perform body => "do ".toList ++ body

def preformatted (expr filter : Text) : Text :=
  "<pre>".toList ++ Host.output ('(' :: expr ++ ") | ".toList ++ filter ++ " | e".toList) ++
    "</pre>".toList

def markDone : Text := Host.statement "set _switch.done = true".toList

-- A segment of digits is an index, any other a key.
def subscript (segment : Text) : Except TagError Text :=
  if segment.all isDigitLike then
    match readNumeral? segment with
    | some n => .ok ('[' :: natText n ++ [']'])
    | none => .error (.badIndex segment)
  else .ok ('[' :: Quoted.text segment ++ [']'])

def subscripts : List Text → Except TagError Text
  | [] => .ok []
  | segment :: rest => do
    let first ← subscript segment
    let others ← subscripts rest
    .ok (first ++ others)

-- The host text that a tag stands for. Insertions are left to the compiler.
def rewrite : Tag → Except TagError Text
  | .opening spelling subject => .ok (openBlock (lowerText spelling) subject)
  | .define signature => .ok (Host.statement ("macro ".toList ++ Sigil.strip signature))
  | .statement body => .ok (Host.statement (hostStatement (Statement.ofText (Sigil.strip body))))
  | .dump expr => .ok (preformatted (Sigil.strip expr) "dump".toList)
  | .print expr => .ok (preformatted (Sigil.strip expr) "pformat".toList)
  | .echo expr => .ok (Host.output (Sigil.strip expr))
  | .case expr =>
    .ok (Host.statement ("if not _switch.done and _switch.subject == (".toList ++ Sigil.strip expr ++
      [')']) ++ markDone)
  | .fallback => .ok (Host.statement "if not _switch.done".toList ++ markDone)
  | .enter => .ok (Host.statementOpen ++ [' '])
  | .leave => .ok (' ' :: Host.statementClose)
  | .closing spelling =>
    match closeBlock? (lowerText spelling) with
    | some body => .ok (Host.statement body)
    | none => .error (.unknownBlock (lowerText spelling))
  | .closingBranch => .ok (Host.statement "endif".toList)
  | .elseif expr => .ok (Host.statement ("elif (".toList ++ Sigil.strip expr ++ [')']))
  | .otherwise => .ok (Host.statement "else".toList)
  | .insertion _ => .ok []
  | .path head segments => do
    let keys ← subscripts segments
    .ok (Host.output ('(' :: Sigil.strip head ++ ')' :: keys ++ " | e".toList))
  | .interpolation expr => .ok (Host.escaped (Sigil.strip expr))
  | .merge => .ok (Host.statementClose ++ Host.statementOpen)

end Tag

end BraceTemplate

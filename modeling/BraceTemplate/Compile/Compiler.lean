import BraceTemplate.Compile.Extension
import BraceTemplate.Source.Resolver
import BraceTemplate.Tag.Recognise
import BraceTemplate.Tag.Rewrite
import BraceTemplate.Tag.Vault

namespace BraceTemplate

-- Why a template cannot be compiled.
inductive CompileError where
  | unreadable (cause : ReadError)
  | tooDeep (reference : Text) (limit : Int)
  | outOfRoom
  | badTag (cause : TagError)
  | badReplacement (cause : ReplacementError)
  deriving DecidableEq

-- The text of an error, for those that have one of their own.
def CompileError.message? : CompileError → Option Text
  | .unreadable cause => cause.message?
  | .tooDeep reference limit =>
    some ("include of \"".toList ++ reference ++ "\" exceeds the maximum depth of ".toList ++
      intText limit)
  | .outOfRoom => none
  | .badTag (.unknownBlock keyword) => some (Quoted.text keyword)
  | .badTag (.badIndex _) => none
  | .badReplacement _ => none

-- What tags are compiled with: where insertions are found and how deep they may nest, the rules
-- added to the tags, and how deep insertions can nest at all, whatever is allowed.
structure Compiler where
  resolver : Resolver
  maxDepth : Int
  extensions : List Extension
  room : Nat
  deriving Inhabited

def defaultMaxDepth : Int := 32

def defaultRoom : Nat := 196

-- A compilation keeps the literal blocks met so far, those of insertions among them.
abbrev CompileM := StateT Vault (Except CompileError)

namespace Compiler

def extend (c : Compiler) (e : Extension) : Compiler :=
  { c with extensions := c.extensions ++ [e] }

-- The host text of a tag; `insert` compiles the texts behind a list of references.
def rewriteTag (insert : List Text → CompileM Text) : Tag → CompileM Text
  | .insertion list => insert (Reference.ofList list)
  | tag => liftM (tag.rewrite.mapError CompileError.badTag)

-- Rewrites the tags of one kind, from the left.
def rewriteKind (insert : List Text → CompileM Text) (s : Text) (find : Recogniser Tag) :
    CompileM Text :=
  Piece.assemble (rewriteTag insert) (Piece.scan find s)

def rewriteExtension (s : Text) (e : Extension) : CompileM Text :=
  Piece.assemble (fun found => liftM ((e.replace found).mapError CompileError.badReplacement))
    (Pattern.scan e.mode e.pattern s)

-- Takes the literal blocks out, rewrites one kind of tag after the other over the whole text, and
-- applies the extensions in order.
def rewriteWith (c : Compiler) (insert : List Text → CompileM Text) (s : Text) : CompileM Text := do
  let (bare, vault) := (← get).protect s
  set vault
  let text ← Tag.recognisers.foldlM (rewriteKind insert) bare
  c.extensions.foldlM rewriteExtension text

-- The texts behind references, one after the other.
def readAll (c : Compiler) (fs : FileSystem) : List Text → Except ReadError Text
  | [] => .ok []
  | reference :: rest => do
    let first ← c.resolver.read fs reference
    let others ← readAll c fs rest
    .ok (first ++ others)

-- Why insertions cannot nest any deeper: it is not allowed, or else there is no room.
def depthError (c : Compiler) (references : List Text) : CompileError :=
  if c.maxDepth ≤ c.room then .tooDeep (Text.join [','] references) c.maxDepth else .outOfRoom

-- Rewrites a text whose insertions may nest `depth` levels deep.
def rewriteAt (c : Compiler) (fs : FileSystem) : (depth : Nat) → Text → CompileM Text
  | 0, s => c.rewriteWith (fun references => throw (c.depthError references)) s
  | depth + 1, s =>
    c.rewriteWith
      (fun references => do
        let source ← liftM ((c.readAll fs references).mapError CompileError.unreadable)
        rewriteAt c fs depth source)
      s

-- The host text of a template. Literal blocks come back when everything else is done.
def compile (c : Compiler) (fs : FileSystem) (source : Text) : Except CompileError Text := do
  let (text, vault) ← (c.rewriteAt fs (min c.maxDepth.toNat c.room) source).run .empty
  .ok (vault.restore text)

end Compiler

end BraceTemplate

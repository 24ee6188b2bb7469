import BraceTemplate.Digest.Md5
import BraceTemplate.Text.Caseless
import BraceTemplate.Text.Escape
import BraceTemplate.Text.Piece

namespace BraceTemplate

-- What stands for a literal block while tags are rewritten.
def placeholder (content : Text) : Text :=
  "#literal:".toList ++ Md5.ofText content ++ ['#']

-- The literal blocks taken out of a text, each under its placeholder and already escaped, in the
-- order in which they were first met.
structure Vault where
  blocks : List (Text × Text)
  deriving Inhabited

namespace Vault

def empty : Vault := ⟨[]⟩

def size (v : Vault) : Nat :=
  v.blocks.length

def insertBlock (key content : Text) : List (Text × Text) → List (Text × Text)
  | [] => [(key, content)]
  | (k, old) :: rest =>
    if k = key then (k, content) :: rest else (k, old) :: insertBlock key content rest

def put (v : Vault) (content : Text) : Vault :=
  ⟨insertBlock (placeholder content) (escape content) v.blocks⟩

-- The text before the first closing tag and the text after it.
def closeBlock : Text → Option (Text × Text)
  | [] => none
  | c :: rest =>
    match takeWord "\x7b/literal\x7d".toList (c :: rest) with
    | some (_, tail) => some ([], tail)
    | none => (closeBlock rest).map fun (body, tail) => (c :: body, tail)

-- A literal block, with its content.
def find : Recogniser Text
  | _, '\x7b' :: rest => do
    let (_, body) ← takeWord "literal\x7d".toList rest
    closeBlock body
  | _, _ => none

-- Takes the literal blocks out of a text, placeholders in their stead.
def protect (v : Vault) (s : Text) : Text × Vault :=
  (Piece.scan find s).foldr
    (fun piece (text, put) =>
      match piece with
      | .char c => (c :: text, put)
      | .hit content => (placeholder content ++ text, content :: put))
    ([], [])
  |> fun (text, contents) => (text, contents.foldl Vault.put v)

-- Puts the blocks back, one after the other.
def restore (v : Vault) (s : Text) : Text :=
  v.blocks.foldl (fun text (key, content) => Text.replaceAll key content text) s

end Vault

end BraceTemplate

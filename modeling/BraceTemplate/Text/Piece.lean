import BraceTemplate.Text.Basic

namespace BraceTemplate

-- What a scan of a text finds: a recognised part, or a character that belongs to none.
inductive Piece (α : Type) where
  | char (c : Char)
  | hit (value : α)

-- A recogniser looks at the character before a place, if that belongs to no part, and at the text from
-- there on; it answers with what stands there and the text that follows it.
abbrev Recogniser (α : Type) :=
  Option Char → Text → Option (α × Text)

namespace Piece

variable {α : Type}

-- Cuts a text into pieces, the leftmost part first and no two parts overlapping. Every piece takes up one
-- character at least.
def scanFrom (find : Recogniser α) : (fuel : Nat) → Option Char → Text → List (Piece α)
  | _, _, [] => []
  | 0, _, _ :: _ => []
  | fuel + 1, before, c :: rest =>
    match find before (c :: rest) with
    | some (value, after) => .hit value :: scanFrom find fuel none after
    | none => .char c :: scanFrom find fuel (some c) rest

def scan (find : Recogniser α) (s : Text) : List (Piece α) :=
  scanFrom find s.length none s

-- Puts the pieces together again, every part replaced by what `emit` gives for it.
def assemble {m : Type → Type} [Monad m] (emit : α → m Text) : List (Piece α) → m Text
  | [] => pure []
  | .char c :: rest => do
    let tail ← assemble emit rest
    pure (c :: tail)
  | .hit value :: rest => do
    let head ← emit value
    let tail ← assemble emit rest
    pure (head ++ tail)

end Piece

end BraceTemplate

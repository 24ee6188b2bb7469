import BraceTemplate.Text.CharName
import BraceTemplate.Text.Hex
import BraceTemplate.Text.Quoted
import BraceTemplate.Text.Basic

namespace BraceTemplate.Host

-- The character of a name between braces, and how many characters it takes with the letter before it.
def named? : Text → Option (Text × Nat)
  | '\x7b' :: rest => do
    let (name, _) ← Text.cutAt '\x7d' rest
    let c ← CharName.find? name
    some ([c], name.length + 3)
  | _ => none

-- What an escape stands for, the backslash being read already, and how many characters it takes.
-- A backslash before any other character stands for itself.
def escapeValue? : Text → Option (Text × Nat)
  | [] => none
  | c :: rest =>
    match c with
    | '\n' => some ([], 1)
    | '\\' => some (['\\'], 1)
    | '\'' => some (['\''], 1)
    | '"' => some (['"'], 1)
    | 'a' => some (['\x07'], 1)
    | 'b' => some (['\x08'], 1)
    | 'f' => some (['\x0c'], 1)
    | 'n' => some (['\n'], 1)
    | 'r' => some (['\r'], 1)
    | 't' => some (['\t'], 1)
    | 'v' => some (['\x0b'], 1)
    | 'x' => (hexChar? 2 rest).map fun d => ([d], 3)
    | 'u' => (hexChar? 4 rest).map fun d => ([d], 5)
    | 'U' => (hexChar? 8 rest).map fun d => ([d], 9)
    | 'N' => named? rest
    | c =>
      if isOctalDigit c then
        let digits := ((c :: rest).take 3).takeWhile isOctalDigit
        some ([Char.ofNat (octalValue digits)], digits.length)
      else some (['\\', c], 1)

-- Replaces escapes; `skip` characters belong to one already replaced.
def unescapeFrom : (skip : Nat) → Text → Option Text
  | _, [] => some []
  | skip + 1, _ :: rest => unescapeFrom skip rest
  | 0, c :: rest =>
    if c = '\\' then do
      let (value, used) ← escapeValue? rest
      let tail ← unescapeFrom used rest
      some (value ++ tail)
    else (unescapeFrom 0 rest).map (c :: ·)

-- The text of a string literal between its quotes. Characters outside of ASCII are put into escapes
-- first, so a backslash before one of them takes the backslash of its escape.
def unescape? (body : Text) : Option Text :=
  unescapeFrom 0 (body.flatMap fun c =>
    if c.toNat < 128 then [c] else Quoted.codeEscape c.toNat)

-- The body of a string literal up to its closing quote, and what follows.
def closeString (quote : Char) : Text → Option (Text × Text)
  | [] => none
  | '\\' :: [] => none
  | '\\' :: c :: rest =>
    (closeString quote rest).map fun (body, tail) => ('\\' :: c :: body, tail)
  | c :: rest =>
    if c = quote then some ([], rest)
    else (closeString quote rest).map fun (body, tail) => (c :: body, tail)

end BraceTemplate.Host

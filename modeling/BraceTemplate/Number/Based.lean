import BraceTemplate.Number.Digits

namespace BraceTemplate

-- The value of a digit or letter, when it is below the base.
def digitBelow? (base : Nat) (c : Char) : Option Nat :=
  let value :=
    match digitValue? c with
    | some n => some n
    | none =>
      let l := c.toLower
      if 'a' ≤ l && l ≤ 'z' then some (l.toNat - 87) else none
  value.filter (· < base)

-- The base that a letter after a leading zero announces.
def announcedBase? (c : Char) : Option Nat :=
  match c.toLower with
  | 'x' => some 16
  | 'o' => some 8
  | 'b' => some 2
  | _ => none

-- The digits of a base, single underscores between them.
def readBody? (base : Nat) (body : Text) : Option Nat :=
  if body.isEmpty || body.head? = some '_' then none
  else (dropUnderscores? body).bind fun digits =>
    digits.foldlM (fun n d => (digitBelow? base d).map (n * base + ·)) 0

-- Digits that may be announced, one underscore following the letter. A base of zero is the announced
-- one, or else ten without leading zeros.
def readAnnounced? (base : Nat) (body : Text) : Option Nat :=
  let plain := fun (body : Text) =>
    if base = 0 then (readNumeral? body).filter fun n => n = 0 || body.head? ≠ some '0'
    else readBody? base body
  match body with
  | '0' :: c :: rest =>
    match announcedBase? c with
    | some announced =>
      if base = 0 || base = announced then
        readBody? announced (if rest.head? = some '_' then rest.drop 1 else rest)
      else plain body
    | none => plain body
  | body => plain body

-- An integer in a base of two to thirty-six, or zero, with blanks around it and a sign before it
-- allowed.
def readBase? (base : Nat) (s : Text) : Option Int :=
  if base = 1 || 36 < base then none
  else
    match trimNumeral s with
    | '-' :: rest => (readAnnounced? base rest).map fun n => -(n : Int)
    | '+' :: rest => (readAnnounced? base rest).map fun n => (n : Int)
    | rest => (readAnnounced? base rest).map fun n => (n : Int)

end BraceTemplate

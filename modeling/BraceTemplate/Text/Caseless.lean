import BraceTemplate.Text.Basic

namespace BraceTemplate

-- Whether `c` stands for the lower-case letter `letter` when case is ignored. Besides the capital
-- these are the long s, the two dotted and dotless forms of i, and the Kelvin sign.
def sameLetter (letter c : Char) : Bool :=
  c == letter || c.toLower == letter ||
    (letter == 's' && c == 'ſ') ||
    (letter == 'i' && (c == 'İ' || c == 'ı')) ||
    (letter == 'k' && c.toNat == 0x212A)

-- Takes `word`, written in lower case, off the front in any spelling of it.
def takeWord : (word s : Text) → Option (Text × Text)
  | [], s => some ([], s)
  | _ :: _, [] => none
  | letter :: word, c :: s =>
    if sameLetter letter c then
      (takeWord word s).map fun (spelling, rest) => (c :: spelling, rest)
    else none

-- The first of several words that stands at the front.
def takeFirstWord (words : List Text) (s : Text) : Option (Text × Text) :=
  words.findSome? (takeWord · s)

end BraceTemplate

import BraceTemplate.Text.Basic

namespace BraceTemplate

-- The entity that stands for a character with a meaning in markup.
def escapeChar (c : Char) : Text :=
  match c with
  | '&' => "&amp;".toList
  | '<' => "&lt;".toList
  | '>' => "&gt;".toList
  | '"' => "&#34;".toList
  | '\'' => "&#39;".toList
  | c => [c]

-- Text made safe for markup: the five characters with a meaning become entities.
def escape (s : Text) : Text :=
  s.flatMap escapeChar

end BraceTemplate

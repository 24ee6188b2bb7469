import BraceTemplate.Text.Basic

namespace BraceTemplate

-- What a template may hold between braces, with the texts that vary. A `spelling` is the keyword
-- as it was written. The last two stand for what is not written as a tag: `merge` for the white
-- space between two host statements.
inductive Tag where
  | opening (spelling subject : Text)
  | define (signature : Text)
  | statement (body : Text)
  | dump (expr : Text)
  | print (expr : Text)
  | echo (expr : Text)
  | case (expr : Text)
  | fallback
  | enter
  | leave
  | closing (spelling : Text)
  | closingBranch
  | elseif (expr : Text)
  | otherwise
  | insertion (list : Text)
  | path (head : Text) (segments : List Text)
  | interpolation (expr : Text)
  | merge
  deriving DecidableEq, Inhabited

-- Why a tag has no meaning: its keyword closes no block, or its segment is no index.
inductive TagError where
  | unknownBlock (keyword : Text)
  | badIndex (segment : Text)
  deriving DecidableEq

end BraceTemplate

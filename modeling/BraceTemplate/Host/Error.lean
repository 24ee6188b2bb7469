import BraceTemplate.Text.Basic

namespace BraceTemplate.Host

-- Why a host template cannot be read or run. The first ones belong to reading: values that are passed
-- under one name or bounds where none can stand, digits of a script that numbers with a point do not
-- take, too many loops or blocks within one another. `unprepared` is found when a template is prepared.
-- `noNumeral` is a number that is asked for and has none.
inductive Error where
  | malformed
  | misfit
  | foreignDigits
  | tooManyLoops
  | tooDeepBlocks
  | unprepared (message : Text)
  | undefined (message : Text)
  | forbidden (message : Text)
  | refused (message : Text)
  | badFilterArgument (message : Text)
  | wrongType
  | wrongValue
  | divisionByZero
  | noNumeral
  | tooLarge
  | noItem
  | noKey (key : Text)
  | noAttribute
  | changedWhileRead
  | tooDeep
  | endless
  deriving DecidableEq, Inhabited

-- The text of an error, for those that have one of their own.
def Error.message? : Error → Option Text
  | .unprepared message => some message
  | .undefined message => some message
  | .forbidden message => some message
  | .refused message => some message
  | .badFilterArgument message => some message
  | .noKey key => some key
  | _ => none

end BraceTemplate.Host

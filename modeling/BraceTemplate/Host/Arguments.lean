import BraceTemplate.Host.Arithmetic
import BraceTemplate.Text.Case

namespace BraceTemplate.Host

namespace Passed

def none : Passed := ⟨[], []⟩

def bindRest (named : List (Text × Value)) : List String → List (Option Value)
  | [] => []
  | p :: rest => (named.find? (·.1 == p.toList)).map (·.2) :: bindRest named rest

-- The values of the parameters in order, those not passed left out. Too many values and names that
-- belong to no free parameter are refused.
def bind (p : Passed) (parameters : List String) : Run (List (Option Value)) :=
  let free := parameters.drop p.args.length
  if parameters.length < p.args.length ∨
      p.named.any (fun n => !free.any fun f => f.toList == n.1) then
    Run.fail .wrongType
  else pure (p.args.map some ++ bindRest p.named free)

-- The values of a call without names, of which there are `least` to `most`.
def plain (p : Passed) (least most : Nat) : Run (List Value) :=
  if p.named.isEmpty && least ≤ p.args.length && p.args.length ≤ most then pure p.args
  else Run.fail .wrongType

end Passed

namespace Run

-- A result for which nothing must be passed.
def bare {α : Type} (p : Passed) (result : Run α) : Run α :=
  if p.args.isEmpty && p.named.isEmpty then result else fail .wrongType

-- The text of a value that must be one.
def asText (v : Value) : Run Text :=
  match v with
  | .scalar (.str s) => pure s
  | .scalar (.safe s) => pure s
  | _ => fail .wrongType

def asIndex (v : Value) : Run Int :=
  match index? v with
  | some i => pure i
  | none => fail .wrongType

-- An index that fits into the range that positions are counted in.
def asSize (v : Value) : Run Int := do
  let i ← asIndex v
  if -(repetitionBound : Int) ≤ i ∧ i < repetitionBound then pure i else fail .tooLarge

-- The steps by which an attribute is reached: names, and positions where a step is all digits.
def attributeSteps (v : Value) : Run (List Value) := do
  match v with
  | .scalar .null => pure []
  | .scalar (.str s) => (Text.split '.' s).mapM (stepOf .str)
  | .scalar (.safe s) => (Text.split '.' s).mapM (stepOf fun part => .scalar (.safe part))
  | v => pure [v]
where
  stepOf (like : Text → Value) (s : Text) : Run Value :=
    if !s.isEmpty && s.all isDigitLike then
      match readInt? s with
      | some i => pure (.int i)
      | none => fail .wrongValue
    else pure (like s)

-- Follows steps from a value; a value in the stead of absent ones may be given.
def follow (fallback : Option Value) : List Value → Value → Run Value
  | [], v => pure v
  | step :: rest, v => do
    let next ← getItem v step
    match next, fallback with
    | .absent _, some f => follow fallback rest f
    | next, _ => follow fallback rest next

-- Texts in lower case; anything else as it is.
def ignoringCase (v : Value) : Value :=
  match v with
  | .scalar (.str s) => .str (lowerText s)
  | .scalar (.safe s) => .scalar (.safe (lowerText s))
  | v => v

end Run

end BraceTemplate.Host

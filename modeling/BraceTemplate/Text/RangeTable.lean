namespace BraceTemplate

-- A set of characters by its boundaries, in ascending order: the first number starts a range of
-- members, the second ends it, and so on in turn.
structure RangeTable where
  bounds : Array Nat

namespace RangeTable

-- How many entries of `bounds[lo:hi]` are at most `n`, plus `lo`, when the entries ascend.
def countUpTo (bounds : Array Nat) (n lo hi : Nat) : Nat :=
  if h : lo < hi then
    let mid := (lo + hi) / 2
    if bounds.getD mid 0 ≤ n then countUpTo bounds n (mid + 1) hi else countUpTo bounds n lo mid
  else lo
termination_by hi - lo

-- A member lies past an odd number of boundaries.
def contains (table : RangeTable) (c : Char) : Bool :=
  countUpTo table.bounds c.toNat 0 table.bounds.size % 2 == 1

end RangeTable

end BraceTemplate

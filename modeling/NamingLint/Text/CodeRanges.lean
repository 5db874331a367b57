
namespace NamingLint.Text

abbrev CodeRanges := Array (Nat × Nat)

namespace CodeRanges

def containsIn (rs : CodeRanges) (n lo hi : Nat) : Bool :=
  if lo < hi then
    let mid := (lo + hi) / 2
    match rs[mid]? with
    | some (a, b) =>
      if n < a then rs.containsIn n lo mid
      else if b < n then rs.containsIn n (mid + 1) hi
      else true
    | none => false
  else false
termination_by hi - lo

/-- Whether `n` lies in one of the ranges. -/
def contains (rs : CodeRanges) (n : Nat) : Bool := rs.containsIn n 0 rs.size

end CodeRanges

end NamingLint.Text

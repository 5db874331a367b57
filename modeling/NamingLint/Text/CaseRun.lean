
namespace NamingLint.Text

/-- The code points `lo, lo + step, lo + 2 * step, …` up to `hi`, each mapped to itself plus
`shift`. -/
structure CaseRun where
  lo : Nat
  hi : Nat
  step : Nat
  shift : Int

namespace CaseRun

def covers (r : CaseRun) (n : Nat) : Bool :=
  r.lo ≤ n && n ≤ r.hi && (n - r.lo) % r.step == 0

def image (r : CaseRun) (n : Nat) : Nat := (n + r.shift).toNat

def findIn (rs : Array CaseRun) (n lo hi : Nat) : Option CaseRun :=
  if lo + 1 < hi then
    let mid := (lo + hi) / 2
    match rs[mid]? with
    | some r => if n < r.lo then findIn rs n lo mid else findIn rs n mid hi
    | none => none
  else
    match rs[lo]? with
    | some r => if r.covers n then some r else none
    | none => none
termination_by hi - lo

def find? (rs : Array CaseRun) (n : Nat) : Option Nat :=
  (findIn rs n 0 rs.size).map (·.image n)

def mapChar (rs : Array CaseRun) (expansions : List (Nat × List Nat)) (c : Char) : List Char :=
  match expansions.lookup c.toNat with
  | some cs => cs.map Char.ofNat
  | none =>
    match find? rs c.toNat with
    | some m => [Char.ofNat m]
    | none => [c]

end CaseRun

end NamingLint.Text


namespace NamingLint.Cli

structure Fraction where
  num : Nat
  den : Nat
  deriving DecidableEq, Repr

def Fraction.lt (x y : Fraction) : Bool := x.num * y.den < y.num * x.den

def firstMatch (c : Char) (lo hi j : Nat) : List Char → List Bool → Option Nat
  | b :: bs, f :: fs =>
    if j < hi && lo ≤ j && b == c && !f then some j else firstMatch c lo hi (j + 1) bs fs
  | _, _ => none

def markMatches (b : List Char) (window i : Nat) (flags : List Bool) :
    List Char → List Bool × List Bool
  | [] => ([], flags)
  | c :: cs =>
    match firstMatch c (i - window) (min b.length (i + window + 1)) 0 b flags with
    | some j =>
      let (marks, final) := markMatches b window (i + 1) (flags.set j true) cs
      (true :: marks, final)
    | none =>
      let (marks, final) := markMatches b window (i + 1) flags cs
      (false :: marks, final)

def marked (cs : List Char) (marks : List Bool) : List Char :=
  ((cs.zip marks).filter (·.2)).map (·.1)

/-- The Jaro similarity of two texts, as a fraction. -/
def jaro (a b : List Char) : Fraction :=
  if a.isEmpty && b.isEmpty then ⟨1, 1⟩
  else
    let window := max a.length b.length / 2 - 1
    let (aMarks, bMarks) := markMatches b window 0 (List.replicate b.length false) a
    let aSeq := marked a aMarks
    let bSeq := marked b bMarks
    let m := aSeq.length
    let t := ((aSeq.zip bSeq).filter fun p => p.1 != p.2).length / 2
    if m = 0 then ⟨0, 1⟩
    else ⟨m * b.length * m + m * a.length * m + (m - t) * a.length * b.length,
      3 * a.length * b.length * m⟩

def similarityThreshold : Fraction := ⟨7, 10⟩

def similarNames (typed : String) (names : List String) : List String :=
  let scored := (names.map fun n => (jaro typed.toList n.toList, n)).filter
    fun p => similarityThreshold.lt p.1
  (scored.mergeSort fun x y => !y.1.lt x.1).map (·.2)

/-- The name most like `typed`, if any resembles it; of names equally similar, the last. -/
def mostSimilar (typed : String) (names : List String) : Option String :=
  (similarNames typed names).getLast?

end NamingLint.Cli

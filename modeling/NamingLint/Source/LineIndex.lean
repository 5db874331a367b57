/-!
# Lines and columns

A line index maps a byte offset of a text to a 1-based line and column. Lines start at offset 0
and after every line feed; the line of an offset is the last line that starts at or before it,
even past the end of the text. In an ASCII text the column is the byte distance from the line's
start plus one. Otherwise it is the number of characters from the line's start to the offset (or
to the end of the text, if the offset is past it) plus one, and `1` when either end of that
stretch falls inside a character.
-/

namespace NamingLint.Source

structure Position where
  line : Nat
  column : Nat
  deriving DecidableEq, Repr

/-- The starts of the lines of a text, with its bytes. -/
structure LineIndex where
  bytes : ByteArray
  lineStarts : Array Nat
  ascii : Bool

namespace LineIndex

def startsFrom (bytes : ByteArray) (i : Nat) (acc : Array Nat) : Array Nat :=
  if h : i < bytes.size then
    startsFrom bytes (i + 1) (if bytes[i] = 10 then acc.push (i + 1) else acc)
  else acc
termination_by bytes.size - i

def ofString (s : String) : LineIndex :=
  let bytes := s.toUTF8
  { bytes, lineStarts := startsFrom bytes 0 #[0], ascii := s.toList.all fun c => c.toNat < 0x80 }

def lineCount (idx : LineIndex) : Nat := idx.lineStarts.size

/-- The number of line starts with index in `[lo, hi)` at or before `offset`, plus `lo`,
when those at indices below `lo` are all at or before it and those from `hi` on after it. -/
def countUpTo (starts : Array Nat) (offset lo hi : Nat) : Nat :=
  if lo < hi then
    let mid := (lo + hi) / 2
    if starts[mid]?.getD 0 ≤ offset then countUpTo starts offset (mid + 1) hi
    else countUpTo starts offset lo mid
  else lo
termination_by hi - lo

def lineOf (idx : LineIndex) (offset : Nat) : Nat :=
  countUpTo idx.lineStarts offset 0 idx.lineStarts.size - 1

/-- Whether a character starts at byte `i`, or `i` is the end of the text. -/
def isBoundary (bytes : ByteArray) (i : Nat) : Bool :=
  if h : i < bytes.size then bytes[i] < 0x80 || bytes[i] ≥ 0xC0 else i = bytes.size

def charsBetween (bytes : ByteArray) (i stop : Nat) : Nat :=
  if h : i < stop ∧ i < bytes.size then
    (if bytes[i] < 0x80 || bytes[i] ≥ 0xC0 then 1 else 0) + charsBetween bytes (i + 1) stop
  else 0
termination_by stop - i

/-- The 1-based line and column of a byte offset. -/
def position (idx : LineIndex) (offset : Nat) : Position :=
  let line := idx.lineOf offset
  let start := idx.lineStarts[line]?.getD 0
  let column :=
    if idx.ascii then offset - start
    else
      let stop := min offset idx.bytes.size
      if isBoundary idx.bytes start && isBoundary idx.bytes stop then
        charsBetween idx.bytes start stop
      else 0
  ⟨line + 1, column + 1⟩

end LineIndex

end NamingLint.Source

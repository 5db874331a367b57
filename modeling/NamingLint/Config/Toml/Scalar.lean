
namespace NamingLint.Toml

def digitValue? (radix : Nat) (c : Char) : Option Nat :=
  let v :=
    if c.isDigit then some (c.toNat - '0'.toNat)
    else if 'a' ≤ c && c ≤ 'z' then some (c.toNat - 'a'.toNat + 10)
    else if 'A' ≤ c && c ≤ 'Z' then some (c.toNat - 'A'.toNat + 10)
    else none
  v.filter (· < radix)

def isDigitIn (radix : Nat) (c : Char) : Bool := (digitValue? radix c).isSome

def isUnderscored (radix : Nat) : List Char → Bool
  | [] => false
  | c :: cs => isDigitIn radix c && rest cs
where
  rest : List Char → Bool
    | [] => true
    | '_' :: d :: cs => isDigitIn radix d && rest cs
    | d :: cs => isDigitIn radix d && rest cs

def digitsValue (radix : Nat) (cs : List Char) : Nat :=
  cs.foldl (fun acc c => match digitValue? radix c with
    | some d => acc * radix + d
    | none => acc) 0

def isUnsignedDecimal (cs : List Char) : Bool :=
  cs = ['0'] || (cs.head? != some '0' && isUnderscored 10 cs)

def splitSign : List Char → Bool × List Char
  | '-' :: cs => (true, cs)
  | '+' :: cs => (false, cs)
  | cs => (false, cs)

def maxInteger : Nat := Nat.pow 2 63 - 1

/-- The integer an atom writes, if it is one that fits in 64 signed bits. -/
def integer? (cs : List Char) : Option Int :=
  let based (radix : Nat) (ds : List Char) : Option Int :=
    if isUnderscored radix ds && digitsValue radix ds ≤ maxInteger then
      some (digitsValue radix ds)
    else none
  match cs with
  | '0' :: 'x' :: ds => based 16 ds
  | '0' :: 'o' :: ds => based 8 ds
  | '0' :: 'b' :: ds => based 2 ds
  | _ =>
    let (negative, ds) := splitSign cs
    if !isUnsignedDecimal ds then none
    else
      let n := digitsValue 10 ds
      if negative then (if n ≤ maxInteger + 1 then some (-(n : Int)) else none)
      else if n ≤ maxInteger then some n else none

def isExponent (cs : List Char) : Bool := isUnderscored 10 (splitSign cs).2

/-- Whether an atom writes a float. -/
def isFloat (cs : List Char) : Bool :=
  let (_, body) := splitSign cs
  if body = ['i', 'n', 'f'] || body = ['n', 'a', 'n'] then true
  else
    let whole := body.takeWhile fun c => c.isDigit || c = '_'
    let after := body.drop whole.length
    isUnsignedDecimal whole &&
      match after with
      | '.' :: more =>
        let frac := more.takeWhile fun c => c.isDigit || c = '_'
        isUnderscored 10 frac &&
          match more.drop frac.length with
          | [] => true
          | e :: ex => (e = 'e' || e = 'E') && isExponent ex
      | e :: ex => (e = 'e' || e = 'E') && isExponent ex
      | [] => false

structure Date where
  year : Nat
  month : Nat
  day : Nat
  deriving DecidableEq, Repr

structure Time where
  hour : Nat
  minute : Nat
  second : Nat
  nanosecond : Nat
  deriving DecidableEq, Repr

inductive Offset
  | utc
  | minutes (m : Int)
  deriving DecidableEq, Repr

structure Datetime where
  date : Option Date
  time : Option Time
  offset : Option Offset
  deriving DecidableEq, Repr

def isLeapYear (y : Nat) : Bool := y % 4 = 0 && (y % 100 != 0 || y % 400 = 0)

def daysInMonth (year month : Nat) : Nat :=
  if month = 2 then (if isLeapYear year then 29 else 28)
  else if month = 4 || month = 6 || month = 9 || month = 11 then 30
  else 31

def fixedDigits (n : Nat) (cs : List Char) : Option (Nat × List Char) :=
  let ds := cs.take n
  if ds.length = n && ds.all Char.isDigit then some (digitsValue 10 ds, cs.drop n) else none

def date? (cs : List Char) : Option (Date × List Char) := do
  let (year, cs) ← fixedDigits 4 cs
  let cs ← match cs with
    | '-' :: r => some r
    | _ => none
  let (month, cs) ← fixedDigits 2 cs
  let cs ← match cs with
    | '-' :: r => some r
    | _ => none
  let (day, cs) ← fixedDigits 2 cs
  if 1 ≤ month && month ≤ 12 && 1 ≤ day && day ≤ daysInMonth year month then
    some (⟨year, month, day⟩, cs)
  else none

def nanoseconds (ds : List Char) : Nat :=
  digitsValue 10 ((ds.take 9) ++ List.replicate (9 - ds.length) '0')

def time? (cs : List Char) : Option (Time × List Char) := do
  let (hour, cs) ← fixedDigits 2 cs
  let cs ← match cs with
    | ':' :: r => some r
    | _ => none
  let (minute, cs) ← fixedDigits 2 cs
  let (second, nano, cs) ← match cs with
    | ':' :: r => do
      let (second, r) ← fixedDigits 2 r
      match r with
      | '.' :: f =>
        let ds := f.takeWhile Char.isDigit
        if ds.isEmpty then none else some (second, nanoseconds ds, f.drop ds.length)
      | _ => some (second, 0, r)
    | _ => some (0, 0, cs)
  if hour ≤ 23 && minute ≤ 59 && second ≤ 60 then some (⟨hour, minute, second, nano⟩, cs)
  else none

def offset? : List Char → Option Offset
  | ['Z'] | ['z'] => some .utc
  | s :: cs =>
    if s = '+' || s = '-' then do
      let (h, cs) ← fixedDigits 2 cs
      let cs ← match cs with
        | ':' :: r => some r
        | _ => none
      let (m, cs) ← fixedDigits 2 cs
      if cs.isEmpty && h ≤ 23 && m ≤ 59 then
        let total : Int := h * 60 + m
        some (.minutes (if s = '-' then -total else total))
      else none
    else none
  | [] => none

/-- The date-time an atom writes, if it is one. -/
def datetime? (cs : List Char) : Option Datetime :=
  match date? cs with
  | some (d, []) => some ⟨some d, none, none⟩
  | some (d, sep :: rest) =>
    if sep = 'T' || sep = 't' then do
      let (t, rest) ← time? rest
      if rest.isEmpty then some ⟨some d, some t, none⟩
      else do
        let o ← offset? rest
        some ⟨some d, some t, some o⟩
    else none
  | none => do
    let (t, rest) ← time? cs
    if rest.isEmpty then some ⟨none, some t, none⟩ else none

def looksLikeDatetime (cs : List Char) : Bool :=
  match cs with
  | a :: b :: c :: d :: '-' :: _ => [a, b, c, d].all Char.isDigit
  | a :: b :: ':' :: _ => a.isDigit && b.isDigit
  | _ => false

def padded (width n : Nat) : String :=
  let s := toString n
  String.ofList (List.replicate (width - s.length) '0') ++ s

def Date.render (d : Date) : String :=
  padded 4 d.year ++ "-" ++ padded 2 d.month ++ "-" ++ padded 2 d.day

def Time.render (t : Time) : String :=
  padded 2 t.hour ++ ":" ++ padded 2 t.minute ++ ":" ++ padded 2 t.second ++
    if t.nanosecond = 0 then ""
    else "." ++ String.ofList ((padded 9 t.nanosecond).toList.reverse.dropWhile (· = '0')).reverse

def Offset.render : Offset → String
  | .utc => "Z"
  | .minutes m =>
    (if m < 0 then "-" else "+") ++ padded 2 (m.natAbs / 60) ++ ":" ++ padded 2 (m.natAbs % 60)

def Datetime.render (d : Datetime) : String :=
  (d.date.map Date.render).getD "" ++
    (match d.time with
      | some t => (if d.date.isSome then "T" else "") ++ t.render
      | none => "") ++
    (d.offset.map Offset.render).getD ""

end NamingLint.Toml

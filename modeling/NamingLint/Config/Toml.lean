import NamingLint.Config.Toml.Scalar

/-!
# Reading TOML

A reader for TOML 1.1 without arrays of tables: comments, table headers, keys (bare, quoted,
dotted), and values that are strings (basic and literal, on one line or several), booleans,
numbers, dates and times, arrays and inline tables. Basic strings also take the escapes `\xHH`
and `\e`; an inline table may spread over lines, with line breaks and comments wherever blanks
may stand, and may end with a comma. A date and a time may also be joined by one space.

The reader keeps TOML's rules on tables: a key is defined once; a table named by a header is
named once; a table made by dotted keys can be extended by dotted keys only; an inline table is
closed. Arrays of tables (`[[…]]`) never fit the settings and are refused.

Loops take a fuel argument that starts above the length of the input; every step reads at
least one character, so the fuel never runs out on a text the reader accepts.
-/

namespace NamingLint.Toml

inductive Origin
  | header
  | implicit
  | dotted
  | inline
  deriving DecidableEq, Repr

/-- A TOML value. -/
inductive Value
  | string (s : String)
  | boolean (b : Bool)
  | integer (n : Int)
  | float (text : String)
  | datetime (d : Datetime)
  | array (items : List Value)
  | table (origin : Origin) (entries : List (String × Value))
  deriving Repr, Inhabited

def isBlank (c : Char) : Bool := c = ' ' || c = '\t'

def isBareKeyChar (c : Char) : Bool :=
  ('A' ≤ c && c ≤ 'Z') || ('a' ≤ c && c ≤ 'z') || c.isDigit || c = '_' || c = '-'

def isCommentChar (c : Char) : Bool := c = '\t' || (0x20 ≤ c.toNat && c.toNat ≠ 0x7F)

def isBasicChar (c : Char) : Bool :=
  c = '\t' || (0x20 ≤ c.toNat && c.toNat ≠ 0x7F && c ≠ '"' && c ≠ '\\')

def isLiteralChar (c : Char) : Bool := c = '\t' || (0x20 ≤ c.toNat && c.toNat ≠ 0x7F && c ≠ '\'')

def skipBlanks (cs : List Char) : List Char := cs.dropWhile isBlank

def endOfLine (cs : List Char) : Option (List Char) :=
  let cs := skipBlanks cs
  let cs := match cs with
    | '#' :: rest => rest.dropWhile isCommentChar
    | _ => cs
  match cs with
  | [] => some []
  | '\n' :: rest => some rest
  | '\r' :: '\n' :: rest => some rest
  | _ => none

def skipSpace (inComment : Bool) : List Char → Option (List Char)
  | [] => some []
  | '\n' :: rest => skipSpace false rest
  | '\r' :: '\n' :: rest => skipSpace false rest
  | c :: rest =>
    if inComment then (if isCommentChar c then skipSpace true rest else none)
    else if isBlank c then skipSpace false rest
    else if c = '#' then skipSpace true rest
    else some (c :: rest)

def hexValue? (c : Char) : Option Nat :=
  if c.isDigit then some (c.toNat - '0'.toNat)
  else if 'a' ≤ c && c ≤ 'f' then some (c.toNat - 'a'.toNat + 10)
  else if 'A' ≤ c && c ≤ 'F' then some (c.toNat - 'A'.toNat + 10)
  else none

def scalarOf? (ds : List Char) : Option Char := do
  let n ← ds.foldlM (fun acc d => (hexValue? d).map (acc * 16 + ·)) 0
  if n < 0xD800 || (0xE000 ≤ n && n ≤ 0x10FFFF) then some (Char.ofNat n) else none

def shortEscape? (c : Char) : Option Char :=
  match c with
  | 'b' => some '\x08'
  | 't' => some '\t'
  | 'n' => some '\n'
  | 'f' => some '\x0c'
  | 'r' => some '\r'
  | 'e' => some '\x1b'
  | '"' => some '"'
  | '\\' => some '\\'
  | _ => none

def basicBody (acc : List Char) : List Char → Option (String × List Char)
  | '"' :: rest => some (String.ofList acc.reverse, rest)
  | '\\' :: 'x' :: a :: b :: rest => do
    let ch ← scalarOf? [a, b]
    basicBody (ch :: acc) rest
  | '\\' :: 'u' :: a :: b :: c :: d :: rest => do
    let ch ← scalarOf? [a, b, c, d]
    basicBody (ch :: acc) rest
  | '\\' :: 'U' :: a :: b :: c :: d :: e :: f :: g :: h :: rest => do
    let ch ← scalarOf? [a, b, c, d, e, f, g, h]
    basicBody (ch :: acc) rest
  | '\\' :: c :: rest => do
    let ch ← shortEscape? c
    basicBody (ch :: acc) rest
  | c :: rest => if isBasicChar c then basicBody (c :: acc) rest else none
  | [] => none

def literalBody (acc : List Char) : List Char → Option (String × List Char)
  | '\'' :: rest => some (String.ofList acc.reverse, rest)
  | c :: rest => if isLiteralChar c then literalBody (c :: acc) rest else none
  | [] => none

inductive LineMode
  | text
  | continuation
  | trimming
  deriving DecidableEq, Repr

def multiBasicBody (mode : LineMode) (acc : List Char) : List Char → Option (String × List Char)
  | '"' :: '"' :: '"' :: '"' :: '"' :: rest =>
    if mode = .continuation then none else some (String.ofList ('"' :: '"' :: acc).reverse, rest)
  | '"' :: '"' :: '"' :: '"' :: rest =>
    if mode = .continuation then none else some (String.ofList ('"' :: acc).reverse, rest)
  | '"' :: '"' :: '"' :: rest =>
    if mode = .continuation then none else some (String.ofList acc.reverse, rest)
  | '\n' :: rest =>
    if mode = .text then multiBasicBody .text ('\n' :: acc) rest
    else multiBasicBody .trimming acc rest
  | '\r' :: '\n' :: rest =>
    if mode = .text then multiBasicBody .text ('\n' :: '\r' :: acc) rest
    else multiBasicBody .trimming acc rest
  | '\\' :: 'x' :: a :: b :: rest =>
    if mode = .continuation then none
    else do
      let ch ← scalarOf? [a, b]
      multiBasicBody .text (ch :: acc) rest
  | '\\' :: 'u' :: a :: b :: c :: d :: rest =>
    if mode = .continuation then none
    else do
      let ch ← scalarOf? [a, b, c, d]
      multiBasicBody .text (ch :: acc) rest
  | '\\' :: 'U' :: a :: b :: c :: d :: e :: f :: g :: h :: rest =>
    if mode = .continuation then none
    else do
      let ch ← scalarOf? [a, b, c, d, e, f, g, h]
      multiBasicBody .text (ch :: acc) rest
  | '\\' :: d :: rest =>
    if mode = .continuation then none
    else if isBlank d || d = '\n' || d = '\r' then multiBasicBody .continuation acc (d :: rest)
    else do
      let ch ← shortEscape? d
      multiBasicBody .text (ch :: acc) rest
  | c :: rest =>
    if isBlank c then
      if mode = .text then multiBasicBody .text (c :: acc) rest else multiBasicBody mode acc rest
    else if mode = .continuation then none
    else if isBasicChar c || c = '"' then multiBasicBody .text (c :: acc) rest
    else none
  | [] => none
termination_by cs => cs.length

def multiLiteralBody (acc : List Char) : List Char → Option (String × List Char)
  | '\'' :: '\'' :: '\'' :: '\'' :: '\'' :: rest =>
    some (String.ofList ('\'' :: '\'' :: acc).reverse, rest)
  | '\'' :: '\'' :: '\'' :: '\'' :: rest => some (String.ofList ('\'' :: acc).reverse, rest)
  | '\'' :: '\'' :: '\'' :: rest => some (String.ofList acc.reverse, rest)
  | '\n' :: rest => multiLiteralBody ('\n' :: acc) rest
  | '\r' :: '\n' :: rest => multiLiteralBody ('\n' :: '\r' :: acc) rest
  | c :: rest => if isLiteralChar c || c = '\'' then multiLiteralBody (c :: acc) rest else none
  | [] => none

def afterOpening : List Char → List Char
  | '\n' :: rest => rest
  | '\r' :: '\n' :: rest => rest
  | cs => cs

def simpleKey : List Char → Option (String × List Char)
  | '"' :: rest => basicBody [] rest
  | '\'' :: rest => literalBody [] rest
  | cs =>
    let k := cs.takeWhile isBareKeyChar
    if k.isEmpty then none else some (String.ofList k, cs.drop k.length)

def gap (multiline : Bool) (cs : List Char) : Option (List Char) :=
  if multiline then skipSpace false cs else some (skipBlanks cs)

def dottedKey (fuel : Nat) (multiline : Bool) (acc : List String) (cs : List Char) :
    Option (List String × List Char) :=
  match fuel with
  | 0 => none
  | fuel + 1 => do
    let (k, rest) ← simpleKey cs
    match ← gap multiline rest with
    | '.' :: more => dottedKey fuel multiline (k :: acc) (← gap multiline more)
    | _ => some ((k :: acc).reverse, rest)

def isAtomChar (c : Char) : Bool :=
  c.isAlphanum || c = '+' || c = '-' || c = '_' || c = '.' || c = ':'

def scalar? (cs : List Char) : Option Value :=
  if cs = ['t', 'r', 'u', 'e'] then some (.boolean true)
  else if cs = ['f', 'a', 'l', 's', 'e'] then some (.boolean false)
  else if looksLikeDatetime cs then (datetime? cs).map .datetime
  else
    match integer? cs with
    | some n => some (.integer n)
    | none => if isFloat cs then some (.float (String.ofList cs)) else none

def atom (cs : List Char) : List Char × List Char :=
  let a := cs.takeWhile isAtomChar
  let rest := cs.drop a.length
  match rest with
  | ' ' :: d :: _ =>
    if d.isDigit && (match date? a with
        | some (_, []) => true
        | _ => false) then
      let t := (rest.drop 1).takeWhile isAtomChar
      (a ++ 'T' :: t, rest.drop (1 + t.length))
    else (a, rest)
  | _ => (a, rest)

def entry? (es : List (String × Value)) (k : String) : Option Value := es.lookup k

def replaceEntry (es : List (String × Value)) (k : String) (v : Value) : List (String × Value) :=
  es.map fun e => if e.1 = k then (k, v) else e

namespace Value

/-- Defines `v` under the dotted key `key` in the table `t`: the key must be new, and the
tables on the way must be new or made by dotted keys. -/
def insertDotted : Value → List String → Value → Option Value
  | .table o es, [k], v =>
    match entry? es k with
    | none => some (.table o (es ++ [(k, v)]))
    | some _ => none
  | .table o es, k :: ks, v =>
    match entry? es k with
    | none => do
      let sub ← insertDotted (.table .dotted []) ks v
      some (.table o (es ++ [(k, sub)]))
    | some (.table .dotted sub) => do
      let sub ← insertDotted (.table .dotted sub) ks v
      some (.table o (replaceEntry es k sub))
    | some _ => none
  | _, _, _ => none

def insertAt : Value → List String → List String → Value → Option Value
  | t, [], key, v => t.insertDotted key v
  | .table o es, p :: ps, key, v =>
    match entry? es p with
    | some (.table o' sub) =>
      if o' = .inline then none
      else do
        let sub ← insertAt (.table o' sub) ps key v
        some (.table o (replaceEntry es p sub))
    | _ => none
  | _, _ :: _, _, _ => none

/-- Names the table at `path` of `t` by a header: it must be new, or only opened as a parent
of another header's table so far; the tables on the way may not be inline. -/
def defineHeader : Value → List String → Option Value
  | .table o es, [k] =>
    match entry? es k with
    | none => some (.table o (es ++ [(k, .table .header [])]))
    | some (.table .implicit sub) => some (.table o (replaceEntry es k (.table .header sub)))
    | some _ => none
  | .table o es, k :: ks =>
    match entry? es k with
    | none => do
      let sub ← defineHeader (.table .implicit []) ks
      some (.table o (es ++ [(k, sub)]))
    | some (.table o' sub) =>
      if o' = .inline then none
      else do
        let sub ← defineHeader (.table o' sub) ks
        some (.table o (replaceEntry es k sub))
    | some _ => none
  | _, _ => none

end Value

mutual

def value (fuel : Nat) (cs : List Char) : Option (Value × List Char) :=
  match fuel with
  | 0 => none
  | fuel + 1 =>
    match cs with
    | '"' :: '"' :: '"' :: rest =>
      (multiBasicBody .text [] (afterOpening rest)).map fun (s, r) => (.string s, r)
    | '"' :: rest => (basicBody [] rest).map fun (s, r) => (.string s, r)
    | '\'' :: '\'' :: '\'' :: rest =>
      (multiLiteralBody [] (afterOpening rest)).map fun (s, r) => (.string s, r)
    | '\'' :: rest => (literalBody [] rest).map fun (s, r) => (.string s, r)
    | '[' :: rest => arrayItems fuel [] rest
    | '\x7b' :: rest => inlineTable fuel (.table .inline []) rest
    | _ =>
      let (a, rest) := atom cs
      if a.isEmpty then none else (scalar? a).map (·, rest)

def arrayItems (fuel : Nat) (acc : List Value) (cs : List Char) : Option (Value × List Char) :=
  match fuel with
  | 0 => none
  | fuel + 1 => do
    let cs ← skipSpace false cs
    match cs with
    | ']' :: rest => some (.array acc.reverse, rest)
    | _ =>
      let (v, rest) ← value fuel cs
      let rest ← skipSpace false rest
      match rest with
      | ',' :: rest => arrayItems fuel (v :: acc) rest
      | ']' :: rest => some (.array (v :: acc).reverse, rest)
      | _ => none

def inlineTable (fuel : Nat) (t : Value) (cs : List Char) : Option (Value × List Char) :=
  match fuel with
  | 0 => none
  | fuel + 1 => do
    match ← skipSpace false cs with
    | '\x7d' :: rest => some (t, rest)
    | cs =>
      let (key, rest) ← dottedKey fuel true [] cs
      let rest ← match ← gap true rest with
        | '=' :: r => gap true r
        | _ => none
      let (v, rest) ← value fuel rest
      let t ← t.insertDotted key v
      match ← skipSpace false rest with
      | ',' :: r => inlineTable fuel t r
      | '\x7d' :: r => some (t, r)
      | _ => none

end

def lines (fuel : Nat) (current : List String) (root : Value) (cs : List Char) : Option Value :=
  match fuel with
  | 0 => none
  | fuel + 1 =>
    match skipBlanks cs with
    | [] => some root
    | '\n' :: rest => lines fuel current root rest
    | '\r' :: '\n' :: rest => lines fuel current root rest
    | '#' :: rest => do
      let rest ← endOfLine ('#' :: rest)
      lines fuel current root rest
    | '[' :: '[' :: _ => none
    | '[' :: rest => do
      let (path, rest) ← dottedKey fuel false [] (skipBlanks rest)
      let rest ← match skipBlanks rest with
        | ']' :: r => some r
        | _ => none
      let root ← root.defineHeader path
      let rest ← endOfLine rest
      lines fuel path root rest
    | cs => do
      let (key, rest) ← dottedKey fuel false [] cs
      let rest ← match skipBlanks rest with
        | '=' :: r => some (skipBlanks r)
        | _ => none
      let (v, rest) ← value fuel rest
      let root ← root.insertAt current key v
      let rest ← endOfLine rest
      lines fuel current root rest

/-- The root table of a TOML document, or `none` when the text is not TOML of the kinds read
here. A byte order mark at the start is skipped. -/
def parse (text : String) : Option Value :=
  let cs := match text.toList with
    | '﻿' :: rest => rest
    | cs => cs
  lines (cs.length + 1) [] (.table .header []) cs

end NamingLint.Toml

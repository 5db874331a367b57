import NamingLint.Java.Token

namespace NamingLint.Declaration

open Java

abbrev Tokens := Array Token

namespace Tokens

def isOp (ts : Tokens) (i : Nat) (op : String) : Bool := (ts[i]?).any (·.isOperator op)

def isKeyword (ts : Tokens) (i : Nat) (w : String) : Bool := (ts[i]?).any (·.isKeyword w)

def isIdentifier (ts : Tokens) (i : Nat) : Bool := (ts[i]?).any (·.isIdentifier)

def isWord (ts : Tokens) (i : Nat) (w : String) : Bool := (ts[i]?).any (·.isWord w)

theorem lt_size_of_any {ts : Tokens} {i : Nat} {p : Java.Token → Bool} (h : (ts[i]?).any p) :
    i < ts.size := by
  rcases Nat.lt_or_ge i ts.size with hlt | hge
  · exact hlt
  · simp [Array.getElem?_eq_none hge] at h

theorem lt_size_of_isOp {ts : Tokens} {i : Nat} {op : String} (h : ts.isOp i op) : i < ts.size :=
  lt_size_of_any h

theorem lt_size_of_isIdentifier {ts : Tokens} {i : Nat} (h : ts.isIdentifier i) : i < ts.size :=
  lt_size_of_any h

theorem lt_size_of_isIdentifier_and {ts : Tokens} {i : Nat} {b : Bool}
    (h : (ts.isIdentifier i && b) = true) : i < ts.size :=
  lt_size_of_isIdentifier (Bool.and_eq_true_iff.1 h).1

/-- The index of the bracket `close` that balances the brackets `opening` counted from `j` on,
where `depth` are open. -/
def closeFrom (ts : Tokens) (opening close : String) (j depth : Nat) : Option Nat :=
  if h : j < ts.size then
    let t := ts[j]
    if t.isOperator opening then closeFrom ts opening close (j + 1) (depth + 1)
    else if t.isOperator close then
      if depth - 1 = 0 then some j else closeFrom ts opening close (j + 1) (depth - 1)
    else closeFrom ts opening close (j + 1) depth
  else none
termination_by ts.size - j

def matchingClose (ts : Tokens) (i : Nat) : Option Nat :=
  match ts[i]? with
  | some t =>
    if t.text == "(" then ts.closeFrom "(" ")" i 0
    else if t.text == "[" then ts.closeFrom "[" "]" i 0
    else none
  | none => none

def afterBracket (ts : Tokens) (i : Nat) : Nat :=
  match ts.matchingClose i with
  | some close => close + 1
  | none => ts.size

def afterQualifiedName (ts : Tokens) (j : Nat) : Nat :=
  if h : j < ts.size then
    if ts[j].isIdentifier then
      if ts.isOp (j + 1) "." && ts.isIdentifier (j + 2) then ts.afterQualifiedName (j + 2)
      else j + 1
    else j
  else j
termination_by ts.size - j

def skipAnnotation (ts : Tokens) (i : Nat) : Nat :=
  let j := ts.afterQualifiedName (i + 1)
  if ts.isOp j "(" then ts.afterBracket j else j

structure Modifiers where
  isStatic : Bool := false
  isFinal : Bool := false
  deriving DecidableEq, Repr

def plainModifiers : List String :=
  ["public", "protected", "private", "abstract", "native", "transient", "volatile", "strictfp",
   "default"]

/-- The index after the annotations and modifiers from `j` on, and whether `static` and
`final` were among them. `synchronized` followed by `(` is a statement, not a modifier;
`non-sealed` and `sealed` before another word are modifiers. -/
def skipModifiers (ts : Tokens) (j : Nat) (mods : Modifiers) : Nat × Modifiers :=
  if h : j < ts.size then
    let t := ts[j]
    if t.isOperator "@" && !ts.isKeyword (j + 1) "interface" then
      ts.skipModifiers (max (ts.skipAnnotation j) (j + 1)) mods
    else
      match t.kind with
      | .keyword =>
        if t.text == "static" then ts.skipModifiers (j + 1) { mods with isStatic := true }
        else if t.text == "final" then ts.skipModifiers (j + 1) { mods with isFinal := true }
        else if plainModifiers.contains t.text then ts.skipModifiers (j + 1) mods
        else if t.text == "synchronized" && !ts.isOp (j + 1) "(" then ts.skipModifiers (j + 1) mods
        else (j, mods)
      | .identifier =>
        if t.text == "non" && ts.isOp (j + 1) "-" && ts.isWord (j + 2) "sealed" then
          ts.skipModifiers (j + 3) mods
        else if t.text == "sealed" &&
            (ts[j + 1]?).any (fun n => n.kind == .keyword || n.kind == .identifier) then
          ts.skipModifiers (j + 1) mods
        else (j, mods)
      | _ => (j, mods)
  else (j, mods)
termination_by ts.size - j

/-- The index after balanced type arguments `<…>` from `j` on, where `depth` are open; `none`
when a token that cannot stand in type arguments comes first, or the tokens end. -/
def skipTypeArgumentsFrom (ts : Tokens) (j depth : Nat) : Option Nat :=
  if h : j < ts.size then
    let t := ts[j]
    match t.kind with
    | .operator =>
      if t.text == "<" then ts.skipTypeArgumentsFrom (j + 1) (depth + 1)
      else if t.text == ">" then
        if depth - 1 = 0 then some (j + 1) else ts.skipTypeArgumentsFrom (j + 1) (depth - 1)
      else if [",", ".", "?", "&", "[", "]"].contains t.text then
        ts.skipTypeArgumentsFrom (j + 1) depth
      else if t.text == "@" then ts.skipTypeArgumentsFrom (max (ts.skipAnnotation j) (j + 1)) depth
      else none
    | .identifier => ts.skipTypeArgumentsFrom (j + 1) depth
    | .keyword =>
      if t.isPrimitiveType || t.text == "extends" || t.text == "super" then
        ts.skipTypeArgumentsFrom (j + 1) depth
      else none
    | .literal => none
  else none
termination_by ts.size - j

def skipTypeArguments (ts : Tokens) (j : Nat) : Option Nat := ts.skipTypeArgumentsFrom j 0

def skipDimensions (ts : Tokens) (j : Nat) : Nat :=
  if h : j < ts.size then
    if ts.isOp j "[" && ts.isOp (j + 1) "]" then ts.skipDimensions (j + 2) else j
  else j
termination_by ts.size - j

def afterClassType (ts : Tokens) (j : Nat) : Option Nat :=
  if _h : j < ts.size then
    let k := j + 1
    let k? := if ts.isOp k "<" then ts.skipTypeArguments k else some k
    match k? with
    | none => none
    | some k =>
      if ts.isOp k "." && ts.isIdentifier (k + 1) then ts.afterClassType (max (k + 1) (j + 1))
      else some k
  else some j
termination_by ts.size - j

/-- The index after the type that starts at `i`: a primitive type or a qualified name with
type arguments, then array dimensions; `none` when no type starts there. -/
def parseType (ts : Tokens) (i : Nat) : Option Nat :=
  match ts[i]? with
  | some t =>
    if t.isPrimitiveType then some (ts.skipDimensions (i + 1))
    else if t.isIdentifier then (ts.afterClassType i).map ts.skipDimensions
    else none
  | none => none

def isTypeDeclaration (ts : Tokens) (i : Nat) : Bool :=
  ts.isKeyword i "class" || ts.isKeyword i "interface" || ts.isKeyword i "enum" ||
    (ts.isOp i "@" && ts.isKeyword (i + 1) "interface") ||
    (ts.isWord i "record" && ts.isIdentifier (i + 1) &&
      (ts.isOp (i + 2) "(" || ts.isOp (i + 2) "<"))

theorem lt_size_of_isTypeDeclaration {ts : Tokens} {j : Nat} (h : ts.isTypeDeclaration j) :
    j < ts.size := by
  simp only [isTypeDeclaration, Bool.or_eq_true, Bool.and_eq_true] at h
  rcases h with (((h | h) | h) | ⟨h, -⟩) | ⟨⟨h, -⟩, -⟩ <;> exact lt_size_of_any h

def endsDeclarator (ts : Tokens) (i : Nat) : Bool :=
  ts.isOp i "=" || ts.isOp i ";" || ts.isOp i "," || (ts.isOp i "[" && ts.isOp (i + 1) "]")

/-- Whether a statement may start at `i`: after `{`, `}`, `;` or `:`, or after the `(` of
`for (` and `try (`. -/
def atStatementStart (ts : Tokens) (i : Nat) : Bool :=
  match i with
  | 0 => false
  | p + 1 =>
    match ts[p]? with
    | some prev =>
      if prev.kind == .operator then
        if ["\x7b", "\x7d", ";", ":"].contains prev.text then true
        else if prev.text == "(" then
          match p with
          | 0 => false
          | q + 1 => ts.isKeyword q "for" || ts.isKeyword q "try"
        else false
      else false
    | none => false

/-- The `{` that opens the body of an anonymous class `new Type(…) {`, for a `new` at `i`. -/
def anonymousBodyAfter (ts : Tokens) (i : Nat) : Option Nat := do
  let j ← ts.parseType (skipAnnotations ts (i + 1))
  if !ts.isOp j "(" then none
  let close ← ts.matchingClose j
  if ts.isOp (close + 1) "\x7b" then some (close + 1) else none
where
  skipAnnotations (ts : Tokens) (j : Nat) : Nat :=
    if h : j < ts.size then
      if ts.isOp j "@" then skipAnnotations ts (max (ts.skipAnnotation j) (j + 1)) else j
    else j
  termination_by ts.size - j

def anonymousBodies (ts : Tokens) : Array Bool :=
  (List.range ts.size).foldl
    (fun marks i =>
      if ts.isKeyword i "new" then
        match ts.anonymousBodyAfter i with
        | some b => marks.setIfInBounds b true
        | none => marks
      else marks)
    (Array.replicate ts.size false)

theorem size_foldl_marks {f : Array Bool → Nat → Array Bool} (hf : ∀ m i, (f m i).size = m.size)
    (l : List Nat) (marks : Array Bool) : (l.foldl f marks).size = marks.size := by
  induction l generalizing marks with
  | nil => rfl
  | cons i l ih => rw [List.foldl_cons, ih, hf]

theorem size_anonymousBodies (ts : Tokens) : ts.anonymousBodies.size = ts.size := by
  unfold anonymousBodies
  rw [size_foldl_marks, Array.size_replicate]
  intro marks i
  split
  · split <;> simp
  · rfl

end Tokens

end NamingLint.Declaration

import NamingLint.Declaration.Shape
import NamingLint.Declaration.Occurrence
import NamingLint.Source.LineIndex

/-!
# Scanning for declarations

The scanner walks the tokens once with a stack of frames that says what kind of region it is
in: a type body, where members are declared; a block of code, where local variables are
declared; or the declarator list of a field or variable, where further names follow `,`. The
frame on top chooses how the token at the current position is read, and each reading returns
the position to go on from:

* outside any type, package and import declarations are skipped and a type declaration enters
  its body;
* in the leading constant list of an enum, constants are skipped until `;` ends the list;
* in a type body, `Type name (` is a method, `Type name` before `=`, `;`, `,` or `[]` is a
  field (a constant when `static final`, or inside an interface or annotation type), and
  initializers, constructors and nested types open their own frames;
* in a block, a statement that starts with `Type name` before `=`, `;`, `,`, `[]` or `:` declares
  a local variable, and the patterns after `instanceof` and `case` bind variables;
* in a declarator list, `, name` followed by `=`, `;`, `,` or `[]` declares one more name, and
  `;` at bracket depth zero ends the list.

Type parameters, method parameters, record components and enum constants are not reported; nor
is the unnamed variable `_`.
-/

namespace NamingLint.Declaration

open Java Source

inductive TypeKind
  | classType
  | interfaceType
  | enumType
  | annotationType
  | recordType
  deriving DecidableEq, Repr

/-- A region of the compilation unit. -/
inductive Frame
  | typeBody (kind : TypeKind) (enumConstants : Bool)
  | block
  | declarators (role : Role) (depth : Nat)
  deriving DecidableEq, Repr

/-- What the scanner reads: the tokens, which `{` open anonymous class bodies, and the lines. -/
structure Scanner where
  tokens : Tokens
  anonymous : Array Bool
  lines : LineIndex
  anonymous_size : anonymous.size = tokens.size

/-- What the scanner has built: the frames, innermost first, and the names found so far. -/
structure Scan where
  frames : List Frame
  found : Array Occurrence

namespace Scan

def push (s : Scan) (f : Frame) : Scan := { s with frames := f :: s.frames }

def pop (s : Scan) : Scan := { s with frames := s.frames.tail }

def setTop (s : Scan) (f : Frame) : Scan := { s with frames := f :: s.frames.tail }

end Scan

namespace Scanner

/-- Records the name at token `i` with `role`, unless it is `_`. -/
def record (sc : Scanner) (i : Nat) (h : i < sc.tokens.size) (role : Role) (s : Scan) : Scan :=
  let t := sc.tokens[i]
  let name := t.word
  if name == "_" then s
  else
    let p := sc.lines.position t.start
    { s with found := s.found.push ⟨name, role, p.line, p.column, t.start, t.stop⟩ }

def declarationHeader (sc : Scanner) (kind : TypeKind) (j : Nat) (s : Scan) : Nat × Scan :=
  if h : j < sc.tokens.size then
    let t := sc.tokens[j]
    if t.isOperator "(" then sc.declarationHeader kind (max (sc.tokens.afterBracket j) (j + 1)) s
    else if t.isOperator "\x7b" then (j + 1, s.push (.typeBody kind (kind == .enumType)))
    else if t.isOperator ";" then (j + 1, s)
    else sc.declarationHeader kind (j + 1) s
  else (j, s)
termination_by sc.tokens.size - j

def typeHead (text : Option String) (i : Nat) : TypeKind × Nat :=
  match text with
  | some "@" => (TypeKind.annotationType, i + 2)
  | some "interface" => (.interfaceType, i + 1)
  | some "enum" => (.enumType, i + 1)
  | some "record" => (.recordType, i + 1)
  | _ => (.classType, i + 1)

/-- Reads the type declaration whose first word is at `i`: records its name and enters its body. -/
def typeDeclaration (sc : Scanner) (i : Nat) (s : Scan) : Nat × Scan :=
  let (kind, name) := typeHead ((sc.tokens[i]?).map (·.text)) i
  let s := if hid : sc.tokens.isIdentifier name then
    sc.record name (Tokens.lt_size_of_isIdentifier hid) .type s else s
  sc.declarationHeader kind (name + 1) s

def methodTail (sc : Scanner) (j : Nat) (s : Scan) : Nat × Scan :=
  if h : j < sc.tokens.size then
    let t := sc.tokens[j]
    if t.isOperator "\x7b" then (j + 1, s.push .block)
    else if t.isOperator ";" then (j + 1, s)
    else sc.methodTail (j + 1) s
  else (j, s)
termination_by sc.tokens.size - j

def methodHeader (sc : Scanner) (i : Nat) (s : Scan) : Nat × Scan :=
  match sc.tokens.matchingClose i with
  | some close => sc.methodTail (close + 1) s
  | none => (sc.tokens.size, s)

def openBrace (sc : Scanner) (i : Nat) (h : i < sc.tokens.size) (s : Scan) : Nat × Scan :=
  let frame :=
    if getElem sc.anonymous i (by rw [sc.anonymous_size]; exact h) then
      Frame.typeBody .classType false
    else .block
  (i + 1, s.push frame)

mutual

/-- Reads a type pattern `Type name` or a record pattern `Type(Pattern, …)` at `i`, recording
every name it binds; the index after it, or `none` when no pattern starts there. -/
def pattern (sc : Scanner) (i : Nat) (s : Scan) : Option (Nat × Scan) :=
  if _h : i < sc.tokens.size then
    let j := if sc.tokens.isKeyword i "final" then i + 1 else i
    match sc.tokens.parseType j with
    | none => none
    | some after =>
      if hid : sc.tokens.isIdentifier after then
        some (after + 1, sc.record after (Tokens.lt_size_of_isIdentifier hid) .localVariable s)
      else if !sc.tokens.isOp after "(" then none
      else
        match sc.tokens.matchingClose after with
        | none => none
        | some close => some (close + 1, sc.patternsUntil (max (after + 1) (i + 1)) close s)
  else none
termination_by 2 * (sc.tokens.size - i) + 1
decreasing_by all_goals (simp_wf; omega)

def patternsUntil (sc : Scanner) (k close : Nat) (s : Scan) : Scan :=
  if _h : k < close ∧ k < sc.tokens.size then
    match sc.pattern k s with
    | some (n, s') => sc.patternsUntil (max n (k + 1)) close s'
    | none => sc.patternsUntil (k + 1) close s
  else s
termination_by 2 * (sc.tokens.size - k) + 2
decreasing_by
  all_goals simp_wf
  all_goals omega

end

def afterPattern (sc : Scanner) (i : Nat) (s : Scan) : Nat × Scan :=
  (sc.pattern (i + 1) s).getD (i + 1, s)

def compilationUnitItem (sc : Scanner) (i : Nat) (s : Scan) : Nat × Scan :=
  if sc.tokens.isKeyword i "package" || sc.tokens.isKeyword i "import" then
    (semicolonFrom sc.tokens i + 1, s)
  else
    let (j, _) := sc.tokens.skipModifiers i {}
    if sc.tokens.isTypeDeclaration j then sc.typeDeclaration j s else (max j (i + 1), s)
where
  semicolonFrom (ts : Tokens) (j : Nat) : Nat :=
    if h : j < ts.size then
      if ts[j].isOperator ";" then j else semicolonFrom ts (j + 1)
    else j
  termination_by ts.size - j

def enumConstant (sc : Scanner) (i : Nat) (s : Scan) : Nat × Scan :=
  if sc.tokens.isOp i ";" then
    match s.frames with
    | .typeBody kind _ :: _ => (i + 1, s.setTop (.typeBody kind false))
    | _ => (i + 1, s)
  else if sc.tokens.isOp i "\x7d" then (i + 1, s.pop)
  else if sc.tokens.isOp i "@" then (sc.tokens.skipAnnotation i, s)
  else if sc.tokens.isIdentifier i then
    let j := if sc.tokens.isOp (i + 1) "(" then sc.tokens.afterBracket (i + 1) else i + 1
    if sc.tokens.isOp j "\x7b" then (j + 1, s.push (.typeBody .classType false)) else (j, s)
  else (i + 1, s)

/-- Reads a member of a type body of kind `kind` at `i`. -/
def member (sc : Scanner) (kind : TypeKind) (i : Nat) (s : Scan) : Nat × Scan :=
  let ts := sc.tokens
  if ts.isOp i "\x7d" then (i + 1, s.pop)
  else if ts.isOp i ";" then (i + 1, s)
  else
    let (j, mods) := ts.skipModifiers i {}
    if ts.isOp j "\x7b" then (j + 1, s.push .block)
    else if ts.isTypeDeclaration j then sc.typeDeclaration j s
    else
      let j? := if ts.isOp j "<" then ts.skipTypeArguments j else some j
      match j? with
      | none => (j + 1, s)
      | some j =>
        if ts.isIdentifier j && ts.isOp (j + 1) "(" then sc.methodHeader (j + 1) s
        else if kind == .recordType && ts.isIdentifier j && ts.isOp (j + 1) "\x7b" then
          (j + 2, s.push .block)
        else
          match ts.parseType j with
          | none => (max j (i + 1), s)
          | some name =>
            if hid : !ts.isIdentifier name then (name, s)
            else if ts.isOp (name + 1) "(" then
              sc.methodHeader (name + 1)
                (sc.record name (Tokens.lt_size_of_isIdentifier (by simpa using hid)) .method s)
            else if ts.endsDeclarator (name + 1) then
              let role :=
                if (mods.isStatic && mods.isFinal) || kind == .interfaceType ||
                    kind == .annotationType then Role.constant
                else Role.field
              (name + 1, (sc.record name (Tokens.lt_size_of_isIdentifier (by simpa using hid)) role
                s).push (.declarators role 0))
            else (name + 1, s)

/-- Reads a local declaration at the statement start `i`, if one is there. -/
def localDeclaration (sc : Scanner) (i : Nat) (s : Scan) : Option (Nat × Scan) :=
  let ts := sc.tokens
  let (j, _) := ts.skipModifiers i {}
  if ts.isTypeDeclaration j then some (sc.typeDeclaration j s)
  else if ts.isWord j "yield" then none
  else
    match ts.parseType j with
    | none => none
    | some name =>
      if hid : !ts.isIdentifier name then none
      else if ts.isOp (name + 1) ":" then
        some (name + 2,
          sc.record name (Tokens.lt_size_of_isIdentifier (by simpa using hid)) .localVariable s)
      else if !ts.endsDeclarator (name + 1) then none
      else
        some (name + 1, (sc.record name (Tokens.lt_size_of_isIdentifier (by simpa using hid))
          .localVariable s).push (.declarators .localVariable 0))

def blockToken (sc : Scanner) (i : Nat) (s : Scan) : Nat × Scan :=
  let declared := if sc.tokens.atStatementStart i then sc.localDeclaration i s else none
  match declared with
  | some r => r
  | none =>
    if hb : sc.tokens.isOp i "\x7b" then sc.openBrace i (Tokens.lt_size_of_isOp hb) s
    else if sc.tokens.isOp i "\x7d" then (i + 1, s.pop)
    else if sc.tokens.isKeyword i "instanceof" || sc.tokens.isKeyword i "case" then
      sc.afterPattern i s
    else (i + 1, s)

/-- Reads a token of a declarator list of `role`, at bracket depth `depth`; a `}` that closes
the enclosing region is left to it, see `run`. -/
def declaratorToken (sc : Scanner) (role : Role) (depth : Nat) (i : Nat) (s : Scan) : Nat × Scan :=
  if hi : i < sc.tokens.size then
    let t := sc.tokens[i]
    match t.kind with
    | .keyword => if t.text == "instanceof" then sc.afterPattern i s else (i + 1, s)
    | .identifier | .literal => (i + 1, s)
    | .operator =>
      if t.text == "(" || t.text == "[" then (i + 1, s.setTop (.declarators role (depth + 1)))
      else if t.text == ")" || t.text == "]" then
        if depth == 0 then (i + 1, s.pop) else (i + 1, s.setTop (.declarators role (depth - 1)))
      else if t.text == "\x7b" then sc.openBrace i hi s
      else if t.text == ";" && depth == 0 then (i + 1, s.pop)
      else if t.text == "," && depth == 0 then
        if hn : sc.tokens.isIdentifier (i + 1) && sc.tokens.endsDeclarator (i + 2) then
          (i + 2, sc.record (i + 1) (Tokens.lt_size_of_isIdentifier_and hn) role s)
        else (i + 1, s)
      else (i + 1, s)
  else (i + 1, s)

/-- Scans the tokens from `i` on. Every reading moves forward, except that a `}` ends a
declarator list without being read, so the position grows or the stack shrinks at each step. -/
def run (sc : Scanner) (i : Nat) (s : Scan) : Scan :=
  if h : i < sc.tokens.size then
    match hf : s.frames with
    | [] =>
      let (n, s') := sc.compilationUnitItem i s
      sc.run (max n (i + 1)) s'
    | .typeBody _ true :: _ =>
      let (n, s') := sc.enumConstant i s
      sc.run (max n (i + 1)) s'
    | .typeBody kind false :: _ =>
      let (n, s') := sc.member kind i s
      sc.run (max n (i + 1)) s'
    | .block :: _ =>
      let (n, s') := sc.blockToken i s
      sc.run (max n (i + 1)) s'
    | .declarators role depth :: rest =>
      if sc.tokens[i].isOperator "\x7d" then sc.run i { s with frames := rest }
      else
        let (n, s') := sc.declaratorToken role depth i s
        sc.run (max n (i + 1)) s'
  else s
termination_by (sc.tokens.size - i, s.frames.length)
decreasing_by
  all_goals first
    | (left; omega)
    | (right; simp [hf])

end Scanner

end NamingLint.Declaration

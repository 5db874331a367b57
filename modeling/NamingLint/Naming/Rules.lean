import NamingLint.Naming.Style
import NamingLint.Naming.Role

namespace NamingLint

/-- The expected style of each role; `none` means the role is not checked. -/
structure NamingRules where
  field : Option CasingStyle
  method : Option CasingStyle
  localVariable : Option CasingStyle
  type : Option CasingStyle
  constant : Option CasingStyle
  deriving DecidableEq, Repr

inductive RuleError
  | unknownRole (e : UnknownRole)
  | unknownStyle (role : Role) (e : UnknownStyle)
  | malformedOverride (entry : String)
  deriving DecidableEq, Repr

namespace RuleError

def message : RuleError → String
  | unknownRole e => e.message
  | unknownStyle role e => "invalid style for role '" ++ role.name ++ "': " ++ e.message
  | malformedOverride entry => "expected ROLE=STYLE, got '" ++ entry ++ "'"

def cause? : RuleError → Option String
  | unknownStyle _ e => some e.message
  | _ => none

end RuleError

namespace NamingRules

def default : NamingRules :=
  ⟨some .camelCase, some .camelCase, some .camelCase, some .pascalCase, some .upperSnakeCase⟩

def empty : NamingRules := ⟨none, none, none, none, none⟩

def expected (r : NamingRules) : Role → Option CasingStyle
  | .field => r.field
  | .method => r.method
  | .localVariable => r.localVariable
  | .type => r.type
  | .constant => r.constant

def set (r : NamingRules) (role : Role) (style : Option CasingStyle) : NamingRules :=
  match role with
  | .field => { r with field := style }
  | .method => { r with method := style }
  | .localVariable => { r with localVariable := style }
  | .type => { r with type := style }
  | .constant => { r with constant := style }

def withStyle (r : NamingRules) (role : Role) (style : CasingStyle) : NamingRules :=
  r.set role (some style)

def disabledValues : List String := ["off", "none", "ignore"]

/-- Applies the entry `role = style`. -/
def apply (r : NamingRules) (role style : String) : Except RuleError NamingRules :=
  match Role.parse role with
  | .error e => .error (.unknownRole e)
  | .ok role =>
    if disabledValues.contains ((Text.trim style).map Char.toLower) then .ok (r.set role none)
    else
      match CasingStyle.parse style with
      | .ok s => .ok (r.set role (some s))
      | .error e => .error (.unknownStyle role e)

def splitEntry (entry : String) : Option (String × String) :=
  match entry.toList.span (· ≠ '=') with
  | (role, _ :: style) => some (String.ofList role, String.ofList style)
  | (_, []) => none

def applyOverride (r : NamingRules) (entry : String) : Except RuleError NamingRules :=
  match splitEntry entry with
  | some (role, style) => r.apply (Text.trim role) (Text.trim style)
  | none => .error (.malformedOverride entry)

/-- Configuration entries in the byte order of their keys. -/
def sortEntries (entries : List (String × String)) : List (String × String) :=
  entries.mergeSort fun a b => a.1 ≤ b.1

def tryFromConfig (entries : List (String × String)) : Except RuleError NamingRules :=
  (sortEntries entries).foldlM (fun r e => r.apply e.1 e.2) default

/-- The default table with the entries applied in key order; failing entries are skipped. -/
def fromConfig (entries : List (String × String)) : NamingRules :=
  (sortEntries entries).foldl
    (fun r e =>
      match r.apply e.1 e.2 with
      | .ok r' => r'
      | .error _ => r)
    default

end NamingRules

end NamingLint

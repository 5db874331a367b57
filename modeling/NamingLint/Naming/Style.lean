import NamingLint.Text.Trim

namespace NamingLint

/-- How the words of a name are told apart. -/
inductive CasingStyle
  | camelCase
  | pascalCase
  | snakeCase
  | upperSnakeCase
  | leadingUnderscore
  | unrecognized
  deriving DecidableEq, Repr, Inhabited

namespace CasingStyle

def all : List CasingStyle :=
  [camelCase, pascalCase, snakeCase, upperSnakeCase, leadingUnderscore, unrecognized]

def name : CasingStyle → String
  | camelCase => "camelCase"
  | pascalCase => "PascalCase"
  | snakeCase => "snake_case"
  | upperSnakeCase => "UPPER_SNAKE_CASE"
  | leadingUnderscore => "_leadingUnderscore"
  | unrecognized => "unrecognized"

def description : CasingStyle → String
  | camelCase => "camelCase"
  | pascalCase => "PascalCase"
  | snakeCase => "snake_case"
  | upperSnakeCase => "UPPER_SNAKE_CASE"
  | leadingUnderscore => "a leading underscore"
  | unrecognized => "an unrecognized style"

/-- The style named by an alias, after normalisation. -/
def ofAlias : String → Option CasingStyle
  | "camel" | "camelcase" | "camel_case" => some camelCase
  | "pascal" | "pascalcase" | "pascal_case" => some pascalCase
  | "snake" | "snake_case" => some snakeCase
  | "upper_snake" | "upper_snake_case" | "screaming_snake" | "screaming_snake_case" =>
    some upperSnakeCase
  | "leading_underscore" | "_leadingunderscore" => some leadingUnderscore
  | "unrecognized" => some unrecognized
  | _ => none

def normalize (s : String) : String :=
  (Text.trim s).map fun c => if c = '-' then '_' else c.toLower

end CasingStyle

structure UnknownStyle where
  text : String
  deriving DecidableEq, Repr

def UnknownStyle.message (e : UnknownStyle) : String :=
  "unknown casing style '" ++ e.text ++ "'"

namespace CasingStyle

def parse (s : String) : Except UnknownStyle CasingStyle :=
  match all.find? (·.name == s) with
  | some style => .ok style
  | none =>
    match ofAlias (normalize s) with
    | some style => .ok style
    | none => .error ⟨s⟩

end CasingStyle

end NamingLint

import NamingLint.Naming.Classify
import NamingLint.Naming.Words
import NamingLint.Text.CaseMap

/-!
# Respelling a name

A name is respelled in a style by keeping its words and changing their case and joints: camel
case lower-cases the first word and capitalises the rest, Pascal case capitalises all, snake
case lower-cases and joins with `_`, upper snake case upper-cases and joins with `_`, and a
leading underscore puts `_` before the camel-case form. A respelling is offered only when it
differs from the name and is itself of the wanted style.
-/

namespace NamingLint.CasingStyle

open Text

def capitalize : List Char → List Char
  | [] => []
  | c :: rest => upperChars c ++ rest.flatMap lowerChars

def camelJoin : List (List Char) → String
  | [] => ""
  | w :: ws => lowercase (String.ofList w) ++ String.join (ws.map fun w => String.ofList (capitalize w))

def spell (words : List (List Char)) : CasingStyle → Option String
  | camelCase => some (camelJoin words)
  | pascalCase => some (String.join (words.map fun w => String.ofList (capitalize w)))
  | snakeCase => some ("_".intercalate (words.map fun w => lowercase (String.ofList w)))
  | upperSnakeCase => some ("_".intercalate (words.map fun w => uppercase (String.ofList w)))
  | leadingUnderscore => some ("_" ++ camelJoin words)
  | unrecognized => none

/-- The name respelled in `style`, when that keeps its words, changes it and has the style. -/
def suggest (name : String) (style : CasingStyle) : Option String :=
  match Words.ofChars name.toList with
  | [] => none
  | words =>
    match spell words style with
    | some s => if s != name && classify s == style then some s else none
    | none => none

end NamingLint.CasingStyle

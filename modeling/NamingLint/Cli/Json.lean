
namespace NamingLint.Cli

inductive JsonValue
  | null
  | num (n : Nat)
  | str (s : String)
  | arr (items : List JsonValue)
  | obj (members : List (String × JsonValue))
  deriving Repr

namespace JsonValue

def escapeChar (c : Char) : String :=
  if c = '"' then "\\\""
  else if c = '\\' then "\\\\"
  else if c = '\n' then "\\n"
  else if c = '\r' then "\\r"
  else if c = '\t' then "\\t"
  else if c.toNat = 8 then "\\b"
  else if c.toNat = 12 then "\\f"
  else if c.toNat < 0x20 then
    "\\u00" ++ String.ofList (Nat.toDigits 16 (c.toNat / 16) ++ Nat.toDigits 16 (c.toNat % 16))
  else c.toString

def quote (s : String) : String :=
  "\"" ++ String.join (s.toList.map escapeChar) ++ "\""

def indent (level : Nat) : String := String.ofList (List.replicate (2 * level) ' ')

mutual

/-- A value written at an indentation level; its first line is not indented. -/
def pretty (level : Nat) : JsonValue → String
  | .null => "null"
  | .num n => toString n
  | .str s => quote s
  | .arr [] => "[]"
  | .arr (v :: vs) => "[\n" ++ prettyItems (level + 1) (v :: vs) ++ "\n" ++ indent level ++ "]"
  | .obj [] => "\x7b\x7d"
  | .obj (m :: ms) =>
    "\x7b\n" ++ prettyMembers (level + 1) (m :: ms) ++ "\n" ++ indent level ++ "\x7d"

def prettyItems (level : Nat) : List JsonValue → String
  | [] => ""
  | [v] => indent level ++ pretty level v
  | v :: vs => indent level ++ pretty level v ++ ",\n" ++ prettyItems level vs

def prettyMembers (level : Nat) : List (String × JsonValue) → String
  | [] => ""
  | [(k, v)] => indent level ++ quote k ++ ": " ++ pretty level v
  | (k, v) :: ms => indent level ++ quote k ++ ": " ++ pretty level v ++ ",\n" ++
    prettyMembers level ms

end

end JsonValue

end NamingLint.Cli

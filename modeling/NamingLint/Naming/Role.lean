import NamingLint.Text.Trim

namespace NamingLint

/-- What a declared name names. -/
inductive Role
  | field
  | method
  | localVariable
  | type
  | constant
  deriving DecidableEq, Repr, Inhabited

namespace Role

def all : List Role := [field, method, localVariable, type, constant]

def name : Role → String
  | field => "field"
  | method => "method"
  | localVariable => "localVariable"
  | type => "class"
  | constant => "constant"

end Role

structure UnknownRole where
  text : String
  deriving DecidableEq, Repr

def UnknownRole.message (e : UnknownRole) : String :=
  "unknown role '" ++ e.text ++ "'"

namespace Role

def parse (s : String) : Except UnknownRole Role :=
  match Text.trim s with
  | "field" | "member" => .ok field
  | "method" => .ok method
  | "localVariable" | "local_variable" | "local" => .ok localVariable
  | "class" | "type" => .ok type
  | "constant" => .ok constant
  | other => .error ⟨other⟩

end Role

end NamingLint

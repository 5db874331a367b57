import NamingLint.Naming.Role

namespace NamingLint.Declaration

/-- A name declared in a compilation unit. -/
structure Occurrence where
  name : String
  role : Role
  line : Nat
  column : Nat
  start : Nat
  stop : Nat
  deriving DecidableEq, Repr

end NamingLint.Declaration

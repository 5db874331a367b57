
namespace NamingLint.Files

inductive Component
  | root
  | current
  | parent
  | normal (name : String)
  deriving DecidableEq, Repr

def restComponents : List String → List Component
  | [] => []
  | p :: ps =>
    if p = "" || p = "." then restComponents ps
    else if p = ".." then .parent :: restComponents ps
    else .normal p :: restComponents ps

def components (path : String) : List Component :=
  match path.splitOn "/" with
  | "" :: ps => if path.isEmpty then [] else .root :: restComponents ps
  | "." :: ps => .current :: restComponents ps
  | ps => restComponents ps

def fileName? (path : String) : Option String :=
  match (components path).getLast? with
  | some (.normal name) => some name
  | _ => none

def nameExtension? (name : String) : Option String :=
  if name = ".." then none
  else
    match (name.splitOn ".").reverse with
    | ext :: before :: more => if (before :: more).reverse = [""] then none else some ext
    | _ => none

def extension? (path : String) : Option String := (fileName? path).bind nameExtension?

def Component.rank : Component → Nat
  | .root => 0
  | .current => 1
  | .parent => 2
  | .normal _ => 3

def Component.lt (a b : Component) : Bool :=
  match a, b with
  | .normal x, .normal y => decide (x < y)
  | _, _ => a.rank < b.rank

def componentsLe : List Component → List Component → Bool
  | [], _ => true
  | _ :: _, [] => false
  | a :: as, b :: bs => if a.lt b then true else if b.lt a then false else componentsLe as bs

/-- Whether path `a` comes before or equals path `b`. -/
def pathLe (a b : String) : Bool := componentsLe (components a) (components b)

end NamingLint.Files

import NamingLint.Naming.Style
import NamingLint.Text.Alphanumeric
import NamingLint.Text.Lowercase
import NamingLint.Text.Uppercase

namespace NamingLint.CasingStyle

open Text

def ofChars : List Char → CasingStyle
  | [] => unrecognized
  | first :: rest =>
    let cs := first :: rest
    if first = '_' then leadingUnderscore
    else if !isAlphabetic first || !cs.all (fun c => isAlphanumeric c || c = '_') then unrecognized
    else
      let lower := cs.any isLowercase
      let upper := cs.any isUppercase
      if cs.contains '_' then
        if upper && !lower then upperSnakeCase else snakeCase
      else if upper && !lower && cs.length > 1 then upperSnakeCase
      else if isUppercase first then pascalCase
      else if isLowercase first then camelCase
      else unrecognized

/-- The style of a name. -/
def classify (name : String) : CasingStyle := ofChars name.toList

end NamingLint.CasingStyle

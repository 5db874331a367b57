import NamingLint.Text.Alphabetic
import NamingLint.Text.Numeric

namespace NamingLint.Text

def isAlphanumeric (c : Char) : Bool := isAlphabetic c || isNumeric c

end NamingLint.Text

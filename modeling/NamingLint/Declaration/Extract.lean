import NamingLint.Declaration.Scan
import NamingLint.Java.Lexer

namespace NamingLint.Declaration

open Java Source

/-- The scanner for the tokens of `source`. -/
def Scanner.ofTokens (source : String) (ts : Tokens) : Scanner :=
  { tokens := ts, anonymous := ts.anonymousBodies, lines := LineIndex.ofString source,
    anonymous_size := ts.size_anonymousBodies }

def occurrencesOfTokens (source : String) (ts : Tokens) : Array Occurrence :=
  ((Scanner.ofTokens source ts).run 0 ⟨[], #[]⟩).found

/-- The declared names of a compilation unit, or the lexical error that stops its tokens. -/
def extractOccurrences (source : String) : Except LexError (Array Occurrence) :=
  (tokenize source).map (occurrencesOfTokens source)

end NamingLint.Declaration

import NamingLint.Text.CodeRanges
import NamingLint.Text.CaseRun
import NamingLint.Text.Alphabetic
import NamingLint.Text.Numeric
import NamingLint.Text.Lowercase
import NamingLint.Text.Uppercase
import NamingLint.Text.Cased
import NamingLint.Text.Blank
import NamingLint.Text.GraphemeExtend
import NamingLint.Text.Printable
import NamingLint.Text.CaseMap.Lower
import NamingLint.Text.CaseMap.Upper
import NamingLint.Text.Alphanumeric
import NamingLint.Text.Trim
import NamingLint.Text.CaseMap
import NamingLint.Naming.Style
import NamingLint.Naming.Role
import NamingLint.Naming.Classify
import NamingLint.Naming.Words
import NamingLint.Naming.Suggest
import NamingLint.Text.Automaton
import NamingLint.Text.Utf16
import NamingLint.Text.Utf8
import NamingLint.Text.Quote
import NamingLint.Java.Lexeme.WordChars
import NamingLint.Java.Lexeme.Word
import NamingLint.Java.Lexeme.Number
import NamingLint.Java.Lexeme.Quoted
import NamingLint.Java.Lexeme
import NamingLint.Java.Escape
import NamingLint.Java.Keyword
import NamingLint.Java.Token
import NamingLint.Java.LexError
import NamingLint.Java.Lexer
import NamingLint.Source.LineIndex
import NamingLint.Declaration.Shape
import NamingLint.Declaration.Occurrence
import NamingLint.Declaration.Scan
import NamingLint.Declaration.Extract
import NamingLint.Naming.Rules
import NamingLint.Check.Violation
import NamingLint.Check.Input
import NamingLint.Config.Toml.Scalar
import NamingLint.Config.Toml
import NamingLint.Files.Path
import NamingLint.Config.Settings
import NamingLint.Files.Workspace
import NamingLint.Cli.Similarity
import NamingLint.Cli.Args
import NamingLint.Cli.Json
import NamingLint.Cli.Report
import NamingLint.Cli.Run
import NamingLint.Main
import NamingLint.Proofs.Shape.Brackets
import NamingLint.Proofs.Shape.Readers
import NamingLint.Proofs.Scan.Recorded
import NamingLint.Proofs.Scan.Termination
import NamingLint.Proofs.Scan.Alike
import NamingLint.Proofs.Scan.Patterns
import NamingLint.Proofs.Scan.Declarators
import NamingLint.Proofs.Lexer.Order
import NamingLint.Proofs.Lexer.Longest
import NamingLint.Proofs.Lexer.Partition
import NamingLint.Proofs.Source.Lines
import NamingLint.Proofs.Extract.Mirror
import NamingLint.Proofs.Extract.InRange
import NamingLint.Proofs.Extract.Mark
import NamingLint.Proofs.Check.Suggestion
import NamingLint.Proofs.Naming.Steps
import NamingLint.Proofs.Java.Escapes
import NamingLint.Proofs.Naming.Config
import NamingLint.Proofs.Text.Ascii
import NamingLint.Proofs.Naming.Words
import NamingLint.Proofs.Naming.Respelling
import NamingLint.Proofs.Lexer.Closers
import NamingLint.Proofs.Lexer.Locality
import NamingLint.Proofs.Extract.Rename

import NamingLint.Java.Lexeme
import NamingLint.Java.Token
import NamingLint.Java.LexError
import NamingLint.Text.Utf8

namespace NamingLint.Java

open Text

def LexemeClass.token? (cls : LexemeClass) (text : String) (start stop : Nat) : Option Token :=
  match cls with
  | .blank | .lineComment | .blockComment => none
  | .word => some ⟨wordKind (decodeEscapes text), text, start, stop⟩
  | .number | .string | .textBlock | .char => some ⟨.literal, text, start, stop⟩
  | .greater | .operator => some ⟨.operator, text, start, stop⟩

/-- The tokens of `cs`, which starts at byte `offset` of the text, after those in `acc`. -/
def scanFrom (offset : Nat) (cs : List Char) (acc : Array Token) : Except LexError (Array Token) :=
  match cs with
  | [] => .ok acc
  | c :: more =>
    match lexemeAt (c :: more) with
    | none => .error (LexError.ofText (c :: more) offset)
    | some (cls, n) =>
      if _hn : n = 0 then .error (LexError.ofText (c :: more) offset)
      else
        let lexeme := (c :: more).take n
        let stop := offset + utf8Length lexeme
        let acc := match cls.token? (String.ofList lexeme) offset stop with
          | some t => acc.push t
          | none => acc
        scanFrom stop ((c :: more).drop n) acc
termination_by cs.length
decreasing_by simp only [List.length_drop, List.length_cons]; omega

/-- The tokens of a text, or the first lexical error. -/
def tokenize (source : String) : Except LexError (Array Token) :=
  match source.toList with
  | '﻿' :: rest => scanFrom 3 rest #[]
  | cs => scanFrom 0 cs #[]

end NamingLint.Java

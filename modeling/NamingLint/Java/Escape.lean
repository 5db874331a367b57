import NamingLint.Text.Utf16

namespace NamingLint.Java

open Text

def hexValue (c : Char) : Nat :=
  if c.isDigit then c.toNat - '0'.toNat
  else if 'a' ≤ c ∧ c ≤ 'f' then c.toNat - 'a'.toNat + 10
  else c.toNat - 'A'.toNat + 10

def unitOf (a b c d : Char) : Nat :=
  ((hexValue a * 16 + hexValue b) * 16 + hexValue c) * 16 + hexValue d

/-- The escape at the start of `cs`: its code unit and the text after it. -/
def escapeAt? : List Char → Option (Nat × List Char)
  | '\\' :: 'u' :: rest =>
    match rest.dropWhile (· = 'u') with
    | a :: b :: c :: d :: after =>
      if a.isHexDigit && b.isHexDigit && c.isHexDigit && d.isHexDigit then
        some (unitOf a b c d, after)
      else none
    | _ => none
  | _ => none

theorem escapeAt?_length {cs after : List Char} {u : Nat} (h : escapeAt? cs = some (u, after)) :
    after.length < cs.length := by
  unfold escapeAt? at h
  split at h
  · rename_i rest
    have hle := (List.dropWhile_suffix (· = 'u') (l := rest)).length_le
    split at h
    · rename_i a b c d after' heq
      split at h
      · simp only [Option.some.injEq, Prod.mk.injEq] at h
        obtain ⟨-, rfl⟩ := h
        rw [heq] at hle
        simp at hle ⊢
        omega
      · simp at h
    · simp at h
  · simp at h

def decodeFrom (units : List Nat) (cs : List Char) : List Char :=
  match _h : escapeAt? cs with
  | some (u, after) => decodeFrom (u :: units) after
  | none =>
    match cs with
    | [] => decodeUnits units.reverse
    | c :: rest => decodeUnits units.reverse ++ c :: decodeFrom [] rest
termination_by cs.length
decreasing_by
  · exact escapeAt?_length ‹_›
  · simp

/-- The text with its Unicode escapes decoded. -/
def decodeEscapes (s : String) : String := String.ofList (decodeFrom [] s.toList)

end NamingLint.Java

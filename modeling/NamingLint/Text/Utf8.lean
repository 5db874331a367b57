
namespace NamingLint.Text

/-- The number of UTF-8 bytes of the characters. -/
def utf8Length (cs : List Char) : Nat := (cs.map Char.utf8Size).foldr (· + ·) 0

structure Utf8Error where
  validUpTo : Nat
  errorLength : Option Nat
  deriving DecidableEq, Repr

def Utf8Error.message (e : Utf8Error) : String :=
  match e.errorLength with
  | some n =>
    "invalid utf-8 sequence of " ++ toString n ++ " bytes from index " ++ toString e.validUpTo
  | none => "incomplete utf-8 byte sequence from index " ++ toString e.validUpTo

def isContinuation (b : Nat) : Bool := 0x80 ≤ b && b < 0xC0

def secondByteOk (first b : Nat) : Bool :=
  if first = 0xE0 then 0xA0 ≤ b && b < 0xC0
  else if first = 0xED then 0x80 ≤ b && b < 0xA0
  else if first = 0xF0 then 0x90 ≤ b && b < 0xC0
  else if first = 0xF4 then 0x80 ≤ b && b < 0x90
  else isContinuation b

def payload (b : Nat) : Nat := b % 0x40

def decodeChar : List Nat → Except (Option Nat) (Char × List Nat)
  | [] => .error none
  | b :: rest =>
    if b < 0x80 then .ok (Char.ofNat b, rest)
    else if 0xC2 ≤ b && b < 0xE0 then
      match rest with
      | [] => .error none
      | c :: rest =>
        if isContinuation c then .ok (Char.ofNat ((b % 0x20) * 0x40 + payload c), rest)
        else .error (some 1)
    else if 0xE0 ≤ b && b < 0xF0 then
      match rest with
      | [] => .error none
      | c :: rest =>
        if !secondByteOk b c then .error (some 1)
        else match rest with
          | [] => .error none
          | d :: rest =>
            if isContinuation d then
              .ok (Char.ofNat (((b % 0x10) * 0x40 + payload c) * 0x40 + payload d), rest)
            else .error (some 2)
    else if 0xF0 ≤ b && b < 0xF5 then
      match rest with
      | [] => .error none
      | c :: rest =>
        if !secondByteOk b c then .error (some 1)
        else match rest with
          | [] => .error none
          | d :: rest =>
            if !isContinuation d then .error (some 2)
            else match rest with
              | [] => .error none
              | e :: rest =>
                if isContinuation e then
                  .ok (Char.ofNat
                    ((((b % 0x08) * 0x40 + payload c) * 0x40 + payload d) * 0x40 + payload e), rest)
                else .error (some 3)
    else .error (some 1)

theorem decodeChar_length {bs rest : List Nat} {c : Char} (h : decodeChar bs = .ok (c, rest)) :
    rest.length < bs.length := by
  unfold decodeChar at h
  split at h
  · simp at h
  · rename_i b bs'
    repeat' split at h
    all_goals first
      | (simp only [Except.ok.injEq, Prod.mk.injEq] at h; obtain ⟨-, rfl⟩ := h; simp; try omega)
      | simp at h

def decodeFrom (index : Nat) (bs : List Nat) (acc : List Char) : Except Utf8Error (List Char) :=
  match bs with
  | [] => .ok acc.reverse
  | b :: more =>
    match h : decodeChar (b :: more) with
    | .ok (c, rest) => decodeFrom (index + (more.length + 1 - rest.length)) rest (c :: acc)
    | .error k => .error ⟨index, k⟩
termination_by bs.length
decreasing_by exact decodeChar_length h

/-- The text of UTF-8 bytes, or where and how they fail to be UTF-8. -/
def decodeUtf8 (bytes : List Nat) : Except Utf8Error String :=
  (decodeFrom 0 bytes []).map String.ofList

end NamingLint.Text

import Mathlib
import NamingLint.Java.Escape

namespace NamingLint.Text

def utf16Units (c : Char) : List Nat :=
  if c.toNat < 0x10000 then [c.toNat]
  else [0xD800 + (c.toNat - 0x10000) / 0x400, 0xDC00 + (c.toNat - 0x10000) % 0x400]

def encodeUnits (cs : List Char) : List Nat := cs.flatMap utf16Units

@[simp] theorem encodeUnits_nil : encodeUnits [] = [] := rfl

@[simp] theorem encodeUnits_cons (c : Char) (cs : List Char) :
    encodeUnits (c :: cs) = utf16Units c ++ encodeUnits cs := rfl

theorem toNat_valid (c : Char) : c.toNat < 0xD800 ∨ 0xDFFF < c.toNat ∧ c.toNat < 0x110000 :=
  c.valid

theorem utf16Units_lt (c : Char) : ∀ u ∈ utf16Units c, u < 0x10000 := by
  have := toNat_valid c
  unfold utf16Units
  split <;> simp <;> omega

theorem utf16Units_head (c : Char) (ys : List Nat) :
    ∀ u ∈ (utf16Units c ++ ys).head?, isLowSurrogate u = false := by
  have := toNat_valid c
  unfold utf16Units isLowSurrogate
  split <;> simp <;> omega

theorem decodeUnits_append : ∀ (xs : List Nat) {ys : List Nat},
    (∀ v ∈ ys.head?, isLowSurrogate v = false) →
    decodeUnits (xs ++ ys) = decodeUnits xs ++ decodeUnits ys
  | [], _, _ => by simp [decodeUnits]
  | [u], [], _ => by simp [decodeUnits]
  | [u], v :: more, hys => by
    have hv : isLowSurrogate v = false := hys v rfl
    by_cases hhi : isHighSurrogate u <;> by_cases hlo : isLowSurrogate u <;>
      simp [decodeUnits, hhi, hlo, hv]
  | u :: v :: more, ys, hys => by
    have ih₁ := decodeUnits_append more hys
    have ih₂ := decodeUnits_append (v :: more) hys
    simp only [List.cons_append] at ih₂
    simp only [List.cons_append, decodeUnits]
    split_ifs <;> simp [ih₁, ih₂]

theorem decodeUnits_utf16Units_append (c : Char) (ys : List Nat) :
    decodeUnits (utf16Units c ++ ys) = c :: decodeUnits ys := by
  have hvalid := toNat_valid c
  by_cases hbmp : c.toNat < 0x10000
  · -- one unit, which is no surrogate
    have hnot : isHighSurrogate c.toNat = false ∧ isLowSurrogate c.toNat = false := by
      simp [isHighSurrogate, isLowSurrogate]; omega
    rw [utf16Units, if_pos hbmp]
    cases ys <;> simp [decodeUnits, hnot]
  · -- a surrogate pair
    have hu : utf16Units c =
        [0xD800 + (c.toNat - 0x10000) / 0x400, 0xDC00 + (c.toNat - 0x10000) % 0x400] :=
      if_neg hbmp
    have hhi : isHighSurrogate (0xD800 + (c.toNat - 0x10000) / 0x400) = true := by
      simp [isHighSurrogate]; omega
    have hlo : isLowSurrogate (0xDC00 + (c.toNat - 0x10000) % 0x400) = true := by
      simp [isLowSurrogate]; omega
    have hpair : ofSurrogates (0xD800 + (c.toNat - 0x10000) / 0x400)
        (0xDC00 + (c.toNat - 0x10000) % 0x400) = c := by
      have hn : 0x10000 + (0xD800 + (c.toNat - 0x10000) / 0x400 - 0xD800) * 0x400 +
          (0xDC00 + (c.toNat - 0x10000) % 0x400 - 0xDC00) = c.toNat := by omega
      rw [ofSurrogates, hn, Char.ofNat_toNat]
    rw [hu]
    simp [decodeUnits, hhi, hlo, hpair]

theorem decodeUnits_encodeUnits_append (cs : List Char) (ys : List Nat) :
    decodeUnits (encodeUnits cs ++ ys) = cs ++ decodeUnits ys := by
  induction cs with
  | nil => simp
  | cons c cs ih => rw [encodeUnits_cons, List.append_assoc, decodeUnits_utf16Units_append, ih]; rfl

@[simp] theorem decodeUnits_encodeUnits (cs : List Char) : decodeUnits (encodeUnits cs) = cs := by
  simpa [decodeUnits] using decodeUnits_encodeUnits_append cs []

end NamingLint.Text

namespace NamingLint.Java

open Text

theorem escapeAt?_eq_some_iff {cs after : List Char} {u : Nat} :
    escapeAt? cs = some (u, after) ↔
      ∃ k a b c d, cs = '\\' :: List.replicate (k + 1) 'u' ++ a :: b :: c :: d :: after ∧
        a.isHexDigit ∧ b.isHexDigit ∧ c.isHexDigit ∧ d.isHexDigit ∧ u = unitOf a b c d := by
  constructor
  · intro h
    unfold escapeAt? at h
    split at h
    · rename_i rest
      split at h
      · rename_i a b c d after' hdrop
        split at h
        · rename_i hhex
          simp only [Option.some.injEq, Prod.mk.injEq] at h
          obtain ⟨rfl, rfl⟩ := h
          simp only [Bool.and_eq_true] at hhex
          obtain ⟨⟨⟨ha, hb⟩, hc⟩, hd⟩ := hhex
          have htake : rest.takeWhile (· = 'u') =
              List.replicate (rest.takeWhile (· = 'u')).length 'u' :=
            List.eq_replicate_iff.2 ⟨rfl, fun x hx => by simpa using List.mem_takeWhile_imp hx⟩
          refine ⟨(rest.takeWhile (· = 'u')).length, a, b, c, d, ?_, ha, hb, hc, hd, rfl⟩
          conv_lhs => rw [← List.takeWhile_append_dropWhile (p := (· = 'u')) (l := rest)]
          rw [hdrop, htake]
          simp [List.replicate_succ]
        · cases h
      · cases h
    · cases h
  · rintro ⟨k, a, b, c, d, rfl, ha, hb, hc, hd, rfl⟩
    have hau : a ≠ 'u' := by
      rintro rfl
      exact absurd ha (by decide)
    have hdrop : (List.replicate k 'u' ++ a :: b :: c :: d :: after).dropWhile (· = 'u') =
        a :: b :: c :: d :: after := by
      rw [List.dropWhile_append]
      simp [hau]
    simp [escapeAt?, List.replicate_succ, hdrop, ha, hb, hc, hd]

/-- The code units a text stands for, read from left to right: an escape gives its unit, any
other character the UTF-16 units of its code point. -/
def escapedUnits (cs : List Char) : List Nat :=
  match _h : escapeAt? cs with
  | some (u, after) => u :: escapedUnits after
  | none =>
    match cs with
    | [] => []
    | c :: rest => utf16Units c ++ escapedUnits rest
termination_by cs.length
decreasing_by
  · exact escapeAt?_length ‹_›
  · simp

theorem escapedUnits_escape {cs after : List Char} {u : Nat} (h : escapeAt? cs = some (u, after)) :
    escapedUnits cs = u :: escapedUnits after := by
  rw [escapedUnits]
  split
  · rename_i heq
    rw [h] at heq
    simp only [Option.some.injEq, Prod.mk.injEq] at heq
    obtain ⟨rfl, rfl⟩ := heq
    rfl
  · rename_i heq
    rw [h] at heq
    cases heq

@[simp] theorem escapedUnits_nil : escapedUnits [] = [] := by
  rw [escapedUnits]
  split
  · rename_i heq
    cases heq
  · rfl

theorem escapedUnits_char {c : Char} {rest : List Char} (h : escapeAt? (c :: rest) = none) :
    escapedUnits (c :: rest) = utf16Units c ++ escapedUnits rest := by
  rw [escapedUnits]
  split
  · rename_i heq
    rw [h] at heq
    cases heq
  · rfl

theorem decodeFrom_eq_decodeUnits (units : List Nat) (cs : List Char) :
    decodeFrom units cs = decodeUnits (units.reverse ++ escapedUnits cs) := by
  fun_induction decodeFrom units cs with
  | case1 units cs u after h ih =>
    rw [ih, escapedUnits_escape h]
    simp
  | case2 units h => simp
  | case3 units c rest h ih =>
    rw [ih, escapedUnits_char h, decodeUnits_append _ (utf16Units_head c _),
      decodeUnits_utf16Units_append]
    simp

theorem escapeAt?_of_ne {c : Char} (rest : List Char) (hc : c ≠ '\\') :
    escapeAt? (c :: rest) = none := by
  unfold escapeAt?
  split
  · simp_all
  · rfl

theorem escapedUnits_plain {cs : List Char} (h : '\\' ∉ cs) : escapedUnits cs = encodeUnits cs := by
  induction cs with
  | nil => simp
  | cons c cs ih =>
    have hc : c ≠ '\\' := fun hc => h (hc ▸ List.mem_cons_self ..)
    rw [escapedUnits_char (escapeAt?_of_ne cs hc), ih (fun hm => h (List.mem_cons_of_mem _ hm))]
    rfl

def escapeUnit (u : Nat) : List Char :=
  ['\\', 'u', Nat.digitChar (u / 0x1000), Nat.digitChar (u / 0x100 % 16),
    Nat.digitChar (u / 0x10 % 16), Nat.digitChar (u % 16)]

def escapeAll (s : String) : String := String.ofList ((encodeUnits s.toList).flatMap escapeUnit)

theorem digitChar_hex : ∀ n < 16, (Nat.digitChar n).isHexDigit ∧ hexValue (Nat.digitChar n) = n := by
  decide

theorem escapeAt?_escapeUnit {u : Nat} (hu : u < 0x10000) (rest : List Char) :
    escapeAt? (escapeUnit u ++ rest) = some (u, rest) := by
  obtain ⟨ha, hva⟩ := digitChar_hex (u / 0x1000) (by omega)
  obtain ⟨hb, hvb⟩ := digitChar_hex (u / 0x100 % 16) (by omega)
  obtain ⟨hc, hvc⟩ := digitChar_hex (u / 0x10 % 16) (by omega)
  obtain ⟨hd, hvd⟩ := digitChar_hex (u % 16) (by omega)
  refine escapeAt?_eq_some_iff.2 ⟨0, _, _, _, _, rfl, ha, hb, hc, hd, ?_⟩
  rw [unitOf, hva, hvb, hvc, hvd]
  omega

theorem escapedUnits_escapeUnits {us : List Nat} (hus : ∀ u ∈ us, u < 0x10000) :
    escapedUnits (us.flatMap escapeUnit) = us := by
  induction us with
  | nil => simp
  | cons u us ih =>
    rw [List.flatMap_cons, escapedUnits_escape (escapeAt?_escapeUnit (hus u (by simp)) _),
      ih (fun v hv => hus v (by simp [hv]))]

theorem escapedUnits_escapeAll (s : String) :
    escapedUnits (escapeAll s).toList = encodeUnits s.toList := by
  rw [escapeAll, String.toList_ofList, escapedUnits_escapeUnits]
  intro u hu
  obtain ⟨c, -, hc⟩ := List.mem_flatMap.1 hu
  exact utf16Units_lt c u hc

/-- Decoding the escapes of a text is decoding the code units it stands for all at once, where
an escape is a backslash, one or more `u` and four hexadecimal digits. A text without a
backslash stands for its own units, which decode back to it; a text written wholly as escapes
decodes to the text it spells. -/
theorem decodeEscapes_eq_decodeUnits :
    (∀ cs after u, escapeAt? cs = some (u, after) ↔
      ∃ k a b c d, cs = '\\' :: List.replicate (k + 1) 'u' ++ a :: b :: c :: d :: after ∧
        a.isHexDigit ∧ b.isHexDigit ∧ c.isHexDigit ∧ d.isHexDigit ∧ u = unitOf a b c d) ∧
    (∀ t, decodeEscapes t = String.ofList (decodeUnits (escapedUnits t.toList))) ∧
    (∀ t, '\\' ∉ t.toList → String.ofList (decodeUnits (escapedUnits t.toList)) = t) ∧
    ∀ s, decodeEscapes (escapeAll s) = s := by
  have hdecode (t : String) : decodeEscapes t = String.ofList (decodeUnits (escapedUnits t.toList)) := by
    simp [decodeEscapes, decodeFrom_eq_decodeUnits]
  refine ⟨fun _ _ _ => escapeAt?_eq_some_iff, hdecode, fun t ht => ?_, fun s => ?_⟩
  · rw [escapedUnits_plain ht, decodeUnits_encodeUnits, String.ofList_toList]
  · rw [hdecode, escapedUnits_escapeAll, decodeUnits_encodeUnits, String.ofList_toList]

example : decodeEscapes "\\uD835\\uDC00 \\uD835x" = "𝐀 �x" := by cbv

theorem plain_text_decodes_to_itself :
    '\\' ∉ "plain".toList ∧ String.ofList (decodeUnits (escapedUnits "plain".toList)) = "plain" :=
  ⟨by decide, decodeEscapes_eq_decodeUnits.2.2.1 "plain" (by decide)⟩

end NamingLint.Java

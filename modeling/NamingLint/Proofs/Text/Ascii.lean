import Mathlib
import NamingLint.Text.CaseMap
import NamingLint.Text.Alphanumeric
import NamingLint.Text.Lowercase
import NamingLint.Text.Uppercase

namespace NamingLint.Text

theorem ascii_tables : ∀ n < 128,
    isUppercase (Char.ofNat n) = (Char.ofNat n).isUpper ∧
    isLowercase (Char.ofNat n) = (Char.ofNat n).isLower ∧
    isAlphabetic (Char.ofNat n) = (Char.ofNat n).isAlpha ∧
    isNumeric (Char.ofNat n) = (Char.ofNat n).isDigit ∧
    lowerChars (Char.ofNat n) = [(Char.ofNat n).toLower] ∧
    upperChars (Char.ofNat n) = [(Char.ofNat n).toUpper] := by
  decide +kernel

section

variable {c : Char} (h : c.toNat < 128)
include h

theorem isUppercase_ascii : isUppercase c = c.isUpper := by
  simpa using (ascii_tables c.toNat h).1

theorem isLowercase_ascii : isLowercase c = c.isLower := by
  simpa using (ascii_tables c.toNat h).2.1

theorem isAlphabetic_ascii : isAlphabetic c = c.isAlpha := by
  simpa using (ascii_tables c.toNat h).2.2.1

theorem isAlphanumeric_ascii : isAlphanumeric c = c.isAlphanum := by
  have hn : isNumeric c = c.isDigit := by simpa using (ascii_tables c.toNat h).2.2.2.1
  rw [isAlphanumeric, isAlphabetic_ascii h, hn, Char.isAlphanum]

theorem lowerChars_ascii : lowerChars c = [c.toLower] := by
  simpa using (ascii_tables c.toNat h).2.2.2.2.1

theorem upperChars_ascii : upperChars c = [c.toUpper] := by
  simpa using (ascii_tables c.toNat h).2.2.2.2.2

end

theorem ascii_case_maps : ∀ n < 128,
    (Char.ofNat n).toLower.toNat < 128 ∧ (Char.ofNat n).toUpper.toNat < 128 ∧
    (Char.ofNat n).toLower.isAlphanum = (Char.ofNat n).isAlphanum ∧
    (Char.ofNat n).toUpper.isAlphanum = (Char.ofNat n).isAlphanum ∧
    (Char.ofNat n).toLower.isAlpha = (Char.ofNat n).isAlpha ∧
    (Char.ofNat n).toUpper.isAlpha = (Char.ofNat n).isAlpha ∧
    (Char.ofNat n).toLower.isUpper = false ∧ (Char.ofNat n).toUpper.isLower = false ∧
    (Char.ofNat n).toLower.isLower = (Char.ofNat n).isAlpha ∧
    (Char.ofNat n).toUpper.isUpper = (Char.ofNat n).isAlpha ∧
    (Char.ofNat n).toUpper.toLower = (Char.ofNat n).toLower ∧
    (Char.ofNat n).toLower.toLower = (Char.ofNat n).toLower := by
  decide

theorem toNat_lt_of_isAlphanum {c : Char} (h : c.isAlphanum = true) : c.toNat < 128 := by
  simp only [Char.isAlphanum, Char.isAlpha, Char.isUpper, Char.isLower, Char.isDigit,
    Bool.or_eq_true, Bool.and_eq_true, decide_eq_true_eq, UInt32.le_iff_toNat_le] at h
  have : ('Z' : Char).val.toNat = 90 := rfl
  have : ('z' : Char).val.toNat = 122 := rfl
  have : ('9' : Char).val.toNat = 57 := rfl
  rw [Char.toNat]
  omega

theorem isLower_eq_false_of_isUpper {c : Char} (h : c.isUpper = true) : c.isLower = false := by
  simp only [Char.isUpper, Char.isLower, decide_eq_true_eq,
    UInt32.le_iff_toNat_le, Bool.and_eq_false_imp, decide_eq_false_iff_not, Nat.not_le] at h ⊢
  have : ('Z' : Char).val.toNat = 90 := rfl
  have : ('a' : Char).val.toNat = 97 := rfl
  omega

section

variable {c : Char} (h : c.toNat < 128)
include h

theorem toLower_ascii :
    c.toLower.toNat < 128 ∧ c.toLower.isAlphanum = c.isAlphanum ∧ c.toLower.isAlpha = c.isAlpha ∧
      c.toLower.isUpper = false ∧ c.toLower.isLower = c.isAlpha ∧ c.toLower.toLower = c.toLower := by
  have := ascii_case_maps c.toNat h
  simp only [Char.ofNat_toNat] at this
  exact ⟨this.1, this.2.2.1, this.2.2.2.2.1, this.2.2.2.2.2.2.1, this.2.2.2.2.2.2.2.2.1,
    this.2.2.2.2.2.2.2.2.2.2.2⟩

theorem toUpper_ascii :
    c.toUpper.toNat < 128 ∧ c.toUpper.isAlphanum = c.isAlphanum ∧ c.toUpper.isAlpha = c.isAlpha ∧
      c.toUpper.isLower = false ∧ c.toUpper.isUpper = c.isAlpha ∧ c.toUpper.toLower = c.toLower := by
  have := ascii_case_maps c.toNat h
  simp only [Char.ofNat_toNat] at this
  exact ⟨this.2.1, this.2.2.2.1, this.2.2.2.2.2.1, this.2.2.2.2.2.2.2.1, this.2.2.2.2.2.2.2.2.2.1,
    this.2.2.2.2.2.2.2.2.2.2.1⟩

end

theorem isAlphanum_toLower {c : Char} (h : c.isAlphanum = true) : c.toLower.isAlphanum = true := by
  rw [(toLower_ascii (toNat_lt_of_isAlphanum h)).2.1, h]

theorem isAlphanum_toUpper {c : Char} (h : c.isAlphanum = true) : c.toUpper.isAlphanum = true := by
  rw [(toUpper_ascii (toNat_lt_of_isAlphanum h)).2.1, h]

theorem lowerFrom_ascii (before : List Char) {cs : List Char} (h : ∀ c ∈ cs, c.toNat < 128) :
    lowerFrom before cs = cs.map Char.toLower := by
  induction cs generalizing before with
  | nil => rfl
  | cons c cs ih =>
    have hc := h c (by simp)
    have hsigma : c ≠ 'Σ' := by
      rintro rfl
      exact absurd hc (by decide)
    rw [lowerFrom, if_neg hsigma, lowerChars_ascii hc, ih _ fun d hd => h d (by simp [hd])]
    rfl

theorem toList_lowercase_ascii {cs : List Char} (h : ∀ c ∈ cs, c.toNat < 128) :
    (lowercase (String.ofList cs)).toList = cs.map Char.toLower := by
  rw [lowercase, String.toList_ofList, String.toList_ofList, lowerFrom_ascii [] h]

theorem flatMap_lowerChars_ascii {cs : List Char} (h : ∀ c ∈ cs, c.toNat < 128) :
    cs.flatMap lowerChars = cs.map Char.toLower := by
  induction cs with
  | nil => rfl
  | cons c cs ih =>
    rw [List.flatMap_cons, lowerChars_ascii (h c (by simp)), ih fun d hd => h d (by simp [hd])]
    rfl

theorem flatMap_upperChars_ascii {cs : List Char} (h : ∀ c ∈ cs, c.toNat < 128) :
    cs.flatMap upperChars = cs.map Char.toUpper := by
  induction cs with
  | nil => rfl
  | cons c cs ih =>
    rw [List.flatMap_cons, upperChars_ascii (h c (by simp)), ih fun d hd => h d (by simp [hd])]
    rfl

theorem toList_uppercase_ascii {cs : List Char} (h : ∀ c ∈ cs, c.toNat < 128) :
    (uppercase (String.ofList cs)).toList = cs.map Char.toUpper := by
  rw [uppercase, String.toList_ofList, String.toList_ofList, flatMap_upperChars_ascii h]

end NamingLint.Text

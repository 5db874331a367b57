import NamingLint.Declaration.Shape

namespace NamingLint.Declaration.Tokens

variable {ts : Tokens} {o c : String}

theorem closeFrom_ge {j d r : Nat} (h : ts.closeFrom o c j d = some r) : j ≤ r := by
  fun_induction ts.closeFrom o c j d with
  | case1 j d hj t ho ih => have := ih h; omega
  | case2 j d hj t ho hc hd => simp at h; omega
  | case3 j d hj t ho hc hd ih => have := ih h; omega
  | case4 j d hj t ho hc ih => have := ih h; omega
  | case5 j d hj => simp at h

theorem closeFrom_isOp {j d r : Nat} (h : ts.closeFrom o c j d = some r) : ts.isOp r c := by
  fun_induction ts.closeFrom o c j d with
  | case1 j d hj t ho ih => exact ih h
  | case2 j d hj t ho hc hd =>
    simp only [Option.some.injEq] at h
    subst h
    simpa [isOp, hj] using hc
  | case3 j d hj t ho hc hd ih => exact ih h
  | case4 j d hj t ho hc ih => exact ih h
  | case5 j d hj => simp at h

theorem closeFrom_lt_of_deeper {j D r : Nat} (h : ts.closeFrom o c j D = some r) :
    ∀ d k, D = d + k → 1 ≤ d → 1 ≤ k → ∃ r', ts.closeFrom o c j d = some r' ∧ r' < r := by
  fun_induction ts.closeFrom o c j D with
  | case1 j D hj t ho ih =>
    intro d k hD hd hk
    rw [closeFrom, dif_pos hj, if_pos ho]
    exact ih h (d + 1) k (by omega) (by omega) hk
  | case2 j D hj t ho hcl hD => intro d k _ _ _; omega
  | case3 j D hj t ho hcl hD ih =>
    intro d k hDk hd hk
    rw [closeFrom, dif_pos hj, if_neg ho, if_pos hcl]
    by_cases h1 : d - 1 = 0
    · rw [if_pos h1]
      exact ⟨j, rfl, by have := closeFrom_ge h; omega⟩
    · rw [if_neg h1]
      exact ih h (d - 1) k (by omega) (by omega) hk
  | case4 j D hj t ho hcl ih =>
    intro d k hD hd hk
    rw [closeFrom, dif_pos hj, if_neg ho, if_neg hcl]
    exact ih h d k hD hd hk
  | case5 j D hj => simp at h

theorem closeFrom_passes {j d r : Nat} (h : ts.closeFrom o c j d = some r) (hd : 1 ≤ d) :
    ∀ p, j ≤ p → p ≤ r → ∃ d', 1 ≤ d' ∧ ts.closeFrom o c p d' = some r := by
  fun_induction ts.closeFrom o c j d with
  | case1 j d hj t ho ih =>
    intro p hjp hpr
    rcases Nat.eq_or_lt_of_le hjp with rfl | hlt
    · exact ⟨d, hd, by rw [closeFrom, dif_pos hj, if_pos ho]; exact h⟩
    · exact ih h (by omega) p (by omega) hpr
  | case2 j d hj t ho hcl hD =>
    intro p hjp hpr
    simp only [Option.some.injEq] at h
    subst h
    refine ⟨d, hd, ?_⟩
    rw [show p = j by omega, closeFrom, dif_pos hj, if_neg ho, if_pos hcl, if_pos hD]
  | case3 j d hj t ho hcl hD ih =>
    intro p hjp hpr
    rcases Nat.eq_or_lt_of_le hjp with rfl | hlt
    · exact ⟨d, hd, by rw [closeFrom, dif_pos hj, if_neg ho, if_pos hcl, if_neg hD]; exact h⟩
    · exact ih h (by omega) p (by omega) hpr
  | case4 j d hj t ho hcl ih =>
    intro p hjp hpr
    rcases Nat.eq_or_lt_of_le hjp with rfl | hlt
    · exact ⟨d, hd, by rw [closeFrom, dif_pos hj, if_neg ho, if_neg hcl]; exact h⟩
    · exact ih h hd p (by omega) hpr
  | case5 j d hj => simp at h

theorem kind_of_isIdentifier {i : Nat} (h : ts.isIdentifier i) (hi : i < ts.size) :
    ts[i].kind = .identifier := by
  simpa [isIdentifier, hi, Java.Token.isIdentifier] using h

theorem isOperator_of_isOp {i : Nat} {op : String} (h : ts.isOp i op) (hi : i < ts.size) :
    ts[i].isOperator op := by
  simpa [isOp, hi] using h

theorem matchingClose_paren {a : Nat} (ha : ts.isOp a "(") :
    ts.matchingClose a = ts.closeFrom "(" ")" (a + 1) 1 := by
  have hlt := lt_size_of_isOp ha
  have hop := isOperator_of_isOp ha hlt
  have htext : ts[a].text = "(" := by
    simp only [Java.Token.isOperator, Bool.and_eq_true, beq_iff_eq] at hop
    exact hop.2
  simp only [matchingClose, Array.getElem?_eq_getElem hlt, htext]
  rw [closeFrom, dif_pos hlt, if_pos hop]
  simp

theorem le_of_matchingClose {a e : Nat} (h : ts.matchingClose a = some e) : a ≤ e := by
  unfold matchingClose at h
  split at h
  · split at h
    · exact closeFrom_ge h
    · split at h
      · exact closeFrom_ge h
      · simp at h
  · simp at h

theorem lt_of_matchingClose {a e : Nat} (ha : ts.isOp a "(") (h : ts.matchingClose a = some e) :
    a < e := by
  rw [matchingClose_paren ha] at h
  have := closeFrom_ge h
  omega

/-- The parentheses opened at `a` close at `e`, and every `(` strictly between is closed before
`e`. -/
def Enclosed (ts : Tokens) (a e : Nat) : Prop :=
  ts.isOp e ")" ∧ ∀ p, a < p → p < e → ts.isOp p "(" → ∃ c, ts.matchingClose p = some c ∧ c < e

theorem enclosed_of_matchingClose {a e : Nat} (ha : ts.isOp a "(")
    (h : ts.matchingClose a = some e) : ts.Enclosed a e := by
  rw [matchingClose_paren ha] at h
  refine ⟨closeFrom_isOp h, fun p hap hpe hp => ?_⟩
  obtain ⟨d', hd', hpass⟩ := closeFrom_passes h (Nat.le_refl 1) p (by omega) (by omega)
  have hplt := lt_size_of_isOp hp
  rw [closeFrom, dif_pos hplt, if_pos (isOperator_of_isOp hp hplt)] at hpass
  obtain ⟨r', hr', hlt⟩ := closeFrom_lt_of_deeper hpass 1 d' (by omega) (Nat.le_refl 1) hd'
  exact ⟨r', by rw [matchingClose_paren hp]; exact hr', hlt⟩

end NamingLint.Declaration.Tokens

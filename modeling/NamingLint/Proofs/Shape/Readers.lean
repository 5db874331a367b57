import NamingLint.Proofs.Shape.Brackets

namespace NamingLint.Declaration.Tokens

open Java

variable {ts : Tokens}

theorem skipModifiers_fst_ge (j : Nat) (m : Modifiers) : j ≤ (ts.skipModifiers j m).1 := by
  fun_induction ts.skipModifiers j m <;> omega

theorem skipTypeArgumentsFrom_gt {j d k : Nat} (h : ts.skipTypeArgumentsFrom j d = some k) :
    j < k := by
  fun_induction ts.skipTypeArgumentsFrom j d <;> simp_all <;> omega

theorem skipDimensions_ge (j : Nat) : j ≤ ts.skipDimensions j := by
  fun_induction ts.skipDimensions j <;> omega

theorem afterQualifiedName_ge (j : Nat) : j ≤ ts.afterQualifiedName j := by
  fun_induction ts.afterQualifiedName j <;> omega

theorem le_of_typeArguments? {k k' : Nat}
    (h : (if ts.isOp k "<" = true then ts.skipTypeArguments k else some k) = some k') : k ≤ k' := by
  split at h
  · exact Nat.le_of_lt (skipTypeArgumentsFrom_gt h)
  · simp only [Option.some.injEq] at h
    omega

theorem afterClassType_ge {j k : Nat} (h : ts.afterClassType j = some k) : j ≤ k := by
  fun_induction ts.afterClassType j with
  | case1 j hj k₀ k? hk => simp at h
  | case2 j hj k₀ k? k' hk hdot ih => have := ih h; omega
  | case3 j hj k₀ k? k' hk hdot =>
    simp only [Option.some.injEq] at h
    have := @le_of_typeArguments? ts _ _ hk
    omega
  | case4 j hj => simp only [Option.some.injEq] at h; omega

theorem afterClassType_gt {j k : Nat} (hj : j < ts.size) (h : ts.afterClassType j = some k) :
    j < k := by
  fun_induction ts.afterClassType j with
  | case1 j hj k₀ k? hk => simp at h
  | case2 j hj k₀ k? k' hk hdot ih =>
    have := afterClassType_ge h
    omega
  | case3 j hj k₀ k? k' hk hdot =>
    simp only [Option.some.injEq] at h
    have := @le_of_typeArguments? ts _ _ hk
    omega
  | case4 j hj' => omega

theorem parseType_gt {i k : Nat} (h : ts.parseType i = some k) : i < k := by
  unfold parseType at h
  split at h
  · rename_i t ht
    have hi : i < ts.size := (Array.getElem?_eq_some_iff.mp ht).1
    split at h
    · simp only [Option.some.injEq] at h
      have := @skipDimensions_ge ts (i + 1)
      omega
    · split at h
      · obtain ⟨k', hk', rfl⟩ := Option.map_eq_some_iff.mp h
        have := afterClassType_gt hi hk'
        have := @skipDimensions_ge ts k'
        omega
      · simp at h
  · simp at h

section Enclosed

variable {a e : Nat}

theorem ne_of_not_close (he : ts.isOp e ")") {j : Nat} (hj : j < ts.size)
    (h : ts[j].isOperator ")" = false) : j ≠ e := by
  rintro rfl
  rw [isOperator_of_isOp he hj] at h
  cases h

theorem ne_of_isIdentifier (he : ts.isOp e ")") {j : Nat} (hj : ts.isIdentifier j) : j ≠ e := by
  have hlt := lt_size_of_isIdentifier hj
  have hid := kind_of_isIdentifier hj hlt
  exact ne_of_not_close he hlt (by simp [Token.isOperator, hid])

theorem ne_of_isOp (he : ts.isOp e ")") {j : Nat} {op : String} (hop : op ≠ ")")
    (hj : ts.isOp j op) : j ≠ e := by
  have hlt := lt_size_of_isOp hj
  have h := isOperator_of_isOp hj hlt
  simp only [Token.isOperator, Bool.and_eq_true, beq_iff_eq] at h
  exact ne_of_not_close he hlt (by simp [Token.isOperator, h.2, hop])

theorem skipDimensions_le (he : ts.isOp e ")") {j : Nat} (hj : j ≤ e) :
    ts.skipDimensions j ≤ e := by
  fun_induction ts.skipDimensions j with
  | case1 j hlt hdims ih =>
    simp only [Bool.and_eq_true] at hdims
    have h1 := ne_of_isOp he (by decide) hdims.1
    have h2 := ne_of_isOp he (by decide) hdims.2
    exact ih (by omega)
  | case2 j hlt hdims => exact hj
  | case3 j hge => exact hj

theorem afterQualifiedName_le (he : ts.isOp e ")") {j : Nat} (hj : j ≤ e) :
    ts.afterQualifiedName j ≤ e := by
  fun_induction ts.afterQualifiedName j with
  | case1 j hlt hid hdot ih =>
    simp only [Bool.and_eq_true] at hdot
    have h0 := ne_of_isIdentifier he (j := j) (by simp [isIdentifier, hlt, hid])
    have h1 := ne_of_isOp he (by decide) hdot.1
    have h2 := ne_of_isIdentifier he hdot.2
    exact ih (by omega)
  | case2 j hlt hid hdot =>
    have := ne_of_isIdentifier he (j := j) (by simp [isIdentifier, hlt, hid])
    omega
  | case3 j hlt hid => exact hj
  | case4 j hge => exact hj

theorem skipAnnotation_le (he : ts.Enclosed a e) {i : Nat} (hai : a < i) (hie : i < e) :
    ts.skipAnnotation i ≤ e := by
  have hq := afterQualifiedName_le he.1 (j := i + 1) (by omega)
  have hq' := @afterQualifiedName_ge ts (i + 1)
  unfold skipAnnotation
  dsimp only
  split
  · rename_i hopen
    have hne := ne_of_isOp he.1 (by decide) hopen
    obtain ⟨c, hc, hce⟩ := he.2 _ (by omega) (by omega) hopen
    simp only [afterBracket, hc]
    omega
  · exact hq

theorem skipTypeArgumentsFrom_le (he : ts.Enclosed a e) {j d k : Nat} (ha : a < j) (hj : j ≤ e)
    (h : ts.skipTypeArgumentsFrom j d = some k) : k ≤ e := by
  fun_induction ts.skipTypeArgumentsFrom j d with
  | case1 j d hlt t hop hlt' ih =>
    have : j ≠ e := ne_of_not_close he.1 hlt (by simp_all [t, Token.isOperator])
    exact ih (by omega) (by omega) h
  | case2 j d hlt t hop hlt' hgt hd =>
    have : j ≠ e := ne_of_not_close he.1 hlt (by simp_all [t, Token.isOperator])
    simp only [Option.some.injEq] at h
    omega
  | case3 j d hlt t hop hlt' hgt hd ih =>
    have : j ≠ e := ne_of_not_close he.1 hlt (by simp_all [t, Token.isOperator])
    exact ih (by omega) (by omega) h
  | case4 j d hlt t hop hlt' hgt hsep ih =>
    have : j ≠ e := ne_of_not_close he.1 hlt (by
      simp only [Token.isOperator, Bool.and_eq_false_iff, beq_eq_false_iff_ne]
      right
      intro hclose
      simp [t, hclose] at hsep)
    exact ih (by omega) (by omega) h
  | case5 j d hlt t hop hlt' hgt hsep hat ih =>
    have : j ≠ e := ne_of_not_close he.1 hlt (by simp_all [t, Token.isOperator])
    have := skipAnnotation_le he ha (i := j) (by omega)
    exact ih (by omega) (by omega) h
  | case6 j d hlt t hop hlt' hgt hsep hat => simp at h
  | case7 j d hlt t hid ih =>
    have : j ≠ e := ne_of_not_close he.1 hlt (by simp_all [t, Token.isOperator])
    exact ih (by omega) (by omega) h
  | case8 j d hlt t hkw hprim ih =>
    have : j ≠ e := ne_of_not_close he.1 hlt (by simp_all [t, Token.isOperator])
    exact ih (by omega) (by omega) h
  | case9 j d hlt t hkw hprim => simp at h
  | case10 j d hlt t hlit => simp at h
  | case11 j d hge => simp at h

theorem afterClassType_le (he : ts.Enclosed a e) {j k : Nat} (ha : a < j) (hj : j < e)
    (h : ts.afterClassType j = some k) : k ≤ e := by
  fun_induction ts.afterClassType j with
  | case1 j hlt k₀ k? hk => simp at h
  | case2 j hlt k₀ k? k' hk hdot ih =>
    simp only [Bool.and_eq_true] at hdot
    have hk' : k' ≤ e := by
      simp only [k?, k₀] at hk
      split at hk
      · exact skipTypeArgumentsFrom_le he (by omega) (by omega) hk
      · simp only [Option.some.injEq] at hk; omega
    have h1 := ne_of_isOp he.1 (by decide) hdot.1
    have h2 := ne_of_isIdentifier he.1 hdot.2
    have hge := @le_of_typeArguments? ts _ _ hk
    exact ih (by omega) (by omega) h
  | case3 j hlt k₀ k? k' hk hdot =>
    simp only [Option.some.injEq] at h
    subst h
    simp only [k?, k₀] at hk
    split at hk
    · exact skipTypeArgumentsFrom_le he (by omega) (by omega) hk
    · simp only [Option.some.injEq] at hk; omega
  | case4 j hge => simp only [Option.some.injEq] at h; omega

theorem parseType_le (he : ts.Enclosed a e) {j k : Nat} (ha : a < j) (hj : j ≤ e)
    (h : ts.parseType j = some k) : k ≤ e := by
  unfold parseType at h
  split at h
  · rename_i t ht
    obtain ⟨hlt, rfl⟩ := Array.getElem?_eq_some_iff.mp ht
    split at h
    · rename_i hprim
      simp only [Option.some.injEq] at h
      subst h
      have : j ≠ e := ne_of_not_close he.1 hlt (by
        simp only [Token.isPrimitiveType, Bool.and_eq_true, beq_iff_eq] at hprim
        simp [Token.isOperator, hprim.1])
      exact skipDimensions_le he.1 (by omega)
    · split at h
      · rename_i hid
        obtain ⟨k', hk', rfl⟩ := Option.map_eq_some_iff.mp h
        have : j ≠ e := ne_of_not_close he.1 hlt (by
          simp only [Token.isIdentifier, beq_iff_eq] at hid
          simp [Token.isOperator, hid])
        exact skipDimensions_le he.1 (afterClassType_le he ha (by omega) hk')
      · simp at h
  · simp at h

end Enclosed

/-! ## The token before a declared name -/

/-- The token before `k` ends what may stand before a declared name: a word, or `>`, `]`, `,`. -/
def LeadsTo (ts : Tokens) (k : Nat) : Prop :=
  ∃ j t, k = j + 1 ∧ ts[j]? = some t ∧
    (t.kind = .identifier ∨ t.kind = .keyword ∨ t.isOperator ">" ∨ t.isOperator "]" ∨
      t.isOperator ",")

theorem leadsTo_succ {j : Nat} (hj : j < ts.size)
    (h : ts[j].kind = .identifier ∨ ts[j].kind = .keyword ∨ ts[j].isOperator ">" ∨
      ts[j].isOperator "]" ∨ ts[j].isOperator ",") : ts.LeadsTo (j + 1) :=
  ⟨j, ts[j], rfl, by simp [hj], h⟩

theorem skipDimensions_leadsTo {j : Nat} (h : ts.LeadsTo j) : ts.LeadsTo (ts.skipDimensions j) := by
  fun_induction ts.skipDimensions j with
  | case1 j hlt hdims ih =>
    simp only [Bool.and_eq_true] at hdims
    have hclose := lt_size_of_isOp hdims.2
    exact ih (leadsTo_succ hclose (.inr (.inr (.inr (.inl (isOperator_of_isOp hdims.2 hclose))))))
  | case2 j hlt hdims => exact h
  | case3 j hge => exact h

theorem skipTypeArgumentsFrom_leadsTo {j d k : Nat} (h : ts.skipTypeArgumentsFrom j d = some k) :
    ts.LeadsTo k := by
  fun_induction ts.skipTypeArgumentsFrom j d with
  | case2 j d hlt t hop hlt' hgt hd =>
    -- the `>` that closes the outermost argument list
    simp only [Option.some.injEq] at h
    subst h
    exact leadsTo_succ hlt (.inr (.inr (.inl (by simp_all [t, Token.isOperator]))))
  | case6 => simp at h
  | case9 => simp at h
  | case10 => simp at h
  | case11 => simp at h
  | case1 _ _ _ _ _ _ ih | case3 _ _ _ _ _ _ _ _ ih | case4 _ _ _ _ _ _ _ _ ih
  | case5 _ _ _ _ _ _ _ _ _ ih | case7 _ _ _ _ _ ih | case8 _ _ _ _ _ _ ih => exact ih h

theorem afterClassType_leadsTo {j k : Nat} (hj : ts.isIdentifier j) (h : ts.afterClassType j = some k) :
    ts.LeadsTo k := by
  fun_induction ts.afterClassType j with
  | case1 j hlt k₀ k? hk => simp at h
  | case2 j hlt k₀ k? k' hk hdot ih =>
    simp only [Bool.and_eq_true] at hdot
    have hge := @le_of_typeArguments? ts _ _ hk
    exact ih (by rw [Nat.max_eq_left (by omega)]; exact hdot.2) h
  | case3 j hlt k₀ k? k' hk hdot =>
    simp only [Option.some.injEq] at h
    subst h
    simp only [k?, k₀] at hk
    split at hk
    · exact skipTypeArgumentsFrom_leadsTo hk
    · simp only [Option.some.injEq] at hk
      subst hk
      exact leadsTo_succ hlt (.inl (kind_of_isIdentifier hj hlt))
  | case4 j hge => exact absurd (lt_size_of_isIdentifier hj) hge

/-- A type read by `parseType` ends with a word, or with the `>` of its type arguments or the
`]` of its dimensions. -/
theorem parseType_leadsTo {i k : Nat} (h : ts.parseType i = some k) : ts.LeadsTo k := by
  unfold parseType at h
  split at h
  · rename_i t ht
    obtain ⟨hlt, rfl⟩ := Array.getElem?_eq_some_iff.mp ht
    split at h
    · rename_i hprim
      simp only [Option.some.injEq] at h
      subst h
      have hkw : ts[i].kind = .keyword := by
        simp only [Token.isPrimitiveType, Bool.and_eq_true, beq_iff_eq] at hprim
        exact hprim.1
      exact skipDimensions_leadsTo (leadsTo_succ hlt (.inr (.inl hkw)))
    · split at h
      · rename_i hid
        obtain ⟨k', hk', rfl⟩ := Option.map_eq_some_iff.mp h
        exact skipDimensions_leadsTo
          (afterClassType_leadsTo (by simp [isIdentifier, hlt, hid]) hk')
      · simp at h
  · simp at h

end NamingLint.Declaration.Tokens

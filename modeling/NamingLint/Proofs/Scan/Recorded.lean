import NamingLint.Declaration.Scan
import NamingLint.Proofs.Shape.Readers

/-!
# What a scan records

A reading of the scanner at position `i` that returns `n` records names only at tokens from `i`
up to `n`: the occurrences it adds are those of identifiers other than `_` at strictly increasing
positions in `[i, n)`. That is `Recorded`, and it composes along the scan. A record pattern
records its bindings before its own `)`, because a type that starts inside its parentheses ends
there at the latest (`Tokens.parseType_le`). The loop goes on from the returned position, or
stays and only pops a frame, so a whole scan records every token at most once and in order.
-/

namespace NamingLint.Java

theorem decodeFrom_plain {cs : List Char} (h : '\\' ∉ cs) : decodeFrom [] cs = cs := by
  induction cs with
  | nil =>
    rw [decodeFrom]
    split
    · rename_i heq
      simp [escapeAt?] at heq
    · simp [Text.decodeUnits]
  | cons c cs ih =>
    have hc : c ≠ '\\' := fun hc => h (hc ▸ List.mem_cons_self ..)
    have hesc : escapeAt? (c :: cs) = none := by
      unfold escapeAt?
      split
      · simp_all
      · rfl
    rw [decodeFrom]
    split
    · rename_i heq
      rw [hesc] at heq
      cases heq
    · simp [ih (fun hm => h (List.mem_cons_of_mem _ hm)), Text.decodeUnits]

theorem decodeEscapes_plain {s : String} (h : '\\' ∉ s.toList) : decodeEscapes s = s := by
  simp [decodeEscapes, decodeFrom_plain h]

end NamingLint.Java

namespace NamingLint.Declaration

open Java

namespace Scan

@[simp] theorem push_found (s : Scan) (f : Frame) : (s.push f).found = s.found := rfl

@[simp] theorem pop_found (s : Scan) : s.pop.found = s.found := rfl

@[simp] theorem setTop_found (s : Scan) (f : Frame) : (s.setTop f).found = s.found := rfl

end Scan

namespace Scanner

variable {sc : Scanner}

def occurrenceOf (sc : Scanner) (t : Token) (role : Role) : Occurrence :=
  let p := sc.lines.position t.start
  ⟨t.word, role, p.line, p.column, t.start, t.stop⟩

/-- From `s` to `s'` the scanner recorded, in order, identifiers other than `_` at strictly
increasing positions in `[lo, hi)`, each after a word, `>`, `]` or `,`, and added nothing else to
what it found. -/
def Recorded (sc : Scanner) (lo hi : Nat) (s s' : Scan) : Prop :=
  ∃ picks : List (Fin sc.tokens.size × Role),
    (picks.map (·.1.val)).Pairwise (· < ·) ∧
    (∀ x ∈ picks, lo ≤ x.1.val ∧ x.1.val < hi ∧ sc.tokens[x.1].kind = .identifier ∧
      sc.tokens[x.1].word ≠ "_" ∧ sc.tokens.LeadsTo x.1.val) ∧
    s'.found.toList = s.found.toList ++ picks.map fun x => sc.occurrenceOf sc.tokens[x.1] x.2

namespace Recorded

variable {lo hi mid : Nat} {s s₁ s₂ s' : Scan}

theorem of_found_eq (h : s'.found = s.found) : sc.Recorded lo hi s s' :=
  ⟨[], by simp, by simp, by simp [h]⟩

theorem found_eq_left (h : sc.Recorded lo hi s₁ s') (h₁ : s₁.found = s.found) :
    sc.Recorded lo hi s s' := by
  obtain ⟨picks, hsort, hpicks, hfound⟩ := h
  exact ⟨picks, hsort, hpicks, by rw [hfound, h₁]⟩

theorem found_eq_right (h : sc.Recorded lo hi s s₁) (h₁ : s'.found = s₁.found) :
    sc.Recorded lo hi s s' := by
  obtain ⟨picks, hsort, hpicks, hfound⟩ := h
  exact ⟨picks, hsort, hpicks, by rw [h₁, hfound]⟩

theorem mono {lo' hi' : Nat} (h : sc.Recorded lo hi s s') (hlo : lo' ≤ lo) (hhi : hi ≤ hi') :
    sc.Recorded lo' hi' s s' := by
  obtain ⟨picks, hsort, hpicks, hfound⟩ := h
  refine ⟨picks, hsort, fun x hx => ?_, hfound⟩
  obtain ⟨h1, h2, h3⟩ := hpicks x hx
  exact ⟨by omega, by omega, h3⟩

theorem to_size (h : sc.Recorded lo hi s s') : sc.Recorded lo sc.tokens.size s s' := by
  obtain ⟨picks, hsort, hpicks, hfound⟩ := h
  refine ⟨picks, hsort, fun x hx => ?_, hfound⟩
  obtain ⟨h1, -, h3⟩ := hpicks x hx
  exact ⟨h1, x.1.isLt, h3⟩

theorem trans (h₁ : sc.Recorded lo mid s s₁) (h₂ : sc.Recorded mid hi s₁ s₂) (hlm : lo ≤ mid)
    (hmh : mid ≤ hi) : sc.Recorded lo hi s s₂ := by
  obtain ⟨p₁, hsort₁, hp₁, hf₁⟩ := h₁
  obtain ⟨p₂, hsort₂, hp₂, hf₂⟩ := h₂
  refine ⟨p₁ ++ p₂, ?_, ?_, ?_⟩
  · rw [List.map_append, List.pairwise_append]
    refine ⟨hsort₁, hsort₂, ?_⟩
    intro a ha b hb
    obtain ⟨x, hx, rfl⟩ := List.mem_map.mp ha
    obtain ⟨y, hy, rfl⟩ := List.mem_map.mp hb
    have := (hp₁ x hx).2.1
    have := (hp₂ y hy).1
    omega
  · intro x hx
    rcases List.mem_append.mp hx with hx | hx
    · obtain ⟨h1, h2, h3⟩ := hp₁ x hx
      exact ⟨h1, by omega, h3⟩
    · obtain ⟨h1, h2, h3⟩ := hp₂ x hx
      exact ⟨by omega, h2, h3⟩
  · rw [hf₂, hf₁, List.map_append, List.append_assoc]

end Recorded

@[simp] theorem record_frames (i : Nat) (h : i < sc.tokens.size) (role : Role) (s : Scan) :
    (sc.record i h role s).frames = s.frames := by
  unfold record
  dsimp only
  split <;> rfl

theorem recorded_record {lo hi i : Nat} {hlt : i < sc.tokens.size} {role : Role} {s : Scan}
    (hid : sc.tokens.isIdentifier i) (hlead : sc.tokens.LeadsTo i) (hlo : lo ≤ i) (hhi : i < hi) :
    sc.Recorded lo hi s (sc.record i hlt role s) := by
  have hkind := Tokens.kind_of_isIdentifier hid hlt
  unfold record
  dsimp only
  split
  · exact Recorded.of_found_eq rfl
  · rename_i hword
    refine ⟨[(⟨i, hlt⟩, role)], by simp, ?_, ?_⟩
    · intro x hx
      simp only [List.mem_singleton] at hx
      subst hx
      exact ⟨hlo, hhi, hkind, by simpa using hword, hlead⟩
    · simp [occurrenceOf]

/-! ## Headers and bodies: frames only -/

theorem declarationHeader_spec (kind : TypeKind) (j : Nat) (s : Scan) :
    (sc.declarationHeader kind j s).2.found = s.found ∧ j ≤ (sc.declarationHeader kind j s).1 := by
  fun_induction sc.declarationHeader kind j s with
  | case1 j hj t hopen ih =>
    have := Nat.le_max_right (sc.tokens.afterBracket j) (j + 1)
    exact ⟨ih.1, by omega⟩
  | case2 j hj t hopen hbrace => exact ⟨rfl, by omega⟩
  | case3 j hj t hopen hbrace hsemi => exact ⟨rfl, by omega⟩
  | case4 j hj t hopen hbrace hsemi ih => exact ⟨ih.1, by omega⟩
  | case5 j hj => exact ⟨rfl, by omega⟩

theorem methodTail_spec (j : Nat) (s : Scan) :
    (sc.methodTail j s).2.found = s.found ∧ j ≤ (sc.methodTail j s).1 := by
  fun_induction sc.methodTail j s with
  | case1 j hj t hbrace => exact ⟨rfl, by omega⟩
  | case2 j hj t hbrace hsemi => exact ⟨rfl, by omega⟩
  | case3 j hj t hbrace hsemi ih => exact ⟨ih.1, by omega⟩
  | case4 j hj => exact ⟨rfl, by omega⟩

theorem methodHeader_spec (i : Nat) (s : Scan) :
    (sc.methodHeader i s).2.found = s.found ∧ min i sc.tokens.size ≤ (sc.methodHeader i s).1 := by
  unfold methodHeader
  split
  · rename_i close hclose
    have := Tokens.le_of_matchingClose hclose
    have := @methodTail_spec sc (close + 1) s
    exact ⟨this.1, by omega⟩
  · exact ⟨rfl, by omega⟩

theorem openBrace_spec (i : Nat) (h : i < sc.tokens.size) (s : Scan) :
    (sc.openBrace i h s).2.found = s.found ∧ (sc.openBrace i h s).1 = i + 1 := ⟨rfl, rfl⟩

/-! ## Readings that record -/

theorem typeHead_snd (x : Option String) (i : Nat) :
    (typeHead x i).2 = if x = some "@" then i + 2 else i + 1 := by
  unfold typeHead
  split <;> simp_all

/-- The name of a type declaration follows its keyword, `record`, or the `interface` of
`@interface`. -/
theorem typeHead_leadsTo {ts : Tokens} {i : Nat} (h : ts.isTypeDeclaration i) :
    ts.LeadsTo (typeHead ((ts[i]?).map (·.text)) i).2 := by
  have hi := Tokens.lt_size_of_isTypeDeclaration h
  rw [typeHead_snd, Array.getElem?_eq_getElem hi, Option.map_some]
  simp only [Tokens.isTypeDeclaration, Bool.or_eq_true, Bool.and_eq_true] at h
  by_cases hat : ts[i].text = "@"
  · rw [if_pos (by rw [hat])]
    have hword : ts[i].word = "@" := by rw [Token.word, hat, decodeEscapes_plain (by simp)]
    rcases h with (((h | h) | h) | ⟨-, h⟩) | ⟨⟨h, -⟩, -⟩
    · simp [Tokens.isKeyword, hi, Token.isKeyword, hword] at h
    · simp [Tokens.isKeyword, hi, Token.isKeyword, hword] at h
    · simp [Tokens.isKeyword, hi, Token.isKeyword, hword] at h
    · have hlt := Tokens.lt_size_of_any h
      simp only [Tokens.isKeyword, Array.getElem?_eq_getElem hlt, Option.any_some,
        Token.isKeyword, Bool.and_eq_true, beq_iff_eq] at h
      exact Tokens.leadsTo_succ hlt (.inr (.inl h.1))
    · simp [Tokens.isWord, hi, Token.isWord, hword] at h
  · rw [if_neg (by simpa using hat)]
    have hkw {w : String} (hw : ts.isKeyword i w) : ts[i].kind = .keyword := by
      simp only [Tokens.isKeyword, Array.getElem?_eq_getElem hi, Option.any_some,
        Token.isKeyword, Bool.and_eq_true, beq_iff_eq] at hw
      exact hw.1
    rcases h with (((h | h) | h) | ⟨h, -⟩) | ⟨⟨h, -⟩, -⟩
    · exact Tokens.leadsTo_succ hi (.inr (.inl (hkw h)))
    · exact Tokens.leadsTo_succ hi (.inr (.inl (hkw h)))
    · exact Tokens.leadsTo_succ hi (.inr (.inl (hkw h)))
    · have := Tokens.isOperator_of_isOp h hi
      simp [Token.isOperator, hat] at this
    · simp only [Tokens.isWord, Array.getElem?_eq_getElem hi, Option.any_some, Token.isWord,
        Bool.and_eq_true, beq_iff_eq] at h
      exact Tokens.leadsTo_succ hi (.inl h.1)

theorem typeDeclaration_recorded {i : Nat} (htype : sc.tokens.isTypeDeclaration i) (s : Scan) :
    sc.Recorded i (sc.typeDeclaration i s).1 s (sc.typeDeclaration i s).2 := by
  -- the name is at `i + 1`, or at `i + 2` after `@interface`; the header starts after it
  have named : ∀ kind name, i ≤ name → sc.tokens.LeadsTo name →
      sc.Recorded i (sc.declarationHeader kind (name + 1)
          (if hid : sc.tokens.isIdentifier name then
            sc.record name (Tokens.lt_size_of_isIdentifier hid) .type s else s)).1 s
        (sc.declarationHeader kind (name + 1)
          (if hid : sc.tokens.isIdentifier name then
            sc.record name (Tokens.lt_size_of_isIdentifier hid) .type s else s)).2 := by
    intro kind name hname hlead
    by_cases hid : sc.tokens.isIdentifier name
    · rw [dif_pos hid]
      have hhead := @declarationHeader_spec sc kind (name + 1)
        (sc.record name (Tokens.lt_size_of_isIdentifier hid) .type s)
      exact (recorded_record hid hlead hname (by omega)).found_eq_right hhead.1
    · rw [dif_neg hid]
      exact Recorded.of_found_eq (@declarationHeader_spec sc kind (name + 1) s).1
  unfold typeDeclaration
  split
  rename_i kind name hsel
  have hname : i ≤ name := by
    unfold typeHead at hsel
    split at hsel <;> (simp only [Prod.mk.injEq] at hsel; omega)
  have hlead := typeHead_leadsTo htype
  rw [hsel] at hlead
  exact named kind name hname hlead

theorem skipFinal_bounds (i : Nat) :
    i ≤ (if sc.tokens.isKeyword i "final" then i + 1 else i) ∧
      (if sc.tokens.isKeyword i "final" then i + 1 else i) ≤ i + 1 := by
  split <;> omega

theorem pattern_recorded_enclosed :
    (∀ i s, ∀ a e n s', sc.tokens.Enclosed a e → a < i → i < e →
      sc.pattern i s = some (n, s') → n ≤ e ∧ sc.Recorded i n s s') ∧
    (∀ k close s, ∀ a s', sc.tokens.Enclosed a close → a < k →
      sc.patternsUntil k close s = s' → sc.Recorded k close s s') := by
  refine Scanner.pattern.mutual_induct sc
    (fun i s => ∀ a e n s', sc.tokens.Enclosed a e → a < i → i < e →
      sc.pattern i s = some (n, s') → n ≤ e ∧ sc.Recorded i n s s')
    (fun k close s => ∀ a s', sc.tokens.Enclosed a close → a < k →
      sc.patternsUntil k close s = s' → sc.Recorded k close s s')
    ?none ?binding ?noParen ?unclosed ?nested ?past ?step ?skip ?done
  case none =>
    intro i s hi j hparse a e n s' _ _ _ h
    rw [pattern, dif_pos hi] at h
    simp only [j, dite_eq_ite] at hparse
    simp [hparse] at h
  case binding =>
    intro i s hi j after hparse hid a e n s' he hai hie h
    rw [pattern, dif_pos hi] at h
    simp only [j, dite_eq_ite] at hparse
    simp only [hparse, hid] at h
    obtain ⟨rfl, rfl⟩ := h
    have hij := @skipFinal_bounds sc i
    have hgt := Tokens.parseType_gt hparse
    have hle := Tokens.parseType_le he (by omega) (by omega) hparse
    have hne := Tokens.ne_of_isIdentifier he.1 hid
    exact ⟨by omega, recorded_record hid (Tokens.parseType_leadsTo hparse) (by omega) (by omega)⟩
  case noParen =>
    intro i s hi j after hparse hid hparen a e n s' _ _ _ h
    rw [pattern, dif_pos hi] at h
    simp only [j, dite_eq_ite] at hparse
    simp_all
  case unclosed =>
    intro i s hi j after hparse hid hparen hclose a e n s' _ _ _ h
    rw [pattern, dif_pos hi] at h
    simp only [j, dite_eq_ite] at hparse
    simp [hparse, hid, hclose] at h
  case nested =>
    intro i s hi j after hparse hid hparen close hclose ih a e n s' he hai hie h
    rw [pattern, dif_pos hi] at h
    simp only [j, dite_eq_ite] at hparse
    simp only [hparse, hid, Bool.false_eq_true, if_false, hparen, hclose] at h
    obtain ⟨rfl, rfl⟩ := h
    have hopen : sc.tokens.isOp after "(" := by simpa using hparen
    have hij := @skipFinal_bounds sc i
    have hgt := Tokens.parseType_gt hparse
    have hle := Tokens.parseType_le he (by omega) (by omega) hparse
    have hne := Tokens.ne_of_isOp he.1 (by decide) hopen
    -- the record pattern's own `(` lies inside the enclosing region, so it closes before `e`
    obtain ⟨c, hc, hce⟩ := he.2 after (by omega) (by omega) hopen
    rw [hclose] at hc
    cases hc
    have hinner := ih after _ (Tokens.enclosed_of_matchingClose hopen hclose) (by omega) rfl
    exact ⟨by omega, hinner.mono (by omega) (by omega)⟩
  case past =>
    intro i s hi a e n s' _ _ _ h
    rw [pattern, dif_neg hi] at h
    cases h
  case step =>
    intro k close s hk n s₁ hpat ih₁ ih₂ a s' he hak h
    rw [patternsUntil, dif_pos hk, hpat] at h
    obtain ⟨hn, hrec⟩ := ih₁ a close n s₁ he hak hk.1 hpat
    have hrest := ih₂ a s' he (by omega) h
    exact (hrec.mono (Nat.le_refl k) (Nat.le_max_left n (k + 1))).trans hrest (by omega) (by omega)
  case skip =>
    intro k close s hk hpat ih₁ ih₂ a s' he hak h
    rw [patternsUntil, dif_pos hk, hpat] at h
    exact (ih₂ a s' he (by omega) h).mono (by omega) (Nat.le_refl _)
  case done =>
    intro k close s hk a s' he hak h
    rw [patternsUntil, dif_neg hk] at h
    exact Recorded.of_found_eq (by rw [h])

theorem pattern_recorded {i n : Nat} {s s' : Scan} (h : sc.pattern i s = some (n, s')) :
    i < n ∧ sc.Recorded i n s s' := by
  rw [pattern] at h
  split at h
  · have hij := @skipFinal_bounds sc i
    dsimp only at h
    split at h
    · simp at h
    · rename_i after hparse
      have hgt := Tokens.parseType_gt hparse
      split at h
      · rename_i hid
        simp only [Option.some.injEq, Prod.mk.injEq] at h
        obtain ⟨rfl, rfl⟩ := h
        exact ⟨by omega, recorded_record hid (Tokens.parseType_leadsTo hparse) (by omega) (by omega)⟩
      · split at h
        · simp at h
        · rename_i hparen
          have hopen : sc.tokens.isOp after "(" := by simpa using hparen
          split at h
          · simp at h
          · rename_i close hclose
            simp only [Option.some.injEq, Prod.mk.injEq] at h
            obtain ⟨rfl, rfl⟩ := h
            have hlt := Tokens.lt_of_matchingClose hopen hclose
            have hinner := pattern_recorded_enclosed.2 (max (after + 1) (i + 1)) close s after _
              (Tokens.enclosed_of_matchingClose hopen hclose) (by omega) rfl
            exact ⟨by omega, hinner.mono (by omega) (by omega)⟩
  · simp at h

theorem afterPattern_recorded (i : Nat) (s : Scan) :
    i < (sc.afterPattern i s).1 ∧ sc.Recorded i (sc.afterPattern i s).1 s (sc.afterPattern i s).2 := by
  unfold afterPattern
  cases hp : sc.pattern (i + 1) s with
  | none => exact ⟨by simp, Recorded.of_found_eq rfl⟩
  | some r =>
    obtain ⟨hlt, hrec⟩ := pattern_recorded hp
    exact ⟨by simp; omega, hrec.mono (by omega) (Nat.le_refl _)⟩

/-! ## The readings of each frame -/

theorem compilationUnitItem_recorded (i : Nat) (s : Scan) :
    sc.Recorded i (sc.compilationUnitItem i s).1 s (sc.compilationUnitItem i s).2 := by
  unfold compilationUnitItem
  split
  · exact Recorded.of_found_eq rfl
  · have hij := @Tokens.skipModifiers_fst_ge sc.tokens i {}
    generalize sc.tokens.skipModifiers i {} = p at hij ⊢
    obtain ⟨j, mods⟩ := p
    dsimp only at hij ⊢
    split
    · rename_i htype
      exact (typeDeclaration_recorded htype s).mono hij (Nat.le_refl _)
    · exact Recorded.of_found_eq rfl

theorem enumConstant_found (i : Nat) (s : Scan) : (sc.enumConstant i s).2.found = s.found := by
  unfold enumConstant
  split
  · split <;> rfl
  · split
    · rfl
    · split
      · rfl
      · split
        · dsimp only
          split <;> split <;> rfl
        · rfl

theorem member_recorded (kind : TypeKind) (i : Nat) (s : Scan) :
    sc.Recorded i (sc.member kind i s).1 s (sc.member kind i s).2 := by
  unfold member
  dsimp only
  split
  · exact Recorded.of_found_eq rfl
  split
  · exact Recorded.of_found_eq rfl
  have hij := @Tokens.skipModifiers_fst_ge sc.tokens i {}
  generalize sc.tokens.skipModifiers i {} = p at hij ⊢
  obtain ⟨j, mods⟩ := p
  dsimp only at hij ⊢
  split
  · exact Recorded.of_found_eq rfl
  split
  · rename_i htype
    exact (typeDeclaration_recorded htype s).mono hij (Nat.le_refl _)
  split
  · exact Recorded.of_found_eq rfl
  rename_i j' hj'
  have hjj : j ≤ j' := Tokens.le_of_typeArguments? hj'
  split
  · exact Recorded.of_found_eq (methodHeader_spec (j' + 1) s).1
  split
  · exact Recorded.of_found_eq rfl
  split
  · exact Recorded.of_found_eq rfl
  rename_i name hname
  have hgt := Tokens.parseType_gt hname
  split
  · exact Recorded.of_found_eq rfl
  rename_i hid
  have hid : sc.tokens.isIdentifier name := by simpa using hid
  have hlt := Tokens.lt_size_of_isIdentifier hid
  have hlead := Tokens.parseType_leadsTo hname
  split
  · have hhead := @methodHeader_spec sc (name + 1) (sc.record name hlt .method s)
    exact (recorded_record hid hlead (by omega) (by omega)).found_eq_right hhead.1
  split
  · exact (recorded_record hid hlead (by omega) (by omega)).found_eq_right rfl
  · exact Recorded.of_found_eq rfl

theorem localDeclaration_recorded {i n : Nat} {s s' : Scan}
    (h : sc.localDeclaration i s = some (n, s')) : sc.Recorded i n s s' := by
  unfold localDeclaration at h
  dsimp only at h
  have hij := @Tokens.skipModifiers_fst_ge sc.tokens i {}
  generalize sc.tokens.skipModifiers i {} = p at hij h
  obtain ⟨j, mods⟩ := p
  dsimp only at hij h
  split at h
  · rename_i htype
    simp only [Option.some.injEq] at h
    have := typeDeclaration_recorded htype s
    rw [h] at this
    exact this.mono hij (Nat.le_refl _)
  split at h
  · simp at h
  split at h
  · simp at h
  rename_i name hname
  have hgt := Tokens.parseType_gt hname
  split at h
  · simp at h
  rename_i hid
  have hid : sc.tokens.isIdentifier name := by simpa using hid
  have hlead := Tokens.parseType_leadsTo hname
  split at h
  · simp only [Option.some.injEq, Prod.mk.injEq] at h
    obtain ⟨rfl, rfl⟩ := h
    exact recorded_record hid hlead (by omega) (by omega)
  split at h
  · simp at h
  · simp only [Option.some.injEq, Prod.mk.injEq] at h
    obtain ⟨rfl, rfl⟩ := h
    exact (recorded_record hid hlead (by omega) (by omega)).found_eq_right rfl

theorem blockToken_recorded (i : Nat) (s : Scan) :
    sc.Recorded i (sc.blockToken i s).1 s (sc.blockToken i s).2 := by
  unfold blockToken
  dsimp only
  split
  · rename_i r hdecl
    split at hdecl
    · exact localDeclaration_recorded hdecl
    · simp at hdecl
  · split
    · exact Recorded.of_found_eq rfl
    split
    · exact Recorded.of_found_eq rfl
    split
    · exact (afterPattern_recorded i s).2
    · exact Recorded.of_found_eq rfl

theorem declaratorToken_recorded (role : Role) (depth i : Nat) (s : Scan) :
    sc.Recorded i (sc.declaratorToken role depth i s).1 s (sc.declaratorToken role depth i s).2 := by
  unfold declaratorToken
  split
  · rename_i hi
    dsimp only
    split
    · split
      · exact (afterPattern_recorded i s).2
      · exact Recorded.of_found_eq rfl
    · exact Recorded.of_found_eq rfl
    · exact Recorded.of_found_eq rfl
    split
    · exact Recorded.of_found_eq rfl
    split
    · split <;> exact Recorded.of_found_eq rfl
    split
    · exact Recorded.of_found_eq rfl
    split
    · exact Recorded.of_found_eq rfl
    split
    · rename_i hkind _ _ _ _ hsep
      -- the name after `,` follows the comma
      have hcomma : sc.tokens[i].isOperator "," := by
        simp only [Bool.and_eq_true, beq_iff_eq] at hsep
        simp [Token.isOperator, hkind, hsep.1]
      split
      · rename_i hn
        exact recorded_record (Bool.and_eq_true_iff.1 hn).1
          (Tokens.leadsTo_succ hi (.inr (.inr (.inr (.inr hcomma))))) (by omega) (by omega)
      · exact Recorded.of_found_eq rfl
    · exact Recorded.of_found_eq rfl
  · exact Recorded.of_found_eq rfl

/-! ## The whole scan -/

theorem recorded_then_run {i n : Nat} {s s' : Scan} (h : sc.Recorded i n s s')
    (hrest : sc.Recorded (max n (i + 1)) sc.tokens.size s' (sc.run (max n (i + 1)) s')) :
    sc.Recorded i sc.tokens.size s (sc.run (max n (i + 1)) s') := by
  rcases Nat.lt_or_ge (max n (i + 1)) sc.tokens.size with hlt | hge
  · exact (h.mono (Nat.le_refl _) (Nat.le_max_left _ _)).trans hrest (by omega) (by omega)
  · rw [run, dif_neg (by omega)]
    exact h.to_size

/-- A scan from `i` records only identifiers from `i` on, each at most once and in order. -/
theorem run_recorded (i : Nat) (s : Scan) : sc.Recorded i sc.tokens.size s (sc.run i s) := by
  fun_induction sc.run i s with
  | case1 i s hi hf n s' hstep ih =>
    have h := @compilationUnitItem_recorded sc i s
    rw [hstep] at h
    exact recorded_then_run h ih
  | case2 i s hi kind rest hf n s' hstep ih =>
    have h := @enumConstant_found sc i s
    rw [hstep] at h
    exact recorded_then_run (Recorded.of_found_eq h) ih
  | case3 i s hi kind rest hf n s' hstep ih =>
    have h := @member_recorded sc kind i s
    rw [hstep] at h
    exact recorded_then_run h ih
  | case4 i s hi rest hf n s' hstep ih =>
    have h := @blockToken_recorded sc i s
    rw [hstep] at h
    exact recorded_then_run h ih
  | case5 i s hi role depth rest hf hclose ih => exact ih.found_eq_left rfl
  | case6 i s hi role depth rest hf hclose n s' hstep ih =>
    have h := @declaratorToken_recorded sc role depth i s
    rw [hstep] at h
    exact recorded_then_run h ih
  | case7 i s hi => exact Recorded.of_found_eq rfl

end Scanner

end NamingLint.Declaration

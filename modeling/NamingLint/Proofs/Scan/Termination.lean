import Mathlib
import NamingLint.Declaration.Scan
import NamingLint.Proofs.Scan.Recorded

namespace NamingLint.Declaration

open Java

namespace Tokens

variable {ts : Tokens}

theorem lt_of_closeFrom {o c : String} {j d r : Nat} (h : ts.closeFrom o c j d = some r)
    (hj : ts.isOp j c = false) : j < r := by
  rw [closeFrom] at h
  split at h
  · rename_i hlt
    dsimp only at h
    split at h
    · have := closeFrom_ge h
      omega
    · split at h
      · rename_i hclose
        simp [isOp, hlt, hclose] at hj
      · have := closeFrom_ge h
        omega
  · simp at h

theorem lt_of_matchingClose' {a e : Nat} (h : ts.matchingClose a = some e) : a < e := by
  unfold matchingClose at h
  split at h
  · rename_i t ht
    -- the token at `a` is the opener, so it is not the close the walk looks for
    have hnot : ∀ close, close ≠ t.text → ts.isOp a close = false := by
      intro close hne
      simp [isOp, ht, Token.isOperator, Ne.symm hne]
    split at h
    · exact lt_of_closeFrom h (hnot ")" (by simp_all))
    · split at h
      · exact lt_of_closeFrom h (hnot "]" (by simp_all))
      · simp at h
  · simp at h

theorem lt_afterBracket {j : Nat} (hj : j < ts.size) : j < ts.afterBracket j := by
  unfold afterBracket
  split
  · rename_i e he
    have := lt_of_matchingClose' he
    omega
  · exact hj

theorem lt_skipAnnotation (j : Nat) : j < ts.skipAnnotation j := by
  have hq := @afterQualifiedName_ge ts (j + 1)
  unfold skipAnnotation
  dsimp only
  split
  · rename_i hopen
    have := lt_afterBracket (lt_size_of_isOp hopen)
    omega
  · omega

theorem lt_skipTypeArguments {j k : Nat} (h : ts.skipTypeArguments j = some k) : j < k :=
  skipTypeArgumentsFrom_gt h

end Tokens

namespace Scanner

variable {sc : Scanner}

theorem lt_typeDeclaration (i : Nat) (s : Scan) : i < (sc.typeDeclaration i s).1 := by
  unfold typeDeclaration
  split
  rename_i kind name hsel
  -- the name is at `i + 1`, or at `i + 2` after `@interface`
  have hname : i < name := by
    unfold typeHead at hsel
    split at hsel <;> (simp only [Prod.mk.injEq] at hsel; omega)
  have := (@declarationHeader_spec sc kind (name + 1)
    (if hid : sc.tokens.isIdentifier name then
      sc.record name (Tokens.lt_size_of_isIdentifier hid) .type s else s)).2
  dsimp only
  omega

theorem lt_methodHeader {i : Nat} (hi : i < sc.tokens.size) (s : Scan) :
    i < (sc.methodHeader i s).1 := by
  unfold methodHeader
  split
  · rename_i close hclose
    have := Tokens.lt_of_matchingClose' hclose
    have := (@methodTail_spec sc (close + 1) s).2
    omega
  · exact hi

theorem lt_semicolonFrom (j : Nat) : j < compilationUnitItem.semicolonFrom sc.tokens j + 1 := by
  fun_induction compilationUnitItem.semicolonFrom sc.tokens j <;> omega

theorem lt_pattern {i n : Nat} {s s' : Scan} (h : sc.pattern i s = some (n, s')) : i < n :=
  (pattern_recorded h).1

theorem lt_compilationUnitItem (i : Nat) (s : Scan) : i < (sc.compilationUnitItem i s).1 := by
  unfold compilationUnitItem
  split
  · exact lt_semicolonFrom i
  · have hij := @Tokens.skipModifiers_fst_ge sc.tokens i {}
    generalize sc.tokens.skipModifiers i {} = p at hij ⊢
    obtain ⟨j, mods⟩ := p
    dsimp only at hij ⊢
    split
    · have := @lt_typeDeclaration sc j s
      omega
    · omega

theorem lt_enumConstant (i : Nat) (s : Scan) : i < (sc.enumConstant i s).1 := by
  unfold enumConstant
  split
  · split <;> simp
  split
  · simp
  split
  · exact Tokens.lt_skipAnnotation i
  split
  · -- a constant, with its arguments and its class body
    have hj : i < (if sc.tokens.isOp (i + 1) "(" then sc.tokens.afterBracket (i + 1) else i + 1) := by
      split
      · rename_i hopen
        have := Tokens.lt_afterBracket (Tokens.lt_size_of_isOp hopen)
        omega
      · omega
    dsimp only
    generalize (if sc.tokens.isOp (i + 1) "(" then sc.tokens.afterBracket (i + 1) else i + 1) = j
      at hj ⊢
    split <;> (dsimp only; omega)
  · simp

theorem lt_member (kind : TypeKind) (i : Nat) (s : Scan) : i < (sc.member kind i s).1 := by
  unfold member
  dsimp only
  split
  · simp
  split
  · simp
  have hij := @Tokens.skipModifiers_fst_ge sc.tokens i {}
  generalize sc.tokens.skipModifiers i {} = p at hij ⊢
  obtain ⟨j, mods⟩ := p
  dsimp only at hij ⊢
  split
  · omega
  split
  · have := @lt_typeDeclaration sc j s
    omega
  split
  · dsimp only
    omega
  rename_i j' hj'
  have hjj : j ≤ j' := Tokens.le_of_typeArguments? hj'
  split
  · -- a constructor
    rename_i hctor
    simp only [Bool.and_eq_true] at hctor
    have := @lt_methodHeader sc _ (Tokens.lt_size_of_isOp hctor.2) s
    omega
  split
  · dsimp only
    omega
  split
  · simp
  rename_i name hname
  have hgt := Tokens.parseType_gt hname
  split
  · dsimp only
    omega
  split
  · -- a method
    rename_i hopen
    exact Nat.lt_trans (by omega) (lt_methodHeader (Tokens.lt_size_of_isOp hopen) _)
  split <;> (dsimp only; omega)

theorem lt_of_localDeclaration {i n : Nat} {s s' : Scan}
    (h : sc.localDeclaration i s = some (n, s')) : i < n := by
  unfold localDeclaration at h
  dsimp only at h
  have hij := @Tokens.skipModifiers_fst_ge sc.tokens i {}
  generalize sc.tokens.skipModifiers i {} = p at hij h
  obtain ⟨j, mods⟩ := p
  dsimp only at hij h
  split at h
  · simp only [Option.some.injEq] at h
    have := @lt_typeDeclaration sc j s
    rw [h] at this
    omega
  split at h
  · simp at h
  split at h
  · simp at h
  rename_i name hname
  have hgt := Tokens.parseType_gt hname
  split at h
  · simp at h
  split at h
  · simp only [Option.some.injEq, Prod.mk.injEq] at h
    omega
  split at h
  · simp at h
  · simp only [Option.some.injEq, Prod.mk.injEq] at h
    omega

theorem lt_afterPattern (i : Nat) (s : Scan) : i < (sc.afterPattern i s).1 :=
  (afterPattern_recorded i s).1

theorem lt_blockToken (i : Nat) (s : Scan) : i < (sc.blockToken i s).1 := by
  unfold blockToken
  dsimp only
  split
  · rename_i r hdecl
    split at hdecl
    · exact lt_of_localDeclaration hdecl
    · simp at hdecl
  · split
    · simp [openBrace]
    split
    · simp
    split
    · exact lt_afterPattern i s
    · simp

theorem lt_declaratorToken (role : Role) (depth i : Nat) (s : Scan) :
    i < (sc.declaratorToken role depth i s).1 := by
  unfold declaratorToken
  split
  · dsimp only
    split
    · split
      · exact lt_afterPattern i s
      · simp
    · simp
    · simp
    · split_ifs <;> simp [openBrace]
  · simp

def step (sc : Scanner) (i : Nat) (s : Scan) : Nat × Scan :=
  match s.frames with
  | [] => sc.compilationUnitItem i s
  | .typeBody _ true :: _ => sc.enumConstant i s
  | .typeBody kind false :: _ => sc.member kind i s
  | .block :: _ => sc.blockToken i s
  | .declarators role depth :: _ =>
    if sc.tokens.isOp i "\x7d" then (i, s.pop) else sc.declaratorToken role depth i s

theorem step_progress (i : Nat) (s : Scan) :
    i < (sc.step i s).1 ∨
      (sc.step i s = (i, s.pop) ∧ ∃ role depth rest, s.frames = .declarators role depth :: rest) := by
  unfold step
  split
  · exact .inl (lt_compilationUnitItem i s)
  · exact .inl (lt_enumConstant i s)
  · exact .inl (lt_member _ i s)
  · exact .inl (lt_blockToken i s)
  · rename_i role depth rest hf
    split
    · exact .inr ⟨rfl, role, depth, rest, hf⟩
    · exact .inl (lt_declaratorToken role depth i s)

theorem run_max {i : Nat} {p : Nat × Scan} (h : i < p.1) :
    sc.run (max p.1 (i + 1)) p.2 = sc.run p.1 p.2 := by
  rw [max_eq_left (by omega)]

theorem run_eq_step (i : Nat) (s : Scan) :
    sc.run i s = if i < sc.tokens.size then sc.run (sc.step i s).1 (sc.step i s).2 else s := by
  fun_cases sc.run i s with
  | case1 hi hf n s' hstep =>
    rw [if_pos hi, step, hf]
    simpa [hstep] using @run_max sc i (n, s') (hstep ▸ lt_compilationUnitItem i s)
  | case2 hi kind rest hf n s' hstep =>
    rw [if_pos hi, step, hf]
    simpa [hstep] using @run_max sc i (n, s') (hstep ▸ lt_enumConstant i s)
  | case3 hi kind rest hf n s' hstep =>
    rw [if_pos hi, step, hf]
    simpa [hstep] using @run_max sc i (n, s') (hstep ▸ lt_member kind i s)
  | case4 hi rest hf n s' hstep =>
    rw [if_pos hi, step, hf]
    simpa [hstep] using @run_max sc i (n, s') (hstep ▸ lt_blockToken i s)
  | case5 hi role depth rest hf hclose =>
    have hop : sc.tokens.isOp i "\x7d" := by simpa [Tokens.isOp, hi] using hclose
    simp [step, hi, hf, hop, Scan.pop]
  | case6 hi role depth rest hf hclose n s' hstep =>
    have hop : sc.tokens.isOp i "\x7d" = false := by simpa [Tokens.isOp, hi] using hclose
    rw [if_pos hi, step, hf]
    simpa [hop, hstep] using
      @run_max sc i (n, s') (hstep ▸ lt_declaratorToken role depth i s)
  | case7 hi => rw [if_neg hi]

def Next (sc : Scanner) (p q : Nat × Scan) : Prop :=
  p.1 < sc.tokens.size ∧ q = sc.step p.1 p.2

def remaining (sc : Scanner) (p : Nat × Scan) : Nat ×ₗ Nat :=
  toLex (sc.tokens.size - p.1, p.2.frames.length)

theorem remaining_lt_of_next {p q : Nat × Scan} (h : sc.Next p q) :
    sc.remaining q < sc.remaining p := by
  obtain ⟨hi, rfl⟩ := h
  rcases @step_progress sc p.1 p.2 with hlt | ⟨heq, role, depth, rest, hf⟩
  · exact Prod.Lex.toLex_lt_toLex.2 (.inl (by omega))
  · rw [remaining, remaining, heq]
    exact Prod.Lex.toLex_lt_toLex.2 (.inr ⟨rfl, by simp [Scan.pop, hf]⟩)

theorem next_wellFounded (sc : Scanner) : WellFounded (fun q p => sc.Next p q) :=
  (InvImage.wf sc.remaining wellFounded_lt).mono fun _ _ h => remaining_lt_of_next h

/-- Induction along the scan loop: what holds where the tokens end, and holds before a pass
whenever it holds after it, holds at every position and stack. -/
theorem run_induction (sc : Scanner) {motive : Nat → Scan → Prop}
    (stop : ∀ i s, ¬i < sc.tokens.size → motive i s)
    (pass : ∀ i s, i < sc.tokens.size → motive (sc.step i s).1 (sc.step i s).2 → motive i s)
    (i : Nat) (s : Scan) : motive i s := by
  refine (sc.next_wellFounded).induction (C := fun p => motive p.1 p.2) (i, s) ?_
  intro p ih
  by_cases hi : p.1 < sc.tokens.size
  · exact pass p.1 p.2 hi (ih _ ⟨hi, rfl⟩)
  · exact stop p.1 p.2 hi

end Scanner

theorem Tokens.annotations_wellFounded (ts : Tokens) :
    WellFounded (fun k j => ts.isOp j "@" ∧ k = ts.skipAnnotation j) :=
  (measure fun j => ts.size - j).wf.mono fun k j ⟨hat, hk⟩ => by
    have := ts.lt_skipAnnotation j
    have := Tokens.lt_size_of_isOp hat
    show ts.size - k < ts.size - j
    omega

/-- The scan stops on every token array, balanced or not. The loop of `run` is the loop of
`step`, and each of its passes moves forward, or stays on a `}` and pops the declarator list
that it closes; the loop that skips annotations after `new` stops; and every reader the handlers
call returns a position at or after its start, strictly after it for all but the modifiers (the
end of the tokens, or one past it, when it runs out). -/
theorem Scanner.scan_terminates (sc : Scanner) :
    (∀ i s, sc.run i s =
      if i < sc.tokens.size then sc.run (sc.step i s).1 (sc.step i s).2 else s) ∧
    WellFounded (fun q p => sc.Next p q) ∧
    (∀ i s, i < (sc.step i s).1 ∨
      (sc.step i s = (i, s.pop) ∧ ∃ role depth rest, s.frames = .declarators role depth :: rest)) ∧
    WellFounded (fun k j => sc.tokens.isOp j "@" ∧ k = sc.tokens.skipAnnotation j) ∧
    (∀ j m, j ≤ (sc.tokens.skipModifiers j m).1) ∧
    (∀ j e, sc.tokens.matchingClose j = some e → j < e) ∧
    (∀ j, j < sc.tokens.skipAnnotation j) ∧
    (∀ j k, sc.tokens.parseType j = some k → j < k) ∧
    (∀ j k, sc.tokens.skipTypeArguments j = some k → j < k) ∧
    (∀ j s, j < (sc.typeDeclaration j s).1) ∧
    (∀ j s, sc.tokens.isOp j "(" → j < (sc.methodHeader j s).1) ∧
    (∀ j s n s', sc.pattern j s = some (n, s') → j < n) ∧
    (∀ j, j < Scanner.compilationUnitItem.semicolonFrom sc.tokens j + 1) :=
  ⟨Scanner.run_eq_step, sc.next_wellFounded, Scanner.step_progress,
    sc.tokens.annotations_wellFounded, Tokens.skipModifiers_fst_ge,
    fun _ _ => Tokens.lt_of_matchingClose', Tokens.lt_skipAnnotation,
    fun _ _ => Tokens.parseType_gt, fun _ _ => Tokens.lt_skipTypeArguments,
    Scanner.lt_typeDeclaration, fun _ s h => Scanner.lt_methodHeader (Tokens.lt_size_of_isOp h) s,
    fun _ _ _ _ => Scanner.lt_pattern, Scanner.lt_semicolonFrom⟩

end NamingLint.Declaration

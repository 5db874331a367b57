import Mathlib
import NamingLint.Java.Lexer

/-!
# The longest lexeme of each rule

Each rule of the lexer reads a language of lexemes (`LexemeClass.Matches`): the words an
automaton accepts, `//` and the rest of a line, one of the operators, or a fixed opener. The
length the lexer computes for a rule at a position (`candidates`) is that of the longest lexeme of
the rule that starts there, and `longestLexeme` takes a rule whose lexeme is the longest of all.
An automaton finds its longest accepted prefix by reading until it is stuck and remembering the
last accepting state; a reading that does not break off after a pinning state finds the same.
-/

namespace NamingLint.Text.Automaton

variable {σ : Type} (a : Automaton σ)

@[simp] theorem run_nil (s : σ) : a.run s [] = some s := rfl

@[simp] theorem run_cons (s : σ) (c : Char) (cs : List Char) :
    a.run s (c :: cs) = (a.step s c).bind fun t => a.run t cs := rfl

theorem longestFrom_spec (s : σ) {n best : Nat} (hb : best ≤ n) (cs : List Char) :
    best ≤ a.longestFrom s n best cs ∧
    (a.longestFrom s n best cs = best ∨
      n < a.longestFrom s n best cs ∧ a.longestFrom s n best cs ≤ n + cs.length ∧
      ∃ t, a.run s (cs.take (a.longestFrom s n best cs - n)) = some t ∧ a.accepts t) ∧
    ∀ p, p <+: cs → p ≠ [] → ∀ t, a.run s p = some t → a.accepts t →
      n + p.length ≤ a.longestFrom s n best cs := by
  induction cs generalizing s n best with
  | nil => exact ⟨le_refl _, .inl rfl, fun p hp hne => absurd (List.prefix_nil.1 hp) hne⟩
  | cons c rest ih =>
    cases hstep : a.step s c with
    | none =>
      have hstop : a.longestFrom s n best (c :: rest) = best := by simp [longestFrom, hstep]
      rw [hstop]
      refine ⟨le_refl _, .inl rfl, fun p hp hne t hrun => ?_⟩
      obtain ⟨p', rfl, -⟩ := (List.prefix_cons_iff.1 hp).resolve_left hne
      simp [hstep] at hrun
    | some t =>
      simp only [longestFrom, hstep]
      -- the reader goes on from `t`, which it records when it accepts
      have hb' : (if a.accepts t then n + 1 else best) ≤ n + 1 := by split <;> omega
      obtain ⟨hbest, hstop, hmax⟩ := ih t hb'
      generalize a.longestFrom t (n + 1) (if a.accepts t then n + 1 else best) rest = r
        at hbest hstop hmax ⊢
      refine ⟨by split at hbest <;> omega, ?_, ?_⟩
      · rcases hstop with hr | ⟨hlt, hle, t', hrun, hacc⟩
        · by_cases hacc : a.accepts t
          · simp only [hacc, if_true] at hr
            subst hr
            exact .inr ⟨by omega, by simp, t, by simp [hstep], hacc⟩
          · simp only [hacc, Bool.false_eq_true, if_false] at hr
            exact .inl hr
        · refine .inr ⟨by omega, by simp only [List.length_cons]; omega, t', ?_, hacc⟩
          rw [show r - n = (r - (n + 1)) + 1 by omega, List.take_succ_cons, run_cons, hstep]
          exact hrun
      · intro p hp hne t' hrun hacc
        obtain ⟨p', rfl, hp'⟩ := (List.prefix_cons_iff.1 hp).resolve_left hne
        simp only [run_cons, hstep, Option.bind_some] at hrun
        by_cases hnil : p' = []
        · subst hnil
          simp only [run_nil, Option.some.injEq] at hrun
          subst hrun
          simp only [hacc, if_true] at hbest
          simp only [List.length_singleton]
          omega
        · have := hmax p' hp' hnil t' hrun hacc
          simp only [List.length_cons]
          omega

theorem longest_spec (cs : List Char) :
    (∀ p, p <+: cs → a.Accepts p → p.length ≤ a.longest cs) ∧
    (0 < a.longest cs → a.longest cs ≤ cs.length ∧ a.Accepts (cs.take (a.longest cs))) := by
  obtain ⟨-, hstop, hmax⟩ := a.longestFrom_spec a.start (le_refl 0) cs
  refine ⟨fun p hp ⟨t, hrun, hacc⟩ => ?_, fun hpos => ?_⟩
  · by_cases hnil : p = []
    · simp [hnil]
    · have := hmax p hp hnil t hrun hacc
      simp only [longest]
      omega
  · rcases hstop with h | ⟨-, hle, t, hrun, hacc⟩
    · simp only [longest] at hpos
      omega
    · exact ⟨by simpa [longest] using hle, t, by simpa [longest] using hrun, hacc⟩

theorem scanFrom_eq_some {s : σ} {n best : Nat} {pinned : Bool} {cs : List Char} {r : Nat}
    (h : a.scanFrom s n best pinned cs = some r) : r = a.longestFrom s n best cs := by
  induction cs generalizing s n best pinned with
  | nil =>
    simp only [scanFrom] at h
    split at h
    · cases h
    · cases h
      rfl
  | cons c rest ih =>
    simp only [scanFrom] at h
    simp only [longestFrom]
    split at h
    · split at h
      · cases h
      · cases h
        rfl
    · split at h
      · rename_i hacc
        rw [if_pos hacc]
        exact ih h
      · rename_i hacc
        rw [if_neg hacc]
        exact ih h

theorem scan_eq_some {cs : List Char} {r : Nat} (h : a.scan cs = some r) : r = a.longest cs :=
  a.scanFrom_eq_some h

end NamingLint.Text.Automaton

namespace NamingLint.Java

open Text

theorem prefix_takeWhile {P : Char → Bool} {b l : List Char} (hb : b <+: l)
    (h : ∀ x ∈ b, P x) : b <+: l.takeWhile P := by
  induction b generalizing l with
  | nil => exact List.nil_prefix
  | cons x b ih =>
    obtain ⟨l', rfl, hl'⟩ := List.cons_prefix_iff.1 hb
    rw [List.takeWhile_cons_of_pos (h x List.mem_cons_self)]
    exact List.cons_prefix_cons.2 ⟨rfl, ih hl' fun y hy => h y (List.mem_cons_of_mem x hy)⟩

def LexemeClass.Matches : LexemeClass → List Char → Prop
  | .blank, cs => blankAutomaton.Accepts cs
  | .lineComment, cs => ∃ body, cs = '/' :: '/' :: body ∧ '\n' ∉ body
  | .blockComment, cs => cs = ['/', '*']
  | .word, cs => wordAutomaton.Accepts cs
  | .number, cs => numberAutomaton.Accepts cs
  | .string, cs => stringAutomaton.Accepts cs
  | .textBlock, cs => cs = ['"', '"', '"']
  | .char, cs => charAutomaton.Accepts cs
  | .greater, cs => cs = ['>']
  | .operator, cs => String.ofList cs ∈ operators

def LexemeClass.LongestAt (cls : LexemeClass) (cs : List Char) (n : Nat) : Prop :=
  (∀ p, p <+: cs → cls.Matches p → p.length ≤ n) ∧
    (0 < n → n ≤ cs.length ∧ cls.Matches (cs.take n))

theorem longestAt_automaton {σ : Type} {a : Automaton σ} {cls : LexemeClass} {cs : List Char}
    (hm : ∀ p, cls.Matches p ↔ a.Accepts p) : cls.LongestAt cs (a.longest cs) := by
  obtain ⟨hmax, hpos⟩ := a.longest_spec cs
  exact ⟨fun p hp h => hmax p hp ((hm p).1 h),
    fun h => ⟨(hpos h).1, (hm _).2 (hpos h).2⟩⟩

theorem longestAt_opener {cls : LexemeClass} {o cs : List Char}
    (hm : ∀ p, cls.Matches p ↔ p = o) : cls.LongestAt cs (openerLength o cs) := by
  unfold openerLength
  split
  · rename_i hpre
    have hpre := List.isPrefixOf_iff_prefix.1 hpre
    refine ⟨fun p _ h => by rw [(hm p).1 h], fun _ => ⟨hpre.length_le, (hm _).2 ?_⟩⟩
    exact (List.prefix_iff_eq_take.1 hpre).symm
  · rename_i hpre
    refine ⟨fun p hp h => ?_, fun h => absurd h (lt_irrefl 0)⟩
    rw [(hm p).1 h] at hp
    exact absurd (List.isPrefixOf_iff_prefix.2 hp) (by simpa using hpre)

theorem longestAt_lineComment (cs : List Char) :
    LexemeClass.lineComment.LongestAt cs (lineCommentLength cs) := by
  unfold lineCommentLength
  split
  · rename_i rest
    refine ⟨fun p hp ⟨body, hbody, hnl⟩ => ?_, fun _ => ⟨?_, ?_⟩⟩
    · subst hbody
      have hb := prefix_takeWhile (P := fun c => decide (c ≠ '\n'))
        (List.cons_prefix_cons.1 (List.cons_prefix_cons.1 hp).2).2
        (fun x hx => decide_eq_true fun h : x = '\n' => hnl (h ▸ hx))
      simp only [List.length_cons]
      have := hb.length_le
      omega
    · have := (List.takeWhile_prefix (fun c => decide (c ≠ '\n')) (l := rest)).length_le
      simp only [List.length_cons]
      omega
    · refine ⟨rest.takeWhile (fun c => decide (c ≠ '\n')), ?_, fun h => ?_⟩
      · rw [show 2 + (rest.takeWhile (fun c => decide (c ≠ '\n'))).length =
            (rest.takeWhile (fun c => decide (c ≠ '\n'))).length + 1 + 1 by omega,
          List.take_succ_cons, List.take_succ_cons,
          ← List.prefix_iff_eq_take.1 (List.takeWhile_prefix _)]
      · simpa using List.mem_takeWhile_imp h
  · rename_i hnot
    refine ⟨fun p hp ⟨body, hbody, _⟩ => ?_, fun h => absurd h (lt_irrefl 0)⟩
    subst hbody
    obtain ⟨rest, rfl⟩ := hp
    exact absurd rfl (hnot _)

theorem operators_length : ∀ o ∈ operators, 1 ≤ o.toList.length ∧ o.toList.length ≤ 3 := by
  decide

theorem isOperatorPrefix_iff {cs : List Char} {k : Nat} :
    isOperatorPrefix cs k = true ↔ k ≤ cs.length ∧ String.ofList (cs.take k) ∈ operators := by
  simp [isOperatorPrefix, List.length_take]

theorem le_operatorLength {cs : List Char} {k : Nat} (hk : isOperatorPrefix cs k = true)
    (h1 : 1 ≤ k) (h3 : k ≤ 3) : k ≤ operatorLength cs := by
  unfold operatorLength
  split_ifs with h₃ h₂ h₁ <;> interval_cases k <;> simp_all

theorem isOperatorPrefix_operatorLength {cs : List Char} (h : 0 < operatorLength cs) :
    isOperatorPrefix cs (operatorLength cs) = true := by
  unfold operatorLength at h ⊢
  split_ifs at h ⊢ <;> simp_all

theorem longestAt_operator (cs : List Char) :
    LexemeClass.operator.LongestAt cs (operatorLength cs) := by
  refine ⟨fun p hp hop => ?_, fun hpos => isOperatorPrefix_iff.1 (isOperatorPrefix_operatorLength hpos)⟩
  have hlen := operators_length _ hop
  rw [String.toList_ofList] at hlen
  have hk : isOperatorPrefix cs p.length = true := by
    rw [isOperatorPrefix_iff, ← List.prefix_iff_eq_take.1 hp]
    exact ⟨hp.length_le, hop⟩
  exact le_operatorLength hk hlen.1 hlen.2

theorem scan_getD_of_not_broken {cs : List Char} (hb : brokenLexeme cs = false) :
    (wordAutomaton.scan cs).getD 0 = wordAutomaton.longest cs ∧
      (numberAutomaton.scan cs).getD 0 = numberAutomaton.longest cs := by
  simp only [brokenLexeme, Bool.or_eq_false_iff] at hb
  cases hw : wordAutomaton.scan cs with
  | none => simp [hw] at hb
  | some w =>
    cases hk : numberAutomaton.scan cs with
    | none => simp [hk] at hb
    | some k => exact ⟨wordAutomaton.scan_eq_some hw, numberAutomaton.scan_eq_some hk⟩

theorem candidates_longestAt {cs : List Char} (hb : brokenLexeme cs = false) :
    ∀ c ∈ candidates cs, c.1.LongestAt cs c.2 := by
  obtain ⟨hw, hn⟩ := scan_getD_of_not_broken hb
  simp only [candidates, hw, hn, List.mem_cons, List.not_mem_nil, or_false]
  rintro c (rfl | rfl | rfl | rfl | rfl | rfl | rfl | rfl | rfl | rfl)
  · exact longestAt_automaton fun p => Iff.rfl
  · exact longestAt_lineComment cs
  · exact longestAt_opener fun p => Iff.rfl
  · exact longestAt_automaton fun p => Iff.rfl
  · exact longestAt_automaton fun p => Iff.rfl
  · exact longestAt_automaton fun p => Iff.rfl
  · exact longestAt_opener fun p => Iff.rfl
  · exact longestAt_automaton fun p => Iff.rfl
  · exact longestAt_opener fun p => Iff.rfl
  · exact longestAt_operator cs

theorem mem_candidates (cls : LexemeClass) (cs : List Char) :
    ∃ n, (cls, n) ∈ candidates cs := by
  cases cls <;> simp [candidates]

def pickLonger (best : Option (LexemeClass × Nat)) (c : LexemeClass × Nat) :
    Option (LexemeClass × Nat) :=
  if c.2 = 0 then best
  else match best with
    | some b => if b.2 < c.2 then some c else some b
    | none => some c

theorem longestLexeme_eq_foldl (cs : List Char) :
    longestLexeme cs = (candidates cs).foldl pickLonger none := rfl

theorem pickLonger_eq_none {best : Option (LexemeClass × Nat)} {c : LexemeClass × Nat}
    (h : pickLonger best c = none) : best = none ∧ c.2 = 0 := by
  unfold pickLonger at h
  split at h
  · exact ⟨h, ‹_›⟩
  · split at h <;> (try split at h) <;> cases h

theorem pickLonger_eq_some {best : Option (LexemeClass × Nat)} {c b : LexemeClass × Nat}
    (h : pickLonger best c = some b) :
    (b = c ∨ best = some b) ∧ c.2 ≤ b.2 ∧ ∀ b₀, best = some b₀ → b₀.2 ≤ b.2 := by
  unfold pickLonger at h
  split at h
  · subst h
    exact ⟨.inr rfl, by omega, fun b₀ h => by cases h; rfl⟩
  · split at h
    · split at h <;> cases h
      · exact ⟨.inl rfl, le_refl _, fun b₁ h => by cases h; omega⟩
      · exact ⟨.inr rfl, by omega, fun b₁ h => by cases h; rfl⟩
    · cases h
      exact ⟨.inl rfl, le_refl _, fun b₀ h => by cases h⟩

theorem pickLonger_pos {best : Option (LexemeClass × Nat)} {c b : LexemeClass × Nat}
    (hbest : ∀ b₀, best = some b₀ → 0 < b₀.2) (h : pickLonger best c = some b) : 0 < b.2 := by
  unfold pickLonger at h
  split at h
  · exact hbest b h
  · split at h
    · split at h <;> cases h
      · omega
      · exact hbest _ rfl
    · cases h
      omega

theorem foldl_pickLonger (l : List (LexemeClass × Nat)) (init : Option (LexemeClass × Nat))
    (hinit : ∀ b, init = some b → 0 < b.2) :
    (l.foldl pickLonger init = none → init = none ∧ ∀ c ∈ l, c.2 = 0) ∧
    ∀ b, l.foldl pickLonger init = some b →
      (init = some b ∨ b ∈ l) ∧ 0 < b.2 ∧ (∀ c ∈ l, c.2 ≤ b.2) ∧
        ∀ b₀, init = some b₀ → b₀.2 ≤ b.2 := by
  induction l generalizing init with
  | nil =>
    refine ⟨fun h => ⟨h, by simp⟩, fun b h => ?_⟩
    simp only [List.foldl_nil] at h
    subst h
    exact ⟨.inl rfl, hinit b rfl, by simp, fun b₀ h => by cases h; rfl⟩
  | cons c l ih =>
    simp only [List.foldl_cons]
    obtain ⟨hnone, hsome⟩ := ih (pickLonger init c) fun b h => pickLonger_pos hinit h
    refine ⟨fun h => ?_, fun b h => ?_⟩
    · obtain ⟨hinit', hl⟩ := hnone h
      obtain ⟨rfl, hc⟩ := pickLonger_eq_none hinit'
      exact ⟨rfl, by simpa [hc] using hl⟩
    · obtain ⟨hmem, hpos, hle, hfirst⟩ := hsome b h
      refine ⟨?_, hpos, ?_, fun b₀ h₀ => ?_⟩
      · rcases hmem with hpick | hmem
        · rcases (pickLonger_eq_some hpick).1 with rfl | hinit'
          · exact .inr List.mem_cons_self
          · exact .inl hinit'
        · exact .inr (List.mem_cons_of_mem c hmem)
      · intro c' hc'
        rcases List.mem_cons.1 hc' with rfl | hc'
        · cases hpick : pickLonger init c' with
          | none => simp [(pickLonger_eq_none hpick).2]
          | some b₁ => exact ((pickLonger_eq_some hpick).2.1).trans (hfirst b₁ hpick)
        · exact hle c' hc'
      · cases hpick : pickLonger init c with
        | none => simp [(pickLonger_eq_none hpick).1] at h₀
        | some b₁ => exact ((pickLonger_eq_some hpick).2.2 b₀ h₀).trans (hfirst b₁ hpick)

/-- The rule `cls` reads a lexeme of `n > 0` characters at the start of `cs`, and no rule reads a
longer one there. -/
def LongestOfAll (cls : LexemeClass) (cs : List Char) (n : Nat) : Prop :=
  0 < n ∧ n ≤ cs.length ∧ cls.Matches (cs.take n) ∧
    ∀ cls' p, p <+: cs → LexemeClass.Matches cls' p → p.length ≤ n

theorem longestLexeme_longestOfAll {cs : List Char} {cls : LexemeClass} {n : Nat}
    (hb : brokenLexeme cs = false) (h : longestLexeme cs = some (cls, n)) :
    LongestOfAll cls cs n := by
  rw [longestLexeme_eq_foldl] at h
  obtain ⟨hmem, hpos, hle, -⟩ := (foldl_pickLonger _ none (by simp)).2 _ h
  have hmem : (cls, n) ∈ candidates cs := hmem.resolve_left (by simp)
  have hlong := candidates_longestAt hb
  obtain ⟨hlen, hmatch⟩ := (hlong _ hmem).2 hpos
  refine ⟨hpos, hlen, hmatch, fun cls' p hp hm => ?_⟩
  obtain ⟨n', hn'⟩ := mem_candidates cls' cs
  exact ((hlong _ hn').1 p hp hm).trans (hle _ hn')

theorem longestLexeme_eq_none {cs : List Char} (hb : brokenLexeme cs = false)
    (h : longestLexeme cs = none) : ∀ cls p, p <+: cs → LexemeClass.Matches cls p → p = [] := by
  rw [longestLexeme_eq_foldl] at h
  have hzero := ((foldl_pickLonger _ none (by simp)).1 h).2
  intro cls p hp hm
  obtain ⟨n, hn⟩ := mem_candidates cls cs
  have := (candidates_longestAt hb _ hn).1 p hp hm
  rw [hzero _ hn] at this
  exact List.eq_nil_of_length_eq_zero (by omega)

def LexemeClass.Extends : LexemeClass → List Char → Nat → Nat → Prop
  | .blockComment, cs, m, n => ∃ k, commentRest (cs.drop m) = some k ∧ n = m + k
  | .textBlock, cs, m, n => ∃ k, textBlockRest (cs.drop m) = some k ∧ n = m + k
  | .greater, cs, m, n => n = m + greaterRest (cs.drop m)
  | _, _, m, n => n = m

theorem LexemeClass.le_of_extends {cls : LexemeClass} {cs : List Char} {m n : Nat}
    (h : cls.Extends cs m n) : m ≤ n := by
  cases cls <;> simp only [Extends] at h <;> omega

theorem length_of_take_eq {cs o : List Char} {m : Nat} (hm : m ≤ cs.length) (h : cs.take m = o) :
    m = o.length := by
  rw [← h, List.length_take]
  omega

/-- What the lexer reads at the start of `cs`: the longest lexeme of all rules, extended by its
rule's callback. -/
theorem lexemeAt_eq_some {cs : List Char} {cls : LexemeClass} {n : Nat}
    (h : lexemeAt cs = some (cls, n)) : ∃ m, LongestOfAll cls cs m ∧ cls.Extends cs m n := by
  unfold lexemeAt at h
  split at h
  · cases h
  rename_i hb
  have hb : brokenLexeme cs = false := by simpa using hb
  rcases hl : longestLexeme cs with _ | ⟨cls', m⟩
  · rw [hl] at h
    cases h
  have hall := longestLexeme_longestOfAll hb hl
  rw [hl] at h
  cases cls' <;> simp only [Option.some.injEq, Prod.mk.injEq, Option.map_eq_some_iff] at h
  case blockComment =>
    obtain ⟨k, hk, rfl, rfl⟩ := h
    have hm : m = 2 := length_of_take_eq hall.2.1 hall.2.2.1
    subst hm
    exact ⟨2, hall, k, hk, rfl⟩
  case textBlock =>
    obtain ⟨k, hk, rfl, rfl⟩ := h
    have hm : m = 3 := length_of_take_eq hall.2.1 hall.2.2.1
    subst hm
    exact ⟨3, hall, k, hk, rfl⟩
  case greater =>
    obtain ⟨rfl, rfl⟩ := h
    have hm : m = 1 := length_of_take_eq hall.2.1 hall.2.2.1
    subst hm
    exact ⟨1, hall, rfl⟩
  all_goals (obtain ⟨rfl, rfl⟩ := h; exact ⟨m, hall, rfl⟩)

/-! ## Trivia -/

theorem blank_run {s t : BlankState} {p : List Char} (h : blankAutomaton.run s p = some t) :
    (∀ c ∈ p, isSpace c) ∧ (p = [] ∧ t = s ∨ t = .blank) := by
  induction p generalizing s with
  | nil =>
    cases h
    exact ⟨by simp, .inl ⟨rfl, rfl⟩⟩
  | cons c p ih =>
    simp only [Automaton.run_cons] at h
    by_cases hc : isSpace c
    · have hstep : blankAutomaton.step s c = some .blank := by simp [blankAutomaton, hc]
      rw [hstep, Option.bind_some] at h
      obtain ⟨hp, hend⟩ := ih h
      refine ⟨fun x hx => ?_, .inr ?_⟩
      · rcases List.mem_cons.1 hx with rfl | hx
        · exact hc
        · exact hp x hx
      · rcases hend with ⟨-, rfl⟩ | h
        · rfl
        · exact h
    · have hstep : blankAutomaton.step s c = none := by simp [blankAutomaton, hc]
      simp [hstep] at h

theorem blank_accepts {p : List Char} (h : blankAutomaton.Accepts p) :
    p ≠ [] ∧ ∀ c ∈ p, isSpace c := by
  obtain ⟨t, hrun, hacc⟩ := h
  obtain ⟨hp, hend⟩ := blank_run hrun
  refine ⟨fun hnil => ?_, hp⟩
  rcases hend with ⟨-, rfl⟩ | rfl
  · simp [blankAutomaton] at hacc
  · subst hnil
    cases hrun

theorem commentRest_eq_some {cs : List Char} {k : Nat} (h : commentRest cs = some k) :
    ∃ body, cs.take k = body ++ ['*', '/'] ∧ ¬ ['*', '/'] <:+: body := by
  fun_induction commentRest cs generalizing k with
  | case1 rest =>
    cases h
    exact ⟨[], rfl, by simp⟩
  | case2 c rest hfirst ih =>
    obtain ⟨k', hk', rfl⟩ := Option.map_eq_some_iff.1 h
    obtain ⟨body, htake, hnot⟩ := ih hk'
    refine ⟨c :: body, by simp [htake], fun hin => ?_⟩
    rcases List.infix_cons_iff.1 hin with hpre | hin
    · -- `*/` would start here, where the first case of the reading applies
      obtain ⟨rfl, hslash⟩ := List.cons_prefix_cons.1 hpre
      obtain ⟨tail, rfl⟩ : ∃ tail, body = '/' :: tail := by
        cases body with
        | nil => simp at hslash
        | cons d tail =>
          obtain ⟨rfl, -⟩ := List.cons_prefix_cons.1 hslash
          exact ⟨tail, rfl⟩
      cases rest with
      | nil => simp at htake
      | cons d rest =>
        cases k' with
        | zero => simp at htake
        | succ k' =>
          simp only [List.take_succ_cons, List.cons_append, List.cons.injEq] at htake
          exact hfirst rest rfl (by rw [htake.1])
    · exact hnot hin
  | case3 => cases h

end NamingLint.Java

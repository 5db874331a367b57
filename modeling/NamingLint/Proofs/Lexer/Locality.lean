import Mathlib
import NamingLint.Proofs.Lexer.Partition

/-!
# Lexing is local

What the lexer reads at a position depends on the text after it only as far as some rule can
still go on. Before a word that follows a blank, a comment's closing `/` or one of `>`, `]`, `,`,
no rule reads past that character into the word: words and numbers stop there, blanks,
comments, quoted literals and operators stop at the word's first character or before. So the
lexer reads the text up to the word the same way whatever word follows (`ReadsTo.transfer`),
and a word that ends where another ended leaves the rest of the reading as it was.
-/

namespace NamingLint.Text

namespace CodeRanges

theorem containsIn_sound {rs : CodeRanges} {n lo hi : Nat} (h : rs.containsIn n lo hi = true) :
    ∃ r ∈ rs.toList, r.1 ≤ n ∧ n ≤ r.2 := by
  fun_induction rs.containsIn n lo hi with
  | case1 lo hi hlt mid a b hmid hn ih => exact ih h
  | case2 lo hi hlt mid a b hmid hn hb ih => exact ih h
  | case3 lo hi hlt mid a b hmid hn hb =>
    exact ⟨(a, b), Array.mem_toList_iff.2 (Array.mem_of_getElem? hmid), by omega, by omega⟩
  | case4 lo hi hlt mid hmid => cases h
  | case5 lo hi hge => cases h

end CodeRanges

namespace Automaton

variable {σ : Type} (a : Automaton σ)

theorem run_append (s : σ) (p q : List Char) :
    a.run s (p ++ q) = (a.run s p).bind fun t => a.run t q := by
  induction p generalizing s with
  | nil => rfl
  | cons c p ih =>
    simp only [List.cons_append, run_cons, ih]
    cases a.step s c <;> rfl

theorem run_append_of_none {s : σ} {p : List Char} (h : a.run s p = none) (q : List Char) :
    a.run s (p ++ q) = none := by
  rw [run_append, h, Option.bind_none]

/-- Once the automaton is stuck within `u` or at the character after it, what follows is never
read. -/
theorem longestFrom_stuck {s : σ} {u : List Char} {x x' : Char} (h : a.run s (u ++ [x]) = none)
    (h' : a.run s (u ++ [x']) = none) (n best : Nat) (w w' : List Char) :
    a.longestFrom s n best (u ++ x :: w) = a.longestFrom s n best (u ++ x' :: w') := by
  induction u generalizing s n best with
  | nil =>
    have hx : a.step s x = none := by simpa using h
    have hx' : a.step s x' = none := by simpa using h'
    simp [longestFrom, hx, hx']
  | cons c u ih =>
    cases hc : a.step s c with
    | none => simp [longestFrom, hc]
    | some t =>
      simp only [List.cons_append, longestFrom, hc]
      exact ih (by simpa [hc] using h) (by simpa [hc] using h') _ _

theorem scanFrom_stuck {s : σ} {u : List Char} {x x' : Char} (h : a.run s (u ++ [x]) = none)
    (h' : a.run s (u ++ [x']) = none) (n best : Nat) (pinned : Bool) (w w' : List Char) :
    a.scanFrom s n best pinned (u ++ x :: w) = a.scanFrom s n best pinned (u ++ x' :: w') := by
  induction u generalizing s n best pinned with
  | nil =>
    have hx : a.step s x = none := by simpa using h
    have hx' : a.step s x' = none := by simpa using h'
    simp [scanFrom, hx, hx']
  | cons c u ih =>
    cases hc : a.step s c with
    | none => simp [scanFrom, hc]
    | some t =>
      simp only [List.cons_append, scanFrom, hc]
      split <;> exact ih (by simpa [hc] using h) (by simpa [hc] using h') _ _ _

theorem scanFrom_shift (s : σ) (n best d : Nat) (pinned : Bool) (cs : List Char) :
    a.scanFrom s (n + d) (best + d) pinned cs = (a.scanFrom s n best pinned cs).map (· + d) := by
  induction cs generalizing s n best pinned with
  | nil => cases pinned <;> rfl
  | cons c cs ih =>
    simp only [scanFrom]
    split
    · cases pinned <;> rfl
    · split
      · rw [show n + d + 1 = (n + 1) + d by omega, ih]
      · rw [show n + d + 1 = (n + 1) + d by omega, ih]

/-- Reading a word that the automaton accepts forgets what came before it. -/
theorem scanFrom_append_accepted {s t : σ} {u : List Char} (hu : u ≠ []) (hrun : a.run s u = some t)
    (hacc : a.accepts t) (n best : Nat) (pinned : Bool) (w : List Char) :
    a.scanFrom s n best pinned (u ++ w) = a.scanFrom t (n + u.length) (n + u.length) false w := by
  induction u generalizing s n best pinned with
  | nil => exact absurd rfl hu
  | cons c u ih =>
    cases hc : a.step s c with
    | none => simp [hc] at hrun
    | some s₁ =>
      simp only [run_cons, hc, Option.bind_some] at hrun
      simp only [List.cons_append, scanFrom, hc, List.length_cons]
      by_cases hnil : u = []
      · subst hnil
        cases hrun
        simp [hacc]
      · rw [show n + (u.length + 1) = (n + 1) + u.length by omega]
        split <;> exact ih hnil hrun _ _ _

end Automaton

end NamingLint.Text

namespace NamingLint.Java

open Text

/-! ## Characters around a word -/

/-- Whether a character may begin a word: a word start, or the backslash of an escape. -/
def opensWord (x : Char) : Bool := isWordStart x || x == '\\'

/-- The characters at which every word and number stops: blanks, the `/` that ends a block
comment, and `>`, `]`, `,`. -/
def closesWord (c : Char) : Bool := isSpace c || c == '/' || c == '>' || c == ']' || c == ','

/-- The ASCII letters. -/
def isAsciiLetter (n : Nat) : Bool := (0x41 ≤ n && n ≤ 0x5A) || (0x61 ≤ n && n ≤ 0x7A)

section Ascii

-- below `0x80` the tables hold the ASCII letters and digits only
set_option maxRecDepth 100000 in
theorem wordLetterRanges_high :
    ∀ r ∈ wordLetterRanges.toList, r ∈ [(0x41, 0x5A), (0x61, 0x7A)] ∨ 0x80 ≤ r.1 := by
  have htake : wordLetterRanges.toList.take 2 = [(0x41, 0x5A), (0x61, 0x7A)] := by decide
  have hdrop : ((wordLetterRanges.toList.drop 2).all fun r => decide (0x80 ≤ r.1)) = true := by
    decide
  intro r hr
  rw [← List.take_append_drop 2 wordLetterRanges.toList, htake] at hr
  rcases List.mem_append.1 hr with hr | hr
  · exact .inl hr
  · exact .inr (of_decide_eq_true (List.all_eq_true.1 hdrop r hr))

set_option maxRecDepth 100000 in
theorem wordDigitRanges_high :
    ∀ r ∈ wordDigitRanges.toList, r = (0x30, 0x39) ∨ 0x80 ≤ r.1 := by
  have htake : wordDigitRanges.toList.take 1 = [(0x30, 0x39)] := by decide
  have hdrop : ((wordDigitRanges.toList.drop 1).all fun r => decide (0x80 ≤ r.1)) = true := by
    decide
  intro r hr
  rw [← List.take_append_drop 1 wordDigitRanges.toList, htake] at hr
  rcases List.mem_append.1 hr with hr | hr
  · exact .inl (List.mem_singleton.1 hr)
  · exact .inr (of_decide_eq_true (List.all_eq_true.1 hdrop r hr))

variable {c : Char} (hc : c.toNat < 0x80)
include hc

theorem isWordLetter_ascii (h : isWordLetter c = true) : isAsciiLetter c.toNat = true := by
  obtain ⟨r, hr, h1, h2⟩ := CodeRanges.containsIn_sound h
  simp only [isAsciiLetter, Bool.or_eq_true, Bool.and_eq_true, decide_eq_true_eq]
  rcases wordLetterRanges_high r hr with hr | hr
  · simp only [List.mem_cons, List.not_mem_nil, or_false] at hr
    rcases hr with rfl | rfl
    · exact .inl ⟨h1, h2⟩
    · exact .inr ⟨h1, h2⟩
  · omega

theorem isWordDigit_ascii (h : isWordDigit c = true) : 0x30 ≤ c.toNat ∧ c.toNat ≤ 0x39 := by
  obtain ⟨r, hr, h1, h2⟩ := CodeRanges.containsIn_sound h
  rcases wordDigitRanges_high r hr with rfl | hr
  · exact ⟨h1, h2⟩
  · omega

end Ascii

/-- The characters that no word begins with and that the rules other than words look for. -/
def nonWordChars : List Char :=
  [' ', '\t', '\x0c', '\r', '\n', '(', ')', '\x7b', '\x7d', '[', ']', ';', ',', '.', '@', ':',
   '=', '<', '>', '!', '~', '?', '-', '&', '|', '+', '*', '/', '^', '%', '"', '\'', '0', '1', '2',
   '3', '4', '5', '6', '7', '8', '9']

theorem not_mem_nonWordChars {x : Char} (hx : opensWord x = true) : x ∉ nonWordChars := by
  intro hmem
  have hascii : (nonWordChars.all fun c => decide (c.toNat < 0x80) && !isAsciiLetter c.toNat &&
      c != '_' && c != '$' && c != '\\') = true := by
    decide
  have hx' := List.all_eq_true.1 hascii x hmem
  simp only [Bool.and_eq_true, decide_eq_true_eq, Bool.not_eq_true', bne_iff_ne, ne_eq] at hx'
  obtain ⟨⟨⟨⟨hlt, hletter⟩, hunder⟩, hdollar⟩, hslash⟩ := hx'
  simp only [opensWord, isWordStart, Bool.or_eq_true, beq_iff_eq, decide_eq_true_eq] at hx
  rcases hx with ((hx | rfl) | rfl) | rfl
  · rw [isWordLetter_ascii hlt hx] at hletter
    cases hletter
  · exact hunder rfl
  · exact hdollar rfl
  · exact hslash rfl

theorem operators_nonWordChars : ∀ o ∈ operators, ∀ c ∈ o.toList, c ∈ nonWordChars := by
  have h : (operators.all fun o => o.toList.all fun c => nonWordChars.contains c) = true := by
    decide
  intro o ho c hc
  exact List.elem_iff.1 (List.all_eq_true.1 (List.all_eq_true.1 h o ho) c hc)

theorem closesWord_mem {c : Char} (hc : closesWord c = true) :
    c ∈ [' ', '\t', '\x0c', '\r', '\n', '/', '>', ']', ','] := by
  simp only [closesWord, isSpace, Bool.or_eq_true, decide_eq_true_eq, beq_iff_eq] at hc
  simp only [List.mem_cons, List.not_mem_nil, or_false]
  tauto

theorem wordStep_closesWord {c : Char} (hc : closesWord c = true) (s : WordState) :
    s.step c = none := by
  have hmem := closesWord_mem hc
  simp only [List.mem_cons, List.not_mem_nil, or_false] at hmem
  have hascii : c.toNat < 0x80 ∧ isAsciiLetter c.toNat = false ∧
      ¬ (0x30 ≤ c.toNat ∧ c.toNat ≤ 0x39) ∧ c.isHexDigit = false := by
    rcases hmem with rfl | rfl | rfl | rfl | rfl | rfl | rfl | rfl | rfl <;> decide
  obtain ⟨hlt, hnotLetter, hnotDigit, hhex⟩ := hascii
  have hletter : isWordLetter c = false := by
    cases h : isWordLetter c
    · rfl
    · rw [isWordLetter_ascii hlt h] at hnotLetter
      cases hnotLetter
  have hdigit : isWordDigit c = false := by
    cases h : isWordDigit c
    · rfl
    · exact absurd (isWordDigit_ascii hlt h) hnotDigit
  rcases hmem with rfl | rfl | rfl | rfl | rfl | rfl | rfl | rfl | rfl <;>
    cases s <;> simp [WordState.step, isWordStart, isWordPart, hletter, hdigit, hhex]

theorem numberStep_closesWord {c : Char} (hc : closesWord c = true) (s : NumberState) :
    s.step c = none := by
  have hmem := closesWord_mem hc
  simp only [List.mem_cons, List.not_mem_nil, or_false] at hmem
  rcases hmem with rfl | rfl | rfl | rfl | rfl | rfl | rfl | rfl | rfl <;> cases s <;> rfl

theorem ne_of_opensWord {x : Char} (hx : opensWord x = true) {c : Char} (hc : c ∈ nonWordChars) :
    x ≠ c := fun h => not_mem_nonWordChars hx (h ▸ hc)

theorem isSpace_of_opensWord {x : Char} (hx : opensWord x = true) : isSpace x = false := by
  cases h : isSpace x
  · rfl
  · simp only [isSpace, Bool.or_eq_true, decide_eq_true_eq] at h
    exact absurd (by rcases h with (((rfl | rfl) | rfl) | rfl) | rfl <;> decide)
      (not_mem_nonWordChars hx)

theorem not_mem_of_opensWord {x : Char} (hx : opensWord x = true) {o : List Char}
    (ho : ∀ c ∈ o, c ∈ nonWordChars) : x ∉ o := fun h => not_mem_nonWordChars hx (ho x h)

theorem not_mem_operator {x : Char} (hx : opensWord x = true) {o : String} (ho : o ∈ operators) :
    x ∉ o.toList := fun h => not_mem_nonWordChars hx (operators_nonWordChars o ho x h)

/-! ## Each rule before a word

In each lemma the text is `u ++ x :: w`, where a word starts at `x`, and the same text with
another word `x' :: w'` after `u`. -/

section Before

variable {u w w' : List Char} {x x' : Char}

theorem run_append_stuck {σ : Type} {a : Automaton σ} {c : Char} (hc : ∀ s, a.step s c = none)
    (s : σ) (v : List Char) : a.run s (v ++ [c]) = none := by
  rw [Automaton.run_append]
  cases a.run s v with
  | none => rfl
  | some t => simp [hc]

theorem blank_stuck (hx : opensWord x = true) : blankAutomaton.run .start (u ++ [x]) = none :=
  run_append_stuck (fun _ => by simp [blankAutomaton, isSpace_of_opensWord hx]) _ _

theorem isPrefixOf_transfer {o : List Char} (hx : x ∉ o) (hx' : x' ∉ o) :
    o.isPrefixOf (u ++ x :: w) = o.isPrefixOf (u ++ x' :: w') := by
  induction o generalizing u with
  | nil => simp
  | cons a o ih =>
    cases u with
    | nil =>
      have ha : (a == x) = false := beq_eq_false_iff_ne.2 fun h => hx (h ▸ List.mem_cons_self)
      have ha' : (a == x') = false := beq_eq_false_iff_ne.2 fun h => hx' (h ▸ List.mem_cons_self)
      simp [List.isPrefixOf, ha, ha']
    | cons b u =>
      simp only [List.cons_append, List.isPrefixOf]
      rw [ih (fun h => hx (List.mem_cons_of_mem a h)) (fun h => hx' (List.mem_cons_of_mem a h))]

theorem openerLength_transfer {o : List Char} (hx : x ∉ o) (hx' : x' ∉ o) :
    openerLength o (u ++ x :: w) = openerLength o (u ++ x' :: w') := by
  have h : o.isPrefixOf (u ++ x :: w) = o.isPrefixOf (u ++ x' :: w') := isPrefixOf_transfer hx hx'
  rw [openerLength, openerLength, h]

theorem greaterRest_transfer (hx : opensWord x = true) (hx' : opensWord x' = true) :
    greaterRest (u ++ x :: w) = greaterRest (u ++ x' :: w') := by
  have h3 : ['>', '>', '='].isPrefixOf (u ++ x :: w) = ['>', '>', '='].isPrefixOf (u ++ x' :: w') :=
    isPrefixOf_transfer (not_mem_of_opensWord hx (by simp [nonWordChars]))
      (not_mem_of_opensWord hx' (by simp [nonWordChars]))
  have h2 : ['>', '='].isPrefixOf (u ++ x :: w) = ['>', '='].isPrefixOf (u ++ x' :: w') :=
    isPrefixOf_transfer (not_mem_of_opensWord hx (by simp [nonWordChars]))
      (not_mem_of_opensWord hx' (by simp [nonWordChars]))
  rw [greaterRest, greaterRest, h3, h2]

theorem isOperatorPrefix_transfer (hx : opensWord x = true) (hx' : opensWord x' = true) (k : Nat) :
    isOperatorPrefix (u ++ x :: w) k = isOperatorPrefix (u ++ x' :: w') k := by
  by_cases hk : k ≤ u.length
  · simp only [isOperatorPrefix, List.take_append_of_le_length hk]
  · -- a prefix longer than `u` holds the word's first character, which no operator has
    have hnone {y : Char} {r : List Char} (hy : opensWord y = true) :
        isOperatorPrefix (u ++ y :: r) k = false := by
      rw [Bool.eq_false_iff]
      intro hop
      obtain ⟨-, hmem⟩ := isOperatorPrefix_iff.1 hop
      apply not_mem_operator hy hmem
      rw [String.toList_ofList, List.take_append, List.take_of_length_le (by omega)]
      obtain ⟨j, hj⟩ : ∃ j, k - u.length = j + 1 := ⟨k - u.length - 1, by omega⟩
      simp [hj]
    rw [hnone hx, hnone hx']

theorem operatorLength_transfer (hx : opensWord x = true) (hx' : opensWord x' = true) :
    operatorLength (u ++ x :: w) = operatorLength (u ++ x' :: w') := by
  have h3 : isOperatorPrefix (u ++ x :: w) 3 = isOperatorPrefix (u ++ x' :: w') 3 :=
    isOperatorPrefix_transfer hx hx' 3
  have h2 : isOperatorPrefix (u ++ x :: w) 2 = isOperatorPrefix (u ++ x' :: w') 2 :=
    isOperatorPrefix_transfer hx hx' 2
  have h1 : isOperatorPrefix (u ++ x :: w) 1 = isOperatorPrefix (u ++ x' :: w') 1 :=
    isOperatorPrefix_transfer hx hx' 1
  rw [operatorLength, operatorLength, h3, h2, h1]

theorem lineCommentLength_eq_zero {c d : Char} (h : ¬ (c = '/' ∧ d = '/')) (r : List Char) :
    lineCommentLength (c :: d :: r) = 0 := by
  unfold lineCommentLength
  split
  · simp_all
  · rfl

theorem lineCommentLength_of_ne {c : Char} (h : c ≠ '/') (r : List Char) :
    lineCommentLength (c :: r) = 0 := by
  unfold lineCommentLength
  split
  · simp_all
  · rfl

theorem lineCommentLength_transfer (hx : opensWord x = true) (hx' : opensWord x' = true)
    (hle : lineCommentLength (u ++ x :: w) ≤ u.length) :
    lineCommentLength (u ++ x :: w) = lineCommentLength (u ++ x' :: w') := by
  have hslash : x ≠ '/' := ne_of_opensWord hx (by decide)
  have hslash' : x' ≠ '/' := ne_of_opensWord hx' (by decide)
  match u with
  | [] => rw [List.nil_append, List.nil_append, lineCommentLength_of_ne hslash,
      lineCommentLength_of_ne hslash']
  | [d] =>
    have hd : ¬ (d = '/' ∧ x = '/') := fun h => hslash h.2
    have hd' : ¬ (d = '/' ∧ x' = '/') := fun h => hslash' h.2
    rw [List.singleton_append, List.singleton_append, lineCommentLength_eq_zero hd,
      lineCommentLength_eq_zero hd']
  | d :: e :: r =>
    by_cases hde : d = '/' ∧ e = '/'
    · obtain ⟨rfl, rfl⟩ := hde
      simp only [List.cons_append, lineCommentLength, List.length_cons] at hle ⊢
      -- the comment ends at a line feed in `r`, before the word
      have hnl : x ≠ '\n' := ne_of_opensWord hx (by decide)
      rw [List.takeWhile_append] at hle ⊢
      rw [List.takeWhile_append]
      split
      · rename_i hall
        rw [if_pos hall] at hle
        simp [hnl] at hle
        omega
      · rfl
    · simp only [List.cons_append]
      rw [lineCommentLength_eq_zero hde, lineCommentLength_eq_zero hde]

theorem opensWord_eq_false {c : Char} (hc : c ∈ nonWordChars) : opensWord c = false := by
  cases h : opensWord c
  · rfl
  · exact absurd hc (not_mem_nonWordChars h)

theorem wordStep_start {c : Char} (hc : opensWord c = false) : WordState.step .start c = none := by
  simp only [opensWord, Bool.or_eq_false_iff, beq_eq_false_iff_ne] at hc
  simp [WordState.step, hc.1, hc.2]

/-! ### Quoted literals

A string or character literal that starts in `u` ends there: the literal the lexer took at the
start of `u` is the longest, so it is that literal, or a text block opener, and its automaton has
no move after the closing quote. -/

theorem quoted_run_start {q c : Char} {e : Bool} (hc : c ≠ q) (r : List Char) :
    (quotedAutomaton q e).run .start (c :: r) = none := by
  simp [quotedAutomaton, QuotedState.step, hc]

theorem quoted_accepts_append {q : Char} {e : Bool} {p : List Char}
    (h : (quotedAutomaton q e).Accepts p) (d : Char) (r : List Char) :
    (quotedAutomaton q e).run .start (p ++ d :: r) = none := by
  obtain ⟨t, hrun, hacc⟩ := h
  have ht : t = .closed := by simpa [quotedAutomaton] using hacc
  subst ht
  have hrun' : (quotedAutomaton q e).run .start p = some .closed := hrun
  rw [Automaton.run_append, hrun']
  rfl

theorem operators_unquoted :
    (operators.all fun o => !o.toList.contains '"' && !o.toList.contains '\'') = true := by
  decide

theorem matches_quote {cls : LexemeClass} {q : Char} {p : List Char} (hq : q = '"' ∨ q = '\'')
    (h : cls.Matches (q :: p)) : cls = .string ∨ cls = .textBlock ∨ cls = .char := by
  cases cls
  case string => exact .inl rfl
  case textBlock => exact .inr (.inl rfl)
  case char => exact .inr (.inr rfl)
  case blank =>
    have := (blank_accepts h).2 q List.mem_cons_self
    rcases hq with rfl | rfl <;> cases this
  case lineComment =>
    obtain ⟨body, hbody, -⟩ := h
    rcases hq with rfl | rfl <;> simp at hbody
  case blockComment => rcases hq with rfl | rfl <;> simp [LexemeClass.Matches] at h
  case greater => rcases hq with rfl | rfl <;> simp [LexemeClass.Matches] at h
  case word =>
    obtain ⟨t, hrun, -⟩ := h
    have hstep : WordState.step .start q = none :=
      wordStep_start (opensWord_eq_false (by rcases hq with rfl | rfl <;> simp [nonWordChars]))
    simp [wordAutomaton, hstep] at hrun
  case number =>
    obtain ⟨t, hrun, -⟩ := h
    have hstep : NumberState.step .start q = none := by rcases hq with rfl | rfl <;> rfl
    simp [numberAutomaton, hstep] at hrun
  case operator =>
    have hmem : String.ofList (q :: p) ∈ operators := h
    have hq' := List.all_eq_true.1 operators_unquoted _ hmem
    rw [String.toList_ofList] at hq'
    rcases hq with rfl | rfl <;> simp at hq'

theorem string_stuck {cls : LexemeClass} {m : Nat} (hpos : 0 < m) (hm : m ≤ u.length)
    (hmatch : cls.Matches (u.take m)) (x : Char) : stringAutomaton.run .start (u ++ [x]) = none := by
  obtain ⟨c, u₀, rfl⟩ := List.exists_cons_of_ne_nil (by rintro rfl; simp at hm; omega : u ≠ [])
  by_cases hc : c = '"'
  · subst hc
    obtain ⟨k, rfl⟩ : ∃ k, m = k + 1 := ⟨m - 1, by omega⟩
    rw [List.take_succ_cons] at hmatch
    obtain ⟨d, r, hdr⟩ : ∃ d r, u₀.drop k ++ [x] = d :: r := List.exists_cons_of_ne_nil (by simp)
    have hsplit : ('"' :: u₀) ++ [x] = ('"' :: u₀.take k) ++ d :: r := by
      rw [← hdr, List.cons_append, List.cons_append, ← List.append_assoc, List.take_append_drop]
    rw [hsplit]
    rcases matches_quote (.inl rfl) hmatch with rfl | rfl | rfl
    · exact quoted_accepts_append hmatch d r
    · -- the text block opener `"""`, where a string would close after two quotes
      have hopen : '"' :: u₀.take k = ['"', '"', '"'] := hmatch
      rw [hopen]
      exact Automaton.run_append_of_none _ rfl _
    · obtain ⟨t, hrun, -⟩ := hmatch
      simp [charAutomaton, quotedAutomaton, QuotedState.step] at hrun
  · exact quoted_run_start hc _

theorem char_stuck {cls : LexemeClass} {m : Nat} (hpos : 0 < m) (hm : m ≤ u.length)
    (hmatch : cls.Matches (u.take m)) (x : Char) : charAutomaton.run .start (u ++ [x]) = none := by
  obtain ⟨c, u₀, rfl⟩ := List.exists_cons_of_ne_nil (by rintro rfl; simp at hm; omega : u ≠ [])
  by_cases hc : c = '\''
  · subst hc
    obtain ⟨k, rfl⟩ : ∃ k, m = k + 1 := ⟨m - 1, by omega⟩
    rw [List.take_succ_cons] at hmatch
    obtain ⟨d, r, hdr⟩ : ∃ d r, u₀.drop k ++ [x] = d :: r := List.exists_cons_of_ne_nil (by simp)
    have hsplit : ('\'' :: u₀) ++ [x] = ('\'' :: u₀.take k) ++ d :: r := by
      rw [← hdr, List.cons_append, List.cons_append, ← List.append_assoc, List.take_append_drop]
    rw [hsplit]
    rcases matches_quote (.inr rfl) hmatch with rfl | rfl | rfl
    · obtain ⟨t, hrun, -⟩ := hmatch
      simp [stringAutomaton, quotedAutomaton, QuotedState.step] at hrun
    · simp [LexemeClass.Matches] at hmatch
    · exact quoted_accepts_append hmatch d r
  · exact quoted_run_start hc _

end Before

/-! ## Callbacks that read further -/

theorem commentRest_ge {cs : List Char} {k : Nat} (h : commentRest cs = some k) : 2 ≤ k := by
  fun_induction commentRest cs generalizing k with
  | case1 rest =>
    cases h
    exact le_refl 2
  | case2 c rest _ ih =>
    obtain ⟨k', hk', rfl⟩ := Option.map_eq_some_iff.1 h
    exact (ih hk').trans (Nat.le_succ k')
  | case3 => cases h

/-- A block comment's rest is read from its own characters only. -/
theorem commentRest_take_append {cs : List Char} {k : Nat} (h : commentRest cs = some k)
    (r : List Char) : commentRest (cs.take k ++ r) = some k := by
  fun_induction commentRest cs generalizing k with
  | case1 rest =>
    cases h
    rfl
  | case2 c rest hfirst ih =>
    obtain ⟨k', hk', rfl⟩ := Option.map_eq_some_iff.1 h
    have hge := commentRest_ge hk'
    have hle := commentRest_le hk'
    rw [List.take_succ_cons, List.cons_append, commentRest.eq_2, ih hk']
    · rfl
    -- the character after `c` is the same as before, so `*/` does not start at `c` either
    intro tail hc htail
    obtain ⟨d, rest', rfl⟩ := List.exists_cons_of_ne_nil
      (by rintro rfl; simp at hle; omega : rest ≠ [])
    obtain ⟨j, rfl⟩ : ∃ j, k' = j + 1 := ⟨k' - 1, by omega⟩
    rw [List.take_succ_cons, List.cons_append, List.cons.injEq] at htail
    exact hfirst rest' hc (by rw [htail.1])
  | case3 => cases h

theorem textBlockRest_ge {cs : List Char} {k : Nat} (h : textBlockRest cs = some k) : 3 ≤ k := by
  fun_induction textBlockRest cs generalizing k with
  | case1 c rest ih =>
    obtain ⟨k', hk', rfl⟩ := Option.map_eq_some_iff.1 h
    exact (ih hk').trans (by omega)
  | case2 rest =>
    cases h
    exact le_refl 3
  | case3 c rest _ _ ih =>
    obtain ⟨k', hk', rfl⟩ := Option.map_eq_some_iff.1 h
    exact (ih hk').trans (Nat.le_succ k')
  | case4 => cases h

/-- A text block's rest is read from its own characters only. -/
theorem textBlockRest_take_append {cs : List Char} {k : Nat} (h : textBlockRest cs = some k)
    (r : List Char) : textBlockRest (cs.take k ++ r) = some k := by
  fun_induction textBlockRest cs generalizing k with
  | case1 c rest ih =>
    obtain ⟨k', hk', rfl⟩ := Option.map_eq_some_iff.1 h
    rw [List.take_succ_cons, List.take_succ_cons, List.cons_append, List.cons_append,
      textBlockRest.eq_1, ih hk']
    rfl
  | case2 rest =>
    cases h
    rfl
  | case3 c rest hescape hclose ih =>
    obtain ⟨k', hk', rfl⟩ := Option.map_eq_some_iff.1 h
    have hge := textBlockRest_ge hk'
    have hle := textBlockRest_le hk'
    -- the three characters from `c` on are as before, so neither an escape nor `"""` starts there
    obtain ⟨d₁, d₂, d₃, rest', rfl⟩ : ∃ d₁ d₂ d₃ rest', rest = d₁ :: d₂ :: d₃ :: rest' := by
      match rest, hle with
      | d₁ :: d₂ :: d₃ :: rest', _ => exact ⟨d₁, d₂, d₃, rest', rfl⟩
      | [], h | [_], h | [_, _], h => simp at h; omega
    obtain ⟨j, rfl⟩ : ∃ j, k' = j + 3 := ⟨k' - 3, by omega⟩
    rw [List.take_succ_cons, List.cons_append, textBlockRest.eq_3, ih hk']
    · rfl
    · intro e rest'' he _
      exact hescape d₁ (d₂ :: d₃ :: rest') he rfl
    · intro tail hc htail
      simp only [List.take_succ_cons, List.cons_append, List.cons.injEq] at htail
      exact hclose (d₃ :: rest') hc (by rw [htail.1, htail.2.1])
  | case4 => cases h


theorem rest_transfer {f : List Char → Option Nat}
    (hf : ∀ cs k, f cs = some k → ∀ r, f (cs.take k ++ r) = some k) {v r r' : List Char} {k : Nat}
    (h : f (v ++ r) = some k) (hk : k ≤ v.length) : f (v ++ r') = some k := by
  have := hf _ _ h (v.drop k ++ r')
  rwa [List.take_append_of_le_length hk, ← List.append_assoc, List.take_append_drop] at this

/-- A callback rule that reads from byte `j` within `u` reads the same whatever follows `u`. -/
theorem map_rest_transfer {f : List Char → Option Nat}
    (hf : ∀ cs k, f cs = some k → ∀ r, f (cs.take k ++ r) = some k) {u r r' : List Char}
    {j n : Nat} {cls cls' : LexemeClass}
    (h : (f ((u ++ r).drop j)).map (fun k => (cls, j + k)) = some (cls', n)) (hn : n ≤ u.length) :
    (f ((u ++ r').drop j)).map (fun k => (cls, j + k)) = some (cls', n) := by
  obtain ⟨k, hk, hkn⟩ := Option.map_eq_some_iff.1 h
  simp only [Prod.mk.injEq] at hkn
  obtain ⟨rfl, rfl⟩ := hkn
  rw [List.drop_append_of_le_length (by omega)] at hk
  rw [List.drop_append_of_le_length (by omega),
    rest_transfer hf hk (by rw [List.length_drop]; omega)]
  rfl

/-! ## The lexeme before a word -/

/-- What the lexer reads within `u` at the start of `u ++ x :: w`, where `u` ends with a
character at which words stop and a word starts at `x`, it reads the same before any other
word. -/
theorem lexemeAt_transfer {u w w' : List Char} {x x' : Char} {cls : LexemeClass} {n : Nat}
    (hu : ∃ v c, u = v ++ [c] ∧ closesWord c = true) (hx : opensWord x = true)
    (hx' : opensWord x' = true) (h : lexemeAt (u ++ x :: w) = some (cls, n))
    (hn : n ≤ u.length) : lexemeAt (u ++ x' :: w') = some (cls, n) := by
  obtain ⟨m, hall, hext⟩ := lexemeAt_eq_some h
  have hm : m ≤ u.length := (cls.le_of_extends hext).trans hn
  have hmatch : cls.Matches (u.take m) := by
    have := hall.2.2.1
    rwa [List.take_append_of_le_length hm] at this
  have hu0 : 0 < u.length := by have := hall.1; omega
  -- each rule reads the same length at both texts
  have hblank : blankAutomaton.longest (u ++ x :: w) = blankAutomaton.longest (u ++ x' :: w') :=
    blankAutomaton.longestFrom_stuck (blank_stuck hx) (blank_stuck hx') _ _ _ _
  have hline : lineCommentLength (u ++ x :: w) = lineCommentLength (u ++ x' :: w') := by
    apply lineCommentLength_transfer hx hx'
    rcases Nat.eq_zero_or_pos (lineCommentLength (u ++ x :: w)) with h0 | hpos
    · omega
    · obtain ⟨hlen, hcomment⟩ := (longestAt_lineComment _).2 hpos
      have := hall.2.2.2 _ _ (List.take_prefix _ _) hcomment
      rw [List.length_take] at this
      omega
  have hopen {o : List Char} (ho : ∀ c ∈ o, c ∈ nonWordChars) :
      openerLength o (u ++ x :: w) = openerLength o (u ++ x' :: w') :=
    openerLength_transfer (not_mem_of_opensWord hx ho) (not_mem_of_opensWord hx' ho)
  obtain ⟨v, c, rfl, hc⟩ := hu
  have hword : wordAutomaton.scan (v ++ [c] ++ x :: w) = wordAutomaton.scan (v ++ [c] ++ x' :: w') :=
    wordAutomaton.scanFrom_stuck
      (Automaton.run_append_of_none _ (run_append_stuck (wordStep_closesWord hc) _ _) _)
      (Automaton.run_append_of_none _ (run_append_stuck (wordStep_closesWord hc) _ _) _) _ _ _ _ _
  have hnumber :
      numberAutomaton.scan (v ++ [c] ++ x :: w) = numberAutomaton.scan (v ++ [c] ++ x' :: w') :=
    numberAutomaton.scanFrom_stuck
      (Automaton.run_append_of_none _ (run_append_stuck (numberStep_closesWord hc) _ _) _)
      (Automaton.run_append_of_none _ (run_append_stuck (numberStep_closesWord hc) _ _) _) _ _ _ _ _
  have hstring :
      stringAutomaton.longest (v ++ [c] ++ x :: w) = stringAutomaton.longest (v ++ [c] ++ x' :: w') :=
    stringAutomaton.longestFrom_stuck (string_stuck hall.1 hm hmatch x)
      (string_stuck hall.1 hm hmatch x') _ _ _ _
  have hchar :
      charAutomaton.longest (v ++ [c] ++ x :: w) = charAutomaton.longest (v ++ [c] ++ x' :: w') :=
    charAutomaton.longestFrom_stuck (char_stuck hall.1 hm hmatch x)
      (char_stuck hall.1 hm hmatch x') _ _ _ _
  have hop : operatorLength (v ++ [c] ++ x :: w) = operatorLength (v ++ [c] ++ x' :: w') :=
    operatorLength_transfer hx hx'
  have hcand : candidates (v ++ [c] ++ x :: w) = candidates (v ++ [c] ++ x' :: w') := by
    simp only [candidates, hblank, hline, hword, hnumber, hstring, hchar, hop,
      hopen (o := ['/', '*']) (by simp [nonWordChars]),
      hopen (o := ['"', '"', '"']) (by simp [nonWordChars]),
      hopen (o := ['>']) (by simp [nonWordChars])]
  have hbroken : brokenLexeme (v ++ [c] ++ x' :: w') = brokenLexeme (v ++ [c] ++ x :: w) := by
    simp only [brokenLexeme, hword, hnumber]
  have hlongest : longestLexeme (v ++ [c] ++ x' :: w') = longestLexeme (v ++ [c] ++ x :: w) := by
    rw [longestLexeme, longestLexeme, hcand]
  -- the callbacks of comments, text blocks and `>` read within `u` or stop at the word
  unfold lexemeAt at h ⊢
  rw [hbroken, hlongest]
  split at h
  · cases h
  rw [if_neg ‹_›]
  generalize longestLexeme (v ++ [c] ++ x :: w) = r at h ⊢
  rcases r with _ | ⟨cls₀, m₀⟩
  · cases h
  cases cls₀ <;> dsimp only at h ⊢
  case blockComment =>
    exact map_rest_transfer (f := commentRest) (fun _ _ h r => commentRest_take_append h r) h hn
  case textBlock =>
    exact map_rest_transfer (f := textBlockRest) (fun _ _ h r => textBlockRest_take_append h r) h hn
  case greater =>
    rw [List.drop_append_of_le_length hu0] at h
    rw [List.drop_append_of_le_length hu0, ← greaterRest_transfer hx hx']
    exact h
  all_goals exact h

/-! ## A word in place of another -/

theorem brokenLexeme_of_lexemeAt {cs : List Char} {p : LexemeClass × Nat}
    (h : lexemeAt cs = some p) : brokenLexeme cs = false := by
  unfold lexemeAt at h
  split at h
  · cases h
  · rename_i hb
    simpa using hb

theorem wordAutomaton_accepts {y : List Char} (h : wordAutomaton.Accepts y) :
    wordAutomaton.run wordAutomaton.start y = some .inWord := by
  obtain ⟨t, hrun, hacc⟩ := h
  have ht : t = .inWord := by simpa [wordAutomaton] using hacc
  rw [← ht]
  exact hrun

theorem opensWord_of_accepts {d : Char} {r : List Char} (h : wordAutomaton.Accepts (d :: r)) :
    opensWord d = true := by
  cases hd : opensWord d
  · obtain ⟨t, hrun, -⟩ := h
    simp [wordAutomaton, wordStep_start hd] at hrun
  · rfl

theorem ne_nil_of_accepts {y : List Char} (h : wordAutomaton.Accepts y) : y ≠ [] := by
  rintro rfl
  obtain ⟨t, hrun, hacc⟩ := h
  cases hrun
  simp [wordAutomaton] at hacc

/-- A word is a character that opens words and what follows it. -/
theorem exists_cons_of_accepts {y : List Char} (h : wordAutomaton.Accepts y) :
    ∃ d r, y = d :: r ∧ opensWord d = true := by
  obtain ⟨d, r, rfl⟩ := List.exists_cons_of_ne_nil (ne_nil_of_accepts h)
  exact ⟨d, r, rfl, opensWord_of_accepts h⟩

theorem isDigit_of_opensWord {d : Char} (hd : opensWord d = true) : d.isDigit = false := by
  cases h : d.isDigit
  · rfl
  · exfalso
    simp only [Char.isDigit, Bool.and_eq_true, decide_eq_true_eq] at h
    obtain ⟨h1, h2⟩ := h
    rw [ge_iff_le, UInt32.le_iff_toNat_le] at h1
    rw [UInt32.le_iff_toNat_le] at h2
    rw [show '0'.val.toNat = 48 from rfl] at h1
    rw [show '9'.val.toNat = 57 from rfl] at h2
    -- a digit is ASCII, and the only ASCII characters that begin words are letters, `_`, `$`, `\`
    simp only [opensWord, isWordStart, Bool.or_eq_true, beq_iff_eq, decide_eq_true_eq] at hd
    rcases hd with ((hd | rfl) | rfl) | rfl
    · have := isWordLetter_ascii (by simp only [Char.toNat]; omega) hd
      simp only [isAsciiLetter, Bool.or_eq_true, Bool.and_eq_true, decide_eq_true_eq] at this
      simp only [Char.toNat] at this
      omega
    all_goals simp at h1 h2

theorem numberScan_of_opensWord {d : Char} (hd : opensWord d = true) (r : List Char) :
    numberAutomaton.scan (d :: r) = some 0 := by
  have hstep : NumberState.step .start d = none := by
    have h0 : d ≠ '0' := ne_of_opensWord hd (by simp [nonWordChars])
    have hdot : d ≠ '.' := ne_of_opensWord hd (by simp [nonWordChars])
    simp [NumberState.step, h0, hdot, isDigit_of_opensWord hd]
  simp [Automaton.scan, Automaton.scanFrom, numberAutomaton, hstep]

theorem isOperatorPrefix_eq_false {u r : List Char} {y : Char} (hy : opensWord y = true) {k : Nat}
    (hk : u.length < k) : isOperatorPrefix (u ++ y :: r) k = false := by
  rw [Bool.eq_false_iff]
  intro hop
  obtain ⟨-, hmem⟩ := isOperatorPrefix_iff.1 hop
  apply not_mem_operator hy hmem
  rw [String.toList_ofList, List.take_append, List.take_of_length_le (by omega)]
  obtain ⟨j, hj⟩ : ∃ j, k - u.length = j + 1 := ⟨k - u.length - 1, by omega⟩
  simp [hj]

/-- At a character that begins a word only the word rule reads anything. -/
theorem candidates_of_opensWord {d : Char} (hd : opensWord d = true) (r : List Char) :
    candidates (d :: r) =
      [(.blank, 0), (.lineComment, 0), (.blockComment, 0),
        (.word, (wordAutomaton.scan (d :: r)).getD 0), (.number, 0), (.string, 0),
        (.textBlock, 0), (.char, 0), (.greater, 0), (.operator, 0)] := by
  have hne {c : Char} (hc : c ∈ nonWordChars) : d ≠ c := ne_of_opensWord hd hc
  have hopener {o : List Char} {c : Char} (hc : c ∈ nonWordChars) :
      openerLength (c :: o) (d :: r) = 0 := by
    simp [openerLength, List.isPrefixOf, Ne.symm (hne hc)]
  have hop : operatorLength (d :: r) = 0 := by
    have h (k : Nat) (hk : 0 < k) : isOperatorPrefix (d :: r) k = false :=
      isOperatorPrefix_eq_false (u := []) hd hk
    simp [operatorLength, h]
  have hquote {q : Char} {e : Bool} (hq : q ∈ nonWordChars) :
      (quotedAutomaton q e).longest (d :: r) = 0 := by
    simp [Automaton.longest, Automaton.longestFrom, quotedAutomaton, QuotedState.step, hne hq]
  simp only [candidates]
  rw [lineCommentLength_of_ne (hne (by simp [nonWordChars])), hopener (by simp [nonWordChars]),
    hopener (by simp [nonWordChars]), hopener (by simp [nonWordChars]), hop]
  have hblank : blankAutomaton.longest (d :: r) = 0 := by
    simp [Automaton.longest, Automaton.longestFrom, blankAutomaton, isSpace_of_opensWord hd]
  rw [hblank, numberScan_of_opensWord hd, stringAutomaton, charAutomaton, hquote (by simp [nonWordChars]),
    hquote (by simp [nonWordChars])]
  rfl

/-- The word read at the start of a text, when the word is followed by what followed the word
the lexer read there before. -/
theorem lexemeAt_word_transfer {y y' post : List Char}
    (h : lexemeAt (y ++ post) = some (.word, y.length)) (hy' : wordAutomaton.Accepts y') :
    lexemeAt (y' ++ post) = some (.word, y'.length) := by
  obtain ⟨m, hall, hext⟩ := lexemeAt_eq_some h
  have hm : m = y.length := hext.symm
  subst hm
  have hy : wordAutomaton.Accepts y := by
    have := hall.2.2.1
    rwa [List.take_left] at this
  -- after either word the automaton is inside a word, and reads `post` alike
  have hscan {z : List Char} (hz : wordAutomaton.Accepts z) :
      wordAutomaton.scan (z ++ post) =
        (wordAutomaton.scanFrom .inWord 0 0 false post).map (· + z.length) := by
    rw [Automaton.scan,
      wordAutomaton.scanFrom_append_accepted (ne_nil_of_accepts hz) (wordAutomaton_accepts hz) rfl,
      ← wordAutomaton.scanFrom_shift, Nat.zero_add]
  -- before, the word rule read exactly `y`
  have hb := brokenLexeme_of_lexemeAt h
  obtain ⟨hwordLongest, -⟩ := scan_getD_of_not_broken hb
  have hlongest : wordAutomaton.longest (y ++ post) = y.length := by
    obtain ⟨hmax, hpos⟩ := wordAutomaton.longest_spec (y ++ post)
    have hge := hmax y (List.prefix_append y post) hy
    have hle : wordAutomaton.longest (y ++ post) ≤ y.length := by
      rcases Nat.eq_zero_or_pos (wordAutomaton.longest (y ++ post)) with h0 | hpos'
      · omega
      · obtain ⟨-, hacc⟩ := hpos hpos'
        have := hall.2.2.2 .word _ (List.take_prefix _ _) hacc
        rwa [List.length_take, min_eq_left (hpos hpos').1] at this
    omega
  have hrest : wordAutomaton.scanFrom .inWord 0 0 false post = some 0 := by
    have hb' : (wordAutomaton.scan (y ++ post)).isNone = false := by
      simp only [brokenLexeme, Bool.or_eq_false_iff] at hb
      exact hb.1
    rw [hscan hy] at hb' hwordLongest
    cases hr : wordAutomaton.scanFrom .inWord 0 0 false post with
    | none => simp [hr] at hb'
    | some r =>
      rw [hr] at hwordLongest
      simp only [Option.map_some, Option.getD_some] at hwordLongest
      congr
      omega
  have hscan' : wordAutomaton.scan (y' ++ post) = some y'.length := by
    rw [hscan hy', hrest]
    simp
  obtain ⟨d, r, hdr, hd⟩ := exists_cons_of_accepts hy'
  have hlen : 0 < y'.length := List.length_pos_of_ne_nil (ne_nil_of_accepts hy')
  have hcand := candidates_of_opensWord hd (r ++ post)
  rw [← List.cons_append, ← hdr, hscan'] at hcand
  have hbroken : brokenLexeme (y' ++ post) = false := by
    rw [brokenLexeme, hscan', hdr, List.cons_append, numberScan_of_opensWord hd]
    rfl
  unfold lexemeAt
  rw [hbroken, if_neg (by simp), longestLexeme, hcand]
  simp [Nat.pos_iff_ne_zero.1 hlen]

/-! ## Runs of the lexer -/

/-- The tokens `acc` with the token of a lexeme, if it gives one. -/
def pushSome (acc : Array Token) : Option Token → Array Token
  | some t => acc.push t
  | none => acc

theorem scanFrom_lexeme {offset : Nat} {cs : List Char} {acc : Array Token} {cls : LexemeClass}
    {n : Nat} (h : lexemeAt cs = some (cls, n)) :
    scanFrom offset cs acc = scanFrom (offset + utf8Length (cs.take n)) (cs.drop n)
      (pushSome acc (cls.token? (String.ofList (cs.take n)) offset
        (offset + utf8Length (cs.take n)))) := by
  obtain ⟨hpos, hle, -⟩ := lexemeAt_reads h
  cases cs with
  | nil => simp at hle; omega
  | cons c more =>
    rw [scanFrom, h]
    dsimp only
    rw [dif_neg (by omega)]
    cases cls.token? (String.ofList ((c :: more).take n)) offset
      (offset + utf8Length ((c :: more).take n)) <;> rfl

/-- Read from byte `offset` after the tokens `acc`, the lexer reads `cs` lexeme by lexeme down
to its suffix `rest`, which it reaches at byte `offset'` after the tokens `acc'`. -/
inductive ReadsTo : Nat → List Char → Array Token → Nat → List Char → Array Token → Prop
  | done {offset : Nat} {cs : List Char} {acc : Array Token} : ReadsTo offset cs acc offset cs acc
  | lexeme {offset offset' n : Nat} {cs rest : List Char} {acc acc' : Array Token}
      {cls : LexemeClass} :
      lexemeAt cs = some (cls, n) →
      ReadsTo (offset + utf8Length (cs.take n)) (cs.drop n)
        (pushSome acc (cls.token? (String.ofList (cs.take n)) offset
          (offset + utf8Length (cs.take n)))) offset' rest acc' →
      ReadsTo offset cs acc offset' rest acc'

namespace ReadsTo

variable {offset offset' : Nat} {cs rest : List Char} {acc acc' : Array Token}

theorem scanFrom_eq (h : ReadsTo offset cs acc offset' rest acc') :
    scanFrom offset cs acc = scanFrom offset' rest acc' := by
  induction h with
  | done => rfl
  | lexeme hlex _ ih => rw [scanFrom_lexeme hlex, ih]

theorem suffix (h : ReadsTo offset cs acc offset' rest acc') :
    ∃ pre, cs = pre ++ rest ∧ offset' = offset + utf8Length pre := by
  induction h with
  | done => exact ⟨[], rfl, rfl⟩
  | @lexeme offset offset' n cs rest acc acc' cls hlex _ ih =>
    obtain ⟨pre, hpre, hoff⟩ := ih
    refine ⟨cs.take n ++ pre, ?_, ?_⟩
    · rw [List.append_assoc, ← hpre, List.take_append_drop]
    · rw [hoff, utf8Length_append, Nat.add_assoc]

theorem eq_of_length (h : ReadsTo offset cs acc offset' rest acc')
    (hlen : rest.length = cs.length) : offset' = offset ∧ acc' = acc := by
  cases h with
  | done => exact ⟨rfl, rfl⟩
  | lexeme hlex htail =>
    obtain ⟨pre, hpre, -⟩ := htail.suffix
    obtain ⟨hpos, hle, -⟩ := lexemeAt_reads hlex
    have := congrArg List.length hpre
    simp only [List.length_drop, List.length_append] at this
    exfalso
    omega

/-- The last lexeme of a run that reads something. -/
theorem last (h : ReadsTo offset cs acc offset' rest acc') (hne : rest.length ≠ cs.length) :
    ∃ o ℓ a cls, ReadsTo offset cs acc o (ℓ ++ rest) a ∧
      lexemeAt (ℓ ++ rest) = some (cls, ℓ.length) ∧ offset' = o + utf8Length ℓ ∧
      acc' = pushSome a (cls.token? (String.ofList ℓ) o offset') := by
  induction h with
  | done => exact absurd rfl hne
  | @lexeme offset offset' n cs rest acc acc' cls hlex htail ih =>
    by_cases hlen : rest.length = (cs.drop n).length
    · -- nothing is read after this lexeme
      obtain ⟨hoff, hacc⟩ := htail.eq_of_length hlen
      obtain ⟨pre, hpre, -⟩ := htail.suffix
      have hpre0 : pre = [] := by
        have := congrArg List.length hpre
        simp only [List.length_append] at this
        exact List.eq_nil_of_length_eq_zero (by omega)
      subst hpre0 hoff hacc
      rw [List.nil_append] at hpre
      have hle := (lexemeAt_reads hlex).2.1
      refine ⟨offset, cs.take n, acc, cls, ?_, ?_, rfl, rfl⟩
      · rw [← hpre, List.take_append_drop]
        exact .done
      · rw [← hpre, List.take_append_drop, List.length_take, min_eq_left hle]
        exact hlex
    · obtain ⟨o, ℓ, a, cls', hreads, hlex', hoff, hacc⟩ := ih hlen
      exact ⟨o, ℓ, a, cls', .lexeme hlex hreads, hlex', hoff, hacc⟩

end ReadsTo

theorem scanFrom_acc_prefix {offset : Nat} {cs : List Char} {acc ts : Array Token}
    (h : scanFrom offset cs acc = .ok ts) : acc.toList <+: ts.toList := by
  obtain ⟨ts', -, hts⟩ := scanFrom_ok_splits h
  exact ⟨ts', hts.symm⟩

/-- A run that succeeds passes through the start of each token it reads. -/
theorem readsTo_of_scanFrom {offset : Nat} {cs : List Char} {acc ts : Array Token}
    (h : scanFrom offset cs acc = .ok ts) {j : Nat} (hj : acc.size ≤ j) (hjs : j < ts.size) :
    ∃ rest acc', ReadsTo offset cs acc ts[j].start rest acc' ∧ acc'.size = j ∧
      ∃ cls n, lexemeAt rest = some (cls, n) ∧
        cls.token? (String.ofList (rest.take n)) ts[j].start
          (ts[j].start + utf8Length (rest.take n)) = some ts[j] := by
  fun_induction scanFrom offset cs acc with
  | case1 offset acc =>
    cases h
    omega
  | case2 offset acc c more hnone => cases h
  | case3 offset acc c more cls hzero => cases h
  | case4 offset acc₀ c more cls n hlex hn lexeme stop acc ih =>
    have hacc : acc = pushSome acc₀ (cls.token? (String.ofList lexeme) offset stop) := by
      simp only [acc]
      cases cls.token? (String.ofList lexeme) offset stop <;> rfl
    by_cases hlt : j < acc.size
    · -- the token at `j` is the one this lexeme gives
      cases htok : cls.token? (String.ofList lexeme) offset stop with
      | none =>
        rw [hacc, htok] at hlt
        exact absurd hj (by simp only [pushSome] at hlt; omega)
      | some t =>
        rw [hacc, htok] at hlt h
        simp only [pushSome, Array.size_push] at hlt
        have hj' : j = acc₀.size := by omega
        subst hj'
        have hprefix := scanFrom_acc_prefix h
        have htj : ts[acc₀.size] = t := by
          have := hprefix.getElem (i := acc₀.size) (by simp [pushSome])
          simp only [pushSome, Array.toList_push, Array.getElem_toList] at this
          rw [← this]
          simp
        have hstart := (LexemeClass.token?_range htok).1
        refine ⟨c :: more, acc₀, ?_, rfl, cls, n, hlex, ?_⟩
        · rw [htj, hstart]
          exact .done
        · rw [htj, hstart, ← htok]
    · obtain ⟨rest, acc', hreads, hsize, hlast⟩ := ih h (by omega)
      rw [hacc] at hreads
      exact ⟨rest, acc', .lexeme hlex hreads, hsize, hlast⟩

/-- Reading on from `u ++ x :: w` down to the word at `x` is the same for any other word. -/
theorem ReadsTo.transfer {offset offset' : Nat} {u w w' : List Char} {x x' : Char}
    {acc acc' : Array Token} (h : ReadsTo offset (u ++ x :: w) acc offset' (x :: w) acc')
    (hu : u = [] ∨ ∃ v c, u = v ++ [c] ∧ closesWord c = true) (hx : opensWord x = true)
    (hx' : opensWord x' = true) : ReadsTo offset (u ++ x' :: w') acc offset' (x' :: w') acc' := by
  generalize hcs : u ++ x :: w = cs at h
  generalize hrest : x :: w = rest at h
  induction h generalizing u with
  | done =>
    subst hrest
    obtain rfl := List.append_left_eq_self.1 hcs
    exact .done
  | @lexeme offset offset' n cs rest acc acc' cls hlex htail ih =>
    subst hcs hrest
    obtain ⟨pre, hpre, -⟩ := htail.suffix
    have hpos := (lexemeAt_reads hlex).1
    have hn : n ≤ u.length := by
      have := congrArg List.length hpre
      simp only [List.length_drop, List.length_append, List.length_cons] at this
      omega
    have hu' : ∃ v c, u = v ++ [c] ∧ closesWord c = true := by
      rcases hu with rfl | hu
      · simp at hn
        omega
      · exact hu
    have htake : (u ++ x' :: w').take n = (u ++ x :: w).take n := by
      rw [List.take_append_of_le_length hn, List.take_append_of_le_length hn]
    -- after the lexeme, the rest of `u` still ends with the same character
    have hdrop : u.drop n = [] ∨ ∃ v c, u.drop n = v ++ [c] ∧ closesWord c = true := by
      obtain ⟨v, c, rfl, hc⟩ := hu'
      by_cases hnv : n = v.length + 1
      · left
        simp [hnv]
      · right
        refine ⟨v.drop n, c, ?_, hc⟩
        rw [List.drop_append_of_le_length (by simp at hn; omega)]
    refine .lexeme (lexemeAt_transfer hu' hx hx' hlex hn) ?_
    rw [htake, List.drop_append_of_le_length hn]
    exact ih hdrop (List.drop_append_of_le_length hn).symm rfl

theorem isWordPart_of_isWordStart {c : Char} (h : isWordStart c = true) : isWordPart c = true := by
  simp only [isWordStart, isWordPart, Bool.or_eq_true] at h ⊢
  tauto

theorem wordStep_inWord {d : Char} {s : WordState} (h : WordState.step .start d = some s) :
    WordState.step .inWord d = some s := by
  by_cases hb : d = '\\'
  · simp_all [WordState.step]
  · have hstart : isWordStart d = true := by
      cases hw : isWordStart d
      · simp [WordState.step, hb, hw] at h
      · rfl
    simp only [WordState.step, hb, hstart, if_false, if_true] at h
    simp [WordState.step, hb, isWordPart_of_isWordStart hstart, h]

/-- A word followed by a word is one word. -/
theorem accepts_append {ℓ y : List Char} (hℓ : wordAutomaton.Accepts ℓ)
    (hy : wordAutomaton.Accepts y) : wordAutomaton.Accepts (ℓ ++ y) := by
  obtain ⟨d, r, rfl, -⟩ := exists_cons_of_accepts hy
  obtain ⟨t, hrun, hacc⟩ := hy
  refine ⟨t, ?_, hacc⟩
  -- the first character of `y` steps from inside a word as it steps from the start
  rw [Automaton.run_append, wordAutomaton_accepts hℓ]
  simp only [Option.bind_some, Automaton.run_cons] at hrun ⊢
  cases hstep : WordState.step .start d with
  | none => simp [wordAutomaton, hstep] at hrun
  | some s =>
    simp only [wordAutomaton] at hrun ⊢
    rw [hstep] at hrun
    rw [wordStep_inWord hstep]
    exact hrun

theorem last_eq {l v : List Char} {a c : Char} (h : l ++ [a] = v ++ [c]) : c = a := by
  have := (List.append_inj' h rfl).2
  simp only [List.cons.injEq, and_true] at this
  exact this.symm

/-- The lexeme before a word that the scan can be read after ends with a character at which
words stop: a blank, the `/` closing a comment, or one of `>`, `]`, `,`. -/
theorem closesWord_before_word {ℓ y post : List Char} {cls : LexemeClass} {offset stop : Nat}
    (h : lexemeAt (ℓ ++ y ++ post) = some (cls, ℓ.length)) (hy : wordAutomaton.Accepts y)
    (htok : ∀ t, cls.token? (String.ofList ℓ) offset stop = some t →
      t.kind = .identifier ∨ t.kind = .keyword ∨ t.isOperator ">" ∨ t.isOperator "]" ∨
        t.isOperator ",") :
    ∃ v c, ℓ = v ++ [c] ∧ closesWord c = true := by
  obtain ⟨hpos, hle, htrivia, hreads⟩ := lexemeAt_reads h
  obtain ⟨m, hall, hext⟩ := lexemeAt_eq_some h
  have hm : m ≤ ℓ.length := cls.le_of_extends hext
  have htake : (ℓ ++ y ++ post).take ℓ.length = ℓ := by simp
  rw [htake] at htrivia hreads
  obtain ⟨d, r, rfl, hd⟩ := exists_cons_of_accepts hy
  -- no rule may read on into the word
  have hlonger {p : List Char} {q : LexemeClass} (hp : q.Matches (ℓ ++ p)) (hp0 : p ≠ [])
      (hpre : p <+: d :: r ++ post) : False := by
    have := hall.2.2.2 q (ℓ ++ p) (by rw [List.append_assoc]; exact (List.prefix_append_right_inj ℓ).2 hpre) hp
    have : 0 < p.length := List.length_pos_of_ne_nil hp0
    simp only [List.length_append] at *
    omega
  obtain ⟨v, c, hvc⟩ : ∃ v c, ℓ = v ++ [c] :=
    ⟨ℓ.dropLast, ℓ.getLast (List.ne_nil_of_length_pos hpos),
      (List.dropLast_append_getLast _).symm⟩
  refine ⟨v, c, hvc, ?_⟩
  rcases hkind : cls.kind? (String.ofList ℓ) with _ | kind
  · -- trivia: blanks end with a blank, a block comment with `/`, and a line comment would go on
    cases htrivia hkind with
    | blank hne hsp =>
      have := hsp c (by rw [hvc]; simp)
      simp [closesWord, this]
    | @lineComment body hnl =>
      apply (hlonger (p := [d]) (q := .lineComment) ?_ (by simp) (by simp)).elim
      refine ⟨body ++ [d], by simp, ?_⟩
      have hnl' : d ≠ '\n' := ne_of_opensWord hd (by simp [nonWordChars])
      simp [hnl, Ne.symm hnl']
    | @blockComment body _ =>
      have hℓ : '/' :: '*' :: (body ++ ['*', '/']) = ('/' :: '*' :: body ++ ['*']) ++ ['/'] := by
        simp
      rw [hℓ] at hvc
      simp [closesWord, last_eq hvc]
  · obtain ⟨-, m', hall', hext'⟩ := hreads kind hkind
    have htok' := htok _ (by rw [LexemeClass.token?_eq, hkind]; rfl)
    cases cls <;> simp only [LexemeClass.kind?, Option.some.injEq, reduceCtorEq] at hkind
    case word =>
      -- a word would read on into the next word
      exfalso
      have hm' : m' = ℓ.length := hext'.symm
      subst hm'
      have hword : wordAutomaton.Accepts ℓ := by
        have := hall'.2.2.1
        rwa [List.append_assoc, List.take_left] at this
      exact hlonger (q := .word) (accepts_append hword hy) (by simp) (List.prefix_append _ _)
    all_goals subst hkind
    all_goals simp [Token.isOperator] at htok'
    all_goals
      obtain h | h | h := htok'
      all_goals
        have hℓ := congrArg String.toList h
        simp at hℓ
        subst hℓ
        simp [closesWord, last_eq (l := []) hvc]

end NamingLint.Java

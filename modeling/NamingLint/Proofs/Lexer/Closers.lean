import Mathlib
import NamingLint.Proofs.Lexer.Partition

namespace NamingLint.Java

open Text

/-- The tokens that a run of `k` characters `>` from byte `o` becomes, where `next` is the
character after the run: `k` single `>` unless an `=` follows; with the `=`, `>=` for one, `>>=`
for two, and from three on `k - 3` single `>` and then `>>>=`. -/
def closingRun (o k : Nat) (next : Option Char) : List Token :=
  if next = some '=' then
    if k = 1 then [⟨.operator, ">=", o, o + 2⟩]
    else if k = 2 then [⟨.operator, ">>=", o, o + 3⟩]
    else (List.range (k - 3)).map (fun i => ⟨.operator, ">", o + i, o + i + 1⟩) ++
      [⟨.operator, ">>>=", o + (k - 3), o + k + 1⟩]
  else (List.range k).map fun i => ⟨.operator, ">", o + i, o + i + 1⟩

theorem single_closers_shift (o : Nat) :
    (fun i => (⟨.operator, ">", o + i, o + i + 1⟩ : Token)) ∘ Nat.succ =
      fun i => ⟨.operator, ">", o + 1 + i, o + 1 + i + 1⟩ := by
  funext i
  simp only [Function.comp_apply, Token.mk.injEq, true_and]
  omega

theorem closingRun_succ (o : Nat) {k : Nat} {next : Option Char}
    (hnext : next = some '=' → 3 ≤ k) :
    closingRun o (k + 1) next = ⟨.operator, ">", o, o + 1⟩ :: closingRun (o + 1) k next := by
  unfold closingRun
  by_cases heq : next = some '='
  · have h3 := hnext heq
    rw [if_pos heq, if_pos heq, if_neg (by omega), if_neg (by omega), if_neg (by omega),
      if_neg (by omega), show k + 1 - 3 = (k - 3) + 1 by omega, List.range_succ_eq_map]
    simp only [List.map_cons, List.map_map, List.cons_append, Nat.add_zero, single_closers_shift,
      List.cons.injEq, true_and, List.append_cancel_left_eq, Token.mk.injEq, and_true]
    -- the closing `>>>=` covers the same bytes counted from either start
    exact ⟨by omega, by omega⟩
  · rw [if_neg heq, if_neg heq, List.range_succ_eq_map]
    simp only [List.map_cons, List.map_map, Nat.add_zero, single_closers_shift]

theorem closingRun_compound (o : Nat) {j : Nat} (hj : j ≤ 2) :
    closingRun o (j + 1) (some '=') =
      [⟨.operator, String.ofList ('>' :: (List.replicate j '>' ++ ['='])), o, o + (j + 2)⟩] := by
  interval_cases j <;> rfl

theorem not_accepts_of_step_start {σ : Type} {a : Automaton σ} {c : Char}
    (h : a.step a.start c = none) (p : List Char) : ¬ a.Accepts (c :: p) := by
  rintro ⟨t, hrun, -⟩
  simp [h] at hrun

theorem operators_at_greater : ∀ o ∈ operators, o.toList.head? = some '>' → o = ">=" := by
  decide

set_option maxRecDepth 100000 in
theorem matches_greater_cons {cls : LexemeClass} {p : List Char} (h : cls.Matches ('>' :: p)) :
    (cls = .greater ∧ p = []) ∨ (cls = .operator ∧ p = ['=']) := by
  cases cls <;> simp only [LexemeClass.Matches] at h
  case blank => exact absurd h (not_accepts_of_step_start (by decide) p)
  case word => exact absurd h (not_accepts_of_step_start (by cbv) p)
  case number => exact absurd h (not_accepts_of_step_start (by decide) p)
  case string => exact absurd h (not_accepts_of_step_start (by decide) p)
  case char => exact absurd h (not_accepts_of_step_start (by decide) p)
  case lineComment =>
    obtain ⟨body, hbody, -⟩ := h
    simp at hbody
  case blockComment => simp at h
  case textBlock => simp at h
  case greater => exact .inl ⟨rfl, by simpa using h⟩
  case operator =>
    have hop := congrArg String.toList (operators_at_greater _ h (by simp))
    simp only [String.toList_ofList] at hop
    exact .inr ⟨rfl, by simpa using hop⟩

theorem longestOfAll_greater_cons {cls : LexemeClass} {more : List Char} {m : Nat}
    (h : LongestOfAll cls ('>' :: more) m) :
    more.head? = some '=' ∧ cls = .operator ∧ m = 2 ∨
      more.head? ≠ some '=' ∧ cls = .greater ∧ m = 1 := by
  obtain ⟨hpos, hle, hmatch, hmax⟩ := h
  obtain ⟨m, rfl⟩ : ∃ m', m = m' + 1 := ⟨m - 1, by omega⟩
  rw [List.take_succ_cons] at hmatch
  rcases matches_greater_cons hmatch with ⟨rfl, htake⟩ | ⟨rfl, htake⟩
  · -- `>` alone is the longest only when no `=` follows
    have hm : m = 0 := by
      rcases List.take_eq_nil_iff.1 htake with h0 | rfl
      · exact h0
      · simpa using hle
    subst hm
    refine .inr ⟨fun heq => ?_, rfl, rfl⟩
    obtain ⟨rest, rfl⟩ : ∃ rest, more = '=' :: rest := by
      cases more with
      | nil => simp at heq
      | cons d rest => exact ⟨rest, by simpa using heq⟩
    have := hmax .operator ['>', '='] (by simp)
      (by show String.ofList _ ∈ operators; decide)
    simp at this
  · have hm : m = 1 := by
      have hlen := congrArg List.length htake
      simp only [List.length_take, List.length_singleton] at hlen
      simp only [List.length_cons] at hle
      omega
    subst hm
    refine .inl ⟨?_, rfl, rfl⟩
    cases more with
    | nil => simp at htake
    | cons d rest => simpa using htake

theorem take_greaterRest (more : List Char) :
    more.take (greaterRest more) = [] ∨ more.take (greaterRest more) = ['>', '='] ∨
      more.take (greaterRest more) = ['>', '>', '='] := by
  unfold greaterRest
  split
  · rename_i h3
    exact .inr (.inr (List.prefix_iff_eq_take.1 (List.isPrefixOf_iff_prefix.1 h3)).symm)
  · split
    · rename_i h2
      exact .inr (.inl (List.prefix_iff_eq_take.1 (List.isPrefixOf_iff_prefix.1 h2)).symm)
    · exact .inl (by simp)

theorem Reads.greater_cons {cls : LexemeClass} {more lexeme : List Char}
    (h : Reads cls ('>' :: more) lexeme) :
    more.head? = some '=' ∧ cls = .operator ∧ lexeme = ['>', '='] ∨
      more.head? ≠ some '=' ∧ cls = .greater ∧ lexeme = '>' :: more.take (greaterRest more) := by
  obtain ⟨hpre, m, hall, hext⟩ := h
  have htake := List.prefix_iff_eq_take.1 hpre
  rcases longestOfAll_greater_cons hall with ⟨heq, rfl, rfl⟩ | ⟨hne, rfl, rfl⟩
  · simp only [LexemeClass.Extends] at hext
    refine .inl ⟨heq, rfl, ?_⟩
    rw [htake, hext]
    cases more with
    | nil => simp at heq
    | cons d rest =>
      simp only [Option.some.injEq, List.head?_cons] at heq
      simp [heq]
  · simp only [LexemeClass.Extends, List.drop_succ_cons, List.drop_zero] at hext
    refine .inr ⟨hne, rfl, ?_⟩
    rw [htake, hext, Nat.add_comm, List.take_succ_cons]

theorem take_greaterRest_run (j : Nat) {rest : List Char} (hrest : rest.head? ≠ some '>') :
    (List.replicate j '>' ++ rest).take (greaterRest (List.replicate j '>' ++ rest)) =
      if rest.head? = some '=' ∧ 1 ≤ j ∧ j ≤ 2 then List.replicate j '>' ++ ['='] else [] := by
  match j, rest with
  | j, [] => match j with
    | 0 | 1 | 2 => simp [greaterRest]
    | j + 3 => simp [greaterRest, List.replicate_succ]
  | j, d :: rest =>
    have hd : ¬ '>' = d := by
      rintro rfl
      simp at hrest
    match j with
    | 0 => simp [greaterRest, hd]
    | j + 3 => simp [greaterRest, List.replicate_succ]
    | 1 | 2 =>
      by_cases he : d = '='
      · subst he
        simp [greaterRest]
      · have he' : ¬ '=' = d := Ne.symm he
        simp [greaterRest, hd, he, he']

theorem Reads.run {j : Nat} {rest : List Char} (hrest : rest.head? ≠ some '>')
    {cls : LexemeClass} {lexeme : List Char}
    (h : Reads cls ('>' :: (List.replicate j '>' ++ rest)) lexeme) :
    (cls = .greater ∨ cls = .operator) ∧
      (rest.head? = some '=' ∧ j ≤ 2 ∧ lexeme = '>' :: (List.replicate j '>' ++ ['=']) ∨
        ¬ (rest.head? = some '=' ∧ j ≤ 2) ∧ lexeme = ['>']) := by
  rcases h.greater_cons with ⟨heq, rfl, rfl⟩ | ⟨hne, rfl, rfl⟩
  · -- an `=` right after the first `>`: the run is that `>` alone
    obtain ⟨rfl, hrest⟩ : j = 0 ∧ rest.head? = some '=' := by
      cases j with
      | zero => exact ⟨rfl, by simpa using heq⟩
      | succ j => simp [List.replicate_succ] at heq
    exact ⟨.inr rfl, .inl ⟨hrest, by omega, rfl⟩⟩
  · refine ⟨.inl rfl, ?_⟩
    rw [take_greaterRest_run j hrest]
    by_cases hcomp : rest.head? = some '=' ∧ 1 ≤ j ∧ j ≤ 2
    · exact .inl ⟨hcomp.1, hcomp.2.2, by rw [if_pos hcomp]⟩
    · rw [if_neg hcomp]
      refine .inr ⟨fun ⟨heq', hj⟩ => hcomp ⟨heq', ?_, hj⟩, rfl⟩
      -- with no `>` after the first, the `=` would follow it at once
      rcases Nat.eq_zero_or_pos j with rfl | hj1
      · exact absurd (by simpa using heq') hne
      · exact hj1

theorem TriviaPiece.append_ne_greater {piece : List Char} (h : TriviaPiece piece)
    (rest more : List Char) : piece ++ rest ≠ '>' :: more := by
  cases h with
  | blank hne hsp =>
    obtain ⟨c, p, rfl⟩ := List.exists_cons_of_ne_nil hne
    intro heq
    simp only [List.cons_append, List.cons.injEq] at heq
    have := hsp c List.mem_cons_self
    rw [heq.1] at this
    simp [isSpace] at this
  | lineComment => simp
  | blockComment => simp

theorem Splits.cons_of_greater {o : Nat} {more : List Char} {ts : List Token}
    (h : Splits o ('>' :: more) ts []) :
    ∃ cls kind lexeme rest ts', '>' :: more = lexeme ++ rest ∧
      Reads cls (lexeme ++ rest) lexeme ∧ cls.kind? (String.ofList lexeme) = some kind ∧
      ts = ⟨kind, String.ofList lexeme, o, o + utf8Length lexeme⟩ :: ts' ∧
      Splits (o + utf8Length lexeme) rest ts' [] := by
  generalize hcs : '>' :: more = cs at h
  cases h with
  | stop => simp at hcs
  | trivia hpiece _ => exact absurd hcs.symm (hpiece.append_ne_greater _ _)
  | token hreads hkind hrest => exact ⟨_, _, _, _, _, rfl, hreads, hkind, rfl, hrest⟩

theorem utf8Length_replicate_greater (j : Nat) : utf8Length (List.replicate j '>') = j := by
  induction j with
  | zero => rfl
  | succ j ih =>
    have hone : utf8Length ['>'] = 1 := rfl
    rw [List.replicate_succ, ← List.singleton_append, utf8Length_append, ih, hone]
    omega

theorem LexemeClass.kind?_closer {cls : LexemeClass} (hcls : cls = .greater ∨ cls = .operator)
    {text : String} {kind : TokenKind} (h : cls.kind? text = some kind) : kind = .operator := by
  rcases hcls with rfl | rfl <;> simpa [LexemeClass.kind?, eq_comm] using h

theorem Splits.run_head {j : Nat} {rest : List Char} (hrest : rest.head? ≠ some '>') {o : Nat}
    {ts : List Token} (h : Splits o ('>' :: (List.replicate j '>' ++ rest)) ts []) :
    (rest.head? = some '=' ∧ j ≤ 2 ∧ ∃ ts', ts = closingRun o (j + 1) (some '=') ++ ts') ∨
      (¬ (rest.head? = some '=' ∧ j ≤ 2) ∧ ∃ ts', ts = ⟨.operator, ">", o, o + 1⟩ :: ts' ∧
        Splits (o + 1) (List.replicate j '>' ++ rest) ts' []) := by
  obtain ⟨cls, kind, lexeme, rest', ts', hcs, hreads, hkind, rfl, hsplit⟩ := h.cons_of_greater
  rw [← hcs] at hreads
  obtain ⟨hcls, ⟨heq, hj, rfl⟩ | ⟨hne, rfl⟩⟩ := hreads.run hrest
  · obtain rfl := LexemeClass.kind?_closer hcls hkind
    have hlen : utf8Length ('>' :: (List.replicate j '>' ++ ['='])) = j + 2 := by
      have hgt : utf8Length ['>'] = 1 := rfl
      have hassign : utf8Length ['='] = 1 := rfl
      rw [← List.singleton_append, utf8Length_append, utf8Length_append,
        utf8Length_replicate_greater, hgt, hassign]
      omega
    exact .inl ⟨heq, hj, ts', by rw [closingRun_compound o hj, hlen]; rfl⟩
  · obtain rfl := LexemeClass.kind?_closer hcls hkind
    obtain rfl : rest' = List.replicate j '>' ++ rest := by simpa using hcs.symm
    exact .inr ⟨hne, ts', rfl, hsplit⟩

theorem Splits.closingRun_prefix {rest : List Char} (hrest : rest.head? ≠ some '>') (j : Nat)
    {o : Nat} {ts : List Token} (h : Splits o (List.replicate (j + 1) '>' ++ rest) ts []) :
    closingRun o (j + 1) rest.head? <+: ts := by
  rw [List.replicate_succ, List.cons_append] at h
  induction j generalizing o ts with
  | zero =>
    rcases Splits.run_head hrest h with ⟨heq, -, ts', rfl⟩ | ⟨hne, ts', rfl, -⟩
    · rw [heq]
      exact List.prefix_append _ _
    · have hne' : rest.head? ≠ some '=' := fun heq => hne ⟨heq, by omega⟩
      rw [closingRun_succ o fun heq => absurd heq hne']
      simp [closingRun, hne']
  | succ j ih =>
    rcases Splits.run_head hrest h with ⟨heq, -, ts', rfl⟩ | ⟨hne, ts', rfl, hsplit⟩
    · rw [heq]
      exact List.prefix_append _ _
    · -- a single `>` first, and the rest of the run from the next byte
      rw [List.replicate_succ, List.cons_append] at hsplit
      rw [closingRun_succ o fun heq => by by_contra h3; exact hne ⟨heq, by omega⟩]
      exact List.cons_prefix_cons.2 ⟨rfl, ih hsplit⟩

theorem Reads.greater_lexeme {cls : LexemeClass} {more lexeme : List Char}
    (h : Reads cls ('>' :: more) lexeme) :
    lexeme = ['>'] ∨ lexeme = ['>', '='] ∨ lexeme = ['>', '>', '='] ∨
      lexeme = ['>', '>', '>', '='] := by
  rcases h.greater_cons with ⟨-, -, rfl⟩ | ⟨-, -, rfl⟩
  · exact .inr (.inl rfl)
  · rcases take_greaterRest more with h0 | h2 | h3
    · exact .inl (by rw [h0])
    · exact .inr (.inr (.inl (by rw [h2])))
    · exact .inr (.inr (.inr (by rw [h3])))

theorem Reads.text_ne_shift {cls : LexemeClass} {cs lexeme : List Char}
    (h : Reads cls cs lexeme) : String.ofList lexeme ≠ ">>" ∧ String.ofList lexeme ≠ ">>>" := by
  obtain ⟨rest, rfl⟩ := h.1
  constructor
  · intro htext
    obtain rfl : lexeme = ['>', '>'] := by simpa using congrArg String.toList htext
    rcases Reads.greater_lexeme h with h | h | h | h <;> simp at h
  · intro htext
    obtain rfl : lexeme = ['>', '>', '>'] := by simpa using congrArg String.toList htext
    rcases Reads.greater_lexeme h with h | h | h | h <;> simp at h

theorem Splits.text_ne_shift {o : Nat} {cs post : List Char} {ts : List Token}
    (h : Splits o cs ts post) : ∀ t ∈ ts, t.text ≠ ">>" ∧ t.text ≠ ">>>" := by
  induction h with
  | stop => simp
  | trivia _ _ ih => exact ih
  | token hreads _ _ ih =>
    intro t ht
    rcases List.mem_cons.1 ht with rfl | ht
    · exact hreads.text_ne_shift
    · exact ih t ht

theorem Splits.le_start {o : Nat} {cs post : List Char} {ts : List Token}
    (h : Splits o cs ts post) : ∀ t ∈ ts, o ≤ t.start := by
  induction h with
  | stop => simp
  | trivia _ _ ih =>
    intro t ht
    have := ih t ht
    omega
  | token _ _ _ ih =>
    intro t ht
    rcases List.mem_cons.1 ht with rfl | ht
    · exact Nat.le_refl _
    · have := ih t ht
      omega

theorem eq_append_of_utf8Length_le {p s q r : List Char} (h : p ++ s = q ++ r)
    (hle : utf8Length q ≤ utf8Length p) : ∃ p', p = q ++ p' ∧ r = p' ++ s := by
  rcases List.append_eq_append_iff.1 h with ⟨a, rfl, rfl⟩ | ⟨c, rfl, rfl⟩
  · -- `q` runs past `p` by `a`, which then has no bytes and is empty
    obtain rfl : a = [] := by
      by_contra ha
      have := utf8Length_pos ha
      rw [utf8Length_append] at hle
      omega
    exact ⟨[], by simp, by simp⟩
  · exact ⟨c, rfl, rfl⟩

theorem Splits.drop_of_start {o : Nat} {cs post : List Char} {ts : List Token}
    (h : Splits o cs ts post) {p s : List Char} (hcs : cs = p ++ s) {i : Nat}
    (hi : i < ts.length) (hstart : ts[i].start = o + utf8Length p) :
    Splits (o + utf8Length p) s (ts.drop i) post := by
  induction h generalizing p s i with
  | stop => simp at hi
  | @trivia o piece rest post ts hpiece hrest ih =>
    -- the token starts past the piece, so `p` takes in the whole piece
    have hle := hrest.le_start _ (List.getElem_mem hi)
    obtain ⟨p', rfl, hrest'⟩ := eq_append_of_utf8Length_le hcs.symm (by omega)
    rw [utf8Length_append, ← Nat.add_assoc] at hstart ⊢
    exact ih hrest' hi hstart
  | @token o cls kind lexeme rest post ts hreads hkind hrest ih =>
    cases i with
    | zero =>
      -- the token at `p` is this one, so `p` is empty
      obtain rfl : p = [] := by
        by_contra hp
        have := utf8Length_pos hp
        simp at hstart
        omega
      subst hcs
      rw [show utf8Length ([] : List Char) = 0 from rfl, Nat.add_zero]
      exact Splits.token hreads hkind hrest
    | succ i =>
      have hle := hrest.le_start _ (List.getElem_mem (Nat.lt_of_succ_lt_succ hi))
      simp only [List.getElem_cons_succ] at hstart hle
      obtain ⟨p', rfl, hrest'⟩ := eq_append_of_utf8Length_le hcs.symm (by omega)
      rw [utf8Length_append, ← Nat.add_assoc] at hstart ⊢
      exact ih hrest' (Nat.lt_of_succ_lt_succ hi) hstart

/-- Runs of closing angle brackets. Take a text that the lexer reads to its end. No token is `>>`
or `>>>`. Take a run of `k ≥ 1` characters `>` followed by something other than `>`, where a
token starts at the run's first `>`: so the run is outside literals and comments, and no arrow
`->` takes its first `>`. The tokens from there on start with the ones `closingRun` gives: `k`
single `>` unless an `=` follows, and otherwise `>=`, `>>=`, or `k - 3` single `>` and `>>>=`. -/
theorem tokenize_closing_runs {source : String} {ts : Array Token}
    (h : tokenize source = .ok ts) :
    (∀ t ∈ ts.toList, t.text ≠ ">>" ∧ t.text ≠ ">>>") ∧
    ∀ pre k rest, source.toList = pre ++ List.replicate k '>' ++ rest → 0 < k →
      rest.head? ≠ some '>' → (∃ t ∈ ts.toList, t.start = utf8Length pre) →
      closingRun (utf8Length pre) k rest.head? <:+: ts.toList := by
  obtain ⟨hsplit, hranges⟩ := tokenize_ok_splits h
  refine ⟨hsplit.text_ne_shift, ?_⟩
  rintro pre k rest hsrc hk hrest ⟨t, ht, hstart⟩
  obtain ⟨mark, hmark, hmarklen⟩ := toList_eq_mark_append_body source
  -- the token at the run is past the mark, so the run lies in the body
  have hle : utf8Length mark ≤ utf8Length pre := hmarklen ▸ hstart ▸ (hranges t ht).1
  obtain ⟨p, rfl, hbody⟩ :=
    eq_append_of_utf8Length_le ((List.append_assoc _ _ _).symm.trans (hsrc.symm.trans hmark)) hle
  obtain ⟨i, hi, rfl⟩ := List.mem_iff_getElem.1 ht
  rw [utf8Length_append, hmarklen] at hstart ⊢
  have hdrop := hsplit.drop_of_start hbody hi hstart
  obtain ⟨j, rfl⟩ : ∃ j, k = j + 1 := ⟨k - 1, by omega⟩
  obtain ⟨back, hback⟩ := hdrop.closingRun_prefix hrest j
  exact ⟨ts.toList.take i, back, by rw [List.append_assoc, hback, List.take_append_drop]⟩

set_option maxRecDepth 100000 in
theorem tokenize_arrow_takes_closer :
    "->>".toList = ['-'] ++ List.replicate 2 '>' ++ [] ∧
      tokenize "->>" = .ok #[⟨.operator, "->", 0, 2⟩, ⟨.operator, ">", 2, 3⟩] ∧
      ¬ closingRun 1 2 none <:+: [⟨.operator, "->", 0, 2⟩, ⟨.operator, ">", 2, 3⟩] := by
  refine ⟨by decide, by cbv, by decide +kernel⟩

set_option maxRecDepth 100000 in
theorem four_closers_then_assign :
    tokenize ">>>>=" = .ok #[⟨.operator, ">", 0, 1⟩, ⟨.operator, ">>>=", 1, 5⟩] ∧
      closingRun 0 4 (some '=') <:+: [⟨.operator, ">", 0, 1⟩, ⟨.operator, ">>>=", 1, 5⟩] := by
  have htok : tokenize ">>>>=" = .ok #[⟨.operator, ">", 0, 1⟩, ⟨.operator, ">>>=", 1, 5⟩] := by
    cbv
  exact ⟨htok, (tokenize_closing_runs htok).2 [] 4 ['='] (by decide) (by decide) (by decide)
    ⟨⟨.operator, ">", 0, 1⟩, by simp, rfl⟩⟩

end NamingLint.Java

import Mathlib
import NamingLint.Proofs.Lexer.Locality
import NamingLint.Proofs.Extract.Mark
import NamingLint.Proofs.Extract.Mirror

/-!
# Renaming a declared name

Put another name in place of the bytes of one declared identifier. If the lexer reads the new
name as one identifier and the scanner does not read it by its spelling, nothing else changes.
The lexer reads the text before the identifier as it did (`ReadsTo.transfer`), the new name as
one word, and the text after it as before, every offset moved by the change in length
(`tokenize_rename`). The tokens keep their shapes, so the scanner records the same declarations
(`Scanner.Alike`): the renamed one under its new name, each later one at its moved offsets
(`extractOccurrences_rename`).
-/

namespace NamingLint.Text

/-- Two prefixes of one text with the same byte length are the same characters. -/
theorem prefix_eq_of_utf8Length {p q r r' : List Char} (h : p ++ r = q ++ r')
    (hl : utf8Length p = utf8Length q) : p = q := by
  induction p generalizing q with
  | nil =>
    cases q with
    | nil => rfl
    | cons d q =>
      have := Java.utf8Length_pos (List.cons_ne_nil d q)
      simp only [Source.LineIndex.utf8Length_nil] at hl
      omega
  | cons c p ih =>
    cases q with
    | nil =>
      have := Java.utf8Length_pos (List.cons_ne_nil c p)
      simp only [Source.LineIndex.utf8Length_nil] at hl
      omega
    | cons d q =>
      simp only [List.cons_append, List.cons.injEq] at h
      obtain ⟨rfl, h⟩ := h
      simp only [Source.LineIndex.utf8Length_cons] at hl
      rw [ih h (by omega)]

/-- A cut of a text in three is fixed by the byte offsets where its middle starts and stops. -/
theorem cut_unique {cs pre text post pre' text' post' : List Char} (h : cs = pre ++ text ++ post)
    (h' : cs = pre' ++ text' ++ post') (hpre : utf8Length pre = utf8Length pre')
    (hstop : utf8Length (pre ++ text) = utf8Length (pre' ++ text')) :
    pre = pre' ∧ text = text' ∧ post = post' := by
  have hcs : pre ++ (text ++ post) = pre' ++ (text' ++ post') := by
    rw [← List.append_assoc, ← List.append_assoc, ← h, h']
  obtain rfl := prefix_eq_of_utf8Length hcs hpre
  have houter := prefix_eq_of_utf8Length (h.symm.trans h') hstop
  obtain rfl := List.append_cancel_left houter
  exact ⟨rfl, rfl, List.append_cancel_left (h.symm.trans h')⟩

end NamingLint.Text

namespace NamingLint.Java

open Text Declaration

/-- Where byte `x` of a text goes when the `ℓ` bytes from `a` are replaced by `n` bytes: offsets
up to `a` stay, later ones move with the end of the replaced bytes. -/
def shiftPast (a ℓ n x : Nat) : Nat := if x ≤ a then x else x - ℓ + n

/-- The token `t` once the `ℓ` bytes from `a` are replaced by the name `m`; the token that starts
there takes `m` as its text. -/
def Token.renameAt (a ℓ : Nat) (m : String) (t : Token) : Token :=
  { t with
    text := if t.start = a then m else t.text
    start := shiftPast a ℓ (utf8Length m.toList) t.start
    stop := shiftPast a ℓ (utf8Length m.toList) t.stop }

/-- Whether the lexer reads `m` as one identifier: a word start, then word characters, with no
escape, spelling neither a keyword nor a literal word. -/
def isIdentifierName (m : String) : Bool :=
  match m.toList with
  | [] => false
  | c :: cs => isWordStart c && cs.all isWordPart && wordKind m == .identifier

/-- The identifiers the scanner reads by their spelling: the contextual keywords of
`non-sealed`, `sealed`, `record` and `yield`, and the unnamed `_`. -/
def contextualWords : List String := ["non", "sealed", "record", "yield", "_"]

/-! ## Offsets and tokens after the replacement -/

section Shift

variable {a ℓ n x : Nat} {m : String}

theorem shiftPast_of_le (h : x ≤ a) : shiftPast a ℓ n x = x := if_pos h

theorem shiftPast_past (hℓ : 0 < ℓ) (y : Nat) : shiftPast a ℓ n (y + (a + ℓ)) = y + (a + n) := by
  unfold shiftPast
  rw [if_neg (by omega)]
  omega

theorem Token.renameAt_of_before {t : Token} (hstart : t.start < a) (hstop : t.stop ≤ a) :
    t.renameAt a ℓ m = t := by
  simp [renameAt, shiftPast_of_le hstop, shiftPast_of_le hstart.le, hstart.ne]

theorem Token.renameAt_moveBy (hℓ : 0 < ℓ) (t : Token) :
    (t.moveBy (a + ℓ)).renameAt a ℓ m = t.moveBy (a + utf8Length m.toList) := by
  have hne : t.start + (a + ℓ) ≠ a := by omega
  simp only [renameAt, moveBy, shiftPast_past hℓ, hne, if_false]

theorem Token.renameAt_at (hℓ : 0 < ℓ) (kind : TokenKind) (text : String) :
    (⟨kind, text, a, a + ℓ⟩ : Token).renameAt a ℓ m = ⟨kind, m, a, a + utf8Length m.toList⟩ := by
  have hstop := shiftPast_past (a := a) (n := utf8Length m.toList) hℓ 0
  simp only [Nat.zero_add] at hstop
  simp [renameAt, shiftPast_of_le, hstop]

end Shift

/-! ## Names the lexer reads as one identifier -/

theorem isWordPart_backslash : isWordPart '\\' = false := by
  cases h : isWordPart '\\'
  · rfl
  · simp only [isWordPart, Bool.or_eq_true, decide_eq_true_eq] at h
    rcases h with ((h | h) | h) | h
    · have := isWordLetter_ascii (by decide) h
      revert this
      decide
    · have := isWordDigit_ascii (by decide) h
      revert this
      decide
    · cases h
    · cases h

-- the byte order mark is a format character, in none of the word tables
set_option maxRecDepth 100000 in
theorem isWordStart_mark : isWordStart '\uFEFF' = false := by
  have hout : (wordLetterRanges.toList.all fun r => decide (0xFEFF < r.1) || decide (r.2 < 0xFEFF)) =
      true := by
    decide
  cases h : isWordLetter '\uFEFF'
  · simp [isWordStart, h]
  · obtain ⟨r, hr, h1, h2⟩ := CodeRanges.containsIn_sound h
    have := List.all_eq_true.1 hout r hr
    simp only [Bool.or_eq_true, decide_eq_true_eq] at this
    have hmark : '\uFEFF'.toNat = 0xFEFF := rfl
    omega

theorem ne_backslash_of_isWordPart {d : Char} (h : isWordPart d = true) : d ≠ '\\' := by
  rintro rfl
  rw [isWordPart_backslash] at h
  cases h

theorem run_inWord {cs : List Char} (h : ∀ d ∈ cs, isWordPart d = true) :
    wordAutomaton.run .inWord cs = some .inWord := by
  induction cs with
  | nil => rfl
  | cons d cs ih =>
    have hd := h d List.mem_cons_self
    have hstep : wordAutomaton.step .inWord d = some .inWord := by
      simp [wordAutomaton, WordState.step, ne_backslash_of_isWordPart hd, hd]
    rw [Automaton.run_cons, hstep, Option.bind_some, ih fun e he => h e (List.mem_cons_of_mem d he)]

section IdentifierName

variable {m : String} (hm : isIdentifierName m = true)
include hm

theorem isIdentifierName_spec :
    ∃ c cs, m.toList = c :: cs ∧ isWordStart c = true ∧ (∀ d ∈ cs, isWordPart d = true) ∧
      wordKind m = .identifier := by
  unfold isIdentifierName at hm
  split at hm
  · cases hm
  · rename_i c cs hcs
    simp only [Bool.and_eq_true, List.all_eq_true, beq_iff_eq] at hm
    exact ⟨c, cs, hcs, hm.1.1, hm.1.2, hm.2⟩

theorem isWordPart_of_isIdentifierName : ∀ d ∈ m.toList, isWordPart d = true := by
  obtain ⟨c, cs, hcs, hc, hpart, -⟩ := isIdentifierName_spec hm
  rw [hcs]
  rintro d (_ | ⟨_, hmem⟩)
  · exact isWordPart_of_isWordStart hc
  · exact hpart d hmem

theorem decodeEscapes_of_isIdentifierName : decodeEscapes m = m :=
  decodeEscapes_plain fun h => ne_backslash_of_isWordPart (isWordPart_of_isIdentifierName hm _ h) rfl

theorem accepts_of_isIdentifierName : wordAutomaton.Accepts m.toList := by
  obtain ⟨c, cs, hcs, hc, hpart, -⟩ := isIdentifierName_spec hm
  have hstep : wordAutomaton.step wordAutomaton.start c = some .inWord := by
    simp [wordAutomaton, WordState.step, ne_backslash_of_isWordPart (isWordPart_of_isWordStart hc), hc]
  refine ⟨.inWord, ?_, rfl⟩
  rw [hcs, Automaton.run_cons, hstep, Option.bind_some, run_inWord hpart]

end IdentifierName

/-- A word the lexer reads as an identifier, outside the contextual words, is a plain name: the
scanner never reads its spelling. -/
theorem Token.isPlainName_of_word {t : Token} (hid : t.kind = .identifier)
    (hkind : t.kind = wordKind t.word) {x : Char} {r : List Char} (hx : t.text.toList = x :: r)
    (hopen : opensWord x = true) (hw : t.word ∉ contextualWords) : t.IsPlainName := by
  refine ⟨hid, fun htext => ?_, fun hword => hw ?_⟩
  · -- each spelled text has no escape, so it is its own word
    have hplain (w : String) (hw : '\\' ∉ w.toList) (h : t.text = w) : t.word = w := by
      rw [Token.word, h, decodeEscapes_plain hw]
    have hctx (w : String) (hw' : '\\' ∉ w.toList) (hmem : w ∈ contextualWords) (h : t.text = w) :
        False :=
      hw (hplain w hw' h ▸ hmem)
    have hkw (w : String) (hw' : '\\' ∉ w.toList) (hk : wordKind w ≠ .identifier)
        (h : t.text = w) : False :=
      hk (hplain w hw' h ▸ hkind ▸ hid)
    have hop (w : String) (c : Char) (hc : c ∈ nonWordChars) (hwc : w.toList = [c])
        (h : t.text = w) : False := by
      rw [h, hwc] at hx
      exact ne_of_opensWord hopen hc (List.cons.inj hx).1.symm
    simp only [spelledTexts, List.mem_cons, List.not_mem_nil, or_false] at htext
    rcases htext with h | h | h | h | h | h | h | h
    · exact hctx _ (by simp) (by simp [contextualWords]) h
    · exact hctx _ (by simp) (by simp [contextualWords]) h
    · exact hctx _ (by simp) (by simp [contextualWords]) h
    · exact hkw _ (by simp) (by decide) h
    · exact hkw _ (by simp) (by decide) h
    · exact hop _ '@' (by simp [nonWordChars]) (by simp) h
    · exact hop _ '(' (by simp [nonWordChars]) (by simp) h
    · exact hop _ '[' (by simp [nonWordChars]) (by simp) h
  · simp only [spelledWords, contextualWords, List.mem_cons, List.not_mem_nil, or_false] at hword ⊢
    tauto

/-! ## Reading the text around the name -/

/-- The lexer reads on after tokens it has as it reads from none, those tokens put before. -/
theorem scanFrom_append_acc (offset : Nat) (cs : List Char) (acc acc₂ : Array Token) :
    scanFrom offset cs (acc ++ acc₂) = (scanFrom offset cs acc₂).map (acc ++ ·) := by
  fun_induction scanFrom offset cs acc₂ with
  | case1 offset acc₂ => rw [scanFrom]; rfl
  | case2 offset acc₂ c more hnone =>
    rw [scanFrom, hnone]
    rfl
  | case3 offset acc₂ c more cls hzero =>
    rw [scanFrom, hzero]
    rfl
  | case4 offset acc₂ c more cls k hsome hk lexeme stop acc' ih =>
    rw [scanFrom, hsome]
    dsimp only
    rw [dif_neg hk, ← ih]
    congr 1
    simp only [acc']
    cases cls.token? (String.ofList lexeme) offset stop with
    | none => rfl
    | some t => exact (Array.append_push ..).symm

/-- What the lexer reads from byte `offset` is what it reads from byte 0, moved on. -/
theorem scanFrom_eq_moveBy (offset : Nat) (cs : List Char) (acc : Array Token) :
    scanFrom offset cs acc =
      ((scanFrom 0 cs #[]).map fun rs => acc ++ Tokens.moveBy offset rs).mapError
        (LexError.moveBy offset) := by
  have hmove := scanFrom_moveBy offset 0 cs #[]
  have hempty : Tokens.moveBy offset #[] = #[] := by simp [Tokens.moveBy]
  rw [Nat.zero_add, hempty] at hmove
  have hacc : scanFrom offset cs acc = scanFrom offset cs (acc ++ #[]) := by rw [Array.append_empty]
  rw [hacc, scanFrom_append_acc, hmove]
  cases scanFrom 0 cs #[] <;> rfl

/-- The tokens read before a position end there. -/
theorem ReadsTo.inOrderBy {offset offset' : Nat} {cs rest : List Char} {acc acc' : Array Token}
    (h : ReadsTo offset cs acc offset' rest acc') (hacc : InOrderBy acc offset) :
    InOrderBy acc' offset' := by
  induction h with
  | done => exact hacc
  | @lexeme offset offset' n cs rest acc acc' cls hlex _ ih =>
    obtain ⟨hpos, hle, -⟩ := lexemeAt_reads hlex
    have hne : cs.take n ≠ [] := by
      intro h0
      have := congrArg List.length h0
      simp only [List.length_take, List.length_nil] at this
      omega
    have hstop : offset < offset + utf8Length (cs.take n) := by
      have := utf8Length_pos hne
      omega
    exact ih (hacc.read hstop cls _)

theorem getElem?_of_push_prefix {acc ts : Array Token} {t : Token}
    (h : (acc.push t).toList <+: ts.toList) : ts[acc.size]? = some t := by
  obtain ⟨r, hr⟩ := h
  rw [← Array.getElem?_toList, ← hr, Array.toList_push, List.append_assoc,
    List.getElem?_append_right (by simp)]
  simp

/-- An identifier comes from the word rule: its text is the word read at its start. -/
theorem identifier_read {rest : List Char} {cls : LexemeClass} {n start stop : Nat} {t : Token}
    (hlex : lexemeAt rest = some (cls, n))
    (htok : cls.token? (String.ofList (rest.take n)) start stop = some t)
    (hid : t.kind = .identifier) :
    cls = .word ∧ rest.take n = t.text.toList ∧ wordAutomaton.Accepts t.text.toList ∧
      t.kind = wordKind t.word := by
  cases cls <;> simp only [LexemeClass.token?, Option.some.injEq, reduceCtorEq] at htok
  all_goals subst htok
  case word =>
    have htext : (String.ofList (rest.take n)).toList = rest.take n := String.toList_ofList ..
    obtain ⟨k, hall, hext⟩ := lexemeAt_eq_some hlex
    have hk : n = k := hext
    subst hk
    refine ⟨rfl, htext.symm, ?_, rfl⟩
    rw [htext]
    exact hall.2.2.1
  all_goals cases hid

/-- The text before an identifier that the scanner records is empty or ends with a character at
which words stop: the token before it is a word, `>`, `]` or `,`, and only trivia follows. -/
theorem closes_before_word {offset a : Nat} {cs y post : List Char} {acc : Array Token}
    {ts : Tokens} (h : scanFrom offset cs #[] = .ok ts)
    (hreads : ReadsTo offset cs #[] a (y ++ post) acc) (hy : wordAutomaton.Accepts y)
    (hlead : ts.LeadsTo acc.size) :
    ∃ pre, cs = pre ++ (y ++ post) ∧ a = offset + utf8Length pre ∧
      (pre = [] ∨ ∃ v c, pre = v ++ [c] ∧ closesWord c = true) := by
  obtain ⟨pre, hcs, ha⟩ := hreads.suffix
  refine ⟨pre, hcs, ha, ?_⟩
  by_cases hpre : pre = []
  · exact .inl hpre
  right
  have hne : (y ++ post).length ≠ cs.length := by
    have := List.length_pos_of_ne_nil hpre
    rw [hcs]
    simp only [List.length_append]
    omega
  obtain ⟨o, ℓ, a₀, cls, hreads₀, hlex₀, -, hacc⟩ := hreads.last hne
  obtain ⟨pre₀, hcs₀, -⟩ := hreads₀.suffix
  have hpre₀ : pre = pre₀ ++ ℓ := by
    have : pre ++ (y ++ post) = (pre₀ ++ ℓ) ++ (y ++ post) := by
      rw [← hcs, hcs₀, List.append_assoc]
    exact List.append_cancel_right this
  have hprefix := scanFrom_acc_prefix (hreads.scanFrom_eq.symm.trans h)
  -- the token the last lexeme gives, if any, is the one `LeadsTo` speaks of
  have hlast (t : Token) (ht : cls.token? (String.ofList ℓ) o a = some t) :
      t.kind = .identifier ∨ t.kind = .keyword ∨ t.isOperator ">" ∨ t.isOperator "]" ∨
        t.isOperator "," := by
    rw [ht] at hacc
    obtain ⟨j, t', hj, ht', hd⟩ := hlead
    have hsize : a₀.size = j := by
      rw [hacc] at hj
      simpa [pushSome] using hj
    rw [hacc] at hprefix
    have hts : ts[a₀.size]? = some t := getElem?_of_push_prefix hprefix
    rw [hsize, ht'] at hts
    cases hts
    exact hd
  obtain ⟨v, c, hvc, hc⟩ := @closesWord_before_word ℓ y post cls o a
    (by rwa [List.append_assoc]) hy hlast
  exact ⟨pre₀ ++ v, c, by rw [hpre₀, hvc, List.append_assoc], hc⟩

/-- The tokens of the text with the word at `a` replaced: those before `a` stay, the word's token
takes the new name, and those after move by the change in length. -/
theorem renameAt_tokens {acc rs : Array Token} {a ℓ : Nat} (hin : InOrderBy acc a) (hℓ : 0 < ℓ)
    (kind : TokenKind) (text m : String) :
    (acc.push ⟨kind, text, a, a + ℓ⟩ ++ Tokens.moveBy (a + ℓ) rs).map (Token.renameAt a ℓ m) =
      acc.push ⟨kind, m, a, a + utf8Length m.toList⟩ ++
        Tokens.moveBy (a + utf8Length m.toList) rs := by
  have hacc : acc.map (Token.renameAt a ℓ m) = acc := by
    conv_rhs => rw [← Array.map_id acc]
    refine Array.map_congr_left fun t ht => ?_
    have hstop := hin.2 t (Array.mem_toList_iff.2 ht)
    have hpos := hin.1.1 t (Array.mem_toList_iff.2 ht)
    exact Token.renameAt_of_before (by omega) hstop
  have hmoved : Token.renameAt a ℓ m ∘ Token.moveBy (a + ℓ) =
      Token.moveBy (a + utf8Length m.toList) :=
    funext (Token.renameAt_moveBy hℓ)
  rw [Array.map_append, Array.map_push, hacc, Token.renameAt_at hℓ, Tokens.moveBy, Tokens.moveBy,
    Array.map_map, hmoved]

/-- Replacing a word that follows a character at which words stop by another identifier keeps
the tokens before it, gives the new word's token in its place, and moves the tokens after it by
the change in length. -/
theorem scanFrom_rename {offset a : Nat} {pre y post : List Char} {acc : Array Token}
    {ts : Tokens} (h : scanFrom offset (pre ++ (y ++ post)) #[] = .ok ts)
    (hreads : ReadsTo offset (pre ++ (y ++ post)) #[] a (y ++ post) acc)
    (hpre : pre = [] ∨ ∃ v c, pre = v ++ [c] ∧ closesWord c = true)
    (hlex : lexemeAt (y ++ post) = some (.word, y.length)) (hy : wordAutomaton.Accepts y)
    (hkind : wordKind (decodeEscapes (String.ofList y)) = .identifier) {m : String}
    (hm : isIdentifierName m = true) :
    scanFrom offset (pre ++ (m.toList ++ post)) #[] =
      .ok (ts.map (Token.renameAt a (utf8Length y) m)) := by
  obtain ⟨c, cs, hcs, hc, -, hmkind⟩ := isIdentifierName_spec hm
  obtain ⟨x, w, rfl, hx⟩ := exists_cons_of_accepts hy
  -- the text before reads as it did, up to the new word
  have hreads' : ReadsTo offset (pre ++ (m.toList ++ post)) #[] a (m.toList ++ post) acc := by
    rw [hcs]
    exact hreads.transfer hpre hx (by simp [opensWord, hc])
  have hlex' := lexemeAt_word_transfer hlex (accepts_of_isIdentifierName hm)
  have hℓ : 0 < utf8Length (x :: w) := utf8Length_pos (by simp)
  have hin := hreads.inOrderBy ⟨InOrder.empty, by simp⟩
  rw [hreads.scanFrom_eq, scanFrom_lexeme hlex, List.take_left, List.drop_left,
    scanFrom_eq_moveBy] at h
  rw [hreads'.scanFrom_eq, scanFrom_lexeme hlex', List.take_left, List.drop_left,
    scanFrom_eq_moveBy]
  cases hpost : scanFrom 0 post #[] with
  | error e =>
    rw [hpost] at h
    cases h
  | ok rs =>
    rw [hpost] at h
    cases h
    simp only [Except.map, Except.mapError, pushSome, LexemeClass.token?]
    rw [renameAt_tokens hin hℓ, String.ofList_toList, decodeEscapes_of_isIdentifierName hm, hmkind,
      hkind]

/-- An identifier token of a text is a word the lexer read: its kind is its word's, and its text is
an accepted word. -/
theorem tokenize_identifier_word {source : String} {ts : Tokens} (hts : tokenize source = .ok ts)
    {k : Nat} (hk : k < ts.size) (hid : ts[k].kind = .identifier) :
    ts[k].kind = wordKind ts[k].word ∧ wordAutomaton.Accepts ts[k].text.toList := by
  rw [tokenize_eq_scanFrom] at hts
  obtain ⟨_rest, _acc, _hreads, _hsize, cls, n, hlex, htok⟩ :=
    readsTo_of_scanFrom hts (Nat.zero_le k) hk
  obtain ⟨-, -, hacc, hkind⟩ := identifier_read hlex htok hid
  exact ⟨hkind, hacc⟩

/-- An identifier of a text whose word is outside the contextual words is a plain name. -/
theorem tokenize_isPlainName {source : String} {ts : Tokens} (hts : tokenize source = .ok ts)
    {k : Nat} (hk : k < ts.size) (hid : ts[k].kind = .identifier)
    (hw : ts[k].word ∉ contextualWords) : ts[k].IsPlainName := by
  obtain ⟨hkind, hacc⟩ := tokenize_identifier_word hts hk hid
  obtain ⟨x, r, hxr, hx⟩ := exists_cons_of_accepts hacc
  exact Token.isPlainName_of_word hid hkind hxr hx hw

/-! ## The renamed text -/

section Marked

variable {s : String} {cs : List Char} (h : s.toList = '\uFEFF' :: cs)
include h

theorem body_of_marked : body s = cs := by simp [body, h]

theorem bodyOffset_of_marked : bodyOffset s = 3 := by simp [bodyOffset, h]

theorem tokenize_of_marked : tokenize s = scanFrom 3 cs #[] := by
  rw [tokenize_eq_scanFrom, body_of_marked h, bodyOffset_of_marked h]

end Marked

/-- A text starts with a byte order mark, which the lexer skips, or it is all body. -/
theorem toList_cases (source : String) :
    (source.toList = '\uFEFF' :: body source ∧ bodyOffset source = 3) ∨
      (source.toList = body source ∧ bodyOffset source = 0 ∧
        ∀ rest, source.toList ≠ '\uFEFF' :: rest) := by
  by_cases hmark : ∃ rest, source.toList = '\uFEFF' :: rest
  · obtain ⟨rest, hrest⟩ := hmark
    exact .inl ⟨by rw [hrest, body_of_marked hrest], bodyOffset_of_marked hrest⟩
  · simp only [not_exists] at hmark
    exact .inr ⟨(body_of_unmarked hmark).symm, bodyOffset_of_unmarked hmark, hmark⟩

/-- Put an identifier name `m` in place of the identifier at token `k`, which the scanner can
record: the new text has the tokens of the old one, with `m` at the same start and every later
token moved by the change in length. -/
theorem tokenize_rename {source : String} {ts : Tokens} (hts : tokenize source = .ok ts) {k : Nat}
    (hk : k < ts.size) (hid : ts[k].kind = .identifier) (hlead : ts.LeadsTo k) {m : String}
    (hm : isIdentifierName m = true) :
    ∃ pre post, source.toList = pre ++ ts[k].text.toList ++ post ∧ utf8Length pre = ts[k].start ∧
      tokenize (String.ofList (pre ++ m.toList ++ post)) =
        .ok (ts.map (Token.renameAt ts[k].start (utf8Length ts[k].text.toList) m)) := by
  rw [tokenize_eq_scanFrom] at hts
  obtain ⟨rest, acc, hreads, hsize, cls, n, hlex, htok⟩ :=
    readsTo_of_scanFrom hts (Nat.zero_le k) hk
  obtain ⟨rfl, htake, hacc, hkind⟩ := identifier_read hlex htok hid
  have hn : n = ts[k].text.toList.length := by
    rw [← htake, List.length_take, min_eq_left (lexemeAt_reads hlex).2.1]
  obtain ⟨post, rfl⟩ : ∃ post, rest = ts[k].text.toList ++ post :=
    ⟨rest.drop n, by rw [← htake, List.take_append_drop]⟩
  subst hn
  obtain ⟨pre, hbody, ha, hpre⟩ := closes_before_word hts hreads hacc (hsize ▸ hlead)
  have hkind' : wordKind (decodeEscapes (String.ofList ts[k].text.toList)) = .identifier := by
    rw [String.ofList_toList]
    exact hkind ▸ hid
  rw [hbody] at hts hreads
  have hscan := scanFrom_rename hts hreads hpre hlex hacc hkind' hm
  rcases toList_cases source with ⟨hsrc, hoff⟩ | ⟨hsrc, hoff, hnot⟩
  · -- the mark stays in front and the body is read from byte 3 as before
    refine ⟨'\uFEFF' :: pre, post, by rw [hsrc, hbody]; simp, ?_, ?_⟩
    · rw [Source.LineIndex.utf8Length_cons, ha, hoff]
      rfl
    · have hs : (String.ofList ('\uFEFF' :: pre ++ m.toList ++ post)).toList =
          '\uFEFF' :: (pre ++ (m.toList ++ post)) := by
        simp
      rw [tokenize_of_marked hs, ← hoff]
      exact hscan
  · refine ⟨pre, post, by rw [hsrc, hbody]; simp, by rw [ha, hoff, Nat.zero_add], ?_⟩
    have hs : (String.ofList (pre ++ m.toList ++ post)).toList = pre ++ (m.toList ++ post) := by
      simp
    -- the new text starts as the old one did, or with the new name: not with a mark
    have hnot' : ∀ rest, (String.ofList (pre ++ m.toList ++ post)).toList ≠ '\uFEFF' :: rest := by
      rw [hs]
      intro r hr
      cases pre with
      | nil =>
        obtain ⟨c, cs, hcs, hc, -⟩ := isIdentifierName_spec hm
        rw [List.nil_append, hcs, List.cons_append, List.cons.injEq] at hr
        rw [hr.1, isWordStart_mark] at hc
        cases hc
      | cons d pre =>
        rw [List.cons_append, List.cons.injEq] at hr
        apply hnot (pre ++ (ts[k].text.toList ++ post))
        rw [hsrc, hbody, hr.1, List.cons_append]
    rw [tokenize_eq_scanFrom, body_of_unmarked hnot', bodyOffset_of_unmarked hnot', hs]
    rw [hoff] at hscan
    exact hscan

end NamingLint.Java

namespace NamingLint.Declaration

open Java Source Text

/-- The occurrence `o` once the `ℓ` bytes from `a` are replaced by the name `m`, placed by the
lines of the new text; the occurrence that starts there takes the name `m`. -/
def Occurrence.renameAt (lines : LineIndex) (a ℓ : Nat) (m : String) (o : Occurrence) :
    Occurrence :=
  let start := shiftPast a ℓ (utf8Length m.toList) o.start
  ⟨if o.start = a then m else o.name, o.role, (lines.position start).line,
    (lines.position start).column, start, shiftPast a ℓ (utf8Length m.toList) o.stop⟩

section Rename

variable {a ℓ : Nat} {m : String} (hm : isIdentifierName m = true) (hfree : m ∉ contextualWords)
include hm hfree

theorem Token.isPlainName_renameAt {t : Token} (ht : t.IsPlainName) (ha : t.start = a) :
    (t.renameAt a ℓ m).IsPlainName := by
  have htext : (t.renameAt a ℓ m).text = m := if_pos ha
  have hword : (t.renameAt a ℓ m).word = m := by
    rw [Token.word, htext, decodeEscapes_of_isIdentifierName hm]
  obtain ⟨c, cs, hcs, hc, -, hkind⟩ := isIdentifierName_spec hm
  refine Token.isPlainName_of_word ht.1 ?_ (by rw [htext]; exact hcs)
    (by simp [opensWord, hc]) (by rw [hword]; exact hfree)
  rw [hword, hkind]
  exact ht.1

/-- Renaming keeps every token's shape: the renamed token is a plain name before and after, and
the others change only their byte ranges. -/
theorem Token.shape_renameAt {t : Token} (hplain : t.start = a → t.IsPlainName) :
    (t.renameAt a ℓ m).shape = t.shape := by
  by_cases ha : t.start = a
  · have ht := hplain ha
    have ht' : (t.renameAt a ℓ m).IsPlainName := Token.isPlainName_renameAt hm hfree ht ha
    unfold Token.shape
    rw [if_pos ht, if_pos ht']
  · simp only [Token.renameAt, ha, if_false]
    rfl

theorem Tokens.alike_renameAt {ts : Tokens} (hplain : ∀ t ∈ ts, t.start = a → t.IsPlainName) :
    ts.Alike (ts.map (Token.renameAt a ℓ m)) := by
  unfold Tokens.Alike Tokens.shapes
  rw [Array.map_map]
  exact Array.map_congr_left fun t ht => Token.shape_renameAt hm hfree (hplain t ht)

/-- The scan of the renamed tokens records what the original scan records, renamed and moved,
and placed by the lines of the new text. -/
theorem renamed_alike {s s' : String} {ts : Tokens} (hplain : ∀ t ∈ ts, t.start = a → t.IsPlainName) :
    (Scanner.ofTokens s ts).Alike (Scanner.ofTokens s' (ts.map (Token.renameAt a ℓ m)))
      (Occurrence.renameAt (LineIndex.ofString s') a ℓ m) where
  tokens := Tokens.alike_renameAt hm hfree hplain
  anonymous := (Tokens.alike_renameAt hm hfree hplain).anonymousBodies
  record i hi _ role sc := by
    have hi : i < ts.size := hi
    unfold Scanner.record
    simp only [Scanner.ofTokens, Array.getElem_map]
    by_cases ha : ts[i].start = a
    · -- the renamed token: neither name is `_`, so both are recorded
      have hword : ts[i].word ≠ "_" := fun h =>
        (hplain _ (Array.getElem_mem hi) ha).2.2 (by simp [h, Token.spelledWords])
      have hword' : (ts[i].renameAt a ℓ m).word = m := by
        rw [Token.word, show (ts[i].renameAt a ℓ m).text = m from if_pos ha,
          decodeEscapes_of_isIdentifierName hm]
      have hblank : m ≠ "_" := fun h => hfree (by simp [h, contextualWords])
      simp only [hword']
      simp [hword, hblank, Scan.mapFound, Occurrence.renameAt, Token.renameAt, ha]
    · have hword : (ts[i].renameAt a ℓ m).word = ts[i].word := by
        simp [Token.renameAt, Token.word, ha]
      simp only [hword]
      by_cases hw : (ts[i].word == "_") = true
      · simp [hw]
      · simp [hw, Scan.mapFound, Occurrence.renameAt, Token.renameAt, ha]

theorem occurrencesOfTokens_renameAt {s s' : String} {ts : Tokens}
    (hplain : ∀ t ∈ ts, t.start = a → t.IsPlainName) :
    occurrencesOfTokens s' (ts.map (Token.renameAt a ℓ m)) =
      (occurrencesOfTokens s ts).map (Occurrence.renameAt (LineIndex.ofString s') a ℓ m) := by
  have hstart : Scan.mapFound (Occurrence.renameAt (LineIndex.ofString s') a ℓ m) ⟨[], #[]⟩ =
      ⟨[], #[]⟩ := by
    simp [Scan.mapFound]
  have hrun := (@renamed_alike a ℓ m hm hfree s s' ts hplain).run 0 ⟨[], #[]⟩
  rw [hstart] at hrun
  exact congrArg Scan.found hrun

end Rename

/-- Put an identifier name `m` in place of the bytes of a recorded name `o`, both outside the
contextual words: the new text lexes, and the scanner records the same declarations, `o` under
its new name at its old start and each later one at its moved offsets. -/
theorem extractOccurrences_rename {source : String} {occs : Array Occurrence}
    (hext : extractOccurrences source = .ok occs) {o : Occurrence} (ho : o ∈ occs)
    (hname : o.name ∉ contextualWords) {m : String} (hm : isIdentifierName m = true)
    (hfree : m ∉ contextualWords) :
    ∃ pre text post, source.toList = pre ++ text ++ post ∧ utf8Length pre = o.start ∧
      utf8Length (pre ++ text) = o.stop ∧
      (∃ ts, tokenize (String.ofList (pre ++ m.toList ++ post)) = .ok ts) ∧
      extractOccurrences (String.ofList (pre ++ m.toList ++ post)) =
        .ok (occs.map (Occurrence.renameAt (LineIndex.ofString (String.ofList (pre ++ m.toList ++ post)))
          o.start (o.stop - o.start) m)) := by
  unfold extractOccurrences at hext
  cases hts : tokenize source with
  | error e =>
    rw [hts] at hext
    cases hext
  | ok ts =>
    rw [hts] at hext
    cases hext
    -- the occurrence is the recording of an identifier token `k`
    obtain ⟨picks, -, hpicks, hocc⟩ := occurrencesOfTokens_recorded source ts
    rw [← Array.mem_toList_iff, hocc] at ho
    obtain ⟨⟨⟨k, hk⟩, role⟩, hx, rfl⟩ := List.mem_map.1 ho
    obtain ⟨hid, -, hlead⟩ := hpicks _ hx
    simp only [Fin.getElem_fin] at hid hname
    have hplain := tokenize_isPlainName hts hk hid hname
    -- only token `k` starts where it starts
    have honly : ∀ t ∈ ts, t.start = ts[k].start → t.IsPlainName := by
      intro t ht hstart
      obtain ⟨i, hi, rfl⟩ := Array.getElem_of_mem ht
      have hin := tokenize_inOrder hts
      rcases Nat.lt_trichotomy i k with hik | rfl | hki
      · exact absurd hstart (hin.start_lt hik hk).ne
      · exact hplain
      · exact absurd hstart.symm (hin.start_lt hki hi).ne
    obtain ⟨-, -, -, -, -, hstop⟩ := (tokenize_ok_splits hts).2 ts[k] (Array.getElem_mem_toList hk)
    obtain ⟨pre, post, hsrc, hstart, htok⟩ := tokenize_rename hts hk hid hlead hm
    refine ⟨pre, ts[k].text.toList, post, hsrc, hstart, ?_, ⟨_, htok⟩, ?_⟩
    · simp only [Fin.getElem_fin, Scanner.occurrenceOf]
      rw [utf8Length_append, hstart, hstop]
    · have hlen : ts[k].stop - ts[k].start = utf8Length ts[k].text.toList := by omega
      simp only [Fin.getElem_fin, Scanner.occurrenceOf, hlen]
      rw [extractOccurrences, htok]
      exact congrArg Except.ok (occurrencesOfTokens_renameAt hm hfree honly)

/-- Occurrences at strictly increasing starts are told apart by their starts. -/
theorem Occurrence.eq_of_start_eq {l : List Occurrence} (hl : (l.map (·.start)).Pairwise (· < ·))
    {o o' : Occurrence} (ho : o ∈ l) (ho' : o' ∈ l) (h : o.start = o'.start) : o = o' :=
  List.inj_on_of_nodup_map (hl.imp fun hlt => ne_of_lt hlt) ho ho' h

end NamingLint.Declaration

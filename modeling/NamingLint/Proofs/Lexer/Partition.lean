import Mathlib
import NamingLint.Proofs.Lexer.Longest
import NamingLint.Proofs.Lexer.Order

/-!
# The lexer splits a text into tokens and trivia

Read from its start, past a byte order mark, a text splits into tokens with only trivia between
them: runs of blanks, line comments, and block comments closed by the first `*/`. Each token is
the longest lexeme of any rule where it starts, extended as its rule's callback says, and has the
kind of its rule, a word's decided by its decoded text. `Splits` says this of a text, its tokens
and the suffix where reading stops, and each token's range is then the bytes of its text in the
source. On success the reading stops at the end of the text; on failure it stops at the error's
offset, and the text there names the error.
-/

namespace NamingLint.Java

open Text

theorem utf8Length_append (a b : List Char) :
    utf8Length (a ++ b) = utf8Length a + utf8Length b := by
  induction a with
  | nil => simp [utf8Length]
  | cons c a ih =>
    simp only [utf8Length, List.cons_append, List.map_cons, List.foldr_cons] at ih ⊢
    omega

inductive TriviaPiece : List Char → Prop
  | blank {cs : List Char} : cs ≠ [] → (∀ c ∈ cs, isSpace c) → TriviaPiece cs
  | lineComment {body : List Char} : '\n' ∉ body → TriviaPiece ('/' :: '/' :: body)
  | blockComment {body : List Char} : ¬ ['*', '/'] <:+: body →
      TriviaPiece ('/' :: '*' :: (body ++ ['*', '/']))

def LexemeClass.kind? : LexemeClass → String → Option TokenKind
  | .blank, _ | .lineComment, _ | .blockComment, _ => none
  | .word, text => some (wordKind (decodeEscapes text))
  | .number, _ | .string, _ | .textBlock, _ | .char, _ => some .literal
  | .greater, _ | .operator, _ => some .operator

theorem LexemeClass.token?_eq (cls : LexemeClass) (text : String) (start stop : Nat) :
    cls.token? text start stop = (cls.kind? text).map fun kind => ⟨kind, text, start, stop⟩ := by
  cases cls <;> rfl

/-- The rule `cls` reads `lexeme` at the start of `cs`: its lexeme there is the longest of all
rules', extended as its callback says. -/
def Reads (cls : LexemeClass) (cs lexeme : List Char) : Prop :=
  lexeme <+: cs ∧ ∃ m, LongestOfAll cls cs m ∧ cls.Extends cs m lexeme.length

/-- Read from byte `offset`, the text `cs` gives the tokens `ts` and stops before its suffix
`post`: between the tokens there is only trivia, and each token is what its rule reads where it
starts, with the kind of its rule. -/
inductive Splits : Nat → List Char → List Token → List Char → Prop
  | stop {offset : Nat} {cs : List Char} : Splits offset cs [] cs
  | trivia {offset : Nat} {piece rest post : List Char} {ts : List Token} :
      TriviaPiece piece → Splits (offset + utf8Length piece) rest ts post →
      Splits offset (piece ++ rest) ts post
  | token {offset : Nat} {cls : LexemeClass} {kind : TokenKind} {lexeme rest post : List Char}
      {ts : List Token} :
      Reads cls (lexeme ++ rest) lexeme → cls.kind? (String.ofList lexeme) = some kind →
      Splits (offset + utf8Length lexeme) rest ts post →
      Splits offset (lexeme ++ rest)
        (⟨kind, String.ofList lexeme, offset, offset + utf8Length lexeme⟩ :: ts) post

/-! ## One lexeme -/

theorem commentRest_le {cs : List Char} {k : Nat} (h : commentRest cs = some k) :
    k ≤ cs.length := by
  fun_induction commentRest cs generalizing k with
  | case1 rest =>
    cases h
    simp
  | case2 c rest _ ih =>
    obtain ⟨k', hk', rfl⟩ := Option.map_eq_some_iff.1 h
    have := ih hk'
    simp only [List.length_cons]
    omega
  | case3 => cases h

theorem textBlockRest_le {cs : List Char} {k : Nat} (h : textBlockRest cs = some k) :
    k ≤ cs.length := by
  fun_induction textBlockRest cs generalizing k with
  | case1 c rest ih =>
    obtain ⟨k', hk', rfl⟩ := Option.map_eq_some_iff.1 h
    have := ih hk'
    simp only [List.length_cons]
    omega
  | case2 rest =>
    cases h
    simp
  | case3 c rest _ _ ih =>
    obtain ⟨k', hk', rfl⟩ := Option.map_eq_some_iff.1 h
    have := ih hk'
    simp only [List.length_cons]
    omega
  | case4 => cases h

theorem greaterRest_le (rest : List Char) : greaterRest rest ≤ rest.length := by
  unfold greaterRest
  split
  · exact (List.isPrefixOf_iff_prefix.1 ‹_›).length_le
  · split
    · exact (List.isPrefixOf_iff_prefix.1 ‹_›).length_le
    · omega

theorem LexemeClass.extends_le {cls : LexemeClass} {cs : List Char} {m n : Nat}
    (hm : m ≤ cs.length) (h : cls.Extends cs m n) : n ≤ cs.length := by
  cases cls <;> simp only [Extends] at h
  case blockComment =>
    obtain ⟨k, hk, rfl⟩ := h
    have := commentRest_le hk
    simp only [List.length_drop] at this
    omega
  case textBlock =>
    obtain ⟨k, hk, rfl⟩ := h
    have := textBlockRest_le hk
    simp only [List.length_drop] at this
    omega
  case greater =>
    have := greaterRest_le (cs.drop m)
    simp only [List.length_drop] at this
    omega
  all_goals omega

theorem lexemeAt_reads {cs : List Char} {cls : LexemeClass} {n : Nat}
    (h : lexemeAt cs = some (cls, n)) :
    0 < n ∧ n ≤ cs.length ∧
      (cls.kind? (String.ofList (cs.take n)) = none → TriviaPiece (cs.take n)) ∧
      (∀ kind, cls.kind? (String.ofList (cs.take n)) = some kind → Reads cls cs (cs.take n)) := by
  obtain ⟨m, hall, hext⟩ := lexemeAt_eq_some h
  have ⟨hpos, hle, hmatch, _⟩ := hall
  have hn : n ≤ cs.length := cls.extends_le hle hext
  have hlen : (cs.take n).length = n := by simp [List.length_take, hn]
  refine ⟨by have := cls.le_of_extends hext; omega, hn, fun hnone => ?_, fun kind _ => ?_⟩
  · cases cls <;> simp only [LexemeClass.kind?, reduceCtorEq] at hnone <;>
      simp only [LexemeClass.Matches, LexemeClass.Extends] at hmatch hext
    case blank =>
      subst hext
      obtain ⟨hne, hsp⟩ := blank_accepts hmatch
      exact .blank hne hsp
    case lineComment =>
      subst hext
      obtain ⟨body, hbody, hnl⟩ := hmatch
      rw [hbody]
      exact .lineComment hnl
    case blockComment =>
      obtain ⟨k, hk, rfl⟩ := hext
      have hm : m = 2 := length_of_take_eq hle hmatch
      subst hm
      obtain ⟨body, hbody, hnot⟩ := commentRest_eq_some hk
      -- the comment is its opener, then its rest up to the first `*/`
      have hsplit : cs.take (2 + k) = '/' :: '*' :: (body ++ ['*', '/']) := by
        rw [← hbody, List.take_add, hmatch]
        rfl
      rw [hsplit]
      exact .blockComment hnot
  · exact ⟨List.take_prefix n cs, m, hall, by rw [hlen]; exact hext⟩

theorem commentRest_eq_none {cs : List Char} (h : commentRest cs = none) :
    ¬ ['*', '/'] <:+: cs := by
  fun_induction commentRest cs with
  | case1 rest => cases h
  | case2 c rest hfirst ih =>
    intro hin
    rcases List.infix_cons_iff.1 hin with hpre | hin
    · -- `*/` would start here, where the first case of the reading applies
      obtain ⟨rfl, hslash⟩ := List.cons_prefix_cons.1 hpre
      obtain ⟨tail, rfl, -⟩ := List.cons_prefix_iff.1 hslash
      exact hfirst tail rfl rfl
    · exact ih (by simpa using h) hin
  | case3 => simp

theorem lexemeAt_eq_none {cs : List Char} (h : lexemeAt cs = none) :
    brokenLexeme cs = true ∨ (∀ cls p, p <+: cs → LexemeClass.Matches cls p → p = []) ∨
      (LongestOfAll .blockComment cs 2 ∧ ¬ ['*', '/'] <:+: cs.drop 2) ∨
      (LongestOfAll .textBlock cs 3 ∧ textBlockRest (cs.drop 3) = none) := by
  unfold lexemeAt at h
  split at h
  · exact .inl ‹_›
  rename_i hb
  have hb : brokenLexeme cs = false := by simpa using hb
  rcases hl : longestLexeme cs with _ | ⟨cls, m⟩
  · exact .inr (.inl (longestLexeme_eq_none hb hl))
  have hall := longestLexeme_longestOfAll hb hl
  rw [hl] at h
  cases cls <;> simp only [Option.map_eq_none_iff, reduceCtorEq] at h
  case blockComment =>
    have hm : m = 2 := length_of_take_eq hall.2.1 hall.2.2.1
    subst hm
    exact .inr (.inr (.inl ⟨hall, commentRest_eq_none h⟩))
  case textBlock =>
    have hm : m = 3 := length_of_take_eq hall.2.1 hall.2.2.1
    subst hm
    exact .inr (.inr (.inr ⟨hall, h⟩))

/-! ## The reading loop -/

theorem Splits.read {offset : Nat} {cs : List Char} {cls : LexemeClass} {n : Nat}
    (h : lexemeAt cs = some (cls, n)) {ts : List Token} {post : List Char}
    (hrest : Splits (offset + utf8Length (cs.take n)) (cs.drop n) ts post) :
    Splits offset cs
      ((cls.token? (String.ofList (cs.take n)) offset (offset + utf8Length (cs.take n))).toList ++
        ts) post := by
  obtain ⟨-, -, htrivia, hreads⟩ := lexemeAt_reads h
  rw [LexemeClass.token?_eq]
  cases hk : cls.kind? (String.ofList (cs.take n)) with
  | none =>
    have key := Splits.trivia (htrivia hk) hrest
    rwa [List.take_append_drop] at key
  | some kind =>
    have key : Splits offset (cs.take n ++ cs.drop n) _ post :=
      .token (by rw [List.take_append_drop]; exact hreads kind hk) hk hrest
    rw [List.take_append_drop] at key
    simpa using key

theorem toList_pushSome {acc : Array Token} (o : Option Token) :
    (match o with
      | some t => acc.push t
      | none => acc).toList = acc.toList ++ o.toList := by
  cases o <;> simp

theorem scanFrom_ok_splits {offset : Nat} {cs : List Char} {acc ts : Array Token}
    (h : scanFrom offset cs acc = .ok ts) :
    ∃ ts', Splits offset cs ts' [] ∧ ts.toList = acc.toList ++ ts' := by
  fun_induction scanFrom offset cs acc with
  | case1 offset acc =>
    cases h
    exact ⟨[], .stop, by simp⟩
  | case2 offset acc c more hnone => cases h
  | case3 offset acc c more cls hzero => cases h
  | case4 offset acc₀ c more cls n hlex hn lexeme stop acc ih =>
    obtain ⟨ts', hsplit, hts⟩ := ih h
    refine ⟨_, Splits.read hlex hsplit, ?_⟩
    rw [hts, show acc.toList = acc₀.toList ++ _ from toList_pushSome _, List.append_assoc]

theorem scanFrom_error_splits {offset : Nat} {cs : List Char} {acc : Array Token} {e : LexError}
    (h : scanFrom offset cs acc = .error e) :
    ∃ pre post ts', cs = pre ++ post ∧ Splits offset cs ts' post ∧ post ≠ [] ∧
      lexemeAt post = none ∧ e = LexError.ofText post (offset + utf8Length pre) := by
  fun_induction scanFrom offset cs acc with
  | case1 offset acc => cases h
  | case2 offset acc c more hnone =>
    cases h
    exact ⟨[], c :: more, [], rfl, .stop, by simp, hnone, by simp [utf8Length]⟩
  | case3 offset acc c more cls hzero =>
    have := (lexemeAt_reads hzero).1
    omega
  | case4 offset acc₀ c more cls n hlex hn lexeme stop acc ih =>
    obtain ⟨pre, post, ts', hcs, hsplit, hpost, hnone, rfl⟩ := ih h
    refine ⟨lexeme ++ pre, post, _, ?_, Splits.read hlex hsplit, hpost, hnone, ?_⟩
    · rw [List.append_assoc, ← hcs, List.take_append_drop]
    · rw [utf8Length_append, Nat.add_assoc]

theorem Splits.range {offset : Nat} {cs post : List Char} {ts : List Token}
    (h : Splits offset cs ts post) {t : Token} (ht : t ∈ ts) :
    ∃ pre rest, cs = pre ++ t.text.toList ++ rest ∧ t.start = offset + utf8Length pre ∧
      t.stop = t.start + utf8Length t.text.toList := by
  induction h with
  | stop => simp at ht
  | @trivia offset piece rest post ts _ _ ih =>
    obtain ⟨pre, rest', hcs, hstart, hstop⟩ := ih ht
    refine ⟨piece ++ pre, rest', ?_, ?_, hstop⟩
    · simp [hcs]
    · rw [hstart, utf8Length_append, Nat.add_assoc]
  | @token offset cls kind lexeme rest post ts _ _ _ ih =>
    rcases List.mem_cons.1 ht with rfl | ht
    · exact ⟨[], rest, by simp, by simp [utf8Length], by simp⟩
    · obtain ⟨pre, rest', hcs, hstart, hstop⟩ := ih ht
      refine ⟨lexeme ++ pre, rest', ?_, ?_, hstop⟩
      · simp [hcs]
      · rw [hstart, utf8Length_append, Nat.add_assoc]

/-! ## The whole text -/

def body (source : String) : List Char :=
  match source.toList with
  | '\uFEFF' :: rest => rest
  | cs => cs

def bodyOffset (source : String) : Nat :=
  match source.toList with
  | '\uFEFF' :: _ => 3
  | _ => 0

theorem bodyOffset_of_unmarked {source : String} (h : ∀ rest, source.toList ≠ '\uFEFF' :: rest) :
    bodyOffset source = 0 := by
  unfold bodyOffset
  split
  · exact absurd ‹_› (h _)
  · rfl

theorem body_of_unmarked {source : String} (h : ∀ rest, source.toList ≠ '\uFEFF' :: rest) :
    body source = source.toList := by
  unfold body
  split
  · exact absurd ‹_› (h _)
  · rfl

theorem tokenize_eq_scanFrom (source : String) :
    tokenize source = scanFrom (bodyOffset source) (body source) #[] := by
  unfold tokenize
  split
  · rename_i rest hmark
    simp only [bodyOffset, body, hmark]
  · rename_i hmark
    rw [bodyOffset_of_unmarked hmark, body_of_unmarked hmark]

theorem toList_eq_mark_append_body (source : String) :
    ∃ mark, source.toList = mark ++ body source ∧ utf8Length mark = bodyOffset source := by
  unfold body bodyOffset
  split
  · exact ⟨['\uFEFF'], by simpa, rfl⟩
  · exact ⟨[], rfl, rfl⟩

@[simp]
theorem LexError.offset_ofText (cs : List Char) (offset : Nat) :
    (LexError.ofText cs offset).offset = offset := by
  unfold LexError.ofText
  split <;> rfl

theorem tokenize_ok_splits {source : String} {ts : Array Token} (h : tokenize source = .ok ts) :
    Splits (bodyOffset source) (body source) ts.toList [] ∧
      ∀ t ∈ ts.toList, bodyOffset source ≤ t.start ∧ ∃ pre post,
        source.toList = pre ++ t.text.toList ++ post ∧ t.start = utf8Length pre ∧
          t.stop = t.start + utf8Length t.text.toList := by
  obtain ⟨mark, hsource, hmark⟩ := toList_eq_mark_append_body source
  rw [tokenize_eq_scanFrom] at h
  obtain ⟨ts', hsplit, hts⟩ := scanFrom_ok_splits h
  simp only [List.nil_append] at hts
  subst hts
  refine ⟨hsplit, fun t ht => ?_⟩
  -- the token's place in the body, moved past the mark
  obtain ⟨pre, post, hbody, hstart, hstop⟩ := hsplit.range ht
  refine ⟨by omega, mark ++ pre, post, by simp [hsource, hbody], ?_, hstop⟩
  rw [utf8Length_append, hmark, hstart]

theorem tokenize_error_splits {source : String} {e : LexError} (h : tokenize source = .error e) :
    ∃ pre post ts, body source = pre ++ post ∧
      Splits (bodyOffset source) (body source) ts post ∧
      e.offset = bodyOffset source + utf8Length pre ∧ e = LexError.ofText post e.offset ∧
      post ≠ [] ∧ lexemeAt post = none := by
  rw [tokenize_eq_scanFrom] at h
  obtain ⟨pre, post, ts, hbody, hsplit, hpost, hnone, rfl⟩ := scanFrom_error_splits h
  exact ⟨pre, post, ts, hbody, hsplit, by simp, by simp, hpost, hnone⟩

/-- The lexer partitions a text past its byte order mark. On success the text splits into its
tokens and trivia down to its end: the tokens are in order, and each is the bytes of its text in
the source, at or after the mark. On failure the text splits the same way down to the error's
offset, where the lexer reads nothing: a word or a number breaks off after a pinning state, no
rule matches, or the longest lexeme opens a block comment or a text block that is never closed.
The text there names the error. -/
theorem tokenize_partitions (source : String) :
    match tokenize source with
    | .ok ts =>
      Splits (bodyOffset source) (body source) ts.toList [] ∧ InOrder ts ∧
        ∀ t ∈ ts.toList, bodyOffset source ≤ t.start ∧ ∃ pre post,
          source.toList = pre ++ t.text.toList ++ post ∧ t.start = utf8Length pre ∧
            t.stop = t.start + utf8Length t.text.toList
    | .error e =>
      ∃ pre post ts, body source = pre ++ post ∧
        Splits (bodyOffset source) (body source) ts post ∧
        e.offset = bodyOffset source + utf8Length pre ∧ e = LexError.ofText post e.offset ∧
        post ≠ [] ∧
        (brokenLexeme post = true ∨ (∀ cls p, p <+: post → LexemeClass.Matches cls p → p = []) ∨
          (LongestOfAll .blockComment post 2 ∧ ¬ ['*', '/'] <:+: post.drop 2) ∨
          (LongestOfAll .textBlock post 3 ∧ textBlockRest (post.drop 3) = none)) := by
  rcases h : tokenize source with e | ts
  · obtain ⟨pre, post, ts, hbody, hsplit, hoffset, hname, hpost, hnone⟩ := tokenize_error_splits h
    exact ⟨pre, post, ts, hbody, hsplit, hoffset, hname, hpost, lexemeAt_eq_none hnone⟩
  · obtain ⟨hsplit, hranges⟩ := tokenize_ok_splits h
    exact ⟨hsplit, tokenize_inOrder h, hranges⟩

theorem tokenize_error_boundary {source : String} {e : LexError}
    (h : tokenize source = .error e) :
    ∃ pre post, source.toList = pre ++ post ∧ e.offset = utf8Length pre := by
  obtain ⟨mark, hsource, hmark⟩ := toList_eq_mark_append_body source
  obtain ⟨pre, post, -, hbody, -, hoffset, -⟩ := tokenize_error_splits h
  refine ⟨mark ++ pre, post, ?_, ?_⟩
  · rw [hsource, hbody, List.append_assoc]
  · rw [hoffset, utf8Length_append, hmark]

theorem tokenize_stop_le {source : String} {ts : Array Token} (h : tokenize source = .ok ts) :
    ∀ t ∈ ts.toList, t.stop ≤ utf8Length source.toList := by
  intro t ht
  obtain ⟨-, pre, post, hsrc, hstart, hstop⟩ := (tokenize_ok_splits h).2 t ht
  rw [hsrc, utf8Length_append, utf8Length_append, hstop, hstart]
  omega

theorem tokenize_error_le {source : String} {e : LexError} (h : tokenize source = .error e) :
    e.offset ≤ utf8Length source.toList := by
  obtain ⟨pre, post, hsrc, hoff⟩ := tokenize_error_boundary h
  rw [hoff, hsrc, utf8Length_append]
  omega

/-- Every offset the lexer reports lies within the text, so on a text of at most `bound` bytes
(`4294967295` for offsets held in 32 bits) no offset exceeds `bound`. -/
theorem tokenize_offsets_le {source : String} {bound : Nat}
    (hsize : utf8Length source.toList ≤ bound) :
    match tokenize source with
    | .ok ts => ∀ t ∈ ts.toList, t.stop ≤ bound
    | .error e => e.offset ≤ bound := by
  rcases h : tokenize source with e | ts
  · exact (tokenize_error_le h).trans hsize
  · exact fun t ht => (tokenize_stop_le h t ht).trans hsize

set_option maxRecDepth 100000 in
theorem tokenize_unclosed_comment :
    tokenize "/*" = .error (.unterminatedComment 0) ∧
      LexemeClass.operator.Matches ("/*".toList.take 1) := by
  refine ⟨by cbv, ?_⟩
  show String.ofList _ ∈ operators
  decide

end NamingLint.Java

import Mathlib
import NamingLint.Check.Input
import NamingLint.Proofs.Scan.Alike
import NamingLint.Proofs.Source.Lines

/-!
# A leading byte order mark

A byte order mark before a text changes nothing but offsets. The lexer skips it and reads the
rest from offset 3 as it would from 0, since no lexeme depends on where it starts; the scanner
then walks the same tokens moved three bytes on (`Scanner.Alike`), and each name it records is
at the same line, one column further on the first line, where the mark counts as a character.
-/

namespace NamingLint.Java

open Text Declaration

def LexError.moveBy (n : Nat) : LexError → LexError
  | unterminatedComment o => unterminatedComment (o + n)
  | unterminatedString o => unterminatedString (o + n)
  | unterminatedTextBlock o => unterminatedTextBlock (o + n)
  | unterminatedChar o => unterminatedChar (o + n)
  | unexpectedCharacter c o => unexpectedCharacter c (o + n)

@[simp] theorem LexError.offset_moveBy (e : LexError) (n : Nat) :
    (e.moveBy n).offset = e.offset + n := by
  cases e <;> rfl

theorem LexError.ofText_moveBy (cs : List Char) (o n : Nat) :
    (LexError.ofText cs o).moveBy n = LexError.ofText cs (o + n) := by
  unfold LexError.ofText
  split <;> rfl

theorem LexemeClass.token?_moveBy (cls : LexemeClass) (text : String) (start stop n : Nat) :
    cls.token? text (start + n) (stop + n) = (cls.token? text start stop).map (Token.moveBy n) := by
  cases cls <;> rfl

theorem scanFrom_moveBy (n offset : Nat) (cs : List Char) (acc : Array Token) :
    scanFrom (offset + n) cs (Tokens.moveBy n acc) =
      ((scanFrom offset cs acc).map (Tokens.moveBy n)).mapError (LexError.moveBy n) := by
  fun_induction scanFrom offset cs acc with
  | case1 offset acc => rw [scanFrom]; rfl
  | case2 offset acc c more hnone =>
    rw [scanFrom, hnone]
    simp [LexError.ofText_moveBy, Except.map, Except.mapError]
  | case3 offset acc c more cls hzero =>
    rw [scanFrom, hzero]
    simp [LexError.ofText_moveBy, Except.map, Except.mapError]
  | case4 offset acc c more cls k hsome hk lexeme stop acc' ih =>
    rw [scanFrom, hsome]
    dsimp only
    rw [dif_neg hk, ← ih]
    -- the token read here is the original one moved on, and so is the rest of the reading
    have hstop : offset + n + utf8Length (List.take k (c :: more)) = stop + n :=
      Nat.add_right_comm ..
    rw [hstop, LexemeClass.token?_moveBy]
    congr 1
    simp only [acc']
    cases cls.token? (String.ofList lexeme) offset stop <;> simp [Tokens.moveBy]

theorem toList_mark_append (s : String) : ("\uFEFF" ++ s).toList = '\uFEFF' :: s.toList := by
  rw [String.toList_append]
  rfl

theorem tokenize_mark_append {s : String} (hs : ∀ rest, s.toList ≠ '\uFEFF' :: rest) :
    tokenize ("\uFEFF" ++ s) =
      ((tokenize s).map (Tokens.moveBy 3)).mapError (LexError.moveBy 3) := by
  have hbody : body ("\uFEFF" ++ s) = s.toList := by simp [body]
  have hoffset : bodyOffset ("\uFEFF" ++ s) = 0 + 3 := by simp [bodyOffset]
  have hempty : Tokens.moveBy 3 #[] = #[] := by simp [Tokens.moveBy]
  rw [tokenize_eq_scanFrom, tokenize_eq_scanFrom, hbody, hoffset, body_of_unmarked hs,
    bodyOffset_of_unmarked hs, ← scanFrom_moveBy, hempty]

end NamingLint.Java

namespace NamingLint.Source

open Text

theorem rtakeWhile_cons_of_pos {α : Type _} {p : α → Bool} {c : α} (hc : p c = true)
    (l : List α) :
    (c :: l).rtakeWhile p = if l.all p then c :: l else l.rtakeWhile p := by
  induction l using List.reverseRecOn with
  | nil => simp [List.rtakeWhile, hc]
  | append_singleton l x ih =>
    rw [← List.cons_append, List.rtakeWhile_concat, List.rtakeWhile_concat, ih]
    by_cases hx : p x <;> simp [hx, List.all_append]
    split_ifs <;> simp_all

/-- A position as it reads after a mark is put before the text: the mark is one more character
of the first line. -/
def Position.afterMark (p : Position) : Position :=
  ⟨p.line, if p.line = 1 then p.column + 1 else p.column⟩

theorem position_mark_append {s : String} {pre post : List Char} (hs : s.toList = pre ++ post) :
    (LineIndex.ofString ("\uFEFF" ++ s)).position (utf8Length pre + 3) =
      ((LineIndex.ofString s).position (utf8Length pre)).afterMark := by
  have hmark : ("\uFEFF" ++ s).toList = ('\uFEFF' :: pre) ++ post := by
    rw [Java.toList_mark_append, hs]
    rfl
  have hlen : utf8Length ('\uFEFF' :: pre) = utf8Length pre + 3 := by
    rw [LineIndex.utf8Length_cons]
    exact Nat.add_comm ..
  rw [← hlen, LineIndex.position_at_boundary hmark, LineIndex.position_at_boundary hs,
    rtakeWhile_cons_of_pos (by decide)]
  -- the mark starts the text's first line, which runs on to the first newline
  have hfirst : pre.count '\n' = 0 ↔ pre.all (· != '\n') := by
    rw [List.count_eq_zero, List.all_eq_true]
    exact ⟨fun h x hx => bne_iff_ne.2 fun hxe => h (hxe ▸ hx),
      fun h hm => by simpa using h _ hm⟩
  by_cases hnl : pre.all (· != '\n')
  · have hself : pre.rtakeWhile (· != '\n') = pre :=
      List.rtakeWhile_eq_self_iff.2 (List.all_eq_true.1 hnl)
    simp [Position.afterMark, hnl, hfirst.2 hnl, hself]
  · have hcount : pre.count '\n' ≠ 0 := fun h => hnl (hfirst.1 h)
    simp [Position.afterMark, hnl, hcount]

end NamingLint.Source

namespace NamingLint.Declaration

open Java Source Text

def Occurrence.afterMark (o : Occurrence) : Occurrence :=
  { o with
    column := if o.line = 1 then o.column + 1 else o.column
    start := o.start + 3
    stop := o.stop + 3 }

theorem moved_mark_append {s : String} {ts : Tokens} (hts : tokenize s = .ok ts) :
    (Scanner.ofTokens s ts).Alike (Scanner.ofTokens ("\uFEFF" ++ s) (ts.moveBy 3))
      Occurrence.afterMark where
  tokens := Tokens.alike_moveBy ts 3
  anonymous := (Tokens.alike_moveBy ts 3).anonymousBodies
  record i hi _ role sc := by
    have hi : i < ts.size := hi
    obtain ⟨-, pre, post, hsrc, hstart, -⟩ :=
      (tokenize_ok_splits hts).2 ts[i] (Array.getElem_mem_toList hi)
    have hpos := @position_mark_append s pre (ts[i].text.toList ++ post)
      (by rw [hsrc, List.append_assoc])
    unfold Scanner.record
    simp only [Scanner.ofTokens, Tokens.getElem_moveBy, Token.word_moveBy, Token.start_moveBy,
      Token.stop_moveBy]
    by_cases hw : (ts[i].word == "_") = true
    · simp only [hw, if_true]
    · simp only [hw, Bool.false_eq_true, if_false]
      rw [hstart, hpos]
      simp [Scan.mapFound, Occurrence.afterMark, Position.afterMark]

theorem occurrencesOfTokens_mark_append {s : String} {ts : Tokens} (hts : tokenize s = .ok ts) :
    occurrencesOfTokens ("\uFEFF" ++ s) (ts.moveBy 3) =
      (occurrencesOfTokens s ts).map Occurrence.afterMark := by
  have hstart : Scan.mapFound Occurrence.afterMark ⟨[], #[]⟩ = ⟨[], #[]⟩ := by
    simp [Scan.mapFound]
  have hrun := (moved_mark_append hts).run 0 ⟨[], #[]⟩
  rw [hstart] at hrun
  exact congrArg Scan.found hrun

theorem extractOccurrences_mark_append {s : String} (hs : ∀ rest, s.toList ≠ '\uFEFF' :: rest) :
    extractOccurrences ("\uFEFF" ++ s) =
      ((extractOccurrences s).map (Array.map Occurrence.afterMark)).mapError
        (LexError.moveBy 3) := by
  unfold extractOccurrences
  rw [tokenize_mark_append hs]
  cases hts : tokenize s with
  | error e => rfl
  | ok ts =>
    show Except.ok (occurrencesOfTokens _ (Tokens.moveBy 3 ts)) = _
    rw [occurrencesOfTokens_mark_append hts]
    rfl

end NamingLint.Declaration

namespace NamingLint.Check

open Declaration Java

def Violation.afterMark (v : Violation) : Violation :=
  { v with occurrence := v.occurrence.afterMark }

def InputError.moveBy (n : Nat) : InputError → InputError
  | notUtf8 e => notUtf8 e
  | lex e => lex (e.moveBy n)

theorem violationOf_afterMark (rules : NamingRules) (o : Occurrence) :
    violationOf rules o.afterMark = (violationOf rules o).map Violation.afterMark := by
  have hrole : o.afterMark.role = o.role := rfl
  have hname : o.afterMark.name = o.name := rfl
  unfold violationOf
  rw [hrole, hname]
  split
  · rfl
  · dsimp only
    split <;> rfl

theorem check_mark_append {s : String} (rules : NamingRules)
    (hs : ∀ rest, s.toList ≠ '\uFEFF' :: rest) :
    check ("\uFEFF" ++ s) rules =
      ((check s rules).map (Array.map Violation.afterMark)).mapError (InputError.moveBy 3) := by
  have hv : violationOf rules ∘ Occurrence.afterMark =
      fun o => (violationOf rules o).map Violation.afterMark :=
    funext (violationOf_afterMark rules)
  unfold check
  rw [extractOccurrences_mark_append hs]
  cases extractOccurrences s with
  | error e => rfl
  | ok os =>
    show Except.ok ((os.map Occurrence.afterMark).filterMap (violationOf rules)) = _
    rw [Array.filterMap_map, hv, ← Array.map_filterMap]
    rfl

/-- A byte order mark before a text that has none moves every offset that the lexer, the
scanner and the checker report by the mark's three bytes, and every column of the first line
by its one character; names, roles, lines, styles and suggestions stay as they are. -/
theorem mark_shifts_offsets (s : String) (rules : NamingRules)
    (hs : ∀ rest, s.toList ≠ '\uFEFF' :: rest) :
    tokenize ("\uFEFF" ++ s) = ((tokenize s).map (Tokens.moveBy 3)).mapError (LexError.moveBy 3) ∧
      extractOccurrences ("\uFEFF" ++ s) =
        ((extractOccurrences s).map (Array.map Occurrence.afterMark)).mapError (LexError.moveBy 3) ∧
      check ("\uFEFF" ++ s) rules =
        ((check s rules).map (Array.map Violation.afterMark)).mapError (InputError.moveBy 3) :=
  ⟨tokenize_mark_append hs, extractOccurrences_mark_append hs, check_mark_append rules hs⟩

theorem classA_mark_shifts_offsets :
    (∀ rest, "class a {}".toList ≠ '\uFEFF' :: rest) ∧
      (tokenize ("\uFEFF" ++ "class a {}") =
          ((tokenize "class a {}").map (Tokens.moveBy 3)).mapError (LexError.moveBy 3) ∧
        extractOccurrences ("\uFEFF" ++ "class a {}") =
          ((extractOccurrences "class a {}").map (Array.map Occurrence.afterMark)).mapError
            (LexError.moveBy 3) ∧
        check ("\uFEFF" ++ "class a {}") NamingRules.default =
          ((check "class a {}" NamingRules.default).map (Array.map Violation.afterMark)).mapError
            (InputError.moveBy 3)) := by
  have hs : ∀ rest, "class a {}".toList ≠ '\uFEFF' :: rest := by
    intro rest h
    simp at h
  exact ⟨hs, mark_shifts_offsets "class a {}" NamingRules.default hs⟩

end NamingLint.Check

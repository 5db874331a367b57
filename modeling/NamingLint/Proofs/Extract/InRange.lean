import Mathlib
import NamingLint.Declaration.Extract
import NamingLint.Proofs.Lexer.Partition
import NamingLint.Proofs.Lexer.Order
import NamingLint.Proofs.Shape.Brackets
import NamingLint.Proofs.Source.Lines
import NamingLint.Proofs.Java.Escapes
import NamingLint.Proofs.Naming.Words

namespace NamingLint.Java

open Text

theorem utf8Size_of_isHexDigit {x : Char} (h : x.isHexDigit) : x.utf8Size = 1 := by
  apply Char.utf8Size_eq_one_iff.2
  simp only [Char.isHexDigit, Char.isDigit, Bool.or_eq_true, Bool.and_eq_true, decide_eq_true_eq,
    UInt32.le_iff_toNat_le, ge_iff_le] at h ⊢
  have : ('9' : Char).val.toNat = 57 := rfl
  have : ('f' : Char).val.toNat = 102 := rfl
  have : ('F' : Char).val.toNat = 70 := rfl
  have : (127 : UInt32).toNat = 127 := rfl
  omega

theorem escapeAt?_one_byte {cs after : List Char} {u : Nat} (h : escapeAt? cs = some (u, after)) :
    ∃ esc, cs = esc ++ after ∧ ∀ x ∈ esc, x.utf8Size = 1 := by
  obtain ⟨k, a, b, c, d, rfl, ha, hb, hc, hd, -⟩ := escapeAt?_eq_some_iff.1 h
  refine ⟨'\\' :: (List.replicate (k + 1) 'u' ++ [a, b, c, d]), by simp, fun x hx => ?_⟩
  simp only [List.mem_cons, List.mem_append, List.mem_replicate, List.not_mem_nil,
    or_false] at hx
  rcases hx with rfl | ⟨-, rfl⟩ | rfl | rfl | rfl | rfl
  · rfl
  · rfl
  all_goals exact utf8Size_of_isHexDigit ‹_›

end NamingLint.Java

namespace NamingLint.Source.LineIndex

theorem getElem?_startsFrom {bytes : ByteArray} {i : Nat} {acc : Array Nat} {k : Nat}
    (hk : k < acc.size) : (startsFrom bytes i acc)[k]? = acc[k]? := by
  fun_induction startsFrom bytes i acc with
  | case1 i acc hi ih =>
    simp only [dite_eq_ite] at ih
    have hk' : k < (if bytes[i] = 10 then acc.push (i + 1) else acc).size := by
      split
      · rw [Array.size_push]
        omega
      · exact hk
    rw [ih hk']
    split <;> simp [Array.getElem?_push, Nat.ne_of_lt hk]
  | case2 => rfl

theorem lineStarts_zero (source : String) : (ofString source).lineStarts[0]? = some 0 :=
  getElem?_startsFrom (by simp)

theorem countUpTo_spec {starts : Array Nat} {offset : Nat} (h0 : starts[0]? = some 0)
    (lo hi : Nat) (hle : lo ≤ hi) (hhi : hi ≤ starts.size)
    (hleft : lo = 0 ∨ ∃ s, starts[lo - 1]? = some s ∧ s ≤ offset) (hzero : lo = 0 → 0 < hi) :
    0 < countUpTo starts offset lo hi ∧ countUpTo starts offset lo hi ≤ starts.size ∧
      ∃ s, starts[countUpTo starts offset lo hi - 1]? = some s ∧ s ≤ offset := by
  fun_induction countUpTo starts offset lo hi with
  | case1 lo hi hlt mid hmid ih =>
    -- the start at `mid` is at or before the offset: search right of it
    have hm : mid < starts.size := by omega
    rw [Array.getElem?_eq_getElem hm, Option.getD_some] at hmid
    exact ih (by omega) hhi (.inr ⟨starts[mid], by simp [hm], hmid⟩) (by omega)
  | case2 lo hi hlt mid hmid ih =>
    -- the start at `mid` is after the offset, so `mid` is not the first start while `lo` is
    refine ih (by omega) (by omega) hleft fun hlo => Nat.pos_of_ne_zero fun hm0 => hmid ?_
    rw [hm0, h0, Option.getD_some]
    exact Nat.zero_le _
  | case3 lo hi hge =>
    have hpos : 0 < lo := by
      rcases Nat.eq_zero_or_pos lo with h | h
      · have := hzero h
        omega
      · exact h
    rcases hleft with h | h
    · omega
    · exact ⟨hpos, by omega, h⟩

theorem lineOf_start (source : String) (offset : Nat) :
    0 < countUpTo (ofString source).lineStarts offset 0 (ofString source).lineStarts.size ∧
      ∃ start, (ofString source).lineStarts[(ofString source).lineOf offset]? = some start ∧
        start ≤ offset := by
  have h0 := lineStarts_zero source
  have hsize : 0 < (ofString source).lineStarts.size := by
    rcases Nat.eq_zero_or_pos (ofString source).lineStarts.size with h | h
    · simp [h] at h0
    · exact h
  obtain ⟨hpos, -, hstart⟩ :=
    countUpTo_spec h0 0 _ (Nat.zero_le _) le_rfl (.inl rfl) fun _ => hsize
  exact ⟨hpos, hstart⟩

theorem lineStarts_le (t : String) :
    ∀ x ∈ (ofString t).lineStarts, x ≤ Text.utf8Length t.toList := by
  intro x hx
  rw [← Array.mem_toList_iff, lineStarts_toList] at hx
  rcases List.mem_cons.1 hx with rfl | hx
  · exact Nat.zero_le _
  · have := (mem_newlineEnds hx).2
    rwa [Nat.zero_add, length_utf8Bytes] at this

end NamingLint.Source.LineIndex

namespace NamingLint.Words

open Text Source.LineIndex

theorem ofChars_boundaries {cs w : List Char} (hw : w ∈ ofChars cs) :
    ∃ pre post, cs = pre ++ w ++ post ∧ isBoundary (String.ofList cs).toUTF8 (utf8Length pre) ∧
      isBoundary (String.ofList cs).toUTF8 (utf8Length (pre ++ w)) := by
  obtain ⟨-, pre, post, hcs⟩ := infix_of_mem_ofChars hw
  have hbytes : (String.ofList cs).toUTF8.data.toList = utf8Bytes cs := by
    rw [toUTF8_data_toList, String.toList_ofList]
  refine ⟨pre, post, hcs.symm, isBoundary_utf8Bytes (b := w ++ post) ?_,
    isBoundary_utf8Bytes (b := post) ?_⟩
  · rw [hbytes, ← hcs, List.append_assoc]
  · rw [hbytes, ← hcs]

end NamingLint.Words

namespace NamingLint.Declaration.Tokens

variable {ts : Tokens} {o c : String}

theorem isOp_of_anonymousBodyAfter {i b : Nat} (h : ts.anonymousBodyAfter i = some b) :
    ts.isOp b "\x7b" := by
  unfold anonymousBodyAfter at h
  simp only [Option.bind_eq_bind, Option.bind_eq_some_iff] at h
  obtain ⟨j, -, h⟩ := h
  split at h
  · simp at h
  · obtain ⟨close, -, h⟩ := Option.bind_eq_some_iff.1 h
    split at h
    · cases h
      assumption
    · cases h

def countOp (ts : Tokens) (op : String) (j k : Nat) : Nat :=
  ((List.range' j (k - j)).filter fun p => ts.isOp p op).length

theorem countOp_self (op : String) (j : Nat) : ts.countOp op j j = 0 := by
  simp [countOp]

theorem countOp_of_lt {op : String} {j k : Nat} (h : j < k) :
    ts.countOp op j k = (if ts.isOp j op then 1 else 0) + ts.countOp op (j + 1) k := by
  unfold countOp
  obtain ⟨n, hn⟩ : ∃ n, k - j = n + 1 := ⟨k - j - 1, by omega⟩
  rw [hn, List.range'_succ, show k - (j + 1) = n by omega, List.filter_cons]
  split <;> simp [*, Nat.add_comm]

theorem isOp_of_lt {j : Nat} {op : String} (hj : j < ts.size) :
    ts.isOp j op = ts[j].isOperator op := by
  simp [isOp, hj]

theorem not_isOperator_of_ne {t : Java.Token} (hoc : o ≠ c) (ho : t.isOperator o) :
    t.isOperator c = false := by
  simp only [Java.Token.isOperator, Bool.and_eq_true, beq_iff_eq] at ho
  simp [Java.Token.isOperator, ho.2, hoc]

theorem open_before_of_step {j d d' stop : Nat} (hd : 1 ≤ d) (hj : j < ts.size)
    (hstep : d + (if ts[j].isOperator o then 1 else 0) = d' + (if ts[j].isOperator c then 1 else 0))
    (ih : ∀ k, j + 1 ≤ k → k ≤ stop → ts.countOp c (j + 1) k < d' + ts.countOp o (j + 1) k) :
    ∀ k, j ≤ k → k ≤ stop → ts.countOp c j k < d + ts.countOp o j k := by
  intro k hjk hk
  rcases Nat.eq_or_lt_of_le hjk with rfl | hlt
  · simp only [countOp_self]
    omega
  have := ih k hlt hk
  rw [countOp_of_lt hlt, countOp_of_lt hlt, isOp_of_lt hj, isOp_of_lt hj]
  omega

theorem closeFrom_open_before (hoc : o ≠ c) {j d : Nat} (hd : 1 ≤ d) :
    ∀ k, j ≤ k → k ≤ (ts.closeFrom o c j d).getD ts.size →
      ts.countOp c j k < d + ts.countOp o j k := by
  fun_induction ts.closeFrom o c j d with
  | case1 j d hj t ho ih =>
    -- an opener: one more bracket open past it
    have ho' : ts[j].isOperator o = true := ho
    have hc : ts[j].isOperator c = false := not_isOperator_of_ne hoc ho
    exact open_before_of_step hd hj (by simp [ho', hc]) (ih (by omega))
  | case2 j d hj t ho hc hd0 =>
    intro k hjk hk
    simp only [Option.getD_some] at hk
    obtain rfl : k = j := by omega
    simp only [countOp_self]
    omega
  | case3 j d hj t ho hc hd0 ih =>
    -- a closer that leaves brackets open
    have ho' : ts[j].isOperator o = false := by simpa using ho
    have hc' : ts[j].isOperator c = true := hc
    exact open_before_of_step hd hj (by simp [ho', hc']; omega) (ih (by omega))
  | case4 j d hj t ho hc ih =>
    have ho' : ts[j].isOperator o = false := by simpa using ho
    have hc' : ts[j].isOperator c = false := by simpa using hc
    exact open_before_of_step hd hj (by simp [ho', hc']) (ih hd)
  | case5 j d hj =>
    intro k hjk hk
    simp only [Option.getD_none] at hk
    obtain rfl : k = j := by omega
    simp only [countOp_self]
    omega

theorem matchingClose_opener {a : Nat} (hoc : o = "(" ∧ c = ")" ∨ o = "[" ∧ c = "]")
    (ha : ts.isOp a o) : ts.matchingClose a = ts.closeFrom o c (a + 1) 1 := by
  rcases hoc with ⟨rfl, rfl⟩ | ⟨rfl, rfl⟩
  · exact matchingClose_paren ha
  · have hlt := lt_size_of_isOp ha
    have hop := isOperator_of_isOp ha hlt
    have htext : ts[a].text = "[" := by
      simp only [Java.Token.isOperator, Bool.and_eq_true, beq_iff_eq] at hop
      exact hop.2
    simp only [matchingClose, Array.getElem?_eq_getElem hlt, htext]
    rw [if_neg (by decide), if_pos (by decide), closeFrom, dif_pos hlt, if_pos hop]

/-- The bracket walk counted from its first bracket: `extra` brackets are open besides it, and
the closer met with none is the answer. Its count is never decremented at zero. -/
def closeAbove (ts : Tokens) (o c : String) (j extra : Nat) : Option Nat :=
  if h : j < ts.size then
    if ts[j].isOperator o then closeAbove ts o c (j + 1) (extra + 1)
    else if ts[j].isOperator c then
      match extra with
      | 0 => some j
      | e + 1 => closeAbove ts o c (j + 1) e
    else closeAbove ts o c (j + 1) extra
  else none
termination_by ts.size - j

theorem closeFrom_succ (j extra : Nat) :
    ts.closeFrom o c j (extra + 1) = ts.closeAbove o c j extra := by
  fun_induction ts.closeAbove o c j extra with
  | case1 j e hj ho ih => simp [closeFrom, hj, ho, ih]
  | case2 j hj ho hc => simp [closeFrom, hj, ho, hc]
  | case3 j hj ho hc e ih => simp [closeFrom, hj, ho, hc, ih]
  | case4 j e hj ho hc ih => simp [closeFrom, hj, ho, hc, ih]
  | case5 j e hj => simp [closeFrom, hj]

theorem skipTypeArguments_angle {a : Nat} (ha : ts.isOp a "<") :
    ts.skipTypeArguments a = ts.skipTypeArgumentsFrom (a + 1) 1 := by
  have hlt := lt_size_of_isOp ha
  have hop := isOperator_of_isOp ha hlt
  simp only [Java.Token.isOperator, Bool.and_eq_true, beq_iff_eq] at hop
  rw [skipTypeArguments, skipTypeArgumentsFrom, dif_pos hlt]
  simp [hop.1, hop.2]

def typeArgumentsAbove (ts : Tokens) (j extra : Nat) : Option Nat :=
  if h : j < ts.size then
    let t := ts[j]
    match t.kind with
    | .operator =>
      if t.text == "<" then typeArgumentsAbove ts (j + 1) (extra + 1)
      else if t.text == ">" then
        match extra with
        | 0 => some (j + 1)
        | e + 1 => typeArgumentsAbove ts (j + 1) e
      else if [",", ".", "?", "&", "[", "]"].contains t.text then
        typeArgumentsAbove ts (j + 1) extra
      else if t.text == "@" then typeArgumentsAbove ts (max (ts.skipAnnotation j) (j + 1)) extra
      else none
    | .identifier => typeArgumentsAbove ts (j + 1) extra
    | .keyword =>
      if t.isPrimitiveType || t.text == "extends" || t.text == "super" then
        typeArgumentsAbove ts (j + 1) extra
      else none
    | .literal => none
  else none
termination_by ts.size - j

theorem skipTypeArgumentsFrom_succ (j extra : Nat) :
    ts.skipTypeArgumentsFrom j (extra + 1) = ts.typeArgumentsAbove j extra := by
  fun_induction ts.typeArgumentsAbove j extra <;> rw [skipTypeArgumentsFrom] <;>
    simp_all +zetaDelta

end NamingLint.Declaration.Tokens

namespace NamingLint.Declaration

open Java Source

/-- Every position that extraction reads at is in range, and its bracket counters stay positive.
For a text of at most `u32::MAX` bytes every token and error offset, and every line start, fits
in 32 bits. The lexer's token ranges are not empty, and its error offset is a character boundary
of the source. The line search returns a positive count and a line whose start is at or before
the offset. For any tokens, each anonymous body mark is set at a `{`; a walk over parentheses or
square brackets is entered past its opener with one bracket open, and before each token it reads,
as far as where it stops, more brackets have been opened than closed; from one bracket open, the
bracket walk and the walk over type arguments never decrement an empty count; a type
declaration is read only at a token. An escape is made of one-byte characters, and every word of
a name lies between character boundaries. The scanner's reads at a recorded name and at an opened
brace take their bound as an argument. -/
theorem extraction_reads_in_range (source : String) (ts : Tokens) :
    (source.utf8ByteSize ≤ 4294967295 →
      (match tokenize source with
        | .ok tokens => ∀ t ∈ tokens.toList, t.stop ≤ 4294967295
        | .error e => e.offset ≤ 4294967295) ∧
      ∀ x ∈ (LineIndex.ofString source).lineStarts, x ≤ 4294967295) ∧
    (match tokenize source with
      | .ok tokens => ∀ t ∈ tokens.toList, t.start < t.stop
      | .error e => LineIndex.isBoundary source.toUTF8 e.offset) ∧
    (∀ offset,
      0 < LineIndex.countUpTo (LineIndex.ofString source).lineStarts offset 0
        (LineIndex.ofString source).lineStarts.size ∧
      ∃ start, (LineIndex.ofString source).lineStarts[(LineIndex.ofString source).lineOf offset]? =
        some start ∧ start ≤ offset) ∧
    (∀ i b, ts.anonymousBodyAfter i = some b → b < ts.size ∧ ts.isOp b "\x7b") ∧
    (∀ a o c, o = "(" ∧ c = ")" ∨ o = "[" ∧ c = "]" → ts.isOp a o →
      a < ts.size ∧ ts.matchingClose a = ts.closeFrom o c (a + 1) 1 ∧
      ∀ k, a < k → k ≤ (ts.matchingClose a).getD ts.size →
        ts.countOp c (a + 1) k < 1 + ts.countOp o (a + 1) k) ∧
    (∀ o c j extra, ts.closeFrom o c j (extra + 1) = ts.closeAbove o c j extra) ∧
    (∀ a, ts.isOp a "<" → ts.skipTypeArguments a = ts.skipTypeArgumentsFrom (a + 1) 1) ∧
    (∀ j extra, ts.skipTypeArgumentsFrom j (extra + 1) = ts.typeArgumentsAbove j extra) ∧
    (∀ j, ts.isTypeDeclaration j → j < ts.size) ∧
    (∀ cs u after, escapeAt? cs = some (u, after) →
      ∃ esc, cs = esc ++ after ∧ ∀ x ∈ esc, x.utf8Size = 1) ∧
    (∀ cs, ∀ w ∈ Words.ofChars cs, ∃ pre post, cs = pre ++ w ++ post ∧
      LineIndex.isBoundary (String.ofList cs).toUTF8 (Text.utf8Length pre) ∧
      LineIndex.isBoundary (String.ofList cs).toUTF8 (Text.utf8Length (pre ++ w))) := by
  have hbytes : source.toUTF8.data.toList = LineIndex.utf8Bytes source.toList :=
    LineIndex.toUTF8_data_toList source
  refine ⟨fun hsize => ⟨?_, fun x hx => ?_⟩, ?_, LineIndex.lineOf_start source,
    fun i b h => ?_, fun a o c hoc ha => ?_, fun o c j e => Tokens.closeFrom_succ j e,
    fun a ha => Tokens.skipTypeArguments_angle ha, fun j e => Tokens.skipTypeArgumentsFrom_succ j e,
    fun j h => Tokens.lt_size_of_isTypeDeclaration h, fun cs u after h => escapeAt?_one_byte h,
    fun cs w hw => Words.ofChars_boundaries hw⟩
  · rw [LineIndex.utf8ByteSize_eq] at hsize
    exact tokenize_offsets_le hsize
  · rw [LineIndex.utf8ByteSize_eq] at hsize
    exact (LineIndex.lineStarts_le source x hx).trans hsize
  · rcases h : tokenize source with e | tokens
    · obtain ⟨pre, post, hsrc, hoff⟩ := tokenize_error_boundary h
      dsimp only
      rw [hoff]
      exact LineIndex.isBoundary_utf8Bytes (b := post) (by rw [hbytes, hsrc])
    · exact fun t ht => (tokenize_inOrder h).1 t ht
  · have hb := Tokens.isOp_of_anonymousBodyAfter h
    exact ⟨Tokens.lt_size_of_isOp hb, hb⟩
  · have hoc' : o ≠ c := by rcases hoc with ⟨rfl, rfl⟩ | ⟨rfl, rfl⟩ <;> decide
    refine ⟨Tokens.lt_size_of_isOp ha, Tokens.matchingClose_opener hoc ha, fun k hak hk => ?_⟩
    rw [Tokens.matchingClose_opener hoc ha] at hk
    exact Tokens.closeFrom_open_before hoc' le_rfl k hak hk

end NamingLint.Declaration

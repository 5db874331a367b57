import Mathlib
import NamingLint.Source.LineIndex
import NamingLint.Proofs.Lexer.Partition

namespace NamingLint.Source.LineIndex

open Text

def isLeadByte (b : UInt8) : Bool := b < 0x80 || b ≥ 0xC0

theorem toNat_ofNat_lt {n : Nat} (h : n < 256) : (UInt8.ofNat n).toNat = n := by
  simp [Nat.mod_eq_of_lt h]

theorem isLeadByte_ofNat {n : Nat} (h : n < 256) :
    isLeadByte (UInt8.ofNat n) = (n < 0x80 || 0xC0 ≤ n) := by
  simp [isLeadByte, UInt8.lt_iff_toNat_lt, UInt8.le_iff_toNat_le, toNat_ofNat_lt h]

theorem ofNat_eq_ten_iff {n : Nat} (h : n < 256) : UInt8.ofNat n = 10 ↔ n = 10 := by
  rw [← UInt8.toNat_inj, toNat_ofNat_lt h]
  rfl

theorem continuation_ofNat (x : Nat) :
    isLeadByte (UInt8.ofNat (x % 64 + 128)) = false ∧ UInt8.ofNat (x % 64 + 128) ≠ 10 := by
  have hx : x % 64 < 64 := Nat.mod_lt _ (by decide)
  rw [isLeadByte_ofNat (by omega), ne_eq, ofNat_eq_ten_iff (by omega)]
  simp only [Bool.or_eq_false_iff, decide_eq_false_iff_not, Nat.not_lt]
  omega

theorem leading_ofNat {n : Nat} (h : n < 256) (hn : 0xC0 ≤ n) :
    isLeadByte (UInt8.ofNat n) = true ∧ ¬ UInt8.ofNat n = 10 := by
  rw [isLeadByte_ofNat h, ofNat_eq_ten_iff h]
  simp only [Bool.or_eq_true, decide_eq_true_eq]
  omega

theorem char_toNat_lt (c : Char) : c.toNat < 0x110000 := by
  have := c.valid
  simp only [UInt32.isValidChar, Nat.isValidChar] at this
  change c.val.toNat < _
  omega

theorem eq_newline_iff (c : Char) : c = '\n' ↔ c.toNat = 10 := by
  constructor
  · rintro rfl
    rfl
  · intro h
    exact Char.ext (UInt32.toNat_inj.1 h)

theorem utf8EncodeChar_eq_cons (c : Char) :
    ∃ b rest, String.utf8EncodeChar c = b :: rest ∧ isLeadByte b ∧
      (∀ x ∈ rest, isLeadByte x = false ∧ x ≠ 10) ∧ (b = 10 ↔ c = '\n') := by
  have hc := char_toNat_lt c
  simp only [String.utf8EncodeChar, show c.val.toNat = c.toNat from rfl, eq_newline_iff]
  split_ifs with h1 h2 h3
  · refine ⟨_, _, rfl, ?_, by simp, ofNat_eq_ten_iff (by omega)⟩
    rw [isLeadByte_ofNat (by omega)]
    simp
    omega
  all_goals
    refine ⟨_, _, rfl, (leading_ofNat (by omega) (by omega)).1, ?_,
      iff_of_false (leading_ofNat (by omega) (by omega)).2 (by omega)⟩
    intro x hx
    simp only [List.mem_cons, List.mem_nil_iff, or_false] at hx
    rcases hx with rfl | rfl | rfl <;> exact continuation_ofNat _

theorem count_utf8EncodeChar (c : Char) :
    (String.utf8EncodeChar c).count 10 = if c = '\n' then 1 else 0 := by
  obtain ⟨b, rest, h, -, hrest, hb⟩ := utf8EncodeChar_eq_cons c
  have hnot : 10 ∉ rest := fun hm => (hrest 10 hm).2 rfl
  rw [h, List.count_cons, List.count_eq_zero_of_not_mem hnot]
  by_cases hc : c = '\n' <;> simp [hc, hb]

theorem countP_utf8EncodeChar (c : Char) : (String.utf8EncodeChar c).countP isLeadByte = 1 := by
  obtain ⟨b, rest, h, hlead, hrest, -⟩ := utf8EncodeChar_eq_cons c
  rw [h, List.countP_cons_of_pos hlead, List.countP_eq_zero.2 fun x hx => by simp [(hrest x hx).1]]

def utf8Bytes (cs : List Char) : List UInt8 := cs.flatMap String.utf8EncodeChar

@[simp] theorem utf8Bytes_nil : utf8Bytes [] = [] := rfl

@[simp] theorem utf8Bytes_cons (c : Char) (cs : List Char) :
    utf8Bytes (c :: cs) = String.utf8EncodeChar c ++ utf8Bytes cs := rfl

@[simp] theorem utf8Bytes_append (a b : List Char) :
    utf8Bytes (a ++ b) = utf8Bytes a ++ utf8Bytes b := List.flatMap_append

theorem toUTF8_data_toList (t : String) : t.toUTF8.data.toList = utf8Bytes t.toList := by
  conv => lhs; rw [← String.ofList_toList (s := t)]
  rw [String.toUTF8_eq_toByteArray, String.toByteArray_ofList]
  simp [List.utf8Encode, utf8Bytes]

@[simp] theorem utf8Length_nil : utf8Length [] = 0 := rfl

@[simp] theorem utf8Length_cons (c : Char) (cs : List Char) :
    utf8Length (c :: cs) = c.utf8Size + utf8Length cs := rfl

theorem length_utf8Bytes (cs : List Char) : (utf8Bytes cs).length = utf8Length cs := by
  induction cs with
  | nil => rfl
  | cons c cs ih => simp [ih]

theorem count_utf8Bytes (cs : List Char) : (utf8Bytes cs).count 10 = cs.count '\n' := by
  induction cs with
  | nil => rfl
  | cons c cs ih =>
    rw [utf8Bytes_cons, List.count_append, ih, count_utf8EncodeChar, List.count_cons]
    by_cases hc : c = '\n' <;> simp [hc, Nat.add_comm]

theorem countP_utf8Bytes (cs : List Char) : (utf8Bytes cs).countP isLeadByte = cs.length := by
  induction cs with
  | nil => rfl
  | cons c cs ih =>
    rw [utf8Bytes_cons, List.countP_append, ih, countP_utf8EncodeChar]
    simp [Nat.add_comm]

def newlineEnds : List UInt8 → Nat → List Nat
  | [], _ => []
  | b :: bs, k => if b = 10 then (k + 1) :: newlineEnds bs (k + 1) else newlineEnds bs (k + 1)

theorem newlineEnds_append (xs ys : List UInt8) (k : Nat) :
    newlineEnds (xs ++ ys) k = newlineEnds xs k ++ newlineEnds ys (k + xs.length) := by
  induction xs generalizing k with
  | nil => rfl
  | cons b xs ih =>
    simp only [List.cons_append, newlineEnds, ih, List.length_cons]
    split <;> simp [Nat.add_assoc, Nat.add_comm 1]

theorem length_newlineEnds (bs : List UInt8) (k : Nat) :
    (newlineEnds bs k).length = bs.count 10 := by
  induction bs generalizing k with
  | nil => rfl
  | cons b bs ih =>
    simp only [newlineEnds, List.count_cons]
    split <;> simp_all

theorem mem_newlineEnds {bs : List UInt8} {k x : Nat} (h : x ∈ newlineEnds bs k) :
    k < x ∧ x ≤ k + bs.length := by
  induction bs generalizing k with
  | nil => simp [newlineEnds] at h
  | cons b bs ih =>
    simp only [newlineEnds] at h
    split at h
    · rcases List.mem_cons.1 h with rfl | h
      · simp
      · have := ih h
        simp only [List.length_cons]
        omega
    · have := ih h
      simp only [List.length_cons]
      omega

theorem newlineEnds_eq_nil {bs : List UInt8} (h : 10 ∉ bs) (k : Nat) : newlineEnds bs k = [] :=
  List.eq_nil_of_length_eq_zero (by rw [length_newlineEnds, List.count_eq_zero_of_not_mem h])

theorem drop_data_toList {bytes : ByteArray} {i : Nat} (hi : i < bytes.size) :
    bytes.data.toList.drop i = bytes[i] :: bytes.data.toList.drop (i + 1) := by
  rw [List.drop_eq_getElem_cons (by simpa using hi)]
  rfl

theorem startsFrom_toList (bytes : ByteArray) (i : Nat) (acc : Array Nat) :
    (startsFrom bytes i acc).toList = acc.toList ++ newlineEnds (bytes.data.toList.drop i) i := by
  fun_induction startsFrom bytes i acc with
  | case1 i acc hi ih =>
    simp only [dite_eq_ite] at ih
    rw [ih, drop_data_toList hi, newlineEnds]
    split <;> simp
  | case2 i acc hi =>
    have : bytes.data.toList.drop i = [] := List.drop_eq_nil_of_le (by simp; omega)
    simp [this, newlineEnds]

theorem lineStarts_toList (t : String) :
    (ofString t).lineStarts.toList = 0 :: newlineEnds (utf8Bytes t.toList) 0 := by
  simp only [ofString]
  rw [startsFrom_toList, toUTF8_data_toList]
  rfl

theorem lineCount_ofString (t : String) : (ofString t).lineCount = t.toList.count '\n' + 1 := by
  rw [lineCount, ← Array.length_toList, lineStarts_toList, List.length_cons, length_newlineEnds,
    count_utf8Bytes]

theorem getElem_of_toList_eq {starts : Array Nat} {l : List Nat} (h : starts.toList = l) {i : Nat}
    (hi : i < starts.size) : starts[i] = getElem l i (by rw [← h]; simpa) := by
  simp only [← h, Array.getElem_toList]

theorem countUpTo_eq {starts : Array Nat} {offset : Nat} {xs ys : List Nat}
    (h : starts.toList = xs ++ ys) (hxs : ∀ x ∈ xs, x ≤ offset)
    (hys : ∀ y ∈ ys, offset < y) (lo hi : Nat) (hlo : lo ≤ xs.length) (hhi : xs.length ≤ hi)
    (hsize : hi ≤ starts.size) :
    countUpTo starts offset lo hi = xs.length := by
  have hlen : starts.size = xs.length + ys.length := by
    rw [← Array.length_toList, h, List.length_append]
  fun_induction countUpTo starts offset lo hi with
  | case1 lo hi hlt mid hmid ih =>
    -- the start at `mid` is at or before the offset, so it is one of `xs`
    apply ih _ hhi hsize
    have hm : mid < starts.size := by omega
    rw [Array.getElem?_eq_getElem hm, Option.getD_some] at hmid
    by_contra hout
    have hy : starts[mid] ∈ ys := by
      rw [getElem_of_toList_eq h hm, List.getElem_append_right (by omega)]
      exact List.getElem_mem _
    exact absurd hmid (Nat.not_le.2 (hys _ hy))
  | case2 lo hi hlt mid hmid ih =>
    -- the start at `mid` is after the offset, so it is one of `ys`
    refine ih hlo ?_ (by omega)
    have hm : mid < starts.size := by omega
    rw [Array.getElem?_eq_getElem hm, Option.getD_some] at hmid
    by_contra hin
    have hx : starts[mid] ∈ xs := by
      rw [getElem_of_toList_eq h hm, List.getElem_append_left (by omega)]
      exact List.getElem_mem _
    exact hmid (hxs _ hx)
  | case3 lo hi hge => omega

theorem lineOf_ofString (t : String) (o : Nat) :
    (ofString t).lineOf o = ((utf8Bytes t.toList).take o).count 10 := by
  set L := utf8Bytes t.toList
  -- the starts at or before `o` are `0` and those past the line feeds before `o`
  have hsplit : (ofString t).lineStarts.toList =
      (0 :: newlineEnds (L.take o) 0) ++ newlineEnds (L.drop o) (L.take o).length := by
    have h := newlineEnds_append (L.take o) (L.drop o) 0
    rw [List.take_append_drop, Nat.zero_add] at h
    rw [lineStarts_toList, h]
    rfl
  have hxs : ∀ x ∈ 0 :: newlineEnds (L.take o) 0, x ≤ o := by
    intro x hx
    rcases List.mem_cons.1 hx with rfl | hx
    · exact Nat.zero_le _
    · have := (mem_newlineEnds hx).2
      simp only [List.length_take] at this
      omega
  have hys : ∀ y ∈ newlineEnds (L.drop o) (L.take o).length, o < y := by
    intro y hy
    rcases Nat.lt_or_ge L.length o with hlt | hge
    · simp [List.drop_eq_nil_of_le hlt.le, newlineEnds] at hy
    · have := (mem_newlineEnds hy).1
      simp only [List.length_take] at this
      omega
  have hlen : (ofString t).lineStarts.size = 1 + (L.take o).count 10 + (L.drop o).count 10 := by
    rw [← Array.length_toList, hsplit, List.length_append, List.length_cons, length_newlineEnds,
      length_newlineEnds]
    omega
  rw [lineOf, countUpTo_eq hsplit hxs hys 0 _ (Nat.zero_le _) (by simp [length_newlineEnds]; omega)
    le_rfl, List.length_cons, length_newlineEnds, Nat.add_sub_cancel]

theorem getElem_newlineEnds_last {A : List UInt8} (hA : A = [] ∨ ∃ A', A = A' ++ [10]) :
    getElem (0 :: newlineEnds A 0) (newlineEnds A 0).length (by simp) = A.length := by
  rcases hA with rfl | ⟨A', rfl⟩
  · rfl
  · have hlast : newlineEnds (A' ++ [10]) 0 = newlineEnds A' 0 ++ [A'.length + 1] := by
      rw [newlineEnds_append]
      simp [newlineEnds]
    simp [hlast, List.getElem_append_right]

theorem lineStart_ofString {t : String} {o : Nat} {A B : List UInt8}
    (hAB : (utf8Bytes t.toList).take o = A ++ B) (hA : A = [] ∨ ∃ A', A = A' ++ [10])
    (hB : 10 ∉ B) : (ofString t).lineStarts[(ofString t).lineOf o]? = some A.length := by
  set L := utf8Bytes t.toList
  have hsplit : (ofString t).lineStarts.toList =
      (0 :: newlineEnds A 0) ++ newlineEnds (L.drop o) (L.take o).length := by
    have h := newlineEnds_append (L.take o) (L.drop o) 0
    rw [List.take_append_drop, Nat.zero_add, hAB, newlineEnds_append, newlineEnds_eq_nil hB,
      List.append_nil] at h
    rw [lineStarts_toList, h, hAB]
    rfl
  have hline : (ofString t).lineOf o = (newlineEnds A 0).length := by
    rw [lineOf_ofString, hAB, List.count_append, List.count_eq_zero_of_not_mem hB,
      length_newlineEnds, Nat.add_zero]
  rw [hline, ← Array.getElem?_toList, hsplit, List.getElem?_append_left (by simp),
    List.getElem?_eq_getElem (by simp), getElem_newlineEnds_last hA]

theorem length_data_toList (bytes : ByteArray) : bytes.data.toList.length = bytes.size := by simp

theorem isBoundary_of_drop_eq_cons {bytes : ByteArray} {i : Nat} {b : UInt8} {rest : List UInt8}
    (h : bytes.data.toList.drop i = b :: rest) : isBoundary bytes i = isLeadByte b := by
  have hi : i < bytes.size := by
    have := congrArg List.length h
    simp only [List.length_drop, length_data_toList, List.length_cons] at this
    omega
  have hb : bytes[i] = b := by
    rw [drop_data_toList hi, List.cons.injEq] at h
    exact h.1
  simp [isBoundary, hi, hb, isLeadByte]

theorem charsBetween_eq (bytes : ByteArray) (i stop : Nat) :
    charsBetween bytes i stop = ((bytes.data.toList.drop i).take (stop - i)).countP isLeadByte := by
  fun_induction charsBetween bytes i stop with
  | case1 i h ih =>
    rw [ih, drop_data_toList h.2,
      show stop - i = stop - (i + 1) + 1 by omega, List.take_succ_cons, List.countP_cons]
    simp only [isLeadByte, ge_iff_le, Nat.add_comm]
  | case2 i h =>
    rcases Nat.lt_or_ge i stop with hlt | hge
    · have : bytes.data.toList.drop i = [] := List.drop_eq_nil_of_le (by simp; omega)
      simp [this]
    · simp [Nat.sub_eq_zero_of_le hge]

theorem isBoundary_utf8Bytes {bytes : ByteArray} {a b : List Char}
    (h : bytes.data.toList = utf8Bytes (a ++ b)) : isBoundary bytes (utf8Length a) = true := by
  have hdrop : bytes.data.toList.drop (utf8Length a) = utf8Bytes b := by
    rw [h, utf8Bytes_append, List.drop_left' (length_utf8Bytes a)]
  cases b with
  | nil =>
    have hsize : utf8Length a = bytes.size := by
      rw [← length_data_toList, h, List.append_nil, length_utf8Bytes]
    simp [isBoundary, hsize]
  | cons c b =>
    obtain ⟨x, rest, hc, hlead, -, -⟩ := utf8EncodeChar_eq_cons c
    rw [utf8Bytes_cons, hc, List.cons_append] at hdrop
    rw [isBoundary_of_drop_eq_cons hdrop, hlead]

theorem isBoundary_inside {bytes : ByteArray} {a r : List Char} {c : Char} {k : Nat}
    (h : bytes.data.toList = utf8Bytes (a ++ c :: r)) (hk : 0 < k) (hkc : k < c.utf8Size) :
    isBoundary bytes (utf8Length a + k) = false := by
  obtain ⟨x, rest, hc, -, hrest, -⟩ := utf8EncodeChar_eq_cons c
  have hlen : rest.length + 1 = c.utf8Size := by
    rw [← String.length_utf8EncodeChar, hc, List.length_cons]
  have hdrop : bytes.data.toList.drop (utf8Length a + k) =
      rest.drop (k - 1) ++ utf8Bytes r := by
    rw [h, utf8Bytes_append, ← List.drop_drop, List.drop_left' (length_utf8Bytes a),
      utf8Bytes_cons, hc, List.cons_append, show k = (k - 1) + 1 by omega, List.drop_succ_cons,
      List.drop_append_of_le_length (by omega), Nat.add_sub_cancel]
  obtain ⟨y, ys, hys⟩ : ∃ y ys, rest.drop (k - 1) = y :: ys :=
    List.ne_nil_iff_exists_cons.1 (by simp; omega)
  rw [hys, List.cons_append] at hdrop
  rw [isBoundary_of_drop_eq_cons hdrop]
  exact (hrest y (List.mem_of_mem_drop (hys ▸ List.mem_cons_self))).1

theorem charsBetween_utf8Bytes {bytes : ByteArray} {a b c : List Char}
    (h : bytes.data.toList = utf8Bytes (a ++ b ++ c)) :
    charsBetween bytes (utf8Length a) (utf8Length (a ++ b)) = b.length := by
  rw [charsBetween_eq, h, ← length_utf8Bytes a, ← length_utf8Bytes (a ++ b), utf8Bytes_append,
    utf8Bytes_append, utf8Bytes_append, List.length_append, Nat.add_sub_cancel_left,
    List.append_assoc, List.drop_left, List.take_left, countP_utf8Bytes]

theorem rdropWhile_newline (p : List Char) :
    p.rdropWhile (· != '\n') = [] ∨ ∃ q, p.rdropWhile (· != '\n') = q ++ ['\n'] := by
  by_cases h : p.rdropWhile (· != '\n') = []
  · exact .inl h
  · refine .inr ⟨(p.rdropWhile (· != '\n')).dropLast, ?_⟩
    have hlast := List.rdropWhile_last_not (· != '\n') p h
    simp only [bne_iff_ne, ne_eq, not_not] at hlast
    conv => lhs; rw [← List.dropLast_append_getLast h, hlast]

theorem newline_not_mem_rtakeWhile (p : List Char) : '\n' ∉ p.rtakeWhile (· != '\n') :=
  fun h => by simpa using List.mem_rtakeWhile_imp h

theorem utf8Bytes_rdropWhile (p : List Char) :
    utf8Bytes (p.rdropWhile (· != '\n')) = [] ∨
      ∃ A', utf8Bytes (p.rdropWhile (· != '\n')) = A' ++ [10] := by
  rcases rdropWhile_newline p with h | ⟨q, h⟩
  · exact .inl (by rw [h]; rfl)
  · exact .inr ⟨utf8Bytes q, by rw [h, utf8Bytes_append]; rfl⟩

theorem ten_not_mem_utf8Bytes_rtakeWhile (p : List Char) :
    10 ∉ utf8Bytes (p.rtakeWhile (· != '\n')) := by
  rw [← List.count_eq_zero, count_utf8Bytes, List.count_eq_zero]
  exact newline_not_mem_rtakeWhile p

theorem position_eq (idx : LineIndex) (o : Nat) {start : Nat}
    (hstart : idx.lineStarts[idx.lineOf o]? = some start) :
    idx.position o = ⟨idx.lineOf o + 1,
      (if idx.ascii then o - start
        else if isBoundary idx.bytes start && isBoundary idx.bytes (min o idx.bytes.size) then
          charsBetween idx.bytes start (min o idx.bytes.size)
        else 0) + 1⟩ := by
  simp only [position, hstart, Option.getD_some]

theorem position_of_take {t : String} {p r : List Char} (ht : t.toList = p ++ r) {o : Nat}
    (ho : (utf8Bytes t.toList).take o = utf8Bytes p) (a : Bool) :
    { ofString t with ascii := a }.position o =
      ⟨p.count '\n' + 1, (if a then o - utf8Length (p.rdropWhile (· != '\n'))
        else (p.rtakeWhile (· != '\n')).length) + 1⟩ := by
  set p₁ := p.rdropWhile (· != '\n')
  set p₂ := p.rtakeWhile (· != '\n')
  have hp : p = p₁ ++ p₂ := List.rdropWhile_append_rtakeWhile.symm
  have hAB : (utf8Bytes t.toList).take o = utf8Bytes p₁ ++ utf8Bytes p₂ := by
    rw [ho, ← utf8Bytes_append, ← hp]
  have hstart := lineStart_ofString hAB (utf8Bytes_rdropWhile p)
    (ten_not_mem_utf8Bytes_rtakeWhile p)
  rw [length_utf8Bytes] at hstart
  have hline : { ofString t with ascii := a }.lineOf o = p.count '\n' := by
    change (ofString t).lineOf o = _
    rw [lineOf_ofString, ho, count_utf8Bytes]
  have hbytes : (ofString t).bytes.data.toList = utf8Bytes t.toList := toUTF8_data_toList t
  -- past the end of the text the UTF-8 path stops at the end, which is where `p` ends
  have hstop : min o (ofString t).bytes.size = utf8Length p := by
    rw [← length_data_toList, hbytes, ← length_utf8Bytes p, ← ho, List.length_take]
  rw [position_eq { ofString t with ascii := a } o hstart]
  dsimp only
  simp only [hline, Position.mk.injEq, Nat.add_right_cancel_iff, true_and]
  cases a with
  | true => rfl
  | false =>
    rw [ht, hp] at hbytes
    have hb₁ : isBoundary (ofString t).bytes (utf8Length p₁) = true :=
      isBoundary_utf8Bytes (b := p₂ ++ r) (by rw [hbytes, List.append_assoc])
    have hb₂ : isBoundary (ofString t).bytes (utf8Length p) = true :=
      isBoundary_utf8Bytes (b := r) (by rw [hbytes, hp])
    simp only [Bool.false_eq_true, if_false, hstop, hb₁, hb₂, Bool.and_self, if_true]
    rw [hp, charsBetween_utf8Bytes hbytes]

theorem ascii_ofString (t : String) :
    (ofString t).ascii = true ↔ ∀ c ∈ t.toList, c.toNat < 0x80 := by
  simp [ofString]

theorem ofString_eta (t : String) : { ofString t with ascii := (ofString t).ascii } = ofString t :=
  rfl

theorem utf8ByteSize_eq (t : String) : t.utf8ByteSize = utf8Length t.toList := by
  rw [← length_utf8Bytes, ← toUTF8_data_toList, length_data_toList,
    String.toUTF8_eq_toByteArray, String.size_toByteArray]

theorem utf8Length_of_ascii {cs : List Char} (h : ∀ c ∈ cs, c.toNat < 0x80) :
    utf8Length cs = cs.length := by
  induction cs with
  | nil => rfl
  | cons c cs ih =>
    have hc : c.utf8Size = 1 := Char.utf8Size_eq_one_iff.2 (by
      rw [UInt32.le_iff_toNat_le]
      have := h c (by simp)
      exact Nat.le_of_lt_succ this)
    rw [utf8Length_cons, hc, ih fun d hd => h d (by simp [hd]), List.length_cons, Nat.add_comm]

theorem ascii_column {p : List Char} (h : ∀ c ∈ p, c.toNat < 0x80) :
    utf8Length p - utf8Length (p.rdropWhile (· != '\n')) = (p.rtakeWhile (· != '\n')).length := by
  have hp : p = p.rdropWhile (· != '\n') ++ p.rtakeWhile (· != '\n') :=
    List.rdropWhile_append_rtakeWhile.symm
  have h₂ : ∀ c ∈ p.rtakeWhile (· != '\n'), c.toNat < 0x80 :=
    fun c hc => h c (by rw [hp]; exact List.mem_append_right _ hc)
  conv => lhs; arg 1; rw [hp]
  rw [Java.utf8Length_append, utf8Length_of_ascii h₂, Nat.add_sub_cancel_left]

theorem position_at_boundary {t : String} {p r : List Char} (ht : t.toList = p ++ r) :
    (ofString t).position (utf8Length p) =
      ⟨p.count '\n' + 1, (p.rtakeWhile (· != '\n')).length + 1⟩ := by
  have ho : (utf8Bytes t.toList).take (utf8Length p) = utf8Bytes p := by
    rw [ht, utf8Bytes_append, List.take_left' (length_utf8Bytes p)]
  rw [← ofString_eta, position_of_take ht ho]
  split
  · rename_i hascii
    have hp : ∀ c ∈ p, c.toNat < 0x80 := fun c hc =>
      (ascii_ofString t).1 hascii c (by rw [ht]; exact List.mem_append_left _ hc)
    rw [ascii_column hp]
  · rfl

theorem utf8Path_eq_asciiPath {t : String} (h : ∀ c ∈ t.toList, c.toNat < 0x80) {o : Nat}
    (ho : o ≤ t.utf8ByteSize) :
    { ofString t with ascii := false }.position o = (ofString t).position o := by
  rw [utf8ByteSize_eq, utf8Length_of_ascii h] at ho
  have hsplit : t.toList = t.toList.take o ++ t.toList.drop o := (List.take_append_drop o _).symm
  have hlen : utf8Length (t.toList.take o) = o := by
    rw [utf8Length_of_ascii fun c hc => h c (List.mem_of_mem_take hc), List.length_take]
    omega
  have htake : (utf8Bytes t.toList).take o = utf8Bytes (t.toList.take o) := by
    conv => lhs; rw [hsplit, utf8Bytes_append]
    rw [List.take_left' (by rw [length_utf8Bytes, hlen])]
  have hascii : (ofString t).ascii = true := (ascii_ofString t).2 h
  rw [← ofString_eta, hascii, position_of_take hsplit htake, position_of_take hsplit htake]
  simp only [Bool.false_eq_true, if_false, if_true, Position.mk.injEq, true_and]
  have hcol := ascii_column fun c hc => h c (List.mem_of_mem_take (l := t.toList) (i := o) hc)
  rw [hlen] at hcol
  rw [hcol]

theorem column_inside_char {t : String} {p r : List Char} {c : Char} {k : Nat}
    (ht : t.toList = p ++ c :: r) (hk : 0 < k) (hkc : k < c.utf8Size) :
    ((ofString t).position (utf8Length p + k)).column = 1 := by
  have hbytes : (ofString t).bytes.data.toList = utf8Bytes (p ++ c :: r) := by
    rw [← ht]
    exact toUTF8_data_toList t
  -- the character is not ASCII, so the UTF-8 path reads the offset, which is no boundary
  have hascii : (ofString t).ascii = false := by
    rw [Bool.eq_false_iff, ne_eq, ascii_ofString]
    intro hall
    have hc := hall c (by rw [ht]; simp)
    have : c.utf8Size = 1 := Char.utf8Size_eq_one_iff.2 (by
      rw [UInt32.le_iff_toNat_le]
      exact Nat.le_of_lt_succ hc)
    omega
  have hstop : min (utf8Length p + k) (ofString t).bytes.size = utf8Length p + k := by
    rw [← length_data_toList, hbytes, length_utf8Bytes, Java.utf8Length_append, utf8Length_cons]
    omega
  simp only [position, hascii, hstop, isBoundary_inside hbytes hk hkc, Bool.and_false]
  rfl

theorem position_past_end {t : String} {o : Nat} (ho : t.utf8ByteSize < o) :
    (ofString t).position o =
      ⟨(ofString t).lineCount,
        if ∀ c ∈ t.toList, c.toNat < 0x80 then
          o - utf8Length (t.toList.rdropWhile (· != '\n')) + 1
        else (t.toList.rtakeWhile (· != '\n')).length + 1⟩ := by
  have htake : (utf8Bytes t.toList).take o = utf8Bytes t.toList :=
    List.take_of_length_le (by rw [length_utf8Bytes, ← utf8ByteSize_eq]; omega)
  rw [← ofString_eta, position_of_take (List.append_nil _).symm htake, lineCount_ofString]
  by_cases h : ∀ c ∈ t.toList, c.toNat < 0x80
  · rw [if_pos h, if_pos ((ascii_ofString t).2 h)]
  · rw [if_neg h, if_neg (by rw [ascii_ofString]; exact h)]

/-- The line index answers by counting. The lines are one more than the line feeds, and the line
of any offset is one more than the line feed bytes before it. At a character boundary, the end of
a prefix `p`, the column is one more than the characters of `p` after its last line feed; on
ASCII text the UTF-8 path gives the column of the ASCII path at every offset up to the end.
Strictly inside a character of several bytes the column is `1`. Past the end of the text the line
is the last line, and the column is reckoned to the offset on ASCII text but only to the end of
the text otherwise. -/
theorem position_counts (t : String) :
    (ofString t).lineCount = t.toList.count '\n' + 1 ∧
    (∀ o, ((ofString t).position o).line = (t.toUTF8.data.toList.take o).count 10 + 1) ∧
    (∀ p r, t.toList = p ++ r →
      (ofString t).position (utf8Length p) =
        ⟨p.count '\n' + 1, (p.rtakeWhile (· != '\n')).length + 1⟩) ∧
    ((∀ c ∈ t.toList, c.toNat < 0x80) → ∀ o ≤ t.utf8ByteSize,
      { ofString t with ascii := false }.position o = (ofString t).position o) ∧
    (∀ p c r k, t.toList = p ++ c :: r → 0 < k → k < c.utf8Size →
      ((ofString t).position (utf8Length p + k)).column = 1) ∧
    (∀ o, t.utf8ByteSize < o →
      (ofString t).position o =
        ⟨(ofString t).lineCount,
          if ∀ c ∈ t.toList, c.toNat < 0x80 then
            o - utf8Length (t.toList.rdropWhile (· != '\n')) + 1
          else (t.toList.rtakeWhile (· != '\n')).length + 1⟩) := by
  refine ⟨lineCount_ofString t, fun o => ?_, fun p r ht => position_at_boundary ht,
    fun h o ho => utf8Path_eq_asciiPath h ho, fun p c r k ht hk hkc => column_inside_char ht hk hkc,
    fun o ho => position_past_end ho⟩
  rw [toUTF8_data_toList, ← lineOf_ofString]
  rfl

end NamingLint.Source.LineIndex

import NamingLint.Java.Lexer

namespace NamingLint.Java

open Text

/-- Each token holds at least one byte and ends at or before the next one starts. -/
def InOrder (ts : Array Token) : Prop :=
  (∀ t ∈ ts.toList, t.start < t.stop) ∧ ts.toList.Pairwise fun a b => a.stop ≤ b.start

namespace InOrder

variable {ts : Array Token}

theorem empty : InOrder #[] := ⟨by simp, by simp⟩

theorem push (h : InOrder ts) {t : Token} (ht : t.start < t.stop)
    (hle : ∀ a ∈ ts.toList, a.stop ≤ t.start) : InOrder (ts.push t) := by
  obtain ⟨hpos, hsort⟩ := h
  refine ⟨fun a ha => ?_, ?_⟩
  · rw [Array.toList_push, List.mem_append, List.mem_singleton] at ha
    rcases ha with ha | rfl
    · exact hpos a ha
    · exact ht
  · rw [Array.toList_push, List.pairwise_append]
    exact ⟨hsort, List.pairwise_singleton _ _, fun a ha b hb => by
      rw [List.mem_singleton] at hb
      subst hb
      exact hle a ha⟩

theorem start_lt (h : InOrder ts) {i j : Nat} (hij : i < j) (hj : j < ts.size) :
    ts[i].start < ts[j].start := by
  have hpos := h.1 ts[i] (Array.mem_toList_iff.mpr (Array.getElem_mem _))
  have hsort := List.pairwise_iff_getElem.mp h.2 i j (by simpa using by omega) (by simpa using hj) hij
  simp only [Array.getElem_toList] at hsort
  omega

end InOrder

theorem utf8Length_pos {cs : List Char} (h : cs ≠ []) : 0 < utf8Length cs := by
  obtain ⟨c, more, rfl⟩ := List.exists_cons_of_ne_nil h
  have := Char.utf8Size_pos c
  simp only [utf8Length, List.map_cons, List.foldr_cons]
  omega

theorem LexemeClass.token?_range {cls : LexemeClass} {text : String} {start stop : Nat}
    {t : Token} (h : cls.token? text start stop = some t) : t.start = start ∧ t.stop = stop := by
  cases cls <;> simp only [token?, Option.some.injEq, reduceCtorEq] at h <;> subst h <;> simp

def InOrderBy (acc : Array Token) (offset : Nat) : Prop :=
  InOrder acc ∧ ∀ t ∈ acc.toList, t.stop ≤ offset

theorem InOrderBy.read {acc : Array Token} {offset stop : Nat} (h : InOrderBy acc offset)
    (hstop : offset < stop) (cls : LexemeClass) (text : String) :
    InOrderBy (match cls.token? text offset stop with
      | some t => acc.push t
      | none => acc) stop := by
  split
  · rename_i t ht
    obtain ⟨hstart, hend⟩ := LexemeClass.token?_range ht
    refine ⟨h.1.push (by omega) fun a ha => by have := h.2 a ha; omega, fun a ha => ?_⟩
    rw [Array.toList_push, List.mem_append, List.mem_singleton] at ha
    rcases ha with ha | rfl
    · have := h.2 a ha
      omega
    · omega
  · exact ⟨h.1, fun a ha => by have := h.2 a ha; omega⟩

theorem scanFrom_inOrder {offset : Nat} {cs : List Char} {acc ts : Array Token}
    (hacc : InOrderBy acc offset) (h : scanFrom offset cs acc = .ok ts) : InOrder ts := by
  fun_induction scanFrom offset cs acc with
  | case1 offset acc =>
    cases h
    exact hacc.1
  | case2 offset acc c more hnone => cases h
  | case3 offset acc c more cls hzero => cases h
  | case4 offset acc₀ c more cls n hlex hn lexeme stop acc ih =>
    -- the new lexeme starts at `offset` and, being nonempty, stops strictly after it
    have hstop : offset < stop := by
      have := @utf8Length_pos lexeme (by simp [lexeme, List.take_eq_nil_iff, hn])
      simp only [stop]
      omega
    exact ih (hacc.read hstop cls _) h

theorem tokenize_inOrder {source : String} {ts : Array Token} (h : tokenize source = .ok ts) :
    InOrder ts := by
  unfold tokenize at h
  split at h <;> exact scanFrom_inOrder ⟨InOrder.empty, by simp⟩ h

end NamingLint.Java

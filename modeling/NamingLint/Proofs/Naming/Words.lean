import Mathlib
import NamingLint.Naming.Words

namespace NamingLint.Words

open Text

theorem flatten_splitFrom (current : List Char) (prev : Char) (cs : List Char) :
    (splitFrom current prev cs).flatten = current.reverse ++ cs := by
  induction cs generalizing current prev with
  | nil => simp [splitFrom]
  | cons c rest ih =>
    rw [splitFrom]
    split <;> simp [ih]

theorem splitFrom_ne_nil (current : List Char) (prev : Char) (cs : List Char) :
    splitFrom current prev cs ≠ [] := by
  induction cs generalizing current prev with
  | nil => simp [splitFrom]
  | cons c rest ih =>
    rw [splitFrom]
    split
    · simp
    · exact ih _ _

theorem flatten_ofSegment (seg : List Char) : (ofSegment seg).flatten = seg := by
  cases seg <;> simp [ofSegment, flatten_splitFrom]

theorem flatten_splitOnP (p : Char → Bool) (cs : List Char) :
    (cs.splitOnP p).flatten = cs.filter fun c => !p c := by
  induction cs with
  | nil => simp
  | cons c cs ih =>
    rw [List.splitOnP_cons_eq_if_modifyHead]
    obtain ⟨seg, segs, hsegs⟩ := List.exists_cons_of_ne_nil (List.splitOnP_ne_nil p cs)
    rw [hsegs] at ih ⊢
    split <;> simp_all

theorem flatten_ofChars (cs : List Char) :
    (ofChars cs).flatten = cs.filter fun c => !isSeparator c := by
  rw [ofChars, ← flatten_splitOnP, List.flatMap_def, List.flatten_flatten, List.map_map]
  congr 1
  conv_rhs => rw [← List.map_id (cs.splitOnP isSeparator)]
  exact List.map_congr_left fun seg _ => flatten_ofSegment seg

theorem mem_of_mem_word {cs w : List Char} {c : Char} (hw : w ∈ ofChars cs) (hc : c ∈ w) :
    c ∈ cs ∧ isSeparator c = false := by
  have : c ∈ (ofChars cs).flatten := List.mem_flatten.2 ⟨w, hw, hc⟩
  rw [flatten_ofChars, List.mem_filter] at this
  simpa using this

theorem splitFrom_word_head {current : List Char} (hcur : current ≠ []) (prev : Char)
    (cs : List Char) : ∀ w ∈ splitFrom current prev cs,
      ∃ c t, w = c :: t ∧ (current.getLast? = some c ∨ isUppercase c = true) := by
  induction cs generalizing current prev with
  | nil =>
    intro w hw
    obtain ⟨c, t, hct⟩ := List.exists_cons_of_ne_nil (List.reverse_ne_nil_iff.2 hcur)
    simp only [splitFrom, List.mem_singleton] at hw
    subst hw
    refine ⟨c, t, hct, .inl ?_⟩
    rw [← List.head?_reverse, hct, List.head?_cons]
  | cons d rest ih =>
    intro w hw
    rw [splitFrom] at hw
    split at hw
    · rename_i hstart
      rcases List.mem_cons.1 hw with rfl | hw
      · obtain ⟨c, t, hct⟩ := List.exists_cons_of_ne_nil (List.reverse_ne_nil_iff.2 hcur)
        refine ⟨c, t, hct, .inl ?_⟩
        rw [← List.head?_reverse, hct, List.head?_cons]
      · obtain ⟨c, t, rfl, hc⟩ := ih (List.cons_ne_nil d []) d w hw
        refine ⟨c, t, rfl, .inr ?_⟩
        rcases hc with hc | hc
        · -- the word starts where `startsWord` opened it, at a capital
          simp only [List.getLast?_singleton, Option.some.injEq] at hc
          subst hc
          simp only [startsWord, Bool.and_eq_true] at hstart
          exact hstart.1
        · exact hc
    · obtain ⟨c, t, rfl, hc⟩ := ih (List.cons_ne_nil d current) d w hw
      refine ⟨c, t, rfl, ?_⟩
      rw [List.getLast?_cons, List.getLast?_eq_some_getLast hcur, Option.getD_some] at hc
      rwa [List.getLast?_eq_some_getLast hcur]

theorem ofChars_word_head {cs w : List Char} (hw : w ∈ ofChars cs) :
    ∃ c t, w = c :: t ∧
      ((∃ seg ∈ cs.splitOnP isSeparator, seg.head? = some c) ∨ isUppercase c = true) := by
  obtain ⟨seg, hseg, hw⟩ := List.mem_flatMap.1 hw
  cases seg with
  | nil => simp [ofSegment] at hw
  | cons d rest =>
    obtain ⟨c, t, rfl, hc⟩ := splitFrom_word_head (List.cons_ne_nil d []) d rest w hw
    refine ⟨c, t, rfl, ?_⟩
    rcases hc with hc | hc
    · simp only [List.getLast?_singleton, Option.some.injEq] at hc
      exact .inl ⟨d :: rest, hseg, by simp [hc]⟩
    · exact .inr hc

theorem ofChars_ne_nil_iff (cs : List Char) :
    ofChars cs ≠ [] ↔ ∃ seg ∈ cs.splitOnP isSeparator, seg ≠ [] := by
  rw [ofChars, Ne, List.flatMap_eq_nil_iff]
  simp only [not_forall, exists_prop]
  refine exists_congr fun seg => and_congr_right fun _ => ?_
  cases seg <;> simp [ofSegment, splitFrom_ne_nil]

/-- The words `ws` break after their first `k` characters: the words in front of some point
hold exactly `k` characters. -/
def BreaksAt (ws : List (List Char)) (k : Nat) : Prop :=
  ∃ front back, ws = front ++ back ∧ front.flatten.length = k

theorem breaksAt_append_left (ws₀ ws : List (List Char)) {k : Nat} (hk : 0 < k) :
    BreaksAt (ws₀ ++ ws) (ws₀.flatten.length + k) ↔ BreaksAt ws k := by
  constructor
  · rintro ⟨front, back, hws, hlen⟩
    rcases List.append_eq_append_iff.1 hws with ⟨mid, rfl, rfl⟩ | ⟨mid, rfl, -⟩
    · exact ⟨mid, back, rfl, by simpa using hlen⟩
    · -- a front inside `ws₀` holds fewer characters than `ws₀`
      simp only [List.flatten_append, List.length_append] at hlen
      omega
  · rintro ⟨front, back, rfl, rfl⟩
    exact ⟨ws₀ ++ front, back, by simp, by simp⟩

theorem breaksAt_append_right (ws ws₁ : List (List Char)) {k : Nat}
    (hk : k < ws.flatten.length) : BreaksAt (ws ++ ws₁) k ↔ BreaksAt ws k := by
  constructor
  · rintro ⟨front, back, hws, rfl⟩
    rcases List.append_eq_append_iff.1 hws with ⟨mid, rfl, -⟩ | ⟨mid, rfl, rfl⟩
    · -- a front that takes in all of `ws` holds at least its characters
      simp only [List.flatten_append, List.length_append] at hk
      omega
    · exact ⟨front, mid, rfl, rfl⟩
  · rintro ⟨front, back, rfl, rfl⟩
    exact ⟨front, back ++ ws₁, by simp, rfl⟩

theorem splitFrom_eq_cons (current : List Char) (prev : Char) (cs : List Char) :
    ∃ w ws, splitFrom current prev cs = (current.reverse ++ w) :: ws := by
  induction cs generalizing current prev with
  | nil => exact ⟨[], [], by simp [splitFrom]⟩
  | cons c rest ih =>
    rw [splitFrom]
    split
    · exact ⟨[], splitFrom [c] c rest, by simp⟩
    · obtain ⟨w, ws, h⟩ := ih (c :: current) c
      exact ⟨c :: w, ws, by simp [h]⟩

theorem not_breaksAt_splitFrom {current : List Char} {k : Nat} (hk : 0 < k)
    (hlt : k < current.length) (prev : Char) (cs : List Char) :
    ¬ BreaksAt (splitFrom current prev cs) k := by
  obtain ⟨w, ws, hsplit⟩ := splitFrom_eq_cons current prev cs
  rintro ⟨front, back, hws, rfl⟩
  rw [hsplit] at hws
  cases front with
  | nil => simp at hk
  | cons first front =>
    obtain ⟨rfl, -⟩ := List.cons_eq_cons.1 (hws.trans (List.cons_append ..))
    simp only [List.flatten_cons, List.length_append, List.length_reverse] at hlt
    omega

theorem splitFrom_breaksAt_iff {current : List Char} (hcur : current ≠ []) (prev : Char)
    (cs : List Char) {m : Nat} (hm : m + 1 < (prev :: cs).length) :
    BreaksAt (splitFrom current prev cs) (current.length + m) ↔
      startsWord (prev :: cs)[m] (prev :: cs)[m + 1] (prev :: cs)[m + 2]? = true := by
  induction cs generalizing current prev m with
  | nil => simp at hm
  | cons c rest ih =>
    rw [splitFrom]
    split
    · rename_i hstart
      cases m with
      | zero =>
        simp only [List.getElem_cons_zero, List.getElem_cons_succ, List.getElem?_cons_succ,
          ← List.head?_eq_getElem?, hstart, Nat.add_zero, iff_true]
        exact ⟨[current.reverse], splitFrom [c] c rest, rfl, by simp⟩
      | succ m =>
        -- past the word closed here, the breaks are those of the new word `[c]` onward
        have key := breaksAt_append_left [current.reverse] (splitFrom [c] c rest)
          (k := 1 + m) (by omega)
        have ih' := ih (List.cons_ne_nil c []) c (m := m) (by simpa using hm)
        simp only [List.flatten_singleton, List.length_reverse, List.singleton_append] at key
        rw [List.length_singleton] at ih'
        rw [show current.length + (m + 1) = current.length + (1 + m) by omega, key, ih']
        simp
    · rename_i hstart
      cases m with
      | zero =>
        simp only [List.getElem_cons_zero, List.getElem_cons_succ, List.getElem?_cons_succ,
          ← List.head?_eq_getElem?, hstart, Nat.add_zero, iff_false, Bool.false_eq_true]
        exact not_breaksAt_splitFrom (List.length_pos_iff.2 hcur) (by simp) c rest
      | succ m =>
        rw [show current.length + (m + 1) = (c :: current).length + m by simp; omega,
          ih (List.cons_ne_nil c current) c (by simpa using hm)]
        simp

theorem ofSegment_breaksAt_iff (seg : List Char) {k : Nat} (hk : 0 < k) (hlt : k < seg.length) :
    BreaksAt (ofSegment seg) k ↔ startsWord seg[k - 1] seg[k] seg[k + 1]? = true := by
  cases seg with
  | nil => simp at hlt
  | cons c rest =>
    obtain ⟨m, rfl⟩ : ∃ m, k = m + 1 := ⟨k - 1, by omega⟩
    have key := splitFrom_breaksAt_iff (List.cons_ne_nil c []) c rest hlt
    rw [List.length_singleton, Nat.add_comm] at key
    simpa [ofSegment] using key

theorem startsWord_eq_true_iff (prev c : Char) (next : Option Char) :
    startsWord prev c next = true ↔ isUppercase c = true ∧
      (isLowercase prev = true ∨ isNumeric prev = true ∨
        (isUppercase prev = true ∧ ∃ d, next = some d ∧ isLowercase d = true)) := by
  simp [startsWord, Option.any_eq_true, or_assoc]

theorem infix_of_mem_splitOnP (p : Char → Bool) (cs : List Char) :
    (∀ seg ∈ cs.splitOnP p, seg <:+: cs) ∧ ∀ seg ∈ (cs.splitOnP p).head?, seg <+: cs := by
  induction cs with
  | nil => simp
  | cons c cs ih =>
    obtain ⟨ihmem, ihhead⟩ := ih
    rw [List.splitOnP_cons_eq_if_modifyHead]
    split
    · refine ⟨fun seg hseg => ?_, by simp⟩
      rcases List.mem_cons.1 hseg with rfl | hseg
      · exact List.nil_infix
      · exact (ihmem seg hseg).trans (List.suffix_cons c cs).isInfix
    · obtain ⟨first, segs, hsegs⟩ := List.exists_cons_of_ne_nil (List.splitOnP_ne_nil p cs)
      rw [hsegs] at ihmem ihhead ⊢
      have hfirst : c :: first <+: c :: cs :=
        List.cons_prefix_cons.2 ⟨rfl, ihhead first (by simp)⟩
      refine ⟨fun seg hseg => ?_, by simpa using hfirst⟩
      rcases List.mem_cons.1 hseg with rfl | hseg
      · exact hfirst.isInfix
      · exact (ihmem seg (List.mem_cons_of_mem _ hseg)).trans (List.suffix_cons c cs).isInfix

theorem infix_of_mem_ofChars {cs w : List Char} (hw : w ∈ ofChars cs) : w ≠ [] ∧ w <:+: cs := by
  obtain ⟨c, t, rfl, -⟩ := ofChars_word_head hw
  refine ⟨List.cons_ne_nil c t, ?_⟩
  obtain ⟨seg, hseg, hw⟩ := List.mem_flatMap.1 hw
  have hinfix := List.infix_of_mem_flatten hw
  rw [flatten_ofSegment] at hinfix
  exact hinfix.trans ((infix_of_mem_splitOnP isSeparator cs).1 seg hseg)

@[simp] theorem ofChars_nil : ofChars [] = [] := rfl

theorem ofChars_append_cons {s : Char} (hs : isSeparator s = true) (xs ys : List Char) :
    ofChars (xs ++ s :: ys) = ofChars xs ++ ofChars ys := by
  simp [ofChars, List.splitOnP_append_cons xs ys hs]

theorem ofChars_append_of_getLast? {xs : List Char} (hxs : xs.getLast?.all isSeparator = true)
    (ys : List Char) : ofChars (xs ++ ys) = ofChars xs ++ ofChars ys := by
  rcases List.eq_nil_or_concat xs with rfl | ⟨xs, s, rfl⟩
  · simp
  · rw [List.concat_eq_append] at hxs ⊢
    have hs : isSeparator s = true := by simpa using hxs
    rw [List.append_assoc, List.singleton_append, ofChars_append_cons hs,
      ofChars_append_cons hs, ofChars_nil, List.append_nil]

theorem ofChars_append_of_head? {ys : List Char} (hys : ys.head?.all isSeparator = true)
    (xs : List Char) : ofChars (xs ++ ys) = ofChars xs ++ ofChars ys := by
  cases ys with
  | nil => simp
  | cons s ys =>
    have hs : isSeparator s = true := by simpa using hys
    rw [ofChars_append_cons hs, ← List.nil_append (s :: ys), ofChars_append_cons hs,
      ofChars_nil, List.nil_append]

theorem ofChars_of_forall_not_separator {seg : List Char}
    (hseg : ∀ c ∈ seg, isSeparator c = false) : ofChars seg = ofSegment seg := by
  simp [ofChars, List.splitOnP_eq_singleton hseg]

/-- Splitting loses and adds nothing. Every word is a non-empty stretch of the name, and the
words together are the name without `_` and `$`. Inside a segment, a stretch between separators
or the ends of the name, a word starts at character `k ≥ 1` exactly when that character is a
capital after a small letter or a digit, or a capital after a capital and before a small letter.
-/
theorem ofChars_partitions_name (cs : List Char) :
    (∀ w ∈ ofChars cs, w ≠ [] ∧ w <:+: cs) ∧
    (ofChars cs).flatten = cs.filter (fun c => !isSeparator c) ∧
    ∀ pre seg post, cs = pre ++ seg ++ post → pre.getLast?.all isSeparator = true →
      (∀ c ∈ seg, isSeparator c = false) → post.head?.all isSeparator = true →
      ∀ k, 0 < k → (hk : k < seg.length) →
        (BreaksAt (ofChars cs) ((pre.filter fun c => !isSeparator c).length + k) ↔
          isUppercase seg[k] = true ∧
            (isLowercase seg[k - 1] = true ∨ isNumeric seg[k - 1] = true ∨
              (isUppercase seg[k - 1] = true ∧
                ∃ d, seg[k + 1]? = some d ∧ isLowercase d = true))) := by
  refine ⟨fun w hw => infix_of_mem_ofChars hw, flatten_ofChars cs, ?_⟩
  rintro pre seg post rfl hpre hseg hpost k hk hlt
  -- the words of the name are those of `pre`, then of the segment, then of `post`
  have hwords :
      ofChars (pre ++ seg ++ post) = ofChars pre ++ (ofSegment seg ++ ofChars post) := by
    rw [List.append_assoc, ofChars_append_of_getLast? hpre, ofChars_append_of_head? hpost,
      ofChars_of_forall_not_separator hseg]
  have hseglen : k < (ofSegment seg).flatten.length := by rwa [flatten_ofSegment]
  rw [hwords, ← flatten_ofChars, breaksAt_append_left _ _ hk,
    breaksAt_append_right _ _ hseglen, ofSegment_breaksAt_iff seg hk hlt, startsWord_eq_true_iff]

set_option maxRecDepth 100000 in
theorem urlParser_breaks_after_url :
    ['g', 'e', 't', '_'].getLast?.all isSeparator = true ∧
      (∀ c ∈ ['U', 'R', 'L', 'P', 'a', 'r', 's', 'e', 'r'], isSeparator c = false) ∧
      BreaksAt (ofChars ['g', 'e', 't', '_', 'U', 'R', 'L', 'P', 'a', 'r', 's', 'e', 'r']) 6 := by
  refine ⟨by decide, by simp [isSeparator], ?_⟩
  have key := (ofChars_partitions_name
    ['g', 'e', 't', '_', 'U', 'R', 'L', 'P', 'a', 'r', 's', 'e', 'r']).2.2
    ['g', 'e', 't', '_'] ['U', 'R', 'L', 'P', 'a', 'r', 's', 'e', 'r'] [] rfl (by decide)
    (by simp [isSeparator]) (by decide) 3 (by decide) (by decide)
  exact key.2 ⟨by cbv, .inr (.inr ⟨by cbv, 'a', rfl, by cbv⟩)⟩

end NamingLint.Words

import Mathlib
import NamingLint.Proofs.Scan.Recorded
import NamingLint.Proofs.Scan.Termination

namespace NamingLint.Declaration.Tokens

open Java

variable {ts : Tokens}

def Balanced (ts : Tokens) (j k : Nat) : Prop :=
  ∀ d, 1 ≤ d → ts.closeFrom "(" ")" j d = ts.closeFrom "(" ")" k d

namespace Balanced

theorem refl (j : Nat) : ts.Balanced j j := fun _ _ => rfl

theorem trans {j k l : Nat} (h₁ : ts.Balanced j k) (h₂ : ts.Balanced k l) : ts.Balanced j l :=
  fun d hd => (h₁ d hd).trans (h₂ d hd)

end Balanced

theorem balanced_token {j : Nat} (hj : j < ts.size) (ho : ts[j].isOperator "(" = false)
    (hc : ts[j].isOperator ")" = false) : ts.Balanced j (j + 1) := by
  intro d _
  rw [closeFrom, dif_pos hj]
  simp [ho, hc]

theorem balanced_isIdentifier {j : Nat} (h : ts.isIdentifier j) : ts.Balanced j (j + 1) := by
  have hj := lt_size_of_isIdentifier h
  have hk := kind_of_isIdentifier h hj
  exact balanced_token hj (by simp [Token.isOperator, hk]) (by simp [Token.isOperator, hk])

theorem balanced_isOp {j : Nat} {op : String} (h : ts.isOp j op) (ho : op ≠ "(")
    (hc : op ≠ ")") : ts.Balanced j (j + 1) := by
  have hj := lt_size_of_isOp h
  have hop := isOperator_of_isOp h hj
  simp only [Token.isOperator, Bool.and_eq_true, beq_iff_eq] at hop
  exact balanced_token hj (by simp [Token.isOperator, hop.2, ho])
    (by simp [Token.isOperator, hop.2, hc])

theorem lt_size_of_isKeyword {j : Nat} {w : String} (h : ts.isKeyword j w) : j < ts.size := by
  rcases Nat.lt_or_ge j ts.size with hlt | hge
  · exact hlt
  · simp [isKeyword, Array.getElem?_eq_none hge] at h

theorem balanced_isKeyword {j : Nat} {w : String} (h : ts.isKeyword j w) :
    ts.Balanced j (j + 1) := by
  have hj := lt_size_of_isKeyword h
  have hk : ts[j].kind = .keyword := by
    simp only [isKeyword, Array.getElem?_eq_getElem hj, Option.any_some, Token.isKeyword,
      Bool.and_eq_true, beq_iff_eq] at h
    exact h.1
  exact balanced_token hj (by simp [Token.isOperator, hk]) (by simp [Token.isOperator, hk])

theorem closeFrom_add {j D c : Nat} (h : ts.closeFrom "(" ")" j D = some c) (hD : 1 ≤ D) :
    ∀ d, 1 ≤ d → ts.closeFrom "(" ")" j (D + d) = ts.closeFrom "(" ")" (c + 1) d := by
  fun_induction ts.closeFrom "(" ")" j D with
  | case1 j D hj t ho ih =>
    intro d hd
    rw [closeFrom, dif_pos hj, if_pos ho, show D + d + 1 = D + 1 + d by omega]
    exact ih h (by omega) d hd
  | case2 j D hj t ho hc hD' =>
    intro d hd
    simp only [Option.some.injEq] at h
    subst h
    rw [closeFrom, dif_pos hj, if_neg ho, if_pos hc, if_neg (by omega), show D + d - 1 = d by omega]
  | case3 j D hj t ho hc hD' ih =>
    intro d hd
    rw [closeFrom, dif_pos hj, if_neg ho, if_pos hc, if_neg (by omega),
      show D + d - 1 = D - 1 + d by omega]
    exact ih h (by omega) d hd
  | case4 j D hj t ho hc ih =>
    intro d hd
    rw [closeFrom, dif_pos hj, if_neg ho, if_neg hc]
    exact ih h hD d hd
  | case5 j D hj => simp at h

theorem closeFrom_size (o c : String) (d : Nat) : ts.closeFrom o c ts.size d = none := by
  rw [closeFrom, dif_neg (Nat.lt_irrefl _)]

theorem balanced_afterBracket {p : Nat} (hp : ts.isOp p "(") :
    ts.Balanced p (ts.afterBracket p) := by
  have hlt := lt_size_of_isOp hp
  intro d hd
  rw [closeFrom, dif_pos hlt, if_pos (isOperator_of_isOp hp hlt), Nat.add_comm d 1]
  unfold afterBracket
  rw [matchingClose_paren hp]
  split
  · rename_i c hc
    exact closeFrom_add hc (Nat.le_refl 1) d hd
  · rename_i hnone
    rw [closeFrom_size]
    cases hdeep : ts.closeFrom "(" ")" (p + 1) (1 + d) with
    | none => rfl
    | some r =>
      obtain ⟨r', hr', -⟩ := closeFrom_lt_of_deeper hdeep 1 d rfl (Nat.le_refl 1) hd
      rw [hnone] at hr'
      cases hr'

theorem balanced_skipDimensions (j : Nat) : ts.Balanced j (ts.skipDimensions j) := by
  fun_induction ts.skipDimensions j with
  | case1 j hlt hdims ih =>
    simp only [Bool.and_eq_true] at hdims
    exact (balanced_isOp hdims.1 (by decide) (by decide)).trans
      ((balanced_isOp hdims.2 (by decide) (by decide)).trans ih)
  | case2 j hlt hdims => exact Balanced.refl j
  | case3 j hge => exact Balanced.refl j

theorem balanced_afterQualifiedName (j : Nat) : ts.Balanced j (ts.afterQualifiedName j) := by
  fun_induction ts.afterQualifiedName j with
  | case1 j hlt hid hdot ih =>
    simp only [Bool.and_eq_true] at hdot
    have h0 := @balanced_isIdentifier ts j (by simp [isIdentifier, hlt, hid])
    exact h0.trans ((balanced_isOp hdot.1 (by decide) (by decide)).trans ih)
  | case2 j hlt hid hdot => exact balanced_isIdentifier (by simp [isIdentifier, hlt, hid])
  | case3 j hlt hid => exact Balanced.refl j
  | case4 j hge => exact Balanced.refl j

theorem skipAnnotation_balanced {j : Nat} (h : ts.isOp j "@") :
    ts.Balanced j (ts.skipAnnotation j) := by
  have hat := balanced_isOp h (by decide) (by decide)
  have hname := @balanced_afterQualifiedName ts (j + 1)
  unfold skipAnnotation
  dsimp only
  split
  · exact hat.trans (hname.trans (balanced_afterBracket ‹_›))
  · exact hat.trans hname

theorem balanced_skipTypeArgumentsFrom {j D k : Nat} (h : ts.skipTypeArgumentsFrom j D = some k) :
    ts.Balanced j k := by
  fun_induction ts.skipTypeArgumentsFrom j D with
  | case1 j D hlt t hop hlt' ih =>
    exact (balanced_token hlt (by simp_all [t, Token.isOperator])
      (by simp_all [t, Token.isOperator])).trans (ih h)
  | case2 j D hlt t hop hlt' hgt hD =>
    simp only [Option.some.injEq] at h
    subst h
    exact balanced_token hlt (by simp_all [t, Token.isOperator]) (by simp_all [t, Token.isOperator])
  | case3 j D hlt t hop hlt' hgt hD ih =>
    exact (balanced_token hlt (by simp_all [t, Token.isOperator])
      (by simp_all [t, Token.isOperator])).trans (ih h)
  | case4 j D hlt t hop hlt' hgt hsep ih =>
    have hparen : t.text ≠ "(" ∧ t.text ≠ ")" := by
      constructor <;> intro hp <;> simp [hp] at hsep
    exact (balanced_token hlt (by simp [← show t = ts[j] from rfl, Token.isOperator, hparen.1])
      (by simp [← show t = ts[j] from rfl, Token.isOperator, hparen.2])).trans (ih h)
  | case5 j D hlt t hop hlt' hgt hsep hat ih =>
    have hatOp : ts.isOp j "@" := by simp_all [isOp, t, Token.isOperator]
    have hlt : j < ts.skipAnnotation j := lt_skipAnnotation j
    have hmax : max (ts.skipAnnotation j) (j + 1) = ts.skipAnnotation j := Nat.max_eq_left hlt
    rw [hmax] at ih h
    exact (skipAnnotation_balanced hatOp).trans (ih h)
  | case6 j D hlt t hop hlt' hgt hsep hat => simp at h
  | case7 j D hlt t hid ih =>
    exact (balanced_token hlt (by simp_all [t, Token.isOperator])
      (by simp_all [t, Token.isOperator])).trans (ih h)
  | case8 j D hlt t hkw hprim ih =>
    exact (balanced_token hlt (by simp_all [t, Token.isOperator])
      (by simp_all [t, Token.isOperator])).trans (ih h)
  | case9 j D hlt t hkw hprim => simp at h
  | case10 j D hlt t hlit => simp at h
  | case11 j D hge => simp at h

theorem balanced_afterClassType {j k : Nat} (hid : ts.isIdentifier j)
    (h : ts.afterClassType j = some k) : ts.Balanced j k := by
  fun_induction ts.afterClassType j with
  | case1 j hlt k₀ k? hk => simp at h
  | case2 j hlt k₀ k? k' hk hdot ih =>
    simp only [Bool.and_eq_true] at hdot
    have hargs : ts.Balanced (j + 1) k' := by
      simp only [k?, k₀] at hk
      split at hk
      · exact balanced_skipTypeArgumentsFrom hk
      · simp only [Option.some.injEq] at hk
        subst hk
        exact Balanced.refl _
    have hge := @le_of_typeArguments? ts _ _ hk
    rw [Nat.max_eq_left (by omega)] at ih h
    exact (balanced_isIdentifier hid).trans
      (hargs.trans ((balanced_isOp hdot.1 (by decide) (by decide)).trans (ih hdot.2 h)))
  | case3 j hlt k₀ k? k' hk hdot =>
    simp only [Option.some.injEq] at h
    subst h
    simp only [k?, k₀] at hk
    split at hk
    · exact (balanced_isIdentifier hid).trans (balanced_skipTypeArgumentsFrom hk)
    · simp only [Option.some.injEq] at hk
      subst hk
      exact balanced_isIdentifier hid
  | case4 j hge => simp only [Option.some.injEq] at h; subst h; exact Balanced.refl _

theorem balanced_parseType {j k : Nat} (h : ts.parseType j = some k) : ts.Balanced j k := by
  unfold parseType at h
  split at h
  · rename_i t ht
    obtain ⟨hlt, rfl⟩ := Array.getElem?_eq_some_iff.mp ht
    split at h
    · rename_i hprim
      simp only [Option.some.injEq] at h
      subst h
      simp only [Token.isPrimitiveType, Bool.and_eq_true, beq_iff_eq] at hprim
      exact (balanced_token hlt (by simp [Token.isOperator, hprim.1])
        (by simp [Token.isOperator, hprim.1])).trans (balanced_skipDimensions _)
    · split at h
      · rename_i hid
        obtain ⟨k', hk', rfl⟩ := Option.map_eq_some_iff.mp h
        have hident : ts.isIdentifier j := by simp [isIdentifier, hlt, hid]
        exact (balanced_afterClassType hident hk').trans (balanced_skipDimensions _)
      · simp at h
  · simp at h

theorem closeFrom_close {c : Nat} (h : ts.isOp c ")") : ts.closeFrom "(" ")" c 1 = some c := by
  have hlt := lt_size_of_isOp h
  have hop := isOperator_of_isOp h hlt
  rw [closeFrom, dif_pos hlt, if_neg (by simp_all [Token.isOperator]), if_pos hop, if_pos rfl]

theorem matchingClose_of_balanced {a c : Nat} (ha : ts.isOp a "(") (hb : ts.Balanced (a + 1) c)
    (hc : ts.isOp c ")") : ts.matchingClose a = some c := by
  rw [matchingClose_paren ha, hb 1 (Nat.le_refl 1), closeFrom_close hc]

theorem isOp_eq_false {k : Nat} {op : String} (op' : String) (h : ts.isOp k op)
    (hne : op' ≠ op) : ts.isOp k op' = false := by
  have hlt := lt_size_of_isOp h
  have hop := isOperator_of_isOp h hlt
  simp only [Token.isOperator, Bool.and_eq_true, beq_iff_eq] at hop
  simp [isOp, hlt, Token.isOperator, hop.2, Ne.symm hne]

theorem isKeyword_of_isOp {k : Nat} {op w : String} (h : ts.isOp k op) :
    ts.isKeyword k w = false := by
  have hlt := lt_size_of_isOp h
  have hop := isOperator_of_isOp h hlt
  simp only [Token.isOperator, Bool.and_eq_true, beq_iff_eq] at hop
  simp [isKeyword, hlt, Token.isKeyword, hop.1]

theorem isIdentifier_of_isOp {k : Nat} {op : String} (h : ts.isOp k op) :
    ts.isIdentifier k = false := by
  have hlt := lt_size_of_isOp h
  have hop := isOperator_of_isOp h hlt
  simp only [Token.isOperator, Bool.and_eq_true, beq_iff_eq] at hop
  simp [isIdentifier, hlt, Token.isIdentifier, hop.1]

theorem parseType_of_isOp {k : Nat} {op : String} (h : ts.isOp k op) : ts.parseType k = none := by
  have hlt := lt_size_of_isOp h
  have hop := isOperator_of_isOp h hlt
  simp only [Token.isOperator, Bool.and_eq_true, beq_iff_eq] at hop
  simp [parseType, hlt, Token.isPrimitiveType, Token.isIdentifier, hop.1]

theorem lt_size_of_parseType {k n : Nat} (h : ts.parseType k = some n) : k < ts.size := by
  rcases Nat.lt_or_ge k ts.size with hlt | hge
  · exact hlt
  · simp [parseType, Array.getElem?_eq_none hge] at h

theorem isKeyword_final_of_parseType {k n : Nat} (h : ts.parseType k = some n) :
    ts.isKeyword k "final" = false := by
  have hlt := lt_size_of_parseType h
  simp only [parseType, Array.getElem?_eq_getElem hlt] at h
  simp only [isKeyword, Array.getElem?_eq_getElem hlt, Option.any_some, Token.isKeyword,
    Bool.and_eq_false_iff, beq_eq_false_iff_ne]
  by_cases hprim : ts[k].isPrimitiveType
  · right
    intro hword
    simp [Token.isPrimitiveType, hword, primitiveTypes] at hprim
  · left
    rw [if_neg hprim] at h
    split at h
    · simp_all [Token.isIdentifier]
    · simp at h

theorem isIdentifier_of_isWord {k : Nat} {w : String} (h : ts.isWord k w) : ts.isIdentifier k := by
  simp only [isWord, isIdentifier, Option.any_eq_true] at h ⊢
  obtain ⟨t, ht, hw⟩ := h
  exact ⟨t, ht, by simp_all [Token.isWord, Token.isIdentifier]⟩

theorem isOp_of_isIdentifier {k : Nat} {op : String} (h : ts.isIdentifier k) :
    ts.isOp k op = false := by
  have hlt := lt_size_of_isIdentifier h
  simp [isOp, hlt, Token.isOperator, kind_of_isIdentifier h hlt]

theorem parseType_single {k : Nat} (hid : ts.isIdentifier k)
    (hangle : ts.isOp (k + 1) "<" = false) (hdot : ts.isOp (k + 1) "." = false)
    (hbracket : ts.isOp (k + 1) "[" = false) : ts.parseType k = some (k + 1) := by
  have hlt := lt_size_of_isIdentifier hid
  have hk := kind_of_isIdentifier hid hlt
  have hclass : ts.afterClassType k = some (k + 1) := by
    rw [afterClassType, dif_pos hlt]
    simp [hangle, hdot]
  have hdims : ts.skipDimensions (k + 1) = k + 1 := by
    rw [skipDimensions]
    split <;> simp [hbracket]
  simp [parseType, hlt, Token.isPrimitiveType, Token.isIdentifier, hk, hclass, hdims]

theorem parseType_single_of_isOp {k : Nat} {op : String} (hid : ts.isIdentifier k)
    (hop : ts.isOp (k + 1) op) (hne : op ∉ ["<", ".", "["]) : ts.parseType k = some (k + 1) := by
  simp only [List.mem_cons, List.not_mem_nil, or_false, not_or] at hne
  exact parseType_single hid (isOp_eq_false "<" hop (Ne.symm hne.1))
    (isOp_eq_false "." hop (Ne.symm hne.2.1)) (isOp_eq_false "[" hop (Ne.symm hne.2.2))

theorem parseType_unnamed {k : Nat} (hw : ts.isWord k "_")
    (hnext : ts.isOp (k + 1) "," ∨ ts.isOp (k + 1) ")") : ts.parseType k = some (k + 1) := by
  obtain ⟨op, hop, hne⟩ : ∃ op, ts.isOp (k + 1) op ∧ op ∉ ["<", ".", "["] := by
    rcases hnext with h | h
    · exact ⟨",", h, by decide⟩
    · exact ⟨")", h, by decide⟩
  exact parseType_single_of_isOp (isIdentifier_of_isWord hw) hop hne

def StartsNoPattern (ts : Tokens) (j : Nat) : Prop :=
  (∃ t, ts[j]? = some t ∧ (t.kind = .literal ∨ t.kind = .operator ∨
    (t.kind = .keyword ∧ t.isPrimitiveType = false ∧ t.word ≠ "final"))) ∨
  ∃ k, ts.parseType j = some k ∧ ts.isIdentifier k = false ∧ ts.isOp k "(" = false

mutual

/-- The tokens from `i` up to `n` spell a pattern that binds the names at `bs`, left to
right. -/
inductive PatternAt (ts : Tokens) : Nat → Nat → List Nat → Prop
  | type {i after : Nat} : ts.parseType i = some after → ts.isIdentifier after →
      PatternAt ts i (after + 1) [after]
  | finalType {i after : Nat} : ts.isKeyword i "final" → ts.parseType (i + 1) = some after →
      ts.isIdentifier after → PatternAt ts i (after + 1) [after]
  | emptyRecord {i after : Nat} : ts.parseType i = some after → ts.isOp after "(" →
      ts.isOp (after + 1) ")" → PatternAt ts i (after + 2) []
  | record {i after close : Nat} {bs : List Nat} : ts.parseType i = some after →
      ts.isOp after "(" → ComponentsAt ts (after + 1) close bs → ts.isOp close ")" →
      PatternAt ts i (close + 1) bs

inductive ComponentAt (ts : Tokens) : Nat → Nat → List Nat → Prop
  | pattern {k m : Nat} {bs : List Nat} : PatternAt ts k m bs → ComponentAt ts k m bs
  | unnamed {k : Nat} : ts.isWord k "_" → ComponentAt ts k (k + 1) []

inductive ComponentsAt (ts : Tokens) : Nat → Nat → List Nat → Prop
  | last {k close : Nat} {bs : List Nat} : ComponentAt ts k close bs → ComponentsAt ts k close bs
  | cons {k m close : Nat} {bs bs' : List Nat} : ComponentAt ts k m bs → ts.isOp m "," →
      ComponentsAt ts (m + 1) close bs' → ComponentsAt ts k close (bs ++ bs')

end

mutual

theorem PatternAt.lt {i n : Nat} {bs : List Nat} : ts.PatternAt i n bs → i < n
  | .type hty _ => by have := parseType_gt hty; omega
  | .finalType _ hty _ => by have := parseType_gt hty; omega
  | .emptyRecord hty _ _ => by have := parseType_gt hty; omega
  | .record hty _ hcs _ => by
    have := parseType_gt hty
    have := hcs.lt
    omega

theorem ComponentAt.lt {k m : Nat} {bs : List Nat} : ts.ComponentAt k m bs → k < m
  | .pattern hp => hp.lt
  | .unnamed _ => Nat.lt_succ_self k

theorem ComponentsAt.lt {k close : Nat} {bs : List Nat} : ts.ComponentsAt k close bs → k < close
  | .last hc => hc.lt
  | .cons hc _ hcs => by
    have := hc.lt
    have := hcs.lt
    omega

end

mutual

theorem PatternAt.balanced {i n : Nat} {bs : List Nat} : ts.PatternAt i n bs → ts.Balanced i n
  | .type hty hid => (balanced_parseType hty).trans (balanced_isIdentifier hid)
  | .finalType hfin hty hid =>
    (balanced_isKeyword hfin).trans ((balanced_parseType hty).trans (balanced_isIdentifier hid))
  | .emptyRecord hty hopen hclose => by
    have hmatch := matchingClose_of_balanced hopen (Balanced.refl _) hclose
    have hbracket := balanced_afterBracket hopen
    rw [afterBracket, hmatch] at hbracket
    exact (balanced_parseType hty).trans hbracket
  | .record hty hopen hcs hclose => by
    have hmatch := matchingClose_of_balanced hopen hcs.balanced hclose
    have hbracket := balanced_afterBracket hopen
    rw [afterBracket, hmatch] at hbracket
    exact (balanced_parseType hty).trans hbracket

theorem ComponentAt.balanced {k m : Nat} {bs : List Nat} : ts.ComponentAt k m bs → ts.Balanced k m
  | .pattern hp => hp.balanced
  | .unnamed hw => balanced_isIdentifier (isIdentifier_of_isWord hw)

theorem ComponentsAt.balanced {k close : Nat} {bs : List Nat} :
    ts.ComponentsAt k close bs → ts.Balanced k close
  | .last hc => hc.balanced
  | .cons hc hcomma hcs =>
    hc.balanced.trans ((balanced_isOp hcomma (by decide) (by decide)).trans hcs.balanced)

end

end NamingLint.Declaration.Tokens

namespace NamingLint.Declaration

open Java Tokens

namespace Scan

def addFound (s : Scan) (os : List Occurrence) : Scan := { s with found := s.found ++ os.toArray }

@[simp] theorem addFound_nil (s : Scan) : s.addFound [] = s := by simp [addFound]

theorem addFound_addFound (s : Scan) (a b : List Occurrence) :
    (s.addFound a).addFound b = s.addFound (a ++ b) := by
  simp [addFound, Array.append_assoc]

end Scan

namespace Scanner

variable {sc : Scanner}

def recordedAt (sc : Scanner) (role : Role) (b : Nat) : Option Occurrence :=
  match sc.tokens[b]? with
  | some t => if t.word == "_" then none else some (sc.occurrenceOf t role)
  | none => none

theorem record_eq_addFound (b : Nat) (hb : b < sc.tokens.size) (role : Role) (s : Scan) :
    sc.record b hb role s = s.addFound ([b].filterMap (sc.recordedAt role)) := by
  simp only [List.filterMap_cons, List.filterMap_nil]
  unfold record recordedAt
  rw [Array.getElem?_eq_getElem hb]
  dsimp only
  split <;> simp_all [Scan.addFound, occurrenceOf]

theorem pattern_of_isOp {k : Nat} {op : String} (h : sc.tokens.isOp k op) (s : Scan) :
    sc.pattern k s = none := by
  rw [pattern, dif_pos (lt_size_of_isOp h)]
  simp [isKeyword_of_isOp h, parseType_of_isOp h]

theorem pattern_unnamed {k : Nat} (hw : sc.tokens.isWord k "_")
    (hnext : sc.tokens.isOp (k + 1) "," ∨ sc.tokens.isOp (k + 1) ")") (s : Scan) :
    sc.pattern k s = none := by
  have hty := parseType_unnamed hw hnext
  obtain ⟨op, hop⟩ : ∃ op, sc.tokens.isOp (k + 1) op := by
    rcases hnext with h | h
    · exact ⟨_, h⟩
    · exact ⟨_, h⟩
  have hparen : sc.tokens.isOp (k + 1) "(" = false := by
    rcases hnext with h | h
    · exact isOp_eq_false "(" h (by decide)
    · exact isOp_eq_false "(" h (by decide)
  rw [pattern, dif_pos (lt_size_of_parseType hty)]
  simp [isKeyword_final_of_parseType hty, hty, isIdentifier_of_isOp hop, hparen]

theorem patternsUntil_self (close : Nat) (s : Scan) : sc.patternsUntil close close s = s := by
  rw [patternsUntil, dif_neg (by omega)]

theorem patternsUntil_of_some {k close n : Nat} {s s' : Scan} (hk : k < close)
    (hks : k < sc.tokens.size) (h : sc.pattern k s = some (n, s')) :
    sc.patternsUntil k close s = sc.patternsUntil (max n (k + 1)) close s' := by
  rw [patternsUntil, dif_pos ⟨hk, hks⟩, h]

theorem patternsUntil_of_none {k close : Nat} {s : Scan} (hk : k < close)
    (hks : k < sc.tokens.size) (h : sc.pattern k s = none) :
    sc.patternsUntil k close s = sc.patternsUntil (k + 1) close s := by
  rw [patternsUntil, dif_pos ⟨hk, hks⟩, h]

mutual

theorem PatternAt.pattern {i n : Nat} {bs : List Nat} (s : Scan) :
    sc.tokens.PatternAt i n bs →
      sc.pattern i s = some (n, s.addFound (bs.filterMap (sc.recordedAt .localVariable)))
  | .type hty hid => by
    rw [pattern, dif_pos (lt_size_of_parseType hty)]
    simp [isKeyword_final_of_parseType hty, hty, hid, record_eq_addFound]
  | .finalType hfin hty hid => by
    rw [pattern, dif_pos (lt_size_of_isKeyword hfin)]
    simp [hfin, hty, hid, record_eq_addFound]
  | .emptyRecord hty hopen hclose => by
    have hmatch := matchingClose_of_balanced hopen (Balanced.refl _) hclose
    have hgt := parseType_gt hty
    rw [pattern, dif_pos (lt_size_of_parseType hty)]
    simp [isKeyword_final_of_parseType hty, hty, isIdentifier_of_isOp hopen, hopen, hmatch,
      Nat.max_eq_left (show _ + 1 ≤ _ + 1 from Nat.succ_le_succ hgt.le), patternsUntil_self]
  | .record hty hopen hcs hclose => by
    have hmatch := matchingClose_of_balanced hopen hcs.balanced hclose
    have hgt := parseType_gt hty
    rw [pattern, dif_pos (lt_size_of_parseType hty)]
    simp [isKeyword_final_of_parseType hty, hty, isIdentifier_of_isOp hopen, hopen, hmatch,
      Nat.max_eq_left (show _ + 1 ≤ _ + 1 from Nat.succ_le_succ hgt.le),
      ComponentsAt.patternsUntil hclose s hcs]

theorem ComponentAt.patternsUntil {k m close : Nat} {bs : List Nat} (hm : m ≤ close)
    (hnext : sc.tokens.isOp m "," ∨ sc.tokens.isOp m ")") (s : Scan) :
    sc.tokens.ComponentAt k m bs →
      sc.patternsUntil k close s =
        sc.patternsUntil m close (s.addFound (bs.filterMap (sc.recordedAt .localVariable)))
  | .pattern hp => by
    have hlt := hp.lt
    have hmsize : m < sc.tokens.size := by
      rcases hnext with h | h <;> exact lt_size_of_isOp h
    rw [patternsUntil_of_some (by omega) (by omega) (PatternAt.pattern s hp), Nat.max_eq_left hlt]
  | .unnamed hw => by
    have hmsize : k + 1 < sc.tokens.size := by
      rcases hnext with h | h <;> exact lt_size_of_isOp h
    rw [patternsUntil_of_none (by omega) (by omega) (pattern_unnamed hw hnext s)]
    simp

theorem ComponentsAt.patternsUntil {k close : Nat} {bs : List Nat}
    (hclose : sc.tokens.isOp close ")") (s : Scan) :
    sc.tokens.ComponentsAt k close bs →
      sc.patternsUntil k close s = s.addFound (bs.filterMap (sc.recordedAt .localVariable))
  | .last hc => by
    rw [ComponentAt.patternsUntil (Nat.le_refl _) (Or.inr hclose) s hc, patternsUntil_self]
  | .cons hc hcomma hcs => by
    have hlt := hcs.lt
    rw [ComponentAt.patternsUntil (by omega) (Or.inl hcomma) s hc,
      patternsUntil_of_none (by omega) (lt_size_of_isOp hcomma) (pattern_of_isOp hcomma _),
      ComponentsAt.patternsUntil hclose _ hcs, Scan.addFound_addFound, List.filterMap_append]

end

theorem localDeclaration_of_keyword {i : Nat} {w : String} (hkw : sc.tokens.isKeyword i w)
    (hw : w = "instanceof" ∨ w = "case") (s : Scan) : sc.localDeclaration i s = none := by
  have hlt := lt_size_of_isKeyword hkw
  have ht : sc.tokens[i].kind = .keyword ∧ sc.tokens[i].word = w := by
    simpa [isKeyword, hlt, Token.isKeyword] using hkw
  have hnot : ∀ m ∈ ["static", "final", "synchronized"] ++ plainModifiers,
      sc.tokens[i].text ≠ m := by
    intro m hm htext
    have hplain : '\\' ∉ m.toList := by
      simp only [plainModifiers, List.cons_append, List.nil_append, List.mem_cons,
        List.not_mem_nil, or_false] at hm
      rcases hm with rfl | rfl | rfl | rfl | rfl | rfl | rfl | rfl | rfl | rfl | rfl | rfl <;> simp
    have hword : sc.tokens[i].word = m := by rw [Token.word, htext, decodeEscapes_plain hplain]
    rw [ht.2] at hword
    subst hword
    rcases hw with rfl | rfl <;> simp [plainModifiers] at hm
  have hmods : sc.tokens.skipModifiers i {} = (i, {}) := by
    rw [skipModifiers, dif_pos hlt]
    simp only [List.mem_append, List.mem_cons, List.not_mem_nil, or_false] at hnot
    simp [Token.isOperator, ht.1, hnot, plainModifiers]
  have hword : ∀ v, sc.tokens.isWord i v = false := by
    intro v
    simp [isWord, hlt, Token.isWord, ht.1]
  have hother : ∀ v ∈ ["class", "interface", "enum"], sc.tokens.isKeyword i v = false := by
    intro v hv
    simp only [isKeyword, Array.getElem?_eq_getElem hlt, Option.any_some, Token.isKeyword, ht.2]
    rcases hw with rfl | rfl <;> simp at hv <;> rcases hv with rfl | rfl | rfl <;> simp
  have hdecl : sc.tokens.isTypeDeclaration i = false := by
    simp [isTypeDeclaration, hother, hword, isOp, hlt, Token.isOperator, ht.1]
  have htype : sc.tokens.parseType i = none := by
    rcases hw with rfl | rfl <;>
      simp [parseType, hlt, Token.isPrimitiveType, Token.isIdentifier, ht.1, ht.2, primitiveTypes]
  unfold localDeclaration
  simp [hmods, hdecl, hword, htype]

theorem pattern_of_startsNoPattern {j : Nat} (h : sc.tokens.StartsNoPattern j) (s : Scan) :
    sc.pattern j s = none := by
  rcases h with ⟨t, ht, hkind⟩ | ⟨k, hty, hid, hparen⟩
  · obtain ⟨hlt, rfl⟩ := Array.getElem?_eq_some_iff.mp ht
    have hfinal : sc.tokens.isKeyword j "final" = false := by
      simp only [isKeyword, ht, Option.any_some, Token.isKeyword, Bool.and_eq_false_iff,
        beq_eq_false_iff_ne]
      rcases hkind with h | h | ⟨-, -, h⟩
      · left; simp [h]
      · left; simp [h]
      · right; exact h
    have htype : sc.tokens.parseType j = none := by
      have hnotype :
          sc.tokens[j].isPrimitiveType = false ∧ sc.tokens[j].isIdentifier = false := by
        rcases hkind with h | h | ⟨h, hprim, -⟩
        · simp [Token.isPrimitiveType, Token.isIdentifier, h]
        · simp [Token.isPrimitiveType, Token.isIdentifier, h]
        · exact ⟨hprim, by simp [Token.isIdentifier, h]⟩
      simp [parseType, ht, hnotype.1, hnotype.2]
    rw [pattern, dif_pos hlt]
    simp [hfinal, htype]
  · rw [pattern, dif_pos (lt_size_of_parseType hty)]
    simp [isKeyword_final_of_parseType hty, hty, hid, hparen]

theorem afterPattern_of_patternAt {i n : Nat} {bs : List Nat}
    (h : sc.tokens.PatternAt (i + 1) n bs) (s : Scan) :
    sc.afterPattern i s = (n, s.addFound (bs.filterMap (sc.recordedAt .localVariable))) := by
  rw [afterPattern, PatternAt.pattern s h]
  rfl

theorem afterPattern_of_none {i : Nat} {s : Scan} (h : sc.pattern (i + 1) s = none) :
    sc.afterPattern i s = (i + 1, s) := by
  rw [afterPattern, h]
  rfl

theorem blockToken_of_keyword {i : Nat}
    (hkw : sc.tokens.isKeyword i "instanceof" ∨ sc.tokens.isKeyword i "case") (s : Scan) :
    sc.blockToken i s = sc.afterPattern i s := by
  obtain ⟨w, hw, hkw'⟩ :
      ∃ w, (w = "instanceof" ∨ w = "case") ∧ sc.tokens.isKeyword i w := by
    rcases hkw with h | h
    · exact ⟨_, Or.inl rfl, h⟩
    · exact ⟨_, Or.inr rfl, h⟩
  have hlt := lt_size_of_isKeyword hkw'
  have hkind : sc.tokens[i].kind = .keyword := by
    have h := hkw'
    simp only [isKeyword, Array.getElem?_eq_getElem hlt, Option.any_some, Token.isKeyword,
      Bool.and_eq_true, beq_iff_eq] at h
    exact h.1
  have hop : ∀ op, sc.tokens.isOp i op = false := by
    intro op
    simp [isOp, hlt, Token.isOperator, hkind]
  unfold blockToken
  simp [localDeclaration_of_keyword hkw' hw s, hop, hkw]

theorem declaratorToken_of_instanceof {i : Nat} {t : Token} (ht : sc.tokens[i]? = some t)
    (hk : t.kind = .keyword) (htext : t.text = "instanceof") (role : Role) (depth : Nat)
    (s : Scan) : sc.declaratorToken role depth i s = sc.afterPattern i s := by
  obtain ⟨hi, hti⟩ := Array.getElem?_eq_some_iff.1 ht
  unfold declaratorToken
  rw [dif_pos hi]
  simp [hti, hk, htext]

end Scanner

end NamingLint.Declaration

namespace NamingLint.Declaration.Scanner

open Java Tokens

/-- After `instanceof` or `case`, the scanner reads a pattern of the grammar to its end and
records exactly the names it binds other than `_`, from left to right, as local variables;
when what follows starts no pattern, it records nothing and reads on from the next token. A
block finds these keywords by their decoded words, a declarator list finds `instanceof` by its
text as written. -/
theorem patterns_record_bindings (sc : Scanner) (i : Nat) (s : Scan) :
    (∀ n bs, sc.tokens.PatternAt (i + 1) n bs →
      sc.afterPattern i s = (n, s.addFound (bs.filterMap (sc.recordedAt .localVariable))) ∧
      ((sc.tokens.isKeyword i "instanceof" ∨ sc.tokens.isKeyword i "case") →
        sc.blockToken i s = (n, s.addFound (bs.filterMap (sc.recordedAt .localVariable)))) ∧
      (∀ t role depth, sc.tokens[i]? = some t → t.kind = .keyword → t.text = "instanceof" →
        sc.declaratorToken role depth i s =
          (n, s.addFound (bs.filterMap (sc.recordedAt .localVariable))))) ∧
    (sc.tokens.StartsNoPattern (i + 1) →
      sc.afterPattern i s = (i + 1, s) ∧
      ((sc.tokens.isKeyword i "instanceof" ∨ sc.tokens.isKeyword i "case") →
        sc.blockToken i s = (i + 1, s)) ∧
      (∀ t role depth, sc.tokens[i]? = some t → t.kind = .keyword → t.text = "instanceof" →
        sc.declaratorToken role depth i s = (i + 1, s))) := by
  constructor
  · intro n bs h
    have hafter := afterPattern_of_patternAt h s
    exact ⟨hafter, fun hkw => (blockToken_of_keyword hkw s).trans hafter,
      fun t role depth ht hk htext =>
        (declaratorToken_of_instanceof ht hk htext role depth s).trans hafter⟩
  · intro hno
    have hafter := afterPattern_of_none (pattern_of_startsNoPattern hno s)
    exact ⟨hafter, fun hkw => (blockToken_of_keyword hkw s).trans hafter,
      fun t role depth ht hk htext =>
        (declaratorToken_of_instanceof ht hk htext role depth s).trans hafter⟩

def recordPatternTokens : Tokens :=
  #[⟨.identifier, "o", 0, 1⟩, ⟨.keyword, "instanceof", 2, 12⟩, ⟨.identifier, "R", 13, 14⟩,
    ⟨.operator, "(", 14, 15⟩, ⟨.identifier, "String", 15, 21⟩, ⟨.identifier, "s", 22, 23⟩,
    ⟨.operator, ",", 23, 24⟩, ⟨.identifier, "_", 25, 26⟩, ⟨.operator, ")", 26, 27⟩]

def recordPatternScanner : Scanner :=
  { tokens := recordPatternTokens, anonymous := Array.replicate 9 false,
    lines := Source.LineIndex.ofString "o instanceof R(String s, _)", anonymous_size := rfl }

theorem recordPattern_binds_s :
    recordPatternTokens.PatternAt 2 9 [5] ∧ recordPatternTokens.StartsNoPattern 3 ∧
      recordPatternScanner.afterPattern 1 ⟨[], #[]⟩ =
        (9, Scan.addFound ⟨[], #[]⟩
          ([5].filterMap (recordPatternScanner.recordedAt .localVariable))) ∧
      recordPatternScanner.afterPattern 2 ⟨[], #[]⟩ = (3, ⟨[], #[]⟩) := by
  have hP : recordPatternTokens.PatternAt 2 9 [5] := by
    have hs : recordPatternTokens.PatternAt 4 6 [5] := .type (by cbv) (by cbv)
    have hunnamed : recordPatternTokens.ComponentAt 7 8 [] :=
      .unnamed
        (by simp [recordPatternTokens, isWord, Token.isWord, Token.word, decodeEscapes_plain])
    exact .record (by cbv) (by cbv) (.cons (.pattern hs) (by cbv) (.last hunnamed)) (by cbv)
  have hN : recordPatternTokens.StartsNoPattern 3 := .inl ⟨_, rfl, .inr (.inl rfl)⟩
  exact ⟨hP, hN, ((patterns_record_bindings recordPatternScanner 1 ⟨[], #[]⟩).1 9 [5] hP).1,
    ((patterns_record_bindings recordPatternScanner 2 ⟨[], #[]⟩).2 hN).1⟩

end NamingLint.Declaration.Scanner

import Mathlib
import NamingLint.Check.Input
import NamingLint.Proofs.Extract.Rename

namespace NamingLint

namespace CasingStyle

theorem suggest_spec {name m : String} {style : CasingStyle} (h : suggest name style = some m) :
    m ≠ name ∧ classify m = style := by
  unfold suggest at h
  split at h
  · cases h
  · split at h
    · split at h
      · rename_i hok
        cases h
        simpa using hok
      · cases h
    · cases h

end CasingStyle

namespace Check

open Declaration

variable {rules : NamingRules}

theorem violationOf_spec {o : Occurrence} {v : Violation} (h : violationOf rules o = some v) :
    v.occurrence = o ∧ rules.expected o.role = some v.expected ∧
      v.actual = CasingStyle.classify o.name ∧ v.actual ≠ v.expected ∧
      v.suggested = CasingStyle.suggest o.name v.expected := by
  unfold violationOf at h
  split at h
  · cases h
  · rename_i expected hexp
    dsimp only at h
    split at h
    · cases h
    · rename_i hne
      cases h
      exact ⟨rfl, hexp, rfl, by simpa using hne, rfl⟩

theorem violationOf_eq_none {o : Occurrence} {style : CasingStyle}
    (hexp : rules.expected o.role = some style) (hc : CasingStyle.classify o.name = style) :
    violationOf rules o = none := by
  simp [violationOf, hexp, hc]

theorem mem_check {source : String} {vs : Array Violation} (h : check source rules = .ok vs)
    {v : Violation} (hv : v ∈ vs) :
    ∃ occs, extractOccurrences source = .ok occs ∧ ∃ o ∈ occs, violationOf rules o = some v := by
  unfold check at h
  split at h
  · rename_i occs hocc
    cases h
    obtain ⟨o, ho, hov⟩ := Array.mem_filterMap.mp hv
    exact ⟨occs, hocc, o, ho, hov⟩
  · cases h

theorem check_suggestion_conforms {source : String} {vs : Array Violation}
    (h : check source rules = .ok vs) {v : Violation} (hv : v ∈ vs) {m : String}
    (hm : v.suggested = some m) :
    m ≠ v.occurrence.name ∧ CasingStyle.classify m = v.expected ∧
      ∀ o : Occurrence, o.name = m → o.role = v.occurrence.role → violationOf rules o = none := by
  obtain ⟨occs, -, o, -, hvo⟩ := mem_check h hv
  obtain ⟨rfl, hexp, -, -, hsug⟩ := violationOf_spec hvo
  rw [hsug] at hm
  obtain ⟨hne, hcls⟩ := CasingStyle.suggest_spec hm
  refine ⟨hne, hcls, fun o' hname hrole => ?_⟩
  rw [← hrole] at hexp
  exact violationOf_eq_none hexp (by rw [hname, hcls])

/-- At the start of an occurrence that conforms the checker reports nothing: occurrences are
recorded at increasing starts, so no other one starts there. -/
theorem check_silent_at_conforming {source : String} {ts : Tokens}
    (hts : Java.tokenize source = .ok ts) {occs : Array Occurrence}
    (hext : extractOccurrences source = .ok occs) {o : Occurrence} (ho : o ∈ occs)
    (hok : violationOf rules o = none) :
    ∃ ws, check source rules = .ok ws ∧ ∀ w ∈ ws, w.occurrence.start ≠ o.start := by
  obtain ⟨occs', hext', hsort, -⟩ := extractOccurrences_mirror_tokens hts
  rw [hext] at hext'
  cases hext'
  refine ⟨_, by rw [check, hext], ?_⟩
  intro w hw hwstart
  obtain ⟨o', ho', hvo'⟩ := Array.mem_filterMap.1 hw
  have ho'o : o' = o := Occurrence.eq_of_start_eq hsort (Array.mem_toList_iff.2 ho')
    (Array.mem_toList_iff.2 ho) (by rw [← (violationOf_spec hvo').1, hwstart])
  rw [ho'o, hok] at hvo'
  cases hvo'

end Check

end NamingLint

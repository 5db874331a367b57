import Mathlib
import NamingLint.Proofs.Naming.Steps

namespace NamingLint.NamingRules

def setting (key value : String) : Except RuleError (Role × Option CasingStyle) :=
  match Role.parse key with
  | .error e => .error (.unknownRole e)
  | .ok role =>
    if disabledValues.contains ((Text.trim value).map Char.toLower) then .ok (role, none)
    else
      match CasingStyle.parse value with
      | .ok s => .ok (role, some s)
      | .error e => .error (.unknownStyle role e)

def accepts (e : String × String) : Bool := (setting e.1 e.2).isOk

theorem apply_eq_setting (r : NamingRules) (key value : String) :
    r.apply key value = (setting key value).map fun x => r.set x.1 x.2 := by
  unfold apply setting
  cases Role.parse key with
  | error e => rfl
  | ok role =>
    dsimp only
    split
    · rfl
    · cases CasingStyle.parse value <;> rfl

def applyOrKeep (r : NamingRules) (e : String × String) : NamingRules :=
  match r.apply e.1 e.2 with
  | .ok r' => r'
  | .error _ => r

theorem fromConfig_eq (entries : List (String × String)) :
    fromConfig entries = (sortEntries entries).foldl applyOrKeep default := rfl

section Entries

variable {r : NamingRules} {e : String × String}

theorem applyOrKeep_of_ok {x : Role × Option CasingStyle} (h : setting e.1 e.2 = .ok x) :
    applyOrKeep r e = r.set x.1 x.2 := by
  simp [applyOrKeep, apply_eq_setting, h, Except.map]

theorem applyOrKeep_of_error {err : RuleError} (h : setting e.1 e.2 = .error err) :
    applyOrKeep r e = r := by
  simp [applyOrKeep, apply_eq_setting, h, Except.map]

theorem accepts_iff : accepts e = true ↔ ∃ x, setting e.1 e.2 = .ok x := by
  unfold accepts
  cases setting e.1 e.2 <;> simp [Except.isOk, Except.toBool]

theorem expected_foldl_applyOrKeep {role : Role} :
    ∀ (l : List (String × String)) (r : NamingRules),
      (∀ e ∈ l, ∀ s, setting e.1 e.2 ≠ .ok (role, s)) →
      (l.foldl applyOrKeep r).expected role = r.expected role
  | [], _, _ => rfl
  | e :: l, r, hl => by
    rw [List.foldl_cons, expected_foldl_applyOrKeep l _ fun e' he' => hl e' (by simp [he'])]
    cases h : setting e.1 e.2 with
    | error err => rw [applyOrKeep_of_error h]
    | ok x =>
      have hne : x.1 ≠ role := fun hx => hl e (by simp) x.2 (by rw [h, ← hx])
      rw [applyOrKeep_of_ok h, expected_set_of_ne _ _ hne.symm]

theorem foldl_applyOrKeep_filter :
    ∀ (l : List (String × String)) (r : NamingRules),
      (l.filter accepts).foldl applyOrKeep r = l.foldl applyOrKeep r
  | [], _ => rfl
  | e :: l, r => by
    cases h : setting e.1 e.2 with
    | error err =>
      have he : accepts e = false := by simp [accepts, h, Except.isOk, Except.toBool]
      rw [List.filter_cons_of_neg (by simp [he]), List.foldl_cons, applyOrKeep_of_error h,
        foldl_applyOrKeep_filter l r]
    | ok x =>
      have he : accepts e = true := accepts_iff.2 ⟨x, h⟩
      rw [List.filter_cons_of_pos he, List.foldl_cons, List.foldl_cons,
        foldl_applyOrKeep_filter l]

end Entries

theorem foldlM_apply_eq_ok_iff :
    ∀ (l : List (String × String)) (r r' : NamingRules),
      l.foldlM (fun r e => r.apply e.1 e.2) r = .ok r' ↔
        (∀ e ∈ l, accepts e) ∧ r' = l.foldl applyOrKeep r
  | [], r, r' => by
    simp only [List.foldlM_nil, List.not_mem_nil, false_implies, implies_true, true_and,
      List.foldl_nil]
    exact ⟨fun h => (Except.ok.inj h).symm, fun h => h ▸ rfl⟩
  | e :: l, r, r' => by
    rw [List.foldlM_cons, List.foldl_cons, apply_eq_setting]
    cases h : setting e.1 e.2 with
    | error err =>
      have he : accepts e = false := by simp [accepts, h, Except.isOk, Except.toBool]
      simp only [Except.map]
      exact ⟨fun h' => (nomatch h'), fun ⟨hall, _⟩ => absurd (hall e (by simp)) (by simp [he])⟩
    | ok x =>
      have he : accepts e = true := accepts_iff.2 ⟨x, h⟩
      rw [applyOrKeep_of_ok h]
      change l.foldlM _ (r.set x.1 x.2) = _ ↔ _
      rw [foldlM_apply_eq_ok_iff l]
      simp [he]

theorem foldlM_apply_eq_error_iff {err : RuleError} :
    ∀ (l : List (String × String)), l.Pairwise (fun a b => a.1 < b.1) → ∀ r : NamingRules,
      (l.foldlM (fun r e => r.apply e.1 e.2) r = .error err ↔
        ∃ e ∈ l, setting e.1 e.2 = .error err ∧ ∀ e' ∈ l, e'.1 < e.1 → accepts e')
  | [], _, r => by simp [pure, Except.pure]
  | e :: l, hl, r => by
    obtain ⟨hfirst, hl⟩ := List.pairwise_cons.1 hl
    rw [List.foldlM_cons, apply_eq_setting]
    cases h : setting e.1 e.2 with
    | error err' =>
      have he : accepts e = false := by simp [accepts, h, Except.isOk, Except.toBool]
      simp only [Except.map]
      constructor
      · intro h'
        cases h'
        refine ⟨e, by simp, h, fun e' he' hlt => ?_⟩
        -- `e` has the least key, so nothing is below it
        rcases List.mem_cons.1 he' with rfl | he'
        · exact absurd hlt (lt_irrefl _)
        · exact absurd (hfirst e' he') (lt_asymm hlt)
      · rintro ⟨e', he', herr, hbelow⟩
        rcases List.mem_cons.1 he' with rfl | he'
        · rw [h] at herr
          cases herr
          rfl
        · exact absurd (hbelow e (by simp) (hfirst e' he')) (by simp [he])
    | ok x =>
      change l.foldlM _ (r.set x.1 x.2) = _ ↔ _
      rw [foldlM_apply_eq_error_iff l hl]
      constructor
      · rintro ⟨e', he', herr, hbelow⟩
        refine ⟨e', by simp [he'], herr, fun e'' he'' hlt => ?_⟩
        rcases List.mem_cons.1 he'' with rfl | he''
        · exact accepts_iff.2 ⟨x, h⟩
        · exact hbelow e'' he'' hlt
      · rintro ⟨e', he', herr, hbelow⟩
        rcases List.mem_cons.1 he' with rfl | he'
        · rw [h] at herr
          cases herr
        · exact ⟨e', he', herr, fun e'' he'' hlt => hbelow e'' (by simp [he'']) hlt⟩

theorem sortEntries_pairwise {p : List (String × String)} (hp : (p.map Prod.fst).Nodup) :
    (sortEntries p).Pairwise (fun a b => a.1 < b.1) := by
  have hle : (sortEntries p).Pairwise (fun a b => a.1 ≤ b.1) := by
    have := @List.pairwise_mergeSort _ (fun a b : String × String => decide (a.1 ≤ b.1))
      (fun _ _ _ h₁ h₂ => by simp only [decide_eq_true_eq] at *; exact le_trans h₁ h₂)
      (fun a b => by simpa using le_total a.1 b.1) p
    simpa [sortEntries] using this
  have hne : (sortEntries p).Pairwise (fun a b => a.1 ≠ b.1) := by
    have hperm : ((sortEntries p).map Prod.fst).Perm (p.map Prod.fst) :=
      (List.mergeSort_perm p _).map Prod.fst
    exact List.pairwise_map.1 (hperm.nodup_iff.2 hp)
  exact (hle.and hne).imp fun ⟨h₁, h₂⟩ => lt_of_le_of_ne h₁ h₂

theorem sortEntries_eq_of_perm {p l : List (String × String)} (hp : (p.map Prod.fst).Nodup)
    (hl : l.Pairwise (fun a b => a.1 < b.1)) (hperm : l.Perm p) : sortEntries p = l :=
  List.Perm.eq_of_pairwise (fun _ _ _ _ h₁ h₂ => absurd (h₁.trans h₂) (lt_irrefl _))
    (sortEntries_pairwise hp) hl ((List.mergeSort_perm p _).trans hperm.symm)

theorem mem_sortEntries {p : List (String × String)} {e : String × String} :
    e ∈ sortEntries p ↔ e ∈ p :=
  (List.mergeSort_perm p _).mem_iff

theorem expected_foldl_of_greatest {role : Role} {style : Option CasingStyle} {k v : String} :
    ∀ (l : List (String × String)), l.Pairwise (fun a b => a.1 < b.1) → (k, v) ∈ l →
      setting k v = .ok (role, style) →
      (∀ e ∈ l, ∀ s, setting e.1 e.2 = .ok (role, s) → e.1 ≤ k) →
      ∀ r : NamingRules, (l.foldl applyOrKeep r).expected role = style
  | [], _, hmem, _, _, _ => absurd hmem (by simp)
  | e :: l, hl, hmem, hset, hmax, r => by
    obtain ⟨hfirst, hl⟩ := List.pairwise_cons.1 hl
    rw [List.foldl_cons]
    rcases List.mem_cons.1 hmem with rfl | hmem
    · -- every later entry has a greater key, so none of them sets `role`
      have hlater : ∀ e' ∈ l, ∀ s, setting e'.1 e'.2 ≠ .ok (role, s) := fun e' he' s hs =>
        absurd (hmax e' (by simp [he']) s hs) (not_le.2 (hfirst e' he'))
      rw [expected_foldl_applyOrKeep l _ hlater, applyOrKeep_of_ok (e := (k, v)) hset, expected_set_self]
    · exact expected_foldl_of_greatest l hl hmem hset (fun e' he' => hmax e' (by simp [he'])) _

/-- Reading rules from a configuration with distinct keys. Applying an entry sets what its text
says, whatever the table. Both readings are the same for every order of the entries. The strict
reading succeeds exactly when every entry is accepted, with the table of the lenient reading; it
fails otherwise with the error of the rejected entry of least key. The lenient reading is the
strict reading of the accepted entries, and of the entries for one role the one of greatest key
wins. -/
theorem config_applies_in_key_order {p : List (String × String)} (hp : (p.map Prod.fst).Nodup) :
    (∀ (r : NamingRules) key value,
      r.apply key value = (setting key value).map fun x => r.set x.1 x.2) ∧
    (∀ q : List (String × String), q.Perm p →
      tryFromConfig q = tryFromConfig p ∧ fromConfig q = fromConfig p) ∧
    (∀ r, tryFromConfig p = .ok r ↔ (∀ e ∈ p, accepts e) ∧ r = fromConfig p) ∧
    (∀ err, tryFromConfig p = .error err ↔
      ∃ e ∈ p, setting e.1 e.2 = .error err ∧ ∀ e' ∈ p, e'.1 < e.1 → accepts e') ∧
    tryFromConfig (p.filter accepts) = .ok (fromConfig p) ∧
    ∀ key value role style, (key, value) ∈ p → setting key value = .ok (role, style) →
      (∀ e ∈ p, ∀ s, setting e.1 e.2 = .ok (role, s) → e.1 ≤ key) →
      (fromConfig p).expected role = style := by
  have hsorted := sortEntries_pairwise hp
  refine ⟨apply_eq_setting, fun q hq => ?_, fun r => ?_, fun err => ?_, ?_,
    fun key value role style hmem hset hmax => ?_⟩
  · have hsame : sortEntries q = sortEntries p :=
      sortEntries_eq_of_perm ((hq.map Prod.fst).nodup_iff.2 hp) hsorted
        ((List.mergeSort_perm p _).trans hq.symm)
    rw [tryFromConfig, tryFromConfig, fromConfig_eq, fromConfig_eq, hsame]
    exact ⟨rfl, rfl⟩
  · rw [tryFromConfig, foldlM_apply_eq_ok_iff, fromConfig_eq]
    simp [mem_sortEntries]
  · rw [tryFromConfig, foldlM_apply_eq_error_iff _ hsorted]
    simp [mem_sortEntries]
  · have hfilter : sortEntries (p.filter accepts) = (sortEntries p).filter accepts :=
      sortEntries_eq_of_perm (hp.sublist (List.filter_sublist.map _)) (hsorted.filter _)
        ((List.mergeSort_perm p _).filter _)
    rw [tryFromConfig, hfilter, (foldlM_apply_eq_ok_iff _ _ _).2
      ⟨fun e he => (List.mem_filter.1 he).2, rfl⟩, foldl_applyOrKeep_filter, fromConfig_eq]
  · rw [fromConfig_eq]
    exact expected_foldl_of_greatest _ hsorted (mem_sortEntries.2 hmem) hset
      (fun e he => hmax e (mem_sortEntries.1 he)) _

theorem member_key_overrides_field :
    (([("member", "PascalCase"), ("field", "snake_case"), ("class", "off")] :
        List (String × String)).map Prod.fst).Nodup ∧
      (fromConfig [("member", "PascalCase"), ("field", "snake_case"), ("class", "off")]).expected
        .field = some .pascalCase := by
  have hp : (([("member", "PascalCase"), ("field", "snake_case"), ("class", "off")] :
      List (String × String)).map Prod.fst).Nodup := by decide
  refine ⟨hp, (config_applies_in_key_order hp).2.2.2.2.2 "member" "PascalCase" .field
    (some .pascalCase) (by simp) (by cbv) ?_⟩
  -- every key is at most `member`
  intro e he _ _
  simp only [List.mem_cons, List.not_mem_nil, or_false] at he
  rcases he with rfl | rfl | rfl <;> decide

end NamingLint.NamingRules

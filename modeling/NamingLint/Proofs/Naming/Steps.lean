import Mathlib
import NamingLint.Naming.Rules

namespace NamingLint

def Role.spellings : List String :=
  ["field", "member", "method", "localVariable", "local_variable", "local", "class", "type",
   "constant"]

theorem Role.parse_cases (s : String) :
    (Text.trim s ∈ spellings ∧ ∃ role, parse s = .ok role) ∨
      (Text.trim s ∉ spellings ∧ parse s = .error ⟨Text.trim s⟩) := by
  unfold parse
  split <;> simp_all [spellings]

namespace CasingStyle

theorem name_injective : Function.Injective name := by
  intro a b h
  cases a <;> cases b <;> first | rfl | simp [name] at h

theorem mem_all (st : CasingStyle) : st ∈ all := by
  cases st <;> simp [all]

theorem ofAlias_normalize_name (st : CasingStyle) : ofAlias (normalize st.name) = some st := by
  -- one evaluation for all the styles
  have h : (all.all fun st => ofAlias (normalize st.name) == some st) = true := by decide +kernel
  exact beq_iff_eq.1 (List.all_eq_true.1 h st (mem_all st))

theorem parse_eq_ok_iff {s : String} {st : CasingStyle} :
    parse s = .ok st ↔ s = st.name ∨ ofAlias (normalize s) = some st := by
  unfold parse
  split
  · rename_i st' hfind
    have hname : st'.name = s := by simpa using List.find?_some hfind
    subst hname
    rw [ofAlias_normalize_name]
    constructor
    · intro h
      cases h
      exact .inr rfl
    · rintro (h | h)
      · rw [name_injective h]
      · cases h
        rfl
  · rename_i hfind
    have hnot : s ≠ st.name := fun h => by
      simpa [h] using List.find?_eq_none.1 hfind st (mem_all st)
    split <;> simp_all

theorem parse_error {s : String} {e : UnknownStyle} (h : parse s = .error e) : e = ⟨s⟩ := by
  unfold parse at h
  split at h
  · cases h
  · split at h
    · cases h
    · cases h
      rfl

end CasingStyle

namespace NamingRules

@[ext] theorem ext {r r' : NamingRules} (h : ∀ role, r.expected role = r'.expected role) :
    r = r' := by
  cases r
  cases r'
  have := h .field
  have := h .method
  have := h .localVariable
  have := h .type
  have := h .constant
  simp_all [expected]

@[simp] theorem expected_set_self (r : NamingRules) (role : Role) (v : Option CasingStyle) :
    (r.set role v).expected role = v := by
  cases role <;> rfl

theorem expected_set_of_ne (r : NamingRules) {role role' : Role} (v : Option CasingStyle)
    (h : role' ≠ role) : (r.set role v).expected role' = r.expected role' := by
  cases role <;> cases role' <;> first | rfl | exact absurd rfl h

def Disables (style : String) : Prop := (Text.trim style).map Char.toLower ∈ disabledValues

variable (r : NamingRules) (role style : String)

theorem apply_cases :
    (Text.trim role ∉ Role.spellings ∧ r.apply role style = .error (.unknownRole ⟨Text.trim role⟩)) ∨
    ∃ ro, Role.parse role = .ok ro ∧
      ((Disables style ∧ r.apply role style = .ok (r.set ro none)) ∨
       (¬Disables style ∧ ∃ st, CasingStyle.parse style = .ok st ∧
          r.apply role style = .ok (r.set ro (some st))) ∨
       (¬Disables style ∧ (∀ st, CasingStyle.parse style ≠ .ok st) ∧
          r.apply role style = .error (.unknownStyle ro ⟨style⟩))) := by
  rcases Role.parse_cases role with ⟨-, ro, hro⟩ | ⟨hnot, hro⟩
  · refine .inr ⟨ro, hro, ?_⟩
    unfold apply Disables
    rw [hro]
    dsimp only
    by_cases hoff : (Text.trim style).map Char.toLower ∈ disabledValues
    · exact .inl ⟨hoff, by simp [hoff]⟩
    · have hoff' : disabledValues.contains ((Text.trim style).map Char.toLower) = false := by
        simpa using hoff
      rw [hoff']
      cases hst : CasingStyle.parse style with
      | ok st => exact .inr (.inl ⟨hoff, st, rfl, rfl⟩)
      | error e =>
        obtain rfl := CasingStyle.parse_error hst
        exact .inr (.inr ⟨hoff, fun st => by simp, by simp⟩)
  · refine .inl ⟨hnot, ?_⟩
    unfold apply
    rw [hro]

theorem apply_error_of_error {e : RuleError} (h : r.apply role style = .error e)
    (r' : NamingRules) : r'.apply role style = .error e := by
  unfold apply at h ⊢
  cases hro : Role.parse role with
  | error e' => simpa [hro] using h
  | ok ro =>
    simp only [hro] at h ⊢
    split at h
    · cases h
    · rename_i hoff
      rw [if_neg hoff]
      cases hst : CasingStyle.parse style with
      | ok st => simp [hst] at h
      | error e' => simpa [hst] using h

theorem splitEntry_of_eq {entry : String} {before after : List Char}
    (h : entry.toList = before ++ '=' :: after) (hb : '=' ∉ before) :
    splitEntry entry = some (String.ofList before, String.ofList after) := by
  have hne : ∀ c ∈ before, decide (c ≠ '=') = true := fun c hc =>
    decide_eq_true fun hc' => hb (hc' ▸ hc)
  unfold splitEntry
  rw [h, List.span_eq_takeWhile_dropWhile, List.takeWhile_append_of_pos hne,
    List.dropWhile_append_of_pos hne]
  simp

theorem splitEntry_eq_none_iff (entry : String) :
    splitEntry entry = none ↔ '=' ∉ entry.toList := by
  have hrest : splitEntry entry = none ↔ entry.toList.dropWhile (fun c => decide (c ≠ '=')) = [] := by
    unfold splitEntry
    rw [List.span_eq_takeWhile_dropWhile]
    generalize entry.toList.dropWhile (fun c => decide (c ≠ '=')) = rest
    cases rest <;> simp
  rw [hrest, List.dropWhile_eq_nil_iff]
  exact ⟨fun h hm => by simpa using h _ hm, fun h c hc => decide_eq_true fun he => h (he ▸ hc)⟩

theorem applyOverride_of_eq {entry : String} {before after : List Char}
    (h : entry.toList = before ++ '=' :: after) (hb : '=' ∉ before) :
    r.applyOverride entry =
      r.apply (Text.trim (String.ofList before)) (Text.trim (String.ofList after)) := by
  simp [applyOverride, splitEntry_of_eq h hb]

theorem apply_ne_malformed (e : String) : r.apply role style ≠ .error (.malformedOverride e) := by
  rcases apply_cases r role style with ⟨_, h⟩ | ⟨ro, _, ⟨_, h⟩ | ⟨_, _, _, h⟩ | ⟨_, _, h⟩⟩ <;>
    rw [h] <;> simp

theorem applyOverride_malformed_iff (entry : String) :
    (∃ e, r.applyOverride entry = .error (.malformedOverride e)) ↔ '=' ∉ entry.toList := by
  rw [← splitEntry_eq_none_iff]
  unfold applyOverride
  split
  · rename_i role style hsplit
    simp only [hsplit, reduceCtorEq, iff_false, not_exists]
    exact apply_ne_malformed r _ _
  · rename_i hsplit
    simp [hsplit]

end NamingRules

/-- A change to a rules table: an entry `role = style`, a command-line entry `ROLE=STYLE`, or a
role given a style, or none, directly. -/
inductive RuleStep
  | apply (role style : String)
  | override (entry : String)
  | set (role : Role) (style : Option CasingStyle)
  | withStyle (role : Role) (style : CasingStyle)

namespace RuleStep

def run : RuleStep → NamingRules → Except RuleError NamingRules
  | apply role style, r => r.apply role style
  | override entry, r => r.applyOverride entry
  | set role style, r => .ok (r.set role style)
  | withStyle role style, r => .ok (r.withStyle role style)

def role? : RuleStep → Option Role
  | apply role _ => (Role.parse role).toOption
  | override entry =>
    (NamingRules.splitEntry entry).bind fun p => (Role.parse (Text.trim p.1)).toOption
  | set role _ | withStyle role _ => some role

theorem apply_ok {r r' : NamingRules} {role style : String} (h : r.apply role style = .ok r') :
    ∃ ro v, (Role.parse role).toOption = some ro ∧ r' = r.set ro v := by
  rcases NamingRules.apply_cases r role style with ⟨_, h'⟩ | ⟨ro, hro, ⟨_, h'⟩ | ⟨_, st, _, h'⟩ | ⟨_, _, h'⟩⟩ <;>
    rw [h'] at h <;> cases h
  · exact ⟨ro, none, by rw [hro]; rfl, rfl⟩
  · exact ⟨ro, some st, by rw [hro]; rfl, rfl⟩

theorem run_cases (st : RuleStep) (r : NamingRules) :
    (∃ e, st.run r = .error e ∧ ∀ r', st.run r' = .error e) ∨
      ∃ ro v, st.role? = some ro ∧ st.run r = .ok (r.set ro v) := by
  cases st with
  | apply role style =>
    cases h : r.apply role style with
    | error e => exact .inl ⟨e, h, fun r' => NamingRules.apply_error_of_error r role style h r'⟩
    | ok r' =>
      obtain ⟨ro, v, hro, rfl⟩ := apply_ok h
      exact .inr ⟨ro, v, hro, h⟩
  | override entry =>
    cases hsplit : NamingRules.splitEntry entry with
    | none => exact .inl ⟨.malformedOverride entry, by simp [run, NamingRules.applyOverride, hsplit],
        fun r' => by simp [run, NamingRules.applyOverride, hsplit]⟩
    | some p =>
      obtain ⟨role, style⟩ := p
      have hrun : ∀ r', run (override entry) r' = r'.apply (Text.trim role) (Text.trim style) :=
        fun r' => by simp [run, NamingRules.applyOverride, hsplit]
      cases h : r.apply (Text.trim role) (Text.trim style) with
      | error e => exact .inl ⟨e, by rw [hrun, h],
          fun r' => by rw [hrun]; exact NamingRules.apply_error_of_error r _ _ h r'⟩
      | ok r' =>
        obtain ⟨ro, v, hro, rfl⟩ := apply_ok h
        exact .inr ⟨ro, v, by simp [role?, hsplit, hro], by rw [hrun, h]⟩
  | set role style => exact .inr ⟨role, style, rfl, rfl⟩
  | withStyle role style => exact .inr ⟨role, some style, rfl, rfl⟩

end RuleStep

namespace NamingRules

variable {r : NamingRules} {role style : String} {ro : Role}

theorem apply_unknownRole_iff :
    (∃ e, r.apply role style = .error (.unknownRole e)) ↔ Text.trim role ∉ Role.spellings := by
  constructor
  · rintro ⟨e, he⟩
    rcases apply_cases r role style with ⟨hnot, _⟩ | ⟨ro, _, ⟨_, h⟩ | ⟨_, _, _, h⟩ | ⟨_, _, h⟩⟩
    · exact hnot
    all_goals (rw [h] at he; cases he)
  · intro hnot
    rcases Role.parse_cases role with ⟨hmem, _⟩ | ⟨_, hro⟩
    · exact absurd hmem hnot
    · refine ⟨⟨Text.trim role⟩, ?_⟩
      unfold apply
      rw [hro]

theorem apply_known (hro : Role.parse role = .ok ro) :
    (Disables style → r.apply role style = .ok (r.set ro none)) ∧
    (¬Disables style → ∀ st, (style = st.name ∨ CasingStyle.ofAlias (CasingStyle.normalize style) = some st) →
      r.apply role style = .ok (r.set ro (some st))) ∧
    (¬Disables style →
      (∀ st, style ≠ st.name ∧ CasingStyle.ofAlias (CasingStyle.normalize style) ≠ some st) →
      r.apply role style = .error (.unknownStyle ro ⟨style⟩)) := by
  have hoff_iff : disabledValues.contains ((Text.trim style).map Char.toLower) = true ↔
      Disables style := by
    simp [Disables]
  unfold apply
  rw [hro]
  dsimp only
  refine ⟨fun hoff => by rw [if_pos (hoff_iff.2 hoff)], fun hoff st hst => ?_, fun hoff hnone => ?_⟩
  · rw [if_neg (mt hoff_iff.1 hoff), CasingStyle.parse_eq_ok_iff.2 hst]
  · rw [if_neg (mt hoff_iff.1 hoff)]
    cases hp : CasingStyle.parse style with
    | ok st =>
      have := hnone st
      exact absurd (CasingStyle.parse_eq_ok_iff.1 hp) (by tauto)
    | error e => rw [CasingStyle.parse_error hp]

end NamingRules

/-- The laws of the rules table. A step fails on its text alone, with the same error for every
table, or it succeeds and changes no entry but that of the role it names. An entry `role = style`
fails with an unknown role exactly when the trimmed role is none of the nine spellings, whatever the
style; for a known role it switches the role off on `off`, `none` or `ignore`, sets the style that a
canonical spelling or a normalised alias names, and fails with an unknown style otherwise. A
command-line entry is malformed exactly when it holds no `=`, and otherwise applies the trimmed
texts before and after its first `=`. -/
theorem RuleStep.step_writes_one_role :
    (∀ (st : RuleStep) (T : NamingRules),
      (∃ e, st.run T = .error e ∧ ∀ T', st.run T' = .error e) ∨
      ∃ ro T', st.role? = some ro ∧ st.run T = .ok T' ∧
        ∀ ro', ro' ≠ ro → T'.expected ro' = T.expected ro') ∧
    (∀ (T : NamingRules) (role style : String),
      (∃ e, T.apply role style = .error (.unknownRole e)) ↔ Text.trim role ∉ Role.spellings) ∧
    (∀ (T : NamingRules) (role style : String) (ro : Role), Role.parse role = .ok ro →
      (NamingRules.Disables style → T.apply role style = .ok (T.set ro none)) ∧
      (¬NamingRules.Disables style → ∀ st : CasingStyle,
        (style = st.name ∨ CasingStyle.ofAlias (CasingStyle.normalize style) = some st) →
        T.apply role style = .ok (T.set ro (some st))) ∧
      (¬NamingRules.Disables style →
        (∀ st : CasingStyle,
          style ≠ st.name ∧ CasingStyle.ofAlias (CasingStyle.normalize style) ≠ some st) →
        T.apply role style = .error (.unknownStyle ro ⟨style⟩))) ∧
    (∀ (T : NamingRules) (entry : String),
      (∃ e, T.applyOverride entry = .error (.malformedOverride e)) ↔ '=' ∉ entry.toList) ∧
    (∀ (T : NamingRules) (entry : String) (before after : List Char),
      entry.toList = before ++ '=' :: after → '=' ∉ before →
      T.applyOverride entry =
        T.apply (Text.trim (String.ofList before)) (Text.trim (String.ofList after))) := by
  refine ⟨fun st T => ?_, fun _ _ _ => NamingRules.apply_unknownRole_iff,
    fun _ _ _ _ hro => NamingRules.apply_known hro, NamingRules.applyOverride_malformed_iff,
    fun T _ _ _ h hb => NamingRules.applyOverride_of_eq T h hb⟩
  rcases st.run_cases T with hfail | ⟨ro, v, hro, hrun⟩
  · exact .inl hfail
  · exact .inr ⟨ro, T.set ro v, hro, hrun, fun ro' hne => T.expected_set_of_ne v hne⟩

end NamingLint

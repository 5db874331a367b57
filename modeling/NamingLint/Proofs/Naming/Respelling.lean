import Mathlib
import NamingLint.Naming.Suggest
import NamingLint.Proofs.Naming.Words
import NamingLint.Proofs.Text.Ascii

/-!
# Respelling a name

A suggestion respells the words of a name in the style asked for: it changes the case of their
letters and the joints between them, nothing else. On ASCII names the suggestion therefore spells
the same letters and digits, in the same order, up to case (`suggest_keeps_letters`). It does not
keep the words themselves: read back, the respelled name may split elsewhere, as `x_2y` in camel
case is `x2y`, one word (`suggest_merges_words`).

When the name is made of ASCII letters, digits, `_` and `$`, and each of its segments starts
with a letter, whether a suggestion is offered for a style the name does not have depends only
on the shape of its words (`suggest_eq_none_iff`): camel case and a leading underscore always
get one; Pascal case gets none when no word has a letter after its first character and the name
has two characters or more, since the respelling is then all capitals; snake case gets none for
a name of one word, whose respelling has no `_` and is camel case; upper snake case gets none
for a name of one letter, whose respelling is a lone capital and so Pascal case.
-/

namespace NamingLint.CasingStyle

open Text

/-! ## Classifying ASCII text -/

theorem any_eq_of_mem {l : List Char} {p q : Char → Bool} (h : ∀ c ∈ l, p c = q c) :
    l.any p = l.any q := by
  rw [Bool.eq_iff_iff, List.any_eq_true, List.any_eq_true]
  exact exists_congr fun c => and_congr_right fun hc => by rw [h c hc]

theorem all_eq_of_mem {l : List Char} {p q : Char → Bool} (h : ∀ c ∈ l, p c = q c) :
    l.all p = l.all q := by
  rw [Bool.eq_iff_iff, List.all_eq_true, List.all_eq_true]
  exact forall₂_congr fun c hc => by rw [h c hc]

theorem ofChars_ascii {first : Char} {rest : List Char} (h : ∀ c ∈ first :: rest, c.toNat < 128) :
    ofChars (first :: rest) =
      if first = '_' then leadingUnderscore
      else if !first.isAlpha || !(first :: rest).all (fun c => c.isAlphanum || c = '_') then
        unrecognized
      else if (first :: rest).contains '_' then
        if (first :: rest).any Char.isUpper && !(first :: rest).any Char.isLower then upperSnakeCase
        else snakeCase
      else if (first :: rest).any Char.isUpper && !(first :: rest).any Char.isLower &&
          (first :: rest).length > 1 then upperSnakeCase
      else if first.isUpper then pascalCase
      else if first.isLower then camelCase
      else unrecognized := by
  have hf := h first (by simp)
  rw [ofChars, isAlphabetic_ascii hf, isUppercase_ascii hf, isLowercase_ascii hf,
    all_eq_of_mem fun c hc => by rw [isAlphanumeric_ascii (h c hc)],
    any_eq_of_mem fun c hc => isUppercase_ascii (h c hc),
    any_eq_of_mem fun c hc => isLowercase_ascii (h c hc)]

/-! ## Respelling ASCII words -/

theorem capitalize_ascii {c : Char} {t : List Char} (h : ∀ d ∈ c :: t, d.toNat < 128) :
    capitalize (c :: t) = c.toUpper :: t.map Char.toLower := by
  rw [capitalize, upperChars_ascii (h c (by simp)),
    flatMap_lowerChars_ascii fun d hd => h d (by simp [hd])]
  rfl

/-! ### The respelled text -/

section Spelled

variable {W : List (List Char)}

theorem toList_camelJoin {w : List Char} {ws : List (List Char)} (hw : ∀ c ∈ w, c.toNat < 128) :
    (camelJoin (w :: ws)).toList = w.map Char.toLower ++ ws.flatMap capitalize := by
  simp [camelJoin, toList_lowercase_ascii hw, String.toList_join, List.flatMap_map]

theorem toList_pascalJoin :
    (String.join (W.map fun w => String.ofList (capitalize w))).toList = W.flatMap capitalize := by
  simp [String.toList_join, List.flatMap_map]

theorem toList_snakeJoin (hW : ∀ w ∈ W, ∀ c ∈ w, c.toNat < 128) :
    ("_".intercalate (W.map fun w => lowercase (String.ofList w))).toList =
      ['_'].intercalate (W.map (List.map Char.toLower)) := by
  rw [String.toList_intercalate, List.map_map]
  congr 1
  exact List.map_congr_left fun w hw => toList_lowercase_ascii (hW w hw)

theorem toList_upperSnakeJoin (hW : ∀ w ∈ W, ∀ c ∈ w, c.toNat < 128) :
    ("_".intercalate (W.map fun w => uppercase (String.ofList w))).toList =
      ['_'].intercalate (W.map (List.map Char.toUpper)) := by
  rw [String.toList_intercalate, List.map_map]
  congr 1
  exact List.map_congr_left fun w hw => toList_uppercase_ascii (hW w hw)

end Spelled

/-! ## What a respelling keeps -/

def letters (cs : List Char) : List Char := (cs.filter fun c => !Words.isSeparator c).map Char.toLower

@[simp] theorem letters_nil : letters [] = [] := rfl

@[simp] theorem letters_append (a b : List Char) : letters (a ++ b) = letters a ++ letters b := by
  simp [letters]

theorem letters_cons (c : Char) (cs : List Char) :
    letters (c :: cs) = letters [c] ++ letters cs := letters_append [c] cs

theorem ascii_separators : ∀ n < 128,
    Words.isSeparator (Char.ofNat n).toLower = Words.isSeparator (Char.ofNat n) ∧
    Words.isSeparator (Char.ofNat n).toUpper = Words.isSeparator (Char.ofNat n) := by
  decide

theorem letters_case {c : Char} (h : c.toNat < 128) :
    letters [c.toLower] = letters [c] ∧ letters [c.toUpper] = letters [c] := by
  have hsep := ascii_separators c.toNat h
  simp only [Char.ofNat_toNat] at hsep
  cases hc : Words.isSeparator c <;>
    simp [letters, hsep.1, hsep.2, hc, (toLower_ascii h).2.2.2.2.2,
      (toUpper_ascii h).2.2.2.2.2]

theorem letters_map_toLower {w : List Char} (hw : ∀ c ∈ w, c.toNat < 128) :
    letters (w.map Char.toLower) = letters w := by
  induction w with
  | nil => rfl
  | cons c w ih =>
    rw [List.map_cons, letters_cons, letters_cons c, (letters_case (hw c (by simp))).1,
      ih fun d hd => hw d (by simp [hd])]

theorem letters_map_toUpper {w : List Char} (hw : ∀ c ∈ w, c.toNat < 128) :
    letters (w.map Char.toUpper) = letters w := by
  induction w with
  | nil => rfl
  | cons c w ih =>
    rw [List.map_cons, letters_cons, letters_cons c, (letters_case (hw c (by simp))).2,
      ih fun d hd => hw d (by simp [hd])]

theorem letters_capitalize {w : List Char} (hw : ∀ c ∈ w, c.toNat < 128) :
    letters (capitalize w) = letters w := by
  cases w with
  | nil => rfl
  | cons c t =>
    rw [capitalize_ascii hw, letters_cons, letters_cons c, (letters_case (hw c (by simp))).2,
      letters_map_toLower fun d hd => hw d (by simp [hd])]

theorem letters_flatMap {W : List (List Char)} {f : List Char → List Char}
    (hf : ∀ w ∈ W, letters (f w) = letters w) : letters (W.flatMap f) = letters W.flatten := by
  induction W with
  | nil => rfl
  | cons w W ih =>
    rw [List.flatMap_cons, List.flatten_cons, letters_append, letters_append, hf w (by simp),
      ih fun v hv => hf v (by simp [hv])]

theorem letters_intercalate {W : List (List Char)} :
    letters (['_'].intercalate W) = letters W.flatten := by
  induction W with
  | nil => rfl
  | cons w W ih =>
    cases W with
    | nil => simp
    | cons v W =>
      rw [List.intercalate_cons_cons, List.flatten_cons, letters_append, letters_append,
        letters_append, ih]
      simp [letters, Words.isSeparator]

theorem letters_spell {W : List (List Char)} (hW : ∀ w ∈ W, ∀ c ∈ w, c.toNat < 128)
    {style : CasingStyle} {x : String} (h : spell W style = some x) :
    letters x.toList = letters W.flatten := by
  have hlower : letters (W.flatMap (List.map Char.toLower)) = letters W.flatten :=
    letters_flatMap fun w hw => letters_map_toLower (hW w hw)
  have hcap : ∀ ws : List (List Char), (∀ w ∈ ws, ∀ c ∈ w, c.toNat < 128) →
      letters (ws.flatMap capitalize) = letters ws.flatten :=
    fun ws hws => letters_flatMap fun w hw => letters_capitalize (hws w hw)
  cases style <;> simp only [spell, Option.some.injEq, reduceCtorEq] at h <;> subst h
  · -- camel case
    cases W with
    | nil => rfl
    | cons w ws =>
      rw [toList_camelJoin (hW w (by simp)), List.flatten_cons, letters_append, letters_append,
        letters_map_toLower (hW w (by simp)), hcap ws fun v hv => hW v (by simp [hv])]
  · rw [toList_pascalJoin, hcap W hW]
  · rw [toList_snakeJoin hW, letters_intercalate, ← List.flatMap_def, hlower]
  · rw [toList_upperSnakeJoin hW, letters_intercalate, ← List.flatMap_def,
      letters_flatMap fun w hw => letters_map_toUpper (hW w hw)]
  · -- a leading underscore, then camel case
    rw [String.toList_append, letters_append]
    cases W with
    | nil => rfl
    | cons w ws =>
      rw [toList_camelJoin (hW w (by simp)), List.flatten_cons, letters_append, letters_append,
        letters_map_toLower (hW w (by simp)), hcap ws fun v hv => hW v (by simp [hv])]
      simp [letters, Words.isSeparator]

/-! ## How a respelling classifies -/

theorem ne_underscore_of_isAlphanum {d : Char} (h : d.isAlphanum = true) : d ≠ '_' := by
  rintro rfl
  exact absurd h (by decide)

section Shapes

variable {first : Char} {rest : List Char}

theorem all_alphanum_or_underscore (hall : ∀ d ∈ first :: rest, d.isAlphanum = true ∨ d = '_') :
    (first :: rest).all (fun d => d.isAlphanum || d = '_') = true :=
  List.all_eq_true.2 fun d hd => by rcases hall d hd with h | h <;> simp [h]

theorem contains_underscore_eq_false (hall : ∀ d ∈ first :: rest, d.isAlphanum = true) :
    (first :: rest).contains '_' = false := by
  rw [Bool.eq_false_iff]
  intro h
  exact ne_underscore_of_isAlphanum (hall '_' (by simpa using h)) rfl

theorem ofChars_of_isLower (hfirst : first.isLower = true)
    (hall : ∀ d ∈ first :: rest, d.isAlphanum = true) : ofChars (first :: rest) = camelCase := by
  have hascii : ∀ d ∈ first :: rest, d.toNat < 128 := fun d hd => toNat_lt_of_isAlphanum (hall d hd)
  have hupper : first.isUpper = false := by
    cases hu : first.isUpper
    · rfl
    · rw [isLower_eq_false_of_isUpper hu] at hfirst
      cases hfirst
  have hlow : (first :: rest).any Char.isLower = true := by simp [hfirst]
  rw [ofChars_ascii hascii, if_neg (ne_underscore_of_isAlphanum (hall first (by simp))),
    all_alphanum_or_underscore fun d hd => .inl (hall d hd), contains_underscore_eq_false hall]
  simp [Char.isAlpha, hfirst, hupper, hlow]

theorem ofChars_of_isUpper (hfirst : first.isUpper = true)
    (hall : ∀ d ∈ first :: rest, d.isAlphanum = true) :
    ofChars (first :: rest) =
      if (first :: rest).any Char.isLower || rest = [] then pascalCase else upperSnakeCase := by
  have hascii : ∀ d ∈ first :: rest, d.toNat < 128 := fun d hd => toNat_lt_of_isAlphanum (hall d hd)
  have hup : (first :: rest).any Char.isUpper = true := by simp [hfirst]
  rw [ofChars_ascii hascii, if_neg (ne_underscore_of_isAlphanum (hall first (by simp))),
    all_alphanum_or_underscore fun d hd => .inl (hall d hd), contains_underscore_eq_false hall, hup]
  cases hlow : (first :: rest).any Char.isLower <;> cases rest <;> simp [Char.isAlpha, hfirst]

theorem ofChars_of_underscore (hfirst : first.isAlpha = true)
    (hall : ∀ d ∈ first :: rest, d.isAlphanum = true ∨ d = '_') (hunder : '_' ∈ rest) :
    ofChars (first :: rest) =
      if (first :: rest).any Char.isUpper && !(first :: rest).any Char.isLower then upperSnakeCase
      else snakeCase := by
  have hascii : ∀ d ∈ first :: rest, d.toNat < 128 := fun d hd => by
    rcases hall d hd with h | rfl
    · exact toNat_lt_of_isAlphanum h
    · decide
  have hne : first ≠ '_' := by
    rintro rfl
    exact absurd hfirst (by decide)
  have hcont : (first :: rest).contains '_' = true := by simp [hunder]
  rw [ofChars_ascii hascii, if_neg hne, all_alphanum_or_underscore hall, hcont]
  simp [hfirst]

end Shapes

theorem classify_leadingUnderscore (s : String) : classify ("_" ++ s) = leadingUnderscore := by
  simp [classify, ofChars]

/-! ### Respelled letter words -/

/-- Words of ASCII letters and digits, each starting with a letter. -/
def LetterWords (W : List (List Char)) : Prop :=
  ∀ w ∈ W, ∃ c t, w = c :: t ∧ c.isAlpha = true ∧ ∀ d ∈ c :: t, d.isAlphanum = true

theorem forall_mem_intercalate {P : Char → Prop} {sep : List Char} {L : List (List Char)}
    (hsep : ∀ d ∈ sep, P d) (hL : ∀ l ∈ L, ∀ d ∈ l, P d) : ∀ d ∈ sep.intercalate L, P d := by
  induction L with
  | nil => simp
  | cons l L ih =>
    cases L with
    | nil => simpa using hL l (by simp)
    | cons l' L =>
      rw [List.intercalate_cons_cons]
      intro d hd
      simp only [List.mem_append] at hd
      rcases hd with (hd | hd) | hd
      · exact hL l (by simp) d hd
      · exact hsep d hd
      · exact ih (fun v hv => hL v (by simp [hv])) d hd

section LetterWords

variable {W : List (List Char)} (hW : LetterWords W)
include hW

theorem LetterWords.ascii : ∀ w ∈ W, ∀ d ∈ w, d.toNat < 128 := by
  intro w hw d hd
  obtain ⟨c, t, rfl, -, hall⟩ := hW w hw
  exact toNat_lt_of_isAlphanum (hall d hd)

theorem capitalize_letterWord {w : List Char} (hw : w ∈ W) :
    ∃ c t, w = c :: t ∧ capitalize w = c.toUpper :: t.map Char.toLower ∧
      c.toUpper.isUpper = true ∧ (∀ d ∈ capitalize w, d.isAlphanum = true) ∧
      (capitalize w).any Char.isLower = t.any Char.isAlpha ∧ (capitalize w).length = w.length := by
  obtain ⟨c, t, rfl, hc, hall⟩ := hW w hw
  have hascii : ∀ d ∈ c :: t, d.toNat < 128 := fun d hd => toNat_lt_of_isAlphanum (hall d hd)
  have hcap := capitalize_ascii hascii
  refine ⟨c, t, rfl, hcap, ?_, ?_, ?_, by simp [hcap]⟩
  · rw [(toUpper_ascii (hascii c (by simp))).2.2.2.2.1, hc]
  · rw [hcap]
    intro d hd
    simp only [List.mem_cons, List.mem_map] at hd
    rcases hd with rfl | ⟨e, he, rfl⟩
    · rw [(toUpper_ascii (hascii c (by simp))).2.1, hall c (by simp)]
    · rw [(toLower_ascii (hascii e (by simp [he]))).2.1, hall e (by simp [he])]
  · rw [hcap, List.any_cons, (toUpper_ascii (hascii c (by simp))).2.2.2.1, Bool.false_or,
      List.any_map]
    exact any_eq_of_mem fun d hd => (toLower_ascii (hascii d (by simp [hd]))).2.2.2.2.1

theorem isAlphanum_flatMap_capitalize {V : List (List Char)} (hV : V ⊆ W) :
    ∀ d ∈ V.flatMap capitalize, d.isAlphanum = true := by
  intro d hd
  obtain ⟨v, hv, hd⟩ := List.mem_flatMap.1 hd
  obtain ⟨-, -, -, -, -, hall, -⟩ := capitalize_letterWord hW (hV hv)
  exact hall d hd

theorem isAlphanum_map {f : Char → Char} (hf : ∀ d, d.isAlphanum = true → (f d).isAlphanum = true)
    {w : List Char} (hw : w ∈ W) : ∀ d ∈ w.map f, d.isAlphanum = true := by
  intro d hd
  obtain ⟨e, he, rfl⟩ := List.mem_map.1 hd
  obtain ⟨c, t, rfl, -, hall⟩ := hW w hw
  exact hf e (hall e he)

theorem classify_camelJoin (hne : W ≠ []) : classify (camelJoin W) = camelCase := by
  obtain ⟨w, ws, rfl⟩ := List.exists_cons_of_ne_nil hne
  obtain ⟨c, t, rfl, hc, hall⟩ := hW _ List.mem_cons_self
  have hascii := toNat_lt_of_isAlphanum (hall c (by simp))
  have hchars : ∀ d ∈ (c :: t).map Char.toLower ++ ws.flatMap capitalize, d.isAlphanum = true := by
    intro d hd
    rcases List.mem_append.1 hd with hd | hd
    · exact isAlphanum_map hW (fun _ => isAlphanum_toLower) List.mem_cons_self d hd
    · exact isAlphanum_flatMap_capitalize hW (List.subset_cons_self _ _) d hd
  rw [classify, toList_camelJoin (hW.ascii _ List.mem_cons_self)]
  rw [List.map_cons, List.cons_append] at hchars ⊢
  exact ofChars_of_isLower (by rw [(toLower_ascii hascii).2.2.2.2.1, hc]) hchars

theorem classify_pascalJoin (hne : W ≠ []) :
    classify (String.join (W.map fun w => String.ofList (capitalize w))) = pascalCase ↔
      (∃ w ∈ W, ∃ d ∈ w.tail, d.isAlpha = true) ∨ W.flatten.length = 1 := by
  have hall := isAlphanum_flatMap_capitalize hW (List.Subset.refl W)
  have hlower : (W.flatMap capitalize).any Char.isLower = true ↔
      ∃ w ∈ W, ∃ d ∈ w.tail, d.isAlpha = true := by
    rw [List.any_flatMap, List.any_eq_true]
    refine exists_congr fun w => and_congr_right fun hw => ?_
    obtain ⟨c, t, rfl, -, -, -, hany, -⟩ := capitalize_letterWord hW hw
    rw [hany, List.any_eq_true, List.tail_cons]
  have hlength : (W.flatMap capitalize).length = W.flatten.length := by
    rw [List.length_flatMap, List.length_flatten]
    congr 1
    refine List.map_congr_left fun w hw => ?_
    obtain ⟨c, t, rfl, -, -, -, -, hlen⟩ := capitalize_letterWord hW hw
    exact hlen
  obtain ⟨w, ws, rfl⟩ := List.exists_cons_of_ne_nil hne
  obtain ⟨c, t, rfl, hcap, hup, -, -, -⟩ := capitalize_letterWord hW List.mem_cons_self
  have hx : ((c :: t) :: ws).flatMap capitalize =
      c.toUpper :: (t.map Char.toLower ++ ws.flatMap capitalize) := by
    rw [List.flatMap_cons, hcap, List.cons_append]
  rw [hx] at hall hlower hlength
  rw [classify, toList_pascalJoin, hx, ofChars_of_isUpper hup hall]
  have hrest : t.map Char.toLower ++ ws.flatMap capitalize = [] ↔
      ((c :: t) :: ws).flatten.length = 1 := by
    rw [← hlength, List.length_cons, Nat.add_eq_right, List.length_eq_zero_iff]
  rw [← hlower, ← hrest]
  cases (c.toUpper :: (t.map Char.toLower ++ ws.flatMap capitalize)).any Char.isLower <;>
    by_cases h : t.map Char.toLower ++ ws.flatMap capitalize = [] <;> simp [h]

theorem mem_intercalate_map {f : Char → Char} {P : Char → Prop}
    (hf : ∀ d, d.isAlphanum = true → P (f d)) :
    ∀ d ∈ ['_'].intercalate (W.map (List.map f)), P d ∨ d = '_' := by
  refine forall_mem_intercalate (by simp) fun l hl d hd => .inl ?_
  obtain ⟨v, hv, rfl⟩ := List.mem_map.1 hl
  obtain ⟨e, he, rfl⟩ := List.mem_map.1 hd
  obtain ⟨c, t, rfl, -, hallv⟩ := hW v hv
  exact hf e (hallv e he)

theorem classify_snakeJoin (hne : W ≠ []) :
    classify ("_".intercalate (W.map fun w => lowercase (String.ofList w))) = snakeCase ↔
      2 ≤ W.length := by
  have hchars := mem_intercalate_map hW (f := Char.toLower)
    (P := fun d => d.isAlphanum = true ∧ d.isUpper = false)
    fun d hd => ⟨isAlphanum_toLower hd, (toLower_ascii (toNat_lt_of_isAlphanum hd)).2.2.2.1⟩
  obtain ⟨w, ws, rfl⟩ := List.exists_cons_of_ne_nil hne
  obtain ⟨c, t, rfl, hc, hall⟩ := hW _ List.mem_cons_self
  have hascii := toNat_lt_of_isAlphanum (hall c (by simp))
  have hlow : c.toLower.isLower = true := by rw [(toLower_ascii hascii).2.2.2.2.1, hc]
  rw [classify, toList_snakeJoin hW.ascii]
  cases ws with
  | nil =>
    -- one word: no `_`
    have hword := isAlphanum_map hW (fun _ => isAlphanum_toLower) List.mem_cons_self
    simp only [List.map_cons, List.map_nil, List.intercalate_singleton] at hword ⊢
    rw [ofChars_of_isLower hlow hword]
    simp
  | cons v vs =>
    simp only [List.map_cons, List.intercalate_cons_cons, List.cons_append, List.nil_append,
      List.append_assoc]
      at hchars ⊢
    have hnoup : (c.toLower :: (t.map Char.toLower ++ '_' :: ['_'].intercalate
        (v.map Char.toLower :: vs.map (List.map Char.toLower)))).any Char.isUpper = false := by
      rw [Bool.eq_false_iff]
      intro h
      obtain ⟨d, hd, hup⟩ := List.any_eq_true.1 h
      rcases hchars d hd with ⟨-, hd'⟩ | rfl
      · rw [hd'] at hup
        cases hup
      · cases hup
    rw [ofChars_of_underscore (by rw [(toLower_ascii hascii).2.2.1, hc])
      (fun d hd => (hchars d hd).imp_left And.left) (by simp), hnoup]
    simp

theorem classify_upperSnakeJoin (hne : W ≠ []) :
    classify ("_".intercalate (W.map fun w => uppercase (String.ofList w))) = upperSnakeCase ↔
      2 ≤ W.flatten.length := by
  have hchars := mem_intercalate_map hW (f := Char.toUpper)
    (P := fun d => d.isAlphanum = true ∧ d.isLower = false)
    fun d hd => ⟨isAlphanum_toUpper hd, (toUpper_ascii (toNat_lt_of_isAlphanum hd)).2.2.2.1⟩
  obtain ⟨w, ws, rfl⟩ := List.exists_cons_of_ne_nil hne
  obtain ⟨c, t, rfl, hc, hall⟩ := hW _ List.mem_cons_self
  have hascii := toNat_lt_of_isAlphanum (hall c (by simp))
  have hup : c.toUpper.isUpper = true := by rw [(toUpper_ascii hascii).2.2.2.2.1, hc]
  rw [classify, toList_upperSnakeJoin hW.ascii]
  have hnolow : ∀ l : List Char, (∀ d ∈ l, (d.isAlphanum = true ∧ d.isLower = false) ∨ d = '_') →
      l.any Char.isLower = false := fun l hl => by
    rw [Bool.eq_false_iff]
    intro h
    obtain ⟨d, hd, hlow⟩ := List.any_eq_true.1 h
    rcases hl d hd with ⟨-, hd'⟩ | rfl
    · rw [hd'] at hlow
      cases hlow
    · cases hlow
  cases ws with
  | nil =>
    -- one word: all capitals, Pascal case when it is one letter
    have hword := isAlphanum_map hW (fun _ => isAlphanum_toUpper) List.mem_cons_self
    simp only [List.map_cons, List.map_nil, List.intercalate_singleton] at hword hchars ⊢
    rw [ofChars_of_isUpper hup hword, hnolow _ hchars]
    cases t <;> simp
  | cons v vs =>
    obtain ⟨e, u, rfl, -, -⟩ := hW v (by simp)
    simp only [List.map_cons, List.intercalate_cons_cons, List.cons_append, List.nil_append,
      List.append_assoc]
      at hchars ⊢
    rw [ofChars_of_underscore (by rw [(toUpper_ascii hascii).2.2.1, hc])
      (fun d hd => (hchars d hd).imp_left And.left) (by simp), hnolow _ hchars]
    simp [hup]
    omega

theorem LetterWords.exists_cons (hne : W ≠ []) :
    ∃ c t ws, W = (c :: t) :: ws ∧ c.isAlpha = true := by
  obtain ⟨w, ws, rfl⟩ := List.exists_cons_of_ne_nil hne
  obtain ⟨c, t, rfl, hc, -⟩ := hW _ List.mem_cons_self
  exact ⟨c, t, ws, rfl, hc⟩

theorem classify_spell_ne_iff (hne : W ≠ []) {style : CasingStyle} {x : String}
    (hx : spell W style = some x) :
    classify x ≠ style ↔
      (style = pascalCase ∧ 2 ≤ W.flatten.length ∧ ∀ w ∈ W, ∀ c ∈ w.tail, c.isAlpha = false) ∨
      (style = snakeCase ∧ W.length = 1) ∨
      (style = upperSnakeCase ∧ ∃ c, W.flatten = [c] ∧ c.isAlpha = true) := by
  obtain ⟨c, t, ws, hWeq, hc⟩ := hW.exists_cons hne
  have hflat : W.flatten = c :: (t ++ ws.flatten) := by simp [hWeq]
  cases style with
  | camelCase =>
    cases hx
    rw [classify_camelJoin hW hne]
    simp
  | pascalCase =>
    cases hx
    rw [Ne, classify_pascalJoin hW hne, hflat]
    simp only [List.length_cons, reduceCtorEq, true_and, false_and, or_false, not_or, not_exists,
      not_and, Bool.not_eq_true]
    constructor
    · rintro ⟨hno, hlen⟩
      exact ⟨by omega, hno⟩
    · rintro ⟨hlen, hno⟩
      exact ⟨hno, by omega⟩
  | snakeCase =>
    cases hx
    rw [Ne, classify_snakeJoin hW hne, hWeq]
    simp only [List.length_cons, reduceCtorEq, false_and, true_and, false_or, or_false]
    omega
  | upperSnakeCase =>
    cases hx
    rw [Ne, classify_upperSnakeJoin hW hne, hflat]
    simp only [reduceCtorEq, false_and, true_and, false_or]
    constructor
    · -- one character: the first word's letter
      intro hlen
      simp only [List.length_cons, List.length_append] at hlen
      have ht : t = [] := List.eq_nil_of_length_eq_zero (by omega)
      have hws : ws.flatten = [] := List.eq_nil_of_length_eq_zero (by omega)
      exact ⟨c, by rw [ht, hws, List.nil_append], hc⟩
    · rintro ⟨d, hd, -⟩
      rw [hd]
      simp
  | leadingUnderscore =>
    cases hx
    rw [classify_leadingUnderscore]
    simp
  | unrecognized => cases hx

end LetterWords

/-! ## Suggestions -/

theorem spell_of_suggest {name m : String} {style : CasingStyle} (h : suggest name style = some m) :
    Words.ofChars name.toList ≠ [] ∧ spell (Words.ofChars name.toList) style = some m := by
  unfold suggest at h
  split at h
  · cases h
  · rename_i hne
    refine ⟨hne, ?_⟩
    split at h
    · rename_i x hx
      split at h
      · cases h
        exact hx
      · cases h
    · cases h

theorem suggest_eq_none_iff_classify {name x : String} {style : CasingStyle}
    (hcls : classify name ≠ style) (hW : Words.ofChars name.toList ≠ [])
    (hx : spell (Words.ofChars name.toList) style = some x) :
    suggest name style = none ↔ classify x ≠ style := by
  unfold suggest
  split
  · contradiction
  · rw [hx]
    by_cases hc : classify x = style
    · have hne : x ≠ name := fun heq => hcls (heq ▸ hc)
      simp [hc, hne]
    · simp [hc]

/-- A suggestion for an ASCII name spells the letters and digits of its words, in order and up
to case: only the case and the joints change. -/
theorem suggest_keeps_letters {name m : String} {style : CasingStyle}
    (hname : ∀ c ∈ name.toList, c.toNat < 128) (h : suggest name style = some m) :
    (Words.ofChars m.toList).flatten.map Char.toLower =
      (Words.ofChars name.toList).flatten.map Char.toLower := by
  obtain ⟨-, hspell⟩ := spell_of_suggest h
  have hW : ∀ w ∈ Words.ofChars name.toList, ∀ c ∈ w, c.toNat < 128 :=
    fun w hw c hc => hname c (Words.mem_of_mem_word hw hc).1
  have hkeep := letters_spell hW hspell
  rw [Words.flatten_ofChars] at hkeep ⊢
  rw [Words.flatten_ofChars]
  simpa [letters] using hkeep

set_option maxRecDepth 100000 in
theorem suggest_keeps_letters_x2y :
    (∀ c ∈ "x_2y".toList, c.toNat < 128) ∧ suggest "x_2y" .camelCase = some "x2y" ∧
      (Words.ofChars "x2y".toList).flatten.map Char.toLower =
        (Words.ofChars "x_2y".toList).flatten.map Char.toLower := by
  have hascii : ∀ c ∈ "x_2y".toList, c.toNat < 128 := by simp
  have hsuggest : suggest "x_2y" .camelCase = some "x2y" := by cbv
  exact ⟨hascii, hsuggest, suggest_keeps_letters hascii hsuggest⟩

set_option maxRecDepth 100000 in
theorem suggest_merges_words :
    (suggest "x_2y" .camelCase = some "x2y" ∧ Words.ofChars "x_2y".toList = ["x".toList, "2y".toList] ∧
      Words.ofChars "x2y".toList = ["x2y".toList]) ∧
    (suggest "maße" .upperSnakeCase = some "MASSE" ∧ Words.ofChars "maße".toList = ["maße".toList] ∧
      Words.ofChars "MASSE".toList = ["MASSE".toList] ∧
      (lowercase "MASSE").toList ≠ (lowercase "maße").toList) := by
  decide +kernel

/-! ## When a suggestion is offered -/

theorem letterWords_ofChars {cs : List Char}
    (hchars : ∀ c ∈ cs, c.isAlphanum = true ∨ c = '_' ∨ c = '$')
    (hstart : ∀ seg ∈ cs.splitOnP Words.isSeparator, ∀ c ∈ seg.head?, c.isAlpha = true) :
    LetterWords (Words.ofChars cs) := by
  intro w hw
  obtain ⟨c, t, rfl, hhead⟩ := Words.ofChars_word_head hw
  have halnum : ∀ d ∈ c :: t, d.isAlphanum = true := fun d hd => by
    obtain ⟨hmem, hsep⟩ := Words.mem_of_mem_word hw hd
    rcases hchars d hmem with h | rfl | rfl
    · exact h
    all_goals exact absurd hsep (by decide)
  refine ⟨c, t, rfl, ?_, halnum⟩
  rcases hhead with ⟨seg, hseg, hc⟩ | hup
  · exact hstart seg hseg c hc
  · rw [isUppercase_ascii (toNat_lt_of_isAlphanum (halnum c (by simp)))] at hup
    simp [Char.isAlpha, hup]

/-- When a suggestion is offered. For a name of ASCII letters, digits, `_` and `$` with a
non-empty segment, whose non-empty segments start with letters, and a style other than
`unrecognized` that the name does not have: no suggestion is made exactly for Pascal case when
the name has two characters or more besides `_` and `$` and no word has a letter after its first
character; for snake case when the name is one word; and for upper snake case when the name is a
single letter besides `_` and `$`. In particular camel case and a leading underscore always get
one. -/
theorem suggest_eq_none_iff {name : String} {style : CasingStyle}
    (hchars : ∀ c ∈ name.toList, c.isAlphanum = true ∨ c = '_' ∨ c = '$')
    (hseg : ∃ seg ∈ name.toList.splitOnP Words.isSeparator, seg ≠ [])
    (hstart : ∀ seg ∈ name.toList.splitOnP Words.isSeparator, ∀ c ∈ seg.head?, c.isAlpha = true)
    (hstyle : style ≠ unrecognized) (hcls : classify name ≠ style) :
    (suggest name style = none ↔
      (style = pascalCase ∧ 2 ≤ (name.toList.filter fun c => !Words.isSeparator c).length ∧
        ∀ w ∈ Words.ofChars name.toList, ∀ c ∈ w.tail, c.isAlpha = false) ∨
      (style = snakeCase ∧ (Words.ofChars name.toList).length = 1) ∨
      (style = upperSnakeCase ∧
        ∃ c, (name.toList.filter fun c => !Words.isSeparator c) = [c] ∧ c.isAlpha = true)) ∧
    (style = camelCase ∨ style = leadingUnderscore → (suggest name style).isSome) := by
  have hW : LetterWords (Words.ofChars name.toList) := letterWords_ofChars hchars hstart
  have hne : Words.ofChars name.toList ≠ [] := (Words.ofChars_ne_nil_iff _).2 hseg
  obtain ⟨x, hx⟩ : ∃ x, spell (Words.ofChars name.toList) style = some x := by
    cases style <;> simp [spell] at hstyle ⊢
  have hiff := (suggest_eq_none_iff_classify hcls hne hx).trans (classify_spell_ne_iff hW hne hx)
  rw [Words.flatten_ofChars] at hiff
  refine ⟨hiff, fun h => ?_⟩
  rw [Option.isSome_iff_ne_none, Ne, hiff]
  rcases h with rfl | rfl <;> simp

set_option maxRecDepth 100000 in
theorem pascal_case_not_offered_for_x_y : suggest "X_Y" pascalCase = none := by
  have hl : "X_Y".toList = ['X', '_', 'Y'] := by simp
  have hsegs : "X_Y".toList.splitOnP Words.isSeparator = [['X'], ['Y']] := by
    rw [hl]; decide
  have hwords : Words.ofChars "X_Y".toList = [['X'], ['Y']] := by
    rw [hl]; decide
  refine (suggest_eq_none_iff ?_ ?_ ?_ (by decide) (by decide +kernel)).1.2 (.inl ⟨rfl, ?_, ?_⟩)
  · rw [hl]; simp
  · rw [hsegs]; simp
  · rw [hsegs]; simp
  · rw [hl]; simp [Words.isSeparator]
  · rw [hwords]; simp

end NamingLint.CasingStyle

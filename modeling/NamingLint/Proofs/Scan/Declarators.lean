import Mathlib
import NamingLint.Proofs.Scan.Patterns

namespace NamingLint.Declaration.Tokens

open Java

variable {ts : Tokens}

def PlainToken (ts : Tokens) (j : Nat) : Prop :=
  ∃ t, ts[j]? = some t ∧ (t.kind = .identifier ∨ t.kind = .literal ∨
    (t.kind = .keyword ∧ t.text ≠ "instanceof") ∨
    (t.kind = .operator ∧ t.text ∉ ["(", ")", "[", "]", "\x7b", "\x7d", ";", ","]))

inductive PlainAt (ts : Tokens) : Bool → Nat → Nat → Prop
  | nil {inner : Bool} {j : Nat} : PlainAt ts inner j j
  | token {inner : Bool} {j k : Nat} : ts.PlainToken j → PlainAt ts inner (j + 1) k →
      PlainAt ts inner j k
  | comma {j k : Nat} : ts.isOp j "," → PlainAt ts true (j + 1) k → PlainAt ts true j k
  | group {inner : Bool} {j c k : Nat} :
      (ts.isOp j "(" ∧ ts.isOp c ")" ∨ ts.isOp j "[" ∧ ts.isOp c "]") →
      PlainAt ts true (j + 1) c → PlainAt ts inner (c + 1) k → PlainAt ts inner j k

/-- The tokens from `j` on are the rest of a declarator list up to its `;` at `e`: the
dimensions and initializer of a declarator, then `, n` and the rest of the next one, for each
further name `n` in `ns`. -/
inductive DeclaratorsAt (ts : Tokens) : Nat → Nat → List Nat → Prop
  | last {j e : Nat} : ts.PlainAt false j e → ts.isOp e ";" → DeclaratorsAt ts j e []
  | next {j m e : Nat} {ns : List Nat} : ts.PlainAt false j m → ts.isOp m "," →
      ts.isIdentifier (m + 1) → ts.endsDeclarator (m + 2) → DeclaratorsAt ts (m + 2) e ns →
      DeclaratorsAt ts j e ((m + 1) :: ns)

theorem skipModifiers_moves {i j : Nat} {m mods : Modifiers} (h : ts.skipModifiers i m = (j, mods))
    (hij : j ≠ i) : ∃ t, ts[i]? = some t ∧ (t.kind ≠ .operator ∨ t.text = "@") := by
  rw [skipModifiers] at h
  split at h
  · rename_i hlt
    refine ⟨ts[i], Array.getElem?_eq_getElem hlt, ?_⟩
    dsimp only at h
    split at h
    · rename_i hat
      simp only [Token.isOperator, Bool.and_eq_true, beq_iff_eq] at hat
      exact .inr hat.1.2
    · split at h <;> exact .inl (by simp_all)
  · simp only [Prod.mk.injEq] at h
    omega

theorem isOp_of_endsDeclarator {k : Nat} (op : String) (h : ts.endsDeclarator k)
    (hop : op ∉ ["=", ";", ",", "["]) : ts.isOp k op = false := by
  simp only [endsDeclarator, Bool.or_eq_true, Bool.and_eq_true] at h
  simp only [List.mem_cons, List.not_mem_nil, or_false, not_or] at hop
  rcases h with ((h | h) | h) | ⟨h, -⟩
  · exact isOp_eq_false op h hop.1
  · exact isOp_eq_false op h hop.2.1
  · exact isOp_eq_false op h hop.2.2.1
  · exact isOp_eq_false op h hop.2.2.2

theorem parseType_start {j name : Nat} (hty : ts.parseType j = some name) :
    ∃ t, ts[j]? = some t ∧
      (t.kind = .identifier ∨ (t.kind = .keyword ∧ t.word ∈ primitiveTypes)) := by
  unfold parseType at hty
  split at hty
  · rename_i t ht
    refine ⟨t, ht, ?_⟩
    split at hty
    · rename_i hprim
      simp only [Token.isPrimitiveType, Bool.and_eq_true, beq_iff_eq,
        List.contains_iff_mem] at hprim
      exact .inr hprim
    · split at hty
      · rename_i hid
        simp only [Token.isIdentifier, beq_iff_eq] at hid
        exact .inl hid
      · simp at hty
  · simp at hty

theorem isOp_of_parseType {j name : Nat} (hty : ts.parseType j = some name) (op : String) :
    ts.isOp j op = false := by
  obtain ⟨t, ht, hstart⟩ := parseType_start hty
  rcases hstart with h | ⟨h, -⟩ <;> simp [isOp, ht, Token.isOperator, h]

theorem isOp_of_skipModifiers {i j name : Nat} {m mods : Modifiers}
    (hmods : ts.skipModifiers i m = (j, mods)) (hty : ts.parseType j = some name) {op : String}
    (hop : op ≠ "@") : ts.isOp i op = false := by
  by_cases hij : j = i
  · subst hij
    exact isOp_of_parseType hty op
  · obtain ⟨t, ht, hkind⟩ := skipModifiers_moves hmods hij
    simp only [isOp, ht, Option.any_some, Token.isOperator, Bool.and_eq_false_iff,
      beq_eq_false_iff_ne]
    rcases hkind with h | h
    · exact .inl h
    · exact .inr (by rw [h]; exact Ne.symm hop)

theorem isOp_after_parseType {j name : Nat} (hty : ts.parseType j = some name)
    (hid : ts.isIdentifier name) {op : String} (hop : op ∉ ["<", ".", "["])
    (hj : ts.isIdentifier j) : ts.isOp (j + 1) op = false := by
  cases hnext : ts.isOp (j + 1) op with
  | false => rfl
  | true =>
    have hsingle := parseType_single_of_isOp hj hnext hop
    rw [hty, Option.some.injEq] at hsingle
    subst hsingle
    simp [isIdentifier_of_isOp hnext] at hid

theorem isTypeDeclaration_of_parseType {j name : Nat} (hty : ts.parseType j = some name)
    (hends : ts.endsDeclarator (name + 1)) : ts.isTypeDeclaration j = false := by
  obtain ⟨t, ht, hstart⟩ := parseType_start hty
  have hkw : ∀ w ∈ ["class", "interface", "enum"], ts.isKeyword j w = false := by
    intro w hw
    simp only [isKeyword, ht, Option.any_some, Token.isKeyword, Bool.and_eq_false_iff,
      beq_eq_false_iff_ne]
    rcases hstart with h | ⟨-, hprim⟩
    · left; simp [h]
    · right
      intro hword
      simp only [List.mem_cons, List.not_mem_nil, or_false] at hw
      rcases hw with rfl | rfl | rfl <;> simp [primitiveTypes, hword] at hprim
  have hat := isOp_of_parseType hty "@"
  -- `record R` would need `(` or `<` after the name, where the declarator has `=`, `;`, `,` or `[`
  have hrecord : (ts.isWord j "record" && ts.isIdentifier (j + 1) &&
      (ts.isOp (j + 2) "(" || ts.isOp (j + 2) "<")) = false := by
    by_cases hw : ts.isWord j "record"
    · by_cases hnext : ts.isIdentifier (j + 1)
      · have hsingle := parseType_single (isIdentifier_of_isWord hw) (isOp_of_isIdentifier hnext)
          (isOp_of_isIdentifier hnext) (isOp_of_isIdentifier hnext)
        rw [hty, Option.some.injEq] at hsingle
        subst hsingle
        simp [isOp_of_endsDeclarator "(" hends (by decide),
          isOp_of_endsDeclarator "<" hends (by decide)]
      · simp [hnext]
    · simp [hw]
  simp [isTypeDeclaration, hkw, hat, hrecord]

end NamingLint.Declaration.Tokens

namespace NamingLint.Declaration.Scan

theorem addFound_filterMap_cons (s : Scan) (f : Nat → Option Occurrence) (a : Nat)
    (l : List Nat) :
    s.addFound ((a :: l).filterMap f) =
      (s.addFound ([a].filterMap f)).addFound (l.filterMap f) := by
  rw [addFound_addFound, ← List.filterMap_append, List.singleton_append]

end NamingLint.Declaration.Scan

namespace NamingLint.Declaration.Scanner

open Java Tokens

variable {sc : Scanner}

theorem run_of_lt {i : Nat} (hi : i < sc.tokens.size) (s : Scan) :
    sc.run i s = sc.run (sc.step i s).1 (sc.step i s).2 := by
  rw [run_eq_step, if_pos hi]

theorem step_plainToken {j : Nat} (h : sc.tokens.PlainToken j) (role : Role) (d : Nat)
    (rest : List Frame) (found : Array Occurrence) :
    sc.step j ⟨.declarators role d :: rest, found⟩ =
      (j + 1, ⟨.declarators role d :: rest, found⟩) := by
  obtain ⟨t, ht, hkind⟩ := h
  have hclose : sc.tokens.isOp j "\x7d" = false := by
    rcases hkind with h | h | ⟨h, -⟩ | ⟨h, htext⟩ <;> simp_all [isOp, Token.isOperator]
  simp only [step, hclose, Bool.false_eq_true, if_false]
  obtain ⟨hj, hjt⟩ := Array.getElem?_eq_some_iff.1 ht
  unfold declaratorToken
  rw [dif_pos hj]
  dsimp only
  rw [hjt]
  rcases hkind with h | h | ⟨h, htext⟩ | ⟨h, htext⟩
  · simp [h]
  · simp [h]
  · simp [h, htext]
  · simp only [List.mem_cons, List.not_mem_nil, or_false, not_or] at htext
    simp [h, htext]

theorem step_isOp {j : Nat} {op : String} (h : sc.tokens.isOp j op) (hop : op ≠ "\x7d")
    (role : Role) (d : Nat) (rest : List Frame) (found : Array Occurrence) :
    sc.step j ⟨.declarators role d :: rest, found⟩ =
      sc.declaratorToken role d j ⟨.declarators role d :: rest, found⟩ := by
  simp [step, isOp_eq_false "\x7d" h (Ne.symm hop)]

theorem declaratorToken_isOp {j : Nat} {op : String} (h : sc.tokens.isOp j op) (role : Role)
    (d : Nat) (s : Scan) :
    sc.declaratorToken role d j s =
      if op == "(" || op == "[" then (j + 1, s.setTop (.declarators role (d + 1)))
      else if op == ")" || op == "]" then
        if d == 0 then (j + 1, s.pop) else (j + 1, s.setTop (.declarators role (d - 1)))
      else if op == "\x7b" then sc.openBrace j (lt_size_of_isOp h) s
      else if op == ";" && d == 0 then (j + 1, s.pop)
      else if op == "," && d == 0 then
        if hn : sc.tokens.isIdentifier (j + 1) && sc.tokens.endsDeclarator (j + 2) then
          (j + 2, sc.record (j + 1) (lt_size_of_isIdentifier_and hn) role s)
        else (j + 1, s)
      else (j + 1, s) := by
  have hlt := lt_size_of_isOp h
  have hop := isOperator_of_isOp h hlt
  simp only [Token.isOperator, Bool.and_eq_true, beq_iff_eq] at hop
  unfold declaratorToken
  rw [dif_pos hlt]
  dsimp only
  rw [hop.1, hop.2]

theorem lt_size_of_plainToken {j : Nat} (h : sc.tokens.PlainToken j) : j < sc.tokens.size := by
  obtain ⟨t, ht, -⟩ := h
  exact (Array.getElem?_eq_some_iff.mp ht).1

section List

variable (role : Role) (rest : List Frame) (found : Array Occurrence)

theorem step_open {j : Nat} {op : String} (h : sc.tokens.isOp j op) (hop : op = "(" ∨ op = "[")
    (d : Nat) :
    sc.step j ⟨.declarators role d :: rest, found⟩ =
      (j + 1, ⟨.declarators role (d + 1) :: rest, found⟩) := by
  rcases hop with rfl | rfl <;>
    simp [step_isOp h (by decide), declaratorToken_isOp h, Scan.setTop]

theorem step_close {c : Nat} {cl : String} (h : sc.tokens.isOp c cl) (hcl : cl = ")" ∨ cl = "]")
    (d : Nat) :
    sc.step c ⟨.declarators role (d + 1) :: rest, found⟩ =
      (c + 1, ⟨.declarators role d :: rest, found⟩) := by
  rcases hcl with rfl | rfl <;>
    simp [step_isOp h (by decide), declaratorToken_isOp h, Scan.setTop]

theorem step_innerComma {j : Nat} (h : sc.tokens.isOp j ",") (d : Nat) :
    sc.step j ⟨.declarators role (d + 1) :: rest, found⟩ =
      (j + 1, ⟨.declarators role (d + 1) :: rest, found⟩) := by
  simp [step_isOp h (by decide), declaratorToken_isOp h]

theorem step_semicolon {e : Nat} (h : sc.tokens.isOp e ";") :
    sc.step e ⟨.declarators role 0 :: rest, found⟩ = (e + 1, ⟨rest, found⟩) := by
  simp [step_isOp h (by decide), declaratorToken_isOp h, Scan.pop]

theorem step_separator {m : Nat} (h : sc.tokens.isOp m ",") (hid : sc.tokens.isIdentifier (m + 1))
    (hends : sc.tokens.endsDeclarator (m + 2)) :
    sc.step m ⟨.declarators role 0 :: rest, found⟩ =
      (m + 2, sc.record (m + 1) (lt_size_of_isIdentifier hid) role
        ⟨.declarators role 0 :: rest, found⟩) := by
  simp [step_isOp h (by decide), declaratorToken_isOp h, hid, hends]

theorem PlainAt.run {inner : Bool} {j k : Nat} (h : sc.tokens.PlainAt inner j k) :
    ∀ d, (inner = true → 1 ≤ d) → ∀ rest found,
      sc.run j ⟨.declarators role d :: rest, found⟩ =
        sc.run k ⟨.declarators role d :: rest, found⟩ := by
  induction h with
  | nil => intros; rfl
  | token hp _ ih =>
    intro d hd rest found
    rw [run_of_lt (lt_size_of_plainToken hp), step_plainToken hp]
    exact ih d hd rest found
  | comma hcomma _ ih =>
    intro d hd rest found
    obtain ⟨d, rfl⟩ : ∃ d', d = d' + 1 := ⟨d - 1, by have := hd rfl; omega⟩
    rw [run_of_lt (lt_size_of_isOp hcomma), step_innerComma role rest found hcomma]
    exact ih _ hd rest found
  | group hbr _ _ ihin ihrest =>
    intro d hd rest found
    obtain ⟨op, cl, ho, hc, hop, hcl⟩ : ∃ op cl, sc.tokens.isOp _ op ∧ sc.tokens.isOp _ cl ∧
        (op = "(" ∨ op = "[") ∧ (cl = ")" ∨ cl = "]") := by
      rcases hbr with ⟨ho, hc⟩ | ⟨ho, hc⟩
      · exact ⟨_, _, ho, hc, .inl rfl, .inl rfl⟩
      · exact ⟨_, _, ho, hc, .inr rfl, .inr rfl⟩
    rw [run_of_lt (lt_size_of_isOp ho), step_open role rest found ho hop,
      ihin (d + 1) (fun _ => by omega) rest found, run_of_lt (lt_size_of_isOp hc),
      step_close role rest found hc hcl]
    exact ihrest d hd rest found

theorem DeclaratorsAt.run {j e : Nat} {ns : List Nat} (h : sc.tokens.DeclaratorsAt j e ns) :
    ∀ found, sc.run j ⟨.declarators role 0 :: rest, found⟩ =
      sc.run (e + 1) (Scan.addFound ⟨rest, found⟩ (ns.filterMap (sc.recordedAt role))) := by
  induction h with
  | last hplain hsemi =>
    intro found
    rw [PlainAt.run role hplain 0 (by simp) rest found, run_of_lt (lt_size_of_isOp hsemi),
      step_semicolon role rest found hsemi]
    simp
  | @next j m e ns hplain hcomma hid hends _ ih =>
    intro found
    rw [PlainAt.run role hplain 0 (by simp) rest found, run_of_lt (lt_size_of_isOp hcomma),
      step_separator role rest found hcomma hid hends, record_eq_addFound,
      Scan.addFound_filterMap_cons _ _ (m + 1) ns]
    exact ih _

end List

def fieldRole (kind : TypeKind) (mods : Modifiers) : Role :=
  if (mods.isStatic && mods.isFinal) || kind == .interfaceType || kind == .annotationType then
    .constant
  else .field

section Declaration

variable {i j name : Nat} {mods : Modifiers}

theorem member_declaration (kind : TypeKind) (hmods : sc.tokens.skipModifiers i {} = (j, mods))
    (hty : sc.tokens.parseType j = some name) (hid : sc.tokens.isIdentifier name)
    (hends : sc.tokens.endsDeclarator (name + 1)) (s : Scan) :
    sc.member kind i s = (name + 1, (sc.record name (lt_size_of_isIdentifier hid) (fieldRole kind mods)
      s).push (.declarators (fieldRole kind mods) 0)) := by
  have hclose : sc.tokens.isOp i "\x7d" = false := isOp_of_skipModifiers hmods hty (by decide)
  have hsemi : sc.tokens.isOp i ";" = false := isOp_of_skipModifiers hmods hty (by decide)
  have hparen : sc.tokens.isOp (name + 1) "(" = false :=
    isOp_of_endsDeclarator "(" hends (by decide)
  unfold member
  simp [hmods, hclose, hsemi, isOp_of_parseType hty, isTypeDeclaration_of_parseType hty hends,
    hty, hid, hparen, hends, fieldRole]
  -- the name after the type rules out a method and a compact constructor at `j`
  cases hj : sc.tokens.isIdentifier j with
  | false => simp
  | true =>
    have hcall : sc.tokens.isOp (j + 1) "(" = false := isOp_after_parseType hty hid (by decide) hj
    have hbody : sc.tokens.isOp (j + 1) "\x7b" = false :=
      isOp_after_parseType hty hid (by decide) hj
    simp [hcall, hbody]

theorem localDeclaration_declaration (hmods : sc.tokens.skipModifiers i {} = (j, mods))
    (hyield : sc.tokens.isWord j "yield" = false) (hty : sc.tokens.parseType j = some name)
    (hid : sc.tokens.isIdentifier name) (hends : sc.tokens.endsDeclarator (name + 1)) (s : Scan) :
    sc.localDeclaration i s = some (name + 1, (sc.record name (lt_size_of_isIdentifier hid)
      .localVariable s).push (.declarators .localVariable 0)) := by
  have hcolon : sc.tokens.isOp (name + 1) ":" = false :=
    isOp_of_endsDeclarator ":" hends (by decide)
  unfold localDeclaration
  simp [hmods, isTypeDeclaration_of_parseType hty hends, hyield, hty, hid, hcolon, hends]

theorem lt_size_of_declaration (hmods : sc.tokens.skipModifiers i {} = (j, mods))
    (hty : sc.tokens.parseType j = some name) : i < sc.tokens.size := by
  by_cases hij : j = i
  · subst hij
    exact lt_size_of_parseType hty
  · obtain ⟨t, ht, -⟩ := skipModifiers_moves hmods hij
    exact (Array.getElem?_eq_some_iff.mp ht).1

theorem run_opened {e : Nat} {ns : List Nat} {hname : name < sc.tokens.size} (role : Role)
    (h : sc.tokens.DeclaratorsAt (name + 1) e ns) (s : Scan) :
    sc.run (name + 1) ((sc.record name hname role s).push (.declarators role 0)) =
      sc.run (e + 1) (s.addFound ((name :: ns).filterMap (sc.recordedAt role))) := by
  rw [record_eq_addFound, Scan.addFound_filterMap_cons s _ name ns]
  exact DeclaratorsAt.run role s.frames h _

end Declaration

/-- A field declaration in a class body, or a local variable declaration at the start of a
statement, whose initializers are plain, is read up to its `;`. The scan records its names
`n₁ … nₖ`, each once, in order and all with the declaration's role, records nothing else, and
reads on after the `;` with the stack it started with. -/
theorem declarators_record_names (sc : Scanner) (i : Nat) (s : Scan) :
    (∀ kind rest j mods name e ns, s.frames = .typeBody kind false :: rest →
      sc.tokens.skipModifiers i {} = (j, mods) → sc.tokens.parseType j = some name →
      sc.tokens.isIdentifier name → sc.tokens.endsDeclarator (name + 1) →
      sc.tokens.DeclaratorsAt (name + 1) e ns →
      sc.run i s =
        sc.run (e + 1) (s.addFound ((name :: ns).filterMap (sc.recordedAt (fieldRole kind mods))))) ∧
    (∀ rest j mods name e ns, s.frames = .block :: rest → sc.tokens.atStatementStart i →
      sc.tokens.skipModifiers i {} = (j, mods) → sc.tokens.isWord j "yield" = false →
      sc.tokens.parseType j = some name → sc.tokens.isIdentifier name →
      sc.tokens.endsDeclarator (name + 1) → sc.tokens.DeclaratorsAt (name + 1) e ns →
      sc.run i s =
        sc.run (e + 1) (s.addFound ((name :: ns).filterMap (sc.recordedAt .localVariable)))) := by
  constructor
  · intro kind rest j mods name e ns hf hmods hty hid hends hdecl
    have hstep : sc.step i s = sc.member kind i s := by simp [step, hf]
    rw [run_of_lt (lt_size_of_declaration hmods hty), hstep,
      member_declaration kind hmods hty hid hends s]
    exact run_opened _ hdecl s
  · intro rest j mods name e ns hf hstart hmods hyield hty hid hends hdecl
    have hstep : sc.step i s = sc.blockToken i s := by simp [step, hf]
    have hblock : sc.blockToken i s = (name + 1, (sc.record name (lt_size_of_isIdentifier hid)
        .localVariable s).push (.declarators .localVariable 0)) := by
      simp [blockToken, hstart, localDeclaration_declaration hmods hyield hty hid hends s]
    rw [run_of_lt (lt_size_of_declaration hmods hty), hstep, hblock]
    exact run_opened _ hdecl s

def callDeclarationTokens : Tokens :=
  #[⟨.operator, "\x7b", 0, 1⟩, ⟨.keyword, "int", 2, 5⟩, ⟨.identifier, "a", 6, 7⟩,
    ⟨.operator, "=", 8, 9⟩, ⟨.identifier, "f", 10, 11⟩, ⟨.operator, "(", 11, 12⟩,
    ⟨.literal, "1", 12, 13⟩, ⟨.operator, ",", 13, 14⟩, ⟨.literal, "2", 15, 16⟩,
    ⟨.operator, ")", 16, 17⟩, ⟨.operator, ",", 17, 18⟩, ⟨.identifier, "b", 19, 20⟩,
    ⟨.operator, ";", 20, 21⟩, ⟨.operator, "\x7d", 22, 23⟩]

def callDeclarationScanner : Scanner :=
  { tokens := callDeclarationTokens, anonymous := Array.replicate 14 false,
    lines := Source.LineIndex.ofString "\x7b int a = f(1, 2), b; \x7d", anonymous_size := rfl }

theorem callInitializer_records_a_b :
    callDeclarationTokens.DeclaratorsAt 3 12 [11] ∧
      callDeclarationScanner.run 1 ⟨[.block], #[]⟩ =
        callDeclarationScanner.run 13 (Scan.addFound ⟨[.block], #[]⟩
          ([2, 11].filterMap (callDeclarationScanner.recordedAt .localVariable))) := by
  have hargs : callDeclarationTokens.PlainAt true 6 9 :=
    .token ⟨_, rfl, .inr (.inl rfl)⟩
      (.comma (by cbv) (.token ⟨_, rfl, .inr (.inl rfl)⟩ .nil))
  have hinit : callDeclarationTokens.PlainAt false 3 10 :=
    .token ⟨_, rfl, .inr (.inr (.inr ⟨rfl, by simp [callDeclarationTokens]⟩))⟩
      (.token ⟨_, rfl, .inl rfl⟩ (.group (.inl ⟨by cbv, by cbv⟩) hargs .nil))
  have hdecl : callDeclarationTokens.DeclaratorsAt 3 12 [11] :=
    .next hinit (by cbv) (by cbv) (by cbv) (.last .nil (by cbv))
  exact ⟨hdecl, (declarators_record_names callDeclarationScanner 1 ⟨[.block], #[]⟩).2
    [] 1 {} 2 12 [11] rfl (by cbv) (by cbv) (by cbv) (by cbv) (by cbv) (by cbv) hdecl⟩

end NamingLint.Declaration.Scanner

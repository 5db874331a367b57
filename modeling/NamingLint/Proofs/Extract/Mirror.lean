import Mathlib
import NamingLint.Declaration.Extract
import NamingLint.Proofs.Scan.Recorded
import NamingLint.Proofs.Lexer.Order

namespace NamingLint.Declaration

open Java Source

/-- The occurrence `o` reports the token `t` of a text whose lines are `lines`. -/
def Occurrence.Reports (lines : LineIndex) (o : Occurrence) (t : Token) : Prop :=
  t.kind = .identifier ∧ o.name = t.word ∧ o.name ≠ "_" ∧ o.start = t.start ∧ o.stop = t.stop ∧
    o.line = (lines.position t.start).line ∧ o.column = (lines.position t.start).column

theorem occurrencesOfTokens_recorded (source : String) (ts : Tokens) :
    ∃ picks : List (Fin ts.size × Role), (picks.map (·.1.val)).Pairwise (· < ·) ∧
      (∀ x ∈ picks, ts[x.1].kind = .identifier ∧ ts[x.1].word ≠ "_" ∧ ts.LeadsTo x.1) ∧
      (occurrencesOfTokens source ts).toList =
        picks.map fun x => (Scanner.ofTokens source ts).occurrenceOf ts[x.1] x.2 := by
  obtain ⟨picks, hsort, hpicks, hfound⟩ := (Scanner.ofTokens source ts).run_recorded 0 ⟨[], #[]⟩
  exact ⟨picks, hsort, fun x hx => (hpicks x hx).2.2, hfound⟩

/-- The declared names of a text are identifiers among its tokens, at increasing token indices,
and their start offsets strictly increase. -/
theorem extractOccurrences_mirror_tokens {source : String} {ts : Tokens}
    (h : tokenize source = .ok ts) :
    ∃ occs, extractOccurrences source = .ok occs ∧
      (occs.toList.map (·.start)).Pairwise (· < ·) ∧
      ∃ picks : List (Fin ts.size), (picks.map (·.val)).Pairwise (· < ·) ∧
        List.Forall₂ (fun k o => o.Reports (LineIndex.ofString source) ts[k]) picks occs.toList := by
  obtain ⟨picks, hsort, hpicks, hocc⟩ := occurrencesOfTokens_recorded source ts
  have hextract : extractOccurrences source = .ok (occurrencesOfTokens source ts) := by
    rw [extractOccurrences, h]
    rfl
  refine ⟨occurrencesOfTokens source ts, hextract, ?_, picks.map (·.1), ?_, ?_⟩
  · -- the token indices increase, and so do the tokens' starts
    rw [hocc, List.map_map]
    exact List.pairwise_map.2 ((List.pairwise_map.1 hsort).imp fun hab =>
      (tokenize_inOrder h).start_lt hab (Fin.isLt _))
  · rw [List.map_map]
    exact hsort
  · rw [hocc, List.forall₂_map_left_iff, List.forall₂_map_right_iff]
    refine List.forall₂_same.2 fun x hx => ?_
    obtain ⟨hkind, hword, -⟩ := hpicks x hx
    exact ⟨hkind, rfl, hword, rfl, rfl, rfl, rfl⟩

set_option maxRecDepth 100000 in
theorem classA_occurrences_mirror_tokens :
    ∃ ts : Tokens, tokenize "class A \x7b\x7d" = .ok ts ∧
      ∃ occs, extractOccurrences "class A \x7b\x7d" = .ok occs ∧
        (occs.toList.map (·.start)).Pairwise (· < ·) ∧
        ∃ picks : List (Fin ts.size), (picks.map (·.val)).Pairwise (· < ·) ∧
          List.Forall₂ (fun k o => o.Reports (LineIndex.ofString "class A \x7b\x7d") ts[k]) picks
            occs.toList := by
  have h : tokenize "class A \x7b\x7d" = .ok #[⟨.keyword, "class", 0, 5⟩, ⟨.identifier, "A", 6, 7⟩,
      ⟨.operator, "\x7b", 8, 9⟩, ⟨.operator, "\x7d", 9, 10⟩] := by
    cbv
  exact ⟨_, h, extractOccurrences_mirror_tokens h⟩

set_option maxRecDepth 100000 in
set_option maxHeartbeats 400000 in
theorem extractOccurrences_escapedStatic :
    extractOccurrences "class A \x7b \\u0073tatic final int MAX = 1; \x7d" =
      .ok #[⟨"A", .type, 1, 7, 6, 7⟩, ⟨"MAX", .field, 1, 33, 32, 35⟩] := by
  cbv

set_option maxRecDepth 100000 in
set_option maxHeartbeats 400000 in
theorem extractOccurrences_plainStatic :
    extractOccurrences "class A \x7b static final int MAX = 1; \x7d" =
      .ok #[⟨"A", .type, 1, 7, 6, 7⟩, ⟨"MAX", .constant, 1, 28, 27, 30⟩] := by
  cbv

theorem escaped_static_changes_role :
    extractOccurrences "class A \x7b \\u0073tatic final int MAX = 1; \x7d" =
        .ok #[⟨"A", .type, 1, 7, 6, 7⟩, ⟨"MAX", .field, 1, 33, 32, 35⟩] ∧
      extractOccurrences "class A \x7b static final int MAX = 1; \x7d" =
        .ok #[⟨"A", .type, 1, 7, 6, 7⟩, ⟨"MAX", .constant, 1, 28, 27, 30⟩] :=
  ⟨extractOccurrences_escapedStatic, extractOccurrences_plainStatic⟩

end NamingLint.Declaration

import Mathlib
import NamingLint.Declaration.Scan
import NamingLint.Proofs.Shape.Readers
import NamingLint.Proofs.Scan.Termination
import NamingLint.Proofs.Scan.Patterns

/-!
# Scanning tokens of the same shapes

The scanner decides from the kinds of tokens, from the texts of keywords and operators, and from
a few words it reads by their spelling (`non`, `sealed`, `record`, `yield`, `_`); never from
byte ranges, and never from which plain name an identifier holds. `Token.shape` forgets exactly
that, and every reader of a token array is proved to depend on `Tokens.shapes` alone. So a scan
over tokens of the same shapes takes the same steps, and what it records differs only as the
recording of a single token does. That is `Scanner.Alike`: one step lemma per handler of the scan,
and the run lemma assembled from them along the scan's recursion. Tokens moved some bytes on are
alike, and so are tokens where one plain name is replaced by another.
-/

namespace NamingLint.Java

def Token.moveBy (n : Nat) (t : Token) : Token :=
  { t with start := t.start + n, stop := t.stop + n }

namespace Token

@[simp] theorem kind_moveBy (n : Nat) (t : Token) : (t.moveBy n).kind = t.kind := rfl
@[simp] theorem text_moveBy (n : Nat) (t : Token) : (t.moveBy n).text = t.text := rfl
@[simp] theorem start_moveBy (n : Nat) (t : Token) : (t.moveBy n).start = t.start + n := rfl
@[simp] theorem stop_moveBy (n : Nat) (t : Token) : (t.moveBy n).stop = t.stop + n := rfl
@[simp] theorem word_moveBy (n : Nat) (t : Token) : (t.moveBy n).word = t.word := rfl

/-- The texts the scanner compares an identifier's text with, and the words it compares an
identifier's word with. -/
def spelledTexts : List String := ["non", "sealed", "record", "enum", "interface", "@", "(", "["]

def spelledWords : List String := ["sealed", "record", "yield", "_"]

/-- An identifier whose text and word the scanner never tells from another's. -/
def IsPlainName (t : Token) : Prop :=
  t.kind = .identifier ∧ t.text ∉ spelledTexts ∧ t.word ∉ spelledWords

instance (t : Token) : Decidable t.IsPlainName := by
  unfold IsPlainName
  infer_instance

/-- What the scanner reads of a token. -/
def shape (t : Token) : Token :=
  if t.IsPlainName then ⟨.identifier, "", 0, 0⟩ else ⟨t.kind, t.text, 0, 0⟩

variable (t : Token)

theorem word_blank : (⟨.identifier, "", 0, 0⟩ : Token).word = "" :=
  decodeEscapes_plain (by simp)

@[simp] theorem kind_shape : t.shape.kind = t.kind := by
  unfold shape
  split
  · exact (‹t.IsPlainName›).1.symm
  · rfl

@[simp] theorem shape_moveBy (n : Nat) : (t.moveBy n).shape = t.shape := rfl

theorem text_shape_of_ne {t : Token} (h : t.kind ≠ .identifier) : t.shape.text = t.text := by
  simp [shape, IsPlainName, h]

theorem text_shape_eq_iff {x : String} (hx : x ∈ spelledTexts) :
    t.shape.text = x ↔ t.text = x := by
  unfold shape
  split
  · rename_i hp
    constructor
    · rintro rfl
      simp [spelledTexts] at hx
    · rintro rfl
      exact absurd hx hp.2.1
  · rfl

theorem word_beq_shape {w : String} (hw : w ∈ spelledWords) :
    (t.shape.word == w) = (t.word == w) := by
  unfold shape
  split
  · rename_i hp
    have hne : t.word ≠ w := fun h => hp.2.2 (h ▸ hw)
    have hblank : "" ≠ w := by
      rintro rfl
      simp [spelledWords] at hw
    rw [word_blank]
    simp [hne, hblank]
  · rfl

-- a plain name is an identifier, so every test below that asks for another kind fails on both
@[simp] theorem isOperator_shape (op : String) : t.shape.isOperator op = t.isOperator op := by
  unfold shape isOperator
  split
  · rw [(‹t.IsPlainName›).1]
    rfl
  · rfl

@[simp] theorem isKeyword_shape (w : String) : t.shape.isKeyword w = t.isKeyword w := by
  unfold shape isKeyword
  split
  · rw [(‹t.IsPlainName›).1]
    rfl
  · rfl

@[simp] theorem isIdentifier_shape : t.shape.isIdentifier = t.isIdentifier := by
  simp [isIdentifier]

@[simp] theorem isPrimitiveType_shape : t.shape.isPrimitiveType = t.isPrimitiveType := by
  unfold shape isPrimitiveType
  split
  · rw [(‹t.IsPlainName›).1]
    rfl
  · rfl

theorem isWord_shape {w : String} (hw : w ∈ spelledWords) : t.shape.isWord w = t.isWord w := by
  simp only [isWord, kind_shape, word_beq_shape t hw]

end Token

end NamingLint.Java

namespace NamingLint.Declaration.Tokens

open Java

def moveBy (n : Nat) (ts : Tokens) : Tokens := ts.map (Token.moveBy n)

/-- What the scanner reads of the tokens. -/
def shapes (ts : Tokens) : Tokens := ts.map Token.shape

variable {ts : Tokens} {n : Nat}

@[simp] theorem size_moveBy : (ts.moveBy n).size = ts.size := Array.size_map ..

@[simp] theorem getElem_moveBy {i : Nat} (h : i < (ts.moveBy n).size) :
    (ts.moveBy n)[i] = Token.moveBy n (getElem ts i (by simpa using h)) := Array.getElem_map ..

@[simp] theorem size_shapes : ts.shapes.size = ts.size := Array.size_map ..

@[simp] theorem getElem?_shapes (i : Nat) : ts.shapes[i]? = ts[i]?.map Token.shape :=
  Array.getElem?_map ..

@[simp] theorem getElem_shapes {i : Nat} (h : i < ts.shapes.size) :
    ts.shapes[i] = (getElem ts i (by simpa using h)).shape := Array.getElem_map ..

theorem shapes_moveBy : (ts.moveBy n).shapes = ts.shapes := by
  simp only [shapes, moveBy, Array.map_map]
  rfl

/-! ## Every reader sees only the shapes -/

@[simp] theorem isOp_shapes (i : Nat) (op : String) : ts.shapes.isOp i op = ts.isOp i op := by
  simp [isOp, Option.any_map]

@[simp] theorem isKeyword_shapes (i : Nat) (w : String) :
    ts.shapes.isKeyword i w = ts.isKeyword i w := by
  simp [isKeyword, Option.any_map]

@[simp] theorem isIdentifier_shapes (i : Nat) : ts.shapes.isIdentifier i = ts.isIdentifier i := by
  simp [isIdentifier, Option.any_map]

theorem isWord_shapes (i : Nat) {w : String} (hw : w ∈ Token.spelledWords) :
    ts.shapes.isWord i w = ts.isWord i w := by
  simp [isWord, Option.any_map, Token.isWord_shape _ hw]

@[simp] theorem isWord_shapes_sealed (i : Nat) :
    ts.shapes.isWord i "sealed" = ts.isWord i "sealed" :=
  isWord_shapes i (by decide)

@[simp] theorem isWord_shapes_record (i : Nat) :
    ts.shapes.isWord i "record" = ts.isWord i "record" :=
  isWord_shapes i (by decide)

@[simp] theorem isWord_shapes_yield (i : Nat) : ts.shapes.isWord i "yield" = ts.isWord i "yield" :=
  isWord_shapes i (by decide)

@[simp] theorem shape_text_eq_non (t : Token) : (t.shape.text = "non") = (t.text = "non") :=
  propext (Token.text_shape_eq_iff t (by decide))

@[simp] theorem shape_text_eq_sealed (t : Token) :
    (t.shape.text = "sealed") = (t.text = "sealed") :=
  propext (Token.text_shape_eq_iff t (by decide))

@[simp] theorem closeFrom_shapes (o c : String) (j d : Nat) :
    ts.shapes.closeFrom o c j d = ts.closeFrom o c j d := by
  fun_induction ts.closeFrom o c j d <;> (conv_lhs => rw [closeFrom]) <;> simp_all +zetaDelta

@[simp] theorem matchingClose_shapes (i : Nat) : ts.shapes.matchingClose i = ts.matchingClose i := by
  unfold matchingClose
  simp only [getElem?_shapes]
  cases ts[i]? with
  | none => rfl
  | some t =>
    have hparen := Token.text_shape_eq_iff t (x := "(") (by decide)
    have hsquare := Token.text_shape_eq_iff t (x := "[") (by decide)
    by_cases hp : t.text = "(" <;> by_cases hs : t.text = "[" <;> simp_all

@[simp] theorem afterBracket_shapes (i : Nat) : ts.shapes.afterBracket i = ts.afterBracket i := by
  simp [afterBracket]

@[simp] theorem afterQualifiedName_shapes (j : Nat) :
    ts.shapes.afterQualifiedName j = ts.afterQualifiedName j := by
  fun_induction ts.afterQualifiedName j <;> (conv_lhs => rw [afterQualifiedName]) <;>
    simp_all +zetaDelta

@[simp] theorem skipAnnotation_shapes (i : Nat) :
    Tokens.skipAnnotation ts.shapes i = ts.skipAnnotation i := by
  unfold skipAnnotation
  simp

@[simp] theorem skipModifiers_shapes (j : Nat) (mods : Modifiers) :
    ts.shapes.skipModifiers j mods = ts.skipModifiers j mods := by
  fun_induction ts.skipModifiers j mods <;> (conv_lhs => rw [skipModifiers]) <;>
    simp_all +zetaDelta [Option.any_map, Token.text_shape_of_ne] <;> grind

@[simp] theorem skipTypeArgumentsFrom_shapes (j d : Nat) :
    ts.shapes.skipTypeArgumentsFrom j d = ts.skipTypeArgumentsFrom j d := by
  fun_induction ts.skipTypeArgumentsFrom j d <;> (conv_lhs => rw [skipTypeArgumentsFrom]) <;>
    simp_all +zetaDelta [Token.text_shape_of_ne]

@[simp] theorem skipTypeArguments_shapes (j : Nat) :
    ts.shapes.skipTypeArguments j = ts.skipTypeArguments j := by
  simp [skipTypeArguments]

@[simp] theorem skipDimensions_shapes (j : Nat) :
    ts.shapes.skipDimensions j = ts.skipDimensions j := by
  fun_induction ts.skipDimensions j <;> (conv_lhs => rw [skipDimensions]) <;> simp_all +zetaDelta

@[simp] theorem afterClassType_shapes (j : Nat) :
    ts.shapes.afterClassType j = ts.afterClassType j := by
  fun_induction ts.afterClassType j <;> (conv_lhs => rw [afterClassType]) <;> simp_all +zetaDelta

@[simp] theorem parseType_shapes (i : Nat) : ts.shapes.parseType i = ts.parseType i := by
  have hdims : ts.shapes.skipDimensions = ts.skipDimensions := funext skipDimensions_shapes
  unfold parseType
  simp only [getElem?_shapes, hdims]
  cases ts[i]? <;> simp

@[simp] theorem isTypeDeclaration_shapes (i : Nat) :
    ts.shapes.isTypeDeclaration i = ts.isTypeDeclaration i := by
  simp [isTypeDeclaration]

@[simp] theorem endsDeclarator_shapes (i : Nat) :
    ts.shapes.endsDeclarator i = ts.endsDeclarator i := by
  simp [endsDeclarator]

@[simp] theorem atStatementStart_shapes (i : Nat) :
    ts.shapes.atStatementStart i = ts.atStatementStart i := by
  unfold atStatementStart
  rcases i with _ | p
  · rfl
  · simp only [getElem?_shapes]
    cases ts[p]? with
    | none => rfl
    | some t =>
      by_cases hk : t.kind = .operator
      · simp [hk, Token.text_shape_of_ne (t := t) (by simp [hk])]
      · simp [hk]

@[simp] theorem skipAnnotations_shapes (j : Nat) :
    anonymousBodyAfter.skipAnnotations ts.shapes j = anonymousBodyAfter.skipAnnotations ts j := by
  fun_induction anonymousBodyAfter.skipAnnotations ts j <;>
    (conv_lhs => rw [anonymousBodyAfter.skipAnnotations]) <;> simp_all +zetaDelta

@[simp] theorem anonymousBodyAfter_shapes (i : Nat) :
    ts.shapes.anonymousBodyAfter i = ts.anonymousBodyAfter i := by
  simp [anonymousBodyAfter]

@[simp] theorem semicolonFrom_shapes (j : Nat) :
    Scanner.compilationUnitItem.semicolonFrom ts.shapes j =
      Scanner.compilationUnitItem.semicolonFrom ts j := by
  fun_induction Scanner.compilationUnitItem.semicolonFrom ts j <;>
    (conv_lhs => rw [Scanner.compilationUnitItem.semicolonFrom]) <;> simp_all +zetaDelta

@[simp] theorem anonymousBodies_shapes : ts.shapes.anonymousBodies = ts.anonymousBodies := by
  simp [anonymousBodies]

/-! ## Tokens of the same shapes -/

/-- `ts'` has the shapes of `ts`: the scanner cannot tell them apart. -/
def Alike (ts ts' : Tokens) : Prop := ts'.shapes = ts.shapes

theorem alike_moveBy (ts : Tokens) (n : Nat) : ts.Alike (ts.moveBy n) := shapes_moveBy

namespace Alike

variable {ts' : Tokens} (h : ts.Alike ts')
include h

theorem size_eq : ts'.size = ts.size := by
  rw [← size_shapes, h, size_shapes]

theorem getElem_shape {i : Nat} (hi : i < ts.size) (hi' : i < ts'.size) : ts'[i].shape = ts[i].shape := by
  have := congrArg (·[i]?) h
  simpa [Array.getElem?_eq_getElem hi, Array.getElem?_eq_getElem hi'] using this

theorem isOperator_getElem {i : Nat} (hi : i < ts.size) (hi' : i < ts'.size) (op : String) :
    ts'[i].isOperator op = ts[i].isOperator op := by
  rw [← Token.isOperator_shape, h.getElem_shape hi hi', Token.isOperator_shape]

theorem kind_getElem {i : Nat} (hi : i < ts.size) (hi' : i < ts'.size) : ts'[i].kind = ts[i].kind := by
  rw [← Token.kind_shape, h.getElem_shape hi hi', Token.kind_shape]

theorem text_getElem {i : Nat} (hi : i < ts.size) (hi' : i < ts'.size)
    (hk : ts[i].kind ≠ .identifier) : ts'[i].text = ts[i].text := by
  have hk' : ts'[i].kind ≠ .identifier := by rwa [h.kind_getElem hi hi']
  rw [← Token.text_shape_of_ne hk, ← Token.text_shape_of_ne hk', h.getElem_shape hi hi']

theorem word_beq_getElem {i : Nat} (hi : i < ts.size) (hi' : i < ts'.size) :
    (ts'[i].word == "_") = (ts[i].word == "_") := by
  rw [← Token.word_beq_shape _ (by decide), h.getElem_shape hi hi', Token.word_beq_shape _ (by decide)]

theorem isOp (i : Nat) (op : String) : ts'.isOp i op = ts.isOp i op :=
  by rw [← isOp_shapes, h, isOp_shapes]

theorem isKeyword (i : Nat) (w : String) : ts'.isKeyword i w = ts.isKeyword i w :=
  by rw [← isKeyword_shapes, h, isKeyword_shapes]

theorem isIdentifier (i : Nat) : ts'.isIdentifier i = ts.isIdentifier i :=
  by rw [← isIdentifier_shapes, h, isIdentifier_shapes]

theorem isWord_yield (i : Nat) : ts'.isWord i "yield" = ts.isWord i "yield" :=
  by rw [← isWord_shapes_yield, h, isWord_shapes_yield]

theorem matchingClose (i : Nat) : ts'.matchingClose i = ts.matchingClose i :=
  by rw [← matchingClose_shapes, h, matchingClose_shapes]

theorem afterBracket (i : Nat) : ts'.afterBracket i = ts.afterBracket i :=
  by rw [← afterBracket_shapes, h, afterBracket_shapes]

theorem skipAnnotation (i : Nat) : Tokens.skipAnnotation ts' i = Tokens.skipAnnotation ts i :=
  by rw [← skipAnnotation_shapes, h, skipAnnotation_shapes]

theorem skipModifiers (j : Nat) (mods : Modifiers) :
    ts'.skipModifiers j mods = ts.skipModifiers j mods :=
  by rw [← skipModifiers_shapes, h, skipModifiers_shapes]

theorem skipTypeArguments (j : Nat) : ts'.skipTypeArguments j = ts.skipTypeArguments j :=
  by rw [← skipTypeArguments_shapes, h, skipTypeArguments_shapes]

theorem parseType (i : Nat) : ts'.parseType i = ts.parseType i :=
  by rw [← parseType_shapes, h, parseType_shapes]

theorem isTypeDeclaration (i : Nat) : ts'.isTypeDeclaration i = ts.isTypeDeclaration i :=
  by rw [← isTypeDeclaration_shapes, h, isTypeDeclaration_shapes]

theorem endsDeclarator (i : Nat) : ts'.endsDeclarator i = ts.endsDeclarator i :=
  by rw [← endsDeclarator_shapes, h, endsDeclarator_shapes]

theorem atStatementStart (i : Nat) : ts'.atStatementStart i = ts.atStatementStart i :=
  by rw [← atStatementStart_shapes, h, atStatementStart_shapes]

theorem semicolonFrom (j : Nat) :
    Scanner.compilationUnitItem.semicolonFrom ts' j =
      Scanner.compilationUnitItem.semicolonFrom ts j :=
  by rw [← semicolonFrom_shapes, h, semicolonFrom_shapes]

theorem anonymousBodies : ts'.anonymousBodies = ts.anonymousBodies :=
  by rw [← anonymousBodies_shapes, h, anonymousBodies_shapes]

end Alike

end NamingLint.Declaration.Tokens

namespace NamingLint.Declaration

open Java

namespace Scan

def mapFound (f : Occurrence → Occurrence) (s : Scan) : Scan := { s with found := s.found.map f }

variable (f : Occurrence → Occurrence) (s : Scan)

@[simp] theorem frames_mapFound : (s.mapFound f).frames = s.frames := rfl

@[simp] theorem push_mapFound (fr : Frame) : (s.mapFound f).push fr = (s.push fr).mapFound f := rfl

@[simp] theorem pop_mapFound : (s.mapFound f).pop = s.pop.mapFound f := rfl

@[simp] theorem setTop_mapFound (fr : Frame) :
    (s.mapFound f).setTop fr = (s.setTop fr).mapFound f := rfl

theorem mk_frames_mapFound (frames : List Frame) :
    ({ s.mapFound f with frames } : Scan) = ({ s with frames } : Scan).mapFound f := rfl

end Scan

namespace Scanner

/-- `sc'` reads tokens of the shapes of `sc`'s, with the same anonymous class bodies, and
records at each token what `sc` records there changed by `f`. -/
structure Alike (sc sc' : Scanner) (f : Occurrence → Occurrence) : Prop where
  tokens : sc.tokens.Alike sc'.tokens
  anonymous : sc'.anonymous = sc.anonymous
  record : ∀ i hi hi' role s, sc'.record i hi' role (s.mapFound f) = (sc.record i hi role s).mapFound f

theorem typeHead_default {x : Option String} (i : Nat)
    (hx : ∀ w ∈ ["@", "interface", "enum", "record"], x ≠ some w) :
    typeHead x i = (.classType, i + 1) := by
  simp only [List.mem_cons, List.not_mem_nil, or_false, forall_eq_or_imp, forall_eq] at hx
  obtain ⟨h1, h2, h3, h4⟩ := hx
  unfold typeHead
  split
  · exact absurd rfl h1
  · exact absurd rfl h2
  · exact absurd rfl h3
  · exact absurd rfl h4
  · rfl

/-- The word that opens a type declaration selects its kind by its text; any other text selects
the default. -/
theorem typeHead_alike {x y : Option String}
    (hxy : ∀ w ∈ ["@", "interface", "enum", "record"], x = some w ↔ y = some w) (i : Nat) :
    typeHead x i = typeHead y i := by
  by_cases hx : ∃ w ∈ ["@", "interface", "enum", "record"], x = some w
  · obtain ⟨w, hw, rfl⟩ := hx
    rw [← (hxy w hw).1 rfl]
  · have hy : ∀ w ∈ ["@", "interface", "enum", "record"], y ≠ some w :=
      fun w hw hyw => hx ⟨w, hw, (hxy w hw).2 hyw⟩
    rw [typeHead_default i (fun w hw hxw => hx ⟨w, hw, hxw⟩), typeHead_default i hy]

namespace Alike

variable {sc sc' : Scanner} {f : Occurrence → Occurrence} (h : sc.Alike sc' f)
include h

theorem size_eq : sc'.tokens.size = sc.tokens.size := h.tokens.size_eq

theorem record_mapFound (i : Nat) (hi' : i < sc'.tokens.size) (role : Role) (s : Scan) :
    sc'.record i hi' role (s.mapFound f) = (sc.record i (h.size_eq ▸ hi') role s).mapFound f :=
  h.record _ _ _ _ _

theorem declarationHeader (kind : TypeKind) (j : Nat) (s : Scan) :
    sc'.declarationHeader kind j (s.mapFound f) =
      Prod.map id (Scan.mapFound f) (sc.declarationHeader kind j s) := by
  fun_induction sc.declarationHeader kind j s <;> (conv_lhs => rw [Scanner.declarationHeader]) <;>
    simp_all +zetaDelta [h.size_eq, h.tokens.isOperator_getElem, h.tokens.afterBracket]

theorem typeDeclaration (i : Nat) (s : Scan) :
    sc'.typeDeclaration i (s.mapFound f) =
      Prod.map id (Scan.mapFound f) (sc.typeDeclaration i s) := by
  -- the name is read at the same token, and the header after it alike
  have named : ∀ kind name,
      sc'.declarationHeader kind (name + 1)
          (if hid : sc'.tokens.isIdentifier name then
            sc'.record name (Tokens.lt_size_of_isIdentifier hid) .type (s.mapFound f)
            else s.mapFound f) =
        Prod.map id (Scan.mapFound f) (sc.declarationHeader kind (name + 1)
          (if hid : sc.tokens.isIdentifier name then
            sc.record name (Tokens.lt_size_of_isIdentifier hid) .type s else s)) := by
    intro kind name
    by_cases hid : sc.tokens.isIdentifier name
    · rw [dif_pos hid, dif_pos ((h.tokens.isIdentifier name).trans hid), h.record,
        h.declarationHeader]
    · rw [dif_neg hid, dif_neg (by rwa [h.tokens.isIdentifier]), h.declarationHeader]
  -- the texts that select a kind are spelled texts, which the shapes keep
  have hsel : ∀ w ∈ ["@", "interface", "enum", "record"],
      (sc'.tokens[i]?).map (·.text) = some w ↔ (sc.tokens[i]?).map (·.text) = some w := by
    intro w hw
    have hw' : w ∈ Token.spelledTexts := by
      simp only [List.mem_cons, List.not_mem_nil, or_false] at hw
      rcases hw with rfl | rfl | rfl | rfl <;> decide
    by_cases hi : i < sc.tokens.size
    · have hi' : i < sc'.tokens.size := h.size_eq ▸ hi
      rw [Array.getElem?_eq_getElem hi, Array.getElem?_eq_getElem hi']
      simp only [Option.map_some, Option.some.injEq]
      rw [← Token.text_shape_eq_iff _ hw', h.tokens.getElem_shape hi hi', Token.text_shape_eq_iff _ hw']
    · have hi' : ¬ i < sc'.tokens.size := by rwa [h.size_eq]
      rw [Array.getElem?_eq_none (Nat.le_of_not_lt hi), Array.getElem?_eq_none (Nat.le_of_not_lt hi')]
  unfold Scanner.typeDeclaration
  rw [typeHead_alike hsel i]
  split
  exact named _ _

theorem methodTail (j : Nat) (s : Scan) :
    sc'.methodTail j (s.mapFound f) = Prod.map id (Scan.mapFound f) (sc.methodTail j s) := by
  fun_induction sc.methodTail j s <;> (conv_lhs => rw [Scanner.methodTail]) <;>
    simp_all +zetaDelta [h.size_eq, h.tokens.isOperator_getElem]

theorem methodHeader (i : Nat) (s : Scan) :
    sc'.methodHeader i (s.mapFound f) = Prod.map id (Scan.mapFound f) (sc.methodHeader i s) := by
  unfold Scanner.methodHeader
  rw [h.tokens.matchingClose, h.size_eq]
  split
  · exact h.methodTail _ s
  · simp

/-- Patterns are read alike, and their bindings recorded alike. -/
theorem pattern_patternsUntil :
    (∀ i s,
      sc'.pattern i (s.mapFound f) = (sc.pattern i s).map (Prod.map id (Scan.mapFound f))) ∧
    (∀ k close s,
      sc'.patternsUntil k close (s.mapFound f) = (sc.patternsUntil k close s).mapFound f) := by
  refine Scanner.pattern.mutual_induct sc
    (fun i s => sc'.pattern i (s.mapFound f) = (sc.pattern i s).map (Prod.map id (Scan.mapFound f)))
    (fun k close s =>
      sc'.patternsUntil k close (s.mapFound f) = (sc.patternsUntil k close s).mapFound f)
    ?_ ?_ ?_ ?_ ?_ ?_ ?_ ?_ ?_ <;> intros <;>
    (first
      | (conv_lhs => rw [Scanner.pattern]); (conv_rhs => rw [Scanner.pattern])
      | (conv_lhs => rw [Scanner.patternsUntil]); (conv_rhs => rw [Scanner.patternsUntil])) <;>
    simp_all +zetaDelta [h.size_eq, h.tokens.isKeyword, h.tokens.parseType, h.tokens.isIdentifier,
      h.tokens.isOp, h.tokens.matchingClose, h.record_mapFound] <;> grind

theorem openBrace (i : Nat) (hi' : i < sc'.tokens.size) (s : Scan) :
    sc'.openBrace i hi' (s.mapFound f) =
      Prod.map id (Scan.mapFound f) (sc.openBrace i (h.size_eq ▸ hi') s) := by
  simp [Scanner.openBrace, h.anonymous]

theorem afterPattern (i : Nat) (s : Scan) :
    sc'.afterPattern i (s.mapFound f) = Prod.map id (Scan.mapFound f) (sc.afterPattern i s) := by
  unfold Scanner.afterPattern
  rw [h.pattern_patternsUntil.1]
  cases sc.pattern (i + 1) s <;> rfl

theorem compilationUnitItem (i : Nat) (s : Scan) :
    sc'.compilationUnitItem i (s.mapFound f) =
      Prod.map id (Scan.mapFound f) (sc.compilationUnitItem i s) := by
  unfold Scanner.compilationUnitItem
  simp only [h.tokens.isKeyword, h.tokens.semicolonFrom, h.tokens.skipModifiers,
    h.tokens.isTypeDeclaration]
  split
  · rfl
  · split
    · exact h.typeDeclaration _ s
    · rfl

theorem enumConstant (i : Nat) (s : Scan) :
    sc'.enumConstant i (s.mapFound f) = Prod.map id (Scan.mapFound f) (sc.enumConstant i s) := by
  unfold Scanner.enumConstant
  simp only [h.tokens.isOp, h.tokens.isIdentifier, h.tokens.skipAnnotation, h.tokens.afterBracket,
    Scan.frames_mapFound]
  split
  · split <;> rfl
  · split
    · rfl
    · split
      · rfl
      · split
        · split <;> split <;> rfl
        · rfl

theorem member (kind : TypeKind) (i : Nat) (s : Scan) :
    sc'.member kind i (s.mapFound f) = Prod.map id (Scan.mapFound f) (sc.member kind i s) := by
  unfold Scanner.member
  simp only [h.tokens.isOp, h.tokens.skipModifiers, h.tokens.isTypeDeclaration,
    h.tokens.skipTypeArguments, h.tokens.isIdentifier, h.tokens.parseType, h.tokens.endsDeclarator]
  generalize sc.tokens.skipModifiers i {} = p
  obtain ⟨j, mods⟩ := p
  dsimp only
  split
  · rfl
  split
  · rfl
  split
  · rfl
  split
  · exact h.typeDeclaration _ s
  split
  · rfl
  split
  · exact h.methodHeader _ s
  split
  · rfl
  split
  · rfl
  split
  · rfl
  split
  · rw [h.record, h.methodHeader]
  split
  · rw [h.record]
    rfl
  · rfl

theorem localDeclaration (i : Nat) (s : Scan) :
    sc'.localDeclaration i (s.mapFound f) =
      (sc.localDeclaration i s).map (Prod.map id (Scan.mapFound f)) := by
  unfold Scanner.localDeclaration
  simp only [h.tokens.skipModifiers, h.tokens.isTypeDeclaration, h.tokens.isWord_yield,
    h.tokens.parseType, h.tokens.isIdentifier, h.tokens.isOp, h.tokens.endsDeclarator]
  split
  · rw [h.typeDeclaration]
    rfl
  split
  · rfl
  split
  · rfl
  split
  · rfl
  split
  · rw [h.record]
    rfl
  split
  · rfl
  · rw [h.record]
    rfl

theorem blockToken (i : Nat) (s : Scan) :
    sc'.blockToken i (s.mapFound f) = Prod.map id (Scan.mapFound f) (sc.blockToken i s) := by
  unfold Scanner.blockToken
  have hdecl : (if sc'.tokens.atStatementStart i then sc'.localDeclaration i (s.mapFound f)
      else none) =
      (if sc.tokens.atStatementStart i then sc.localDeclaration i s else none).map
        (Prod.map id (Scan.mapFound f)) := by
    rw [h.tokens.atStatementStart, h.localDeclaration]
    split <;> rfl
  rw [hdecl]
  rcases (if sc.tokens.atStatementStart i then sc.localDeclaration i s else none) with _ | r
  · simp only [Option.map_none, h.tokens.isOp, h.tokens.isKeyword]
    split
    · exact h.openBrace i _ s
    split
    · rfl
    split
    · exact h.afterPattern i s
    · rfl
  · rfl

theorem declaratorToken (role : Role) (depth i : Nat) (s : Scan) :
    sc'.declaratorToken role depth i (s.mapFound f) =
      Prod.map id (Scan.mapFound f) (sc.declaratorToken role depth i s) := by
  unfold Scanner.declaratorToken
  by_cases hi : i < sc.tokens.size
  · have hi' : i < sc'.tokens.size := h.size_eq ▸ hi
    rw [dif_pos hi', dif_pos hi]
    dsimp only
    -- the kind is shared, and so is the text of a keyword or an operator; an identifier's or a
    -- literal's text is never read
    have hk := h.tokens.kind_getElem hi hi'
    cases hkind : sc.tokens[i].kind with
    | identifier =>
      rw [hk, hkind]
      rfl
    | literal =>
      rw [hk, hkind]
      rfl
    | keyword =>
      rw [hk, hkind]
      dsimp only
      rw [h.tokens.text_getElem hi hi' (by rw [hkind]; decide)]
      split
      · exact h.afterPattern i s
      · rfl
    | operator =>
      rw [hk, hkind]
      dsimp only
      rw [h.tokens.text_getElem hi hi' (by rw [hkind]; decide)]
      split
      · rfl
      split
      · split <;> rfl
      split
      · exact h.openBrace i _ s
      split
      · rfl
      split
      · have hn' : (sc'.tokens.isIdentifier (i + 1) && sc'.tokens.endsDeclarator (i + 2)) =
            (sc.tokens.isIdentifier (i + 1) && sc.tokens.endsDeclarator (i + 2)) := by
          rw [h.tokens.isIdentifier, h.tokens.endsDeclarator]
        by_cases hn : (sc.tokens.isIdentifier (i + 1) && sc.tokens.endsDeclarator (i + 2)) = true
        · rw [dif_pos (hn'.trans hn), dif_pos hn, h.record_mapFound]
          rfl
        · rw [dif_neg (by rwa [hn']), dif_neg hn]
          rfl
      · rfl
  · rw [dif_neg (by rwa [h.size_eq]), dif_neg hi]
    rfl

/-- One pass over tokens of the same shapes is the pass over the originals: the top frame picks
the same handler, and each handler steps alike. -/
theorem step (i : Nat) (s : Scan) :
    sc'.step i (s.mapFound f) = Prod.map id (Scan.mapFound f) (sc.step i s) := by
  unfold Scanner.step
  rw [Scan.frames_mapFound]
  split
  · exact h.compilationUnitItem i s
  · exact h.enumConstant i s
  · exact h.member _ i s
  · exact h.blockToken i s
  · rw [h.tokens.isOp]
    split
    · rfl
    · exact h.declaratorToken _ _ i s

/-- The whole scan over tokens of the same shapes finds the original's occurrences, changed. -/
theorem run (i : Nat) (s : Scan) : sc'.run i (s.mapFound f) = (sc.run i s).mapFound f := by
  induction i, s using sc.run_induction with
  | stop i s hi => rw [@run_eq_step sc', @run_eq_step sc, h.size_eq, if_neg hi, if_neg hi]
  | pass i s hi ih =>
    rw [@run_eq_step sc', @run_eq_step sc, h.size_eq, if_pos hi, if_pos hi, h.step]
    exact ih

end Alike

end Scanner

end NamingLint.Declaration

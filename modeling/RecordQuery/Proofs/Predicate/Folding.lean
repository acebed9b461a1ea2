import RecordQuery.Proofs.Predicate.Typing
import RecordQuery.Proofs.Text.LetterCase
import RecordQuery.SortKey

/-!
# Filters that ignore case

A folded comparison lowers the text of the member as a whole to test for equality, and letter by
letter to order it; its literal is lowered as a whole. The two agree as long as no capital sigma is
lowered to a final one. Then the six comparisons with a literal are those of one three-way result,
which is also what a sort key that ignores case finds between the two texts.
-/

namespace RecordQuery

open Text

variable {schema : Schema} {root : FieldType} {rules : TextRules}

namespace Comparison

def operation : Comparison → Operation
  | eq => .equals
  | ne => .notEqual
  | lt => .lessThan
  | le => .lessThanOrEqual
  | gt => .greaterThan
  | ge => .greaterThanOrEqual

@[simp] theorem ofOperation?_operation (op : Comparison) : ofOperation? op.operation = some op := by
  cases op <;> rfl

end Comparison

theorem Filter.compile_literal {filter : Filter} {literal : String} {member : MemberPath}
    (hvalue : filter.value = .literal literal) (scalar : filter.operation.isCollection = false)
    (resolved : MemberPath.resolve schema root filter.property = .ok member) :
    Filter.compile schema rules root filter = compileScalar rules member filter.property
      filter.operation filter.caseSensitive literal := by
  obtain ⟨property, value, operation, caseSensitive, connective⟩ := filter
  dsimp only at hvalue scalar resolved ⊢
  rw [Filter.compile, resolved, ok_bind, scalar, hvalue]
  rfl

/-- A comparison of one value compiles to one with the constant of its literal. -/
theorem compileScalar_of_comparison {member : MemberPath} {property literal : String}
    {caseSensitive : Bool} (op : Comparison) (scalar : member.type.isCompound = false)
    (compares : op.operation.isRelational = true →
      member.type.isOrdered = true ∧ member.type.present ≠ .bool) :
    compileScalar rules member property op.operation caseSensitive literal =
      compileComparison rules member property
        (member.type.isString && (rules.caseInsensitiveSource || !caseSensitive)) op literal := by
  have htext : TextTest.ofOperation? op.operation = none := by cases op <;> rfl
  have hop : op.operation ≠ .oneOf ∧ op.operation ≠ .noneOf := by cases op <;> exact ⟨nofun, nofun⟩
  have allowed : (op.operation.isRelational &&
      (!member.type.isOrdered || member.type.present == .bool)) = false := by
    cases hrelational : op.operation.isRelational with
    | false => rfl
    | true =>
      obtain ⟨ordered, other⟩ := compares hrelational
      simp [ordered, other]
  simp [compileScalar, scalar, htext, hop, allowed]

theorem compileScalar_of_folding {member : MemberPath} {property literal : String}
    {caseSensitive : Bool} (op : Comparison) (hstring : member.type.isString = true)
    (folding : (rules.caseInsensitiveSource || !caseSensitive) = true)
    (nonnull : Constant.isNullLiteral rules.nullIsString member.type literal = false) :
    compileScalar rules member property op.operation caseSensitive literal =
      .ok (.comparison member op (.string (lowercase literal)) true) := by
  have hpresent : member.type.present = .string := beq_iff_eq.1 hstring
  have hcoerce : Constant.coerce rules.nullIsString member.type property literal =
      .ok (.string literal) := by
    rw [Constant.coerce, if_neg (Bool.eq_false_iff.1 nonnull), hpresent]
    rfl
  have scalar : member.type.isCompound = false := by rw [FieldType.isCompound, hpresent]
  have ordered : member.type.isOrdered = true := by rw [FieldType.isOrdered, hpresent]
  have other : member.type.present ≠ .bool := hpresent ▸ nofun
  rw [compileScalar_of_comparison op scalar fun _ => ⟨ordered, other⟩, hstring, folding,
    compileComparison, hcoerce]
  rfl

theorem lowercase_beq {s c : String} (hs : NoFinalSigma s) :
    (lowercase s == lowercase c) = (collateIgnoreCase s (lowercase c)).isEq := by
  rw [collateIgnoreCase, letterKey_lowercase, noFinalSigma_iff.1 hs, Bool.eq_iff_iff, beq_iff_eq,
    Ordering.isEq_iff_eq_eq, Std.compare_eq_iff_eq, String.ext_iff, String.toList_ofList]

theorem holdsOfStrings_fold (op : Comparison) {s c : String} (hs : NoFinalSigma s) :
    op.holdsOfStrings true s (lowercase c) = op.holds (collateIgnoreCase s (lowercase c)) := by
  cases op with
  | eq => exact lowercase_beq hs
  | ne =>
    have hne : (lowercase s != lowercase c) = !(collateIgnoreCase s (lowercase c)).isEq :=
      congrArg Bool.not (lowercase_beq hs)
    rw [Comparison.holdsOfStrings, hne, Comparison.holds]
    cases collateIgnoreCase s (lowercase c) <;> rfl
  | lt | le | gt | ge => rfl

theorem collateIgnoreCase_lowercase {c : String} (s : String) (hc : NoFinalSigma c) :
    collateIgnoreCase s (lowercase c) = collateIgnoreCase s c := by
  rw [collateIgnoreCase, letterKey_lowercase, noFinalSigma_iff.1 hc, String.toList_ofList,
    collateIgnoreCase]

/-- An ascending key compares records as their values compare. -/
theorem SortKey.compare_of_some {key : SortKey} {a b : Value} {o : Ordering}
    (ascending : key.direction = .asc)
    (h : (key.value a).compare? key.ignoreCase (key.value b) = some o) : key.compare a b = o := by
  rw [compare, h, ascending]
  rfl

theorem SortKey.compare_of_strings {key : SortKey} {a b : Value} {s t : String}
    (ascending : key.direction = .asc) (ignores : key.ignoreCase = true)
    (ha : key.value a = .string s) (hb : key.value b = .string t) :
    key.compare a b = collateIgnoreCase s t := by
  apply compare_of_some ascending
  rw [ha, hb, ignores]
  rfl

/-- The comparisons of a folded member with a literal are coherent where the text of the member has
no final sigma: one of three holds, and the other ones follow from them. If the literal has none
either, sort keys that ignore case agree with them. -/
theorem Filter.folded_comparisons_agree {filter : Filter} {literal : String} {member : MemberPath}
    (hvalue : filter.value = .literal literal)
    (resolved : MemberPath.resolve schema root filter.property = .ok member)
    (hstring : member.type.isString = true)
    (folding : rules.caseInsensitiveSource = true ∨ filter.caseSensitive = false)
    (nonnull : Constant.isNullLiteral rules.nullIsString member.type literal = false) :
    ∃ compiled : Comparison → Predicate,
      (∀ op, Filter.compile schema rules root { filter with operation := op.operation } =
        .ok (compiled op)) ∧
      ∀ v s, member.read v = some (.string s) → NoFinalSigma s →
        ([.lt, .eq, .gt].countP fun op => (compiled op).evaluate v) = 1 ∧
        (compiled .le).evaluate v = ((compiled .lt).evaluate v || (compiled .eq).evaluate v) ∧
        (compiled .ge).evaluate v = ((compiled .gt).evaluate v || (compiled .eq).evaluate v) ∧
        (NoFinalSigma literal → ∀ (key : SortKey) (a b : Value), key.direction = .asc →
          key.ignoreCase = true → key.value a = .string s → key.value b = .string literal →
          ∀ op : Comparison, (compiled op).evaluate v = op.holds (key.compare a b)) := by
  refine ⟨fun op => .comparison member op (.string (lowercase literal)) true, ?_, ?_⟩
  · intro op
    have hfold : (rules.caseInsensitiveSource || !filter.caseSensitive) = true := by
      rcases folding with hsource | hfilter
      · rw [hsource, Bool.true_or]
      · rw [hfilter, Bool.not_false, Bool.or_true]
    have hscalar : op.operation.isCollection = false := by cases op <;> rfl
    have hcompile := @Filter.compile_literal schema root rules
      { filter with operation := op.operation } literal member hvalue hscalar resolved
    rw [hcompile]
    exact compileScalar_of_folding op hstring hfold nonnull
  · intro v s hread hs
    have heval (op : Comparison) :
        (Predicate.comparison member op (.string (lowercase literal)) true).evaluate v =
          op.holds (collateIgnoreCase s (lowercase literal)) := by
      rw [Predicate.evaluate, hread]
      exact holdsOfStrings_fold op hs
    simp only [heval]
    refine ⟨?_, ?_, ?_, ?_⟩
    · cases collateIgnoreCase s (lowercase literal) <;> rfl
    · cases collateIgnoreCase s (lowercase literal) <;> rfl
    · cases collateIgnoreCase s (lowercase literal) <;> rfl
    · intro hc key a b ascending ignores ha hb op
      rw [collateIgnoreCase_lowercase s hc, SortKey.compare_of_strings ascending ignores ha hb]

def namedLikeBo : Filter where
  property := "name"
  value := .literal "BO"
  operation := .equals

theorem Filter.comparisons_namedLikeBo_captain :
    ∃ compiled : Comparison → Predicate,
      (∀ op, Filter.compile .players {} (.record "Player")
        { namedLikeBo with operation := op.operation } = .ok (compiled op)) ∧
      ([.lt, .eq, .gt].countP fun op => (compiled op).evaluate captain) = 1 ∧
      (compiled .le).evaluate captain =
        ((compiled .lt).evaluate captain || (compiled .eq).evaluate captain) ∧
      (compiled .ge).evaluate captain =
        ((compiled .gt).evaluate captain || (compiled .eq).evaluate captain) ∧
      ∀ op : Comparison, (compiled op).evaluate captain =
        op.holds (SortKey.compare ⟨⟨["name"], .string, false⟩, .asc, true⟩ captain
          (player "BO" none [] .null)) := by
  obtain ⟨compiled, hcompile, hagree⟩ := @Filter.folded_comparisons_agree .players
    (.record "Player") {} namedLikeBo "BO" ⟨["name"], .string, false⟩ rfl rfl rfl (.inr rfl) (by decide)
  obtain ⟨hone, hle, hge, hsort⟩ := hagree captain "Ada" rfl (noFinalSigma_of_notMem (by decide))
  refine ⟨compiled, hcompile, hone, hle, hge, ?_⟩
  exact hsort (noFinalSigma_of_notMem (by decide)) ⟨⟨["name"], .string, false⟩, .asc, true⟩ captain
    (player "BO" none [] .null) rfl rfl rfl rfl

def likeSigma : Filter where
  property := "_"
  value := .literal "ασ"
  operation := .equals

/-- A final sigma is neither less than, equal to nor greater than one inside a word. -/
theorem Filter.not_evaluate_likeSigma :
    ∃ less equal greater,
      Filter.compile .players {} .string { likeSigma with operation := .lessThan } = .ok less ∧
      Filter.compile .players {} .string likeSigma = .ok equal ∧
      Filter.compile .players {} .string { likeSigma with operation := .greaterThan } =
        .ok greater ∧
      Conforms .players .string (.string "ΑΣ") ∧
      less.evaluate (.string "ΑΣ") = false ∧ equal.evaluate (.string "ΑΣ") = false ∧
      greater.evaluate (.string "ΑΣ") = false := by
  have resolved : MemberPath.resolve .players .string "_" = .ok ⟨[], .string, false⟩ := rfl
  have nonnull : Constant.isNullLiteral false .string "ασ" = false := by decide
  have hcompile (op : Comparison) :
      Filter.compile .players {} .string { likeSigma with operation := op.operation } =
        .ok (.comparison ⟨[], .string, false⟩ op (.string (lowercase "ασ")) true) := by
    have hscalar : op.operation.isCollection = false := by cases op <;> rfl
    have hliteral := @Filter.compile_literal .players .string {}
      { likeSigma with operation := op.operation } "ασ" _ rfl hscalar resolved
    exact hliteral.trans (compileScalar_of_folding op rfl rfl nonnull)
  refine ⟨_, _, _, hcompile .lt, hcompile .eq, hcompile .gt, .string, ?_, ?_, ?_⟩ <;>
  · rw [Predicate.evaluate]
    decide +kernel

end RecordQuery

import RecordQuery.Proofs.Predicate.Folding

/-!
# Substrings ignoring case

A substring test that ignores case lowers the text and what it looks for, each as a whole. Found in
the text as it stands, the argument is also found in the lowered text, unless a capital sigma of it
ends a word in one of the two and not in the other.
-/

namespace RecordQuery

open Text

variable {schema : Schema} {root : FieldType} {rules : TextRules}

namespace TextTest

def operation : TextTest → Operation
  | contains => .contains
  | startsWith => .startsWith
  | endsWith => .endsWith

@[simp] theorem ofOperation?_operation (test : TextTest) :
    ofOperation? test.operation = some test := by
  cases test <;> rfl

/-- The test looks for its argument between these characters. -/
def LooksBetween : TextTest → List Char → List Char → Prop
  | contains, _, _ => True
  | startsWith, before, _ => before = []
  | endsWith, _, after => after = []

theorem holds_iff {test : TextTest} {s argument : String} :
    test.holds s argument = true ↔ ∃ before after, test.LooksBetween before after ∧
      s.toList = before ++ (argument.toList ++ after) := by
  cases test with
  | contains =>
    rw [holds, contains_iff]
    constructor
    · rintro ⟨before, after, h⟩
      exact ⟨before, after, trivial, by rw [← List.append_assoc, h]⟩
    · rintro ⟨before, after, -, h⟩
      exact ⟨before, after, by rw [List.append_assoc, h]⟩
  | startsWith =>
    rw [holds, startsWith_iff]
    constructor
    · rintro ⟨after, h⟩
      exact ⟨[], after, rfl, h.symm⟩
    · rintro ⟨_, after, rfl, h⟩
      exact ⟨after, h.symm⟩
  | endsWith =>
    rw [holds, endsWith_iff]
    constructor
    · rintro ⟨before, h⟩
      exact ⟨before, [], rfl, by rw [List.append_nil, h]⟩
    · rintro ⟨before, _, rfl, h⟩
      exact ⟨before, by rw [h, List.append_nil]⟩

/-- An argument that keeps its sigmas where it stands is found in the lowered text too. -/
theorem holds_lowercase {test : TextTest} {s argument : String} {before after : List Char}
    (looks : test.LooksBetween before after)
    (hs : s.toList = before ++ (argument.toList ++ after))
    (keeps : KeepsSigmas before.reverse argument.toList after) :
    test.holds (lowercase s) (lowercase argument) = true := by
  have hlower : (lowercase s).toList = lowerBetween [] before (argument.toList ++ after) ++
      ((lowercase argument).toList ++
        lowerAfter (argument.toList.reverse ++ before.reverse) after) := by
    rw [lowercase, String.toList_ofList, hs, lowerAfter_append, lowerAfter_append, List.append_nil,
      lowerBetween_of_keepsSigmas keeps, lowercase, String.toList_ofList]
  apply holds_iff.2
  refine ⟨_, _, ?_, hlower⟩
  cases test with
  | contains => exact trivial
  | startsWith =>
    obtain rfl : before = [] := looks
    rfl
  | endsWith =>
    obtain rfl : after = [] := looks
    rfl

end TextTest

theorem compileScalar_textTest {member : MemberPath} {property literal : String}
    {caseSensitive : Bool} (test : TextTest) (hstring : member.type.isString = true) :
    compileScalar rules member property test.operation caseSensitive literal =
      let fold := rules.caseInsensitiveSource || !caseSensitive
      .ok (.textTest member test (if fold then lowercase literal else literal) fold) := by
  have hpresent : member.type.present = .string := beq_iff_eq.1 hstring
  have hcompound : member.type.isCompound = false := by rw [FieldType.isCompound, hpresent]
  simp only [compileScalar, hcompound, hstring, TextTest.ofOperation?_operation]
  cases test <;> rfl

/-- A substring test holds of texts only. -/
theorem Predicate.evaluate_textTest_iff {member : MemberPath} {test : TextTest} {argument : String}
    {fold : Bool} {v : Value} :
    (textTest member test argument fold).evaluate v = true ↔
      ∃ s, member.read v = some (.string s) ∧
        test.holds (if fold then lowercase s else s) argument = true := by
  rw [evaluate]
  cases member.read v with
  | none => simp
  | some w => cases w <;> simp [TextTest.holdsOf]

/-- What a case-sensitive substring filter accepts, the filter that ignores case accepts too, unless
wherever the literal is found a capital sigma of it is final there and not in the literal alone, or
the other way round. -/
theorem Filter.evaluate_folded_of_exact {filter : Filter} {literal : String} {member : MemberPath}
    {test : TextTest} (hvalue : filter.value = .literal literal)
    (hop : filter.operation = test.operation)
    (resolved : MemberPath.resolve schema root filter.property = .ok member)
    (hstring : member.type.isString = true) :
    ∃ exact folded,
      Filter.compile schema { rules with caseInsensitiveSource := false } root
        { filter with caseSensitive := true } = .ok exact ∧
      Filter.compile schema rules root { filter with caseSensitive := false } = .ok folded ∧
      ∀ v, exact.evaluate v = true → folded.evaluate v = true ∨
        ∃ s, member.read v = some (.string s) ∧
          ∀ before after, test.LooksBetween before after →
            s.toList = before ++ (literal.toList ++ after) →
            ¬ KeepsSigmas before.reverse literal.toList after := by
  have hcompile (rules : TextRules) (caseSensitive : Bool) :
      Filter.compile schema rules root { filter with caseSensitive } =
        compileScalar rules member filter.property test.operation caseSensitive literal := by
    have hscalar : filter.operation.isCollection = false := by
      rw [hop]
      cases test <;> rfl
    rw [← hop]
    exact Filter.compile_literal hvalue hscalar resolved
  refine ⟨.textTest member test literal false, .textTest member test (lowercase literal) true,
    ?_, ?_, ?_⟩
  · rw [hcompile, compileScalar_textTest test hstring]
    rfl
  · rw [hcompile, compileScalar_textTest test hstring, Bool.not_false, Bool.or_true]
    rfl
  · intro v hexact
    obtain ⟨s, hread, hfound⟩ := Predicate.evaluate_textTest_iff.1 hexact
    by_cases kept : ∃ before after, test.LooksBetween before after ∧
        s.toList = before ++ (literal.toList ++ after) ∧
        KeepsSigmas before.reverse literal.toList after
    · obtain ⟨before, after, looks, hs, keeps⟩ := kept
      left
      apply Predicate.evaluate_textTest_iff.2
      exact ⟨s, hread, TextTest.holds_lowercase looks hs keeps⟩
    · right
      refine ⟨s, hread, ?_⟩
      intro before after looks hs keeps
      exact kept ⟨before, after, looks, hs, keeps⟩

def endingInSigma : Filter where
  property := "_"
  value := .literal "ΟΣ"
  operation := .endsWith

/-- The last sigma of a word is final in its ending too. -/
theorem Filter.evaluate_folded_endingInSigma :
    ∃ exact folded,
      Filter.compile .players {} .string { endingInSigma with caseSensitive := true } = .ok exact ∧
      Filter.compile .players {} .string endingInSigma = .ok folded ∧
      exact.evaluate (.string "ΟΔΟΣ") = true ∧ folded.evaluate (.string "ΟΔΟΣ") = true := by
  obtain ⟨exact, folded, hexact, hfolded, haccepts⟩ := @Filter.evaluate_folded_of_exact .players
    .string {} endingInSigma "ΟΣ" ⟨[], .string, false⟩ .endsWith rfl rfl rfl rfl
  have accepted : exact.evaluate (.string "ΟΔΟΣ") = true := by
    rw [Filter.compile_literal rfl rfl rfl] at hexact
    obtain rfl := Except.ok.inj hexact
    rw [Predicate.evaluate]
    decide
  refine ⟨exact, folded, hexact, hfolded, accepted, ?_⟩
  rcases haccepts _ accepted with h | ⟨s, hread, hplaces⟩
  · exact h
  · obtain rfl := Value.string.inj (Option.some.inj hread)
    refine absurd ?_ (hplaces ['Ο', 'Δ'] [] rfl rfl)
    intro inner rest hsplit
    rcases List.cons_eq_append_iff.1 hsplit with ⟨-, hhead⟩ | ⟨inner, rfl, htail⟩
    · cases hhead
    · rcases List.cons_eq_append_iff.1 htail with ⟨rfl, hhead⟩ | ⟨inner, rfl, hnil⟩
      · obtain rfl := (List.cons.inj hhead).2
        decide +kernel
      · cases List.append_eq_nil_iff.1 hnil.symm
        contradiction

def containingSigma : Filter where
  property := "_"
  value := .literal "ΑΣ"
  operation := .contains

/-- A sigma that is final in the literal is not found inside a word, although the text contains the
literal as it stands. -/
theorem Filter.not_evaluate_folded_containingSigma :
    ∃ exact folded,
      Filter.compile .players {} .string { containingSigma with caseSensitive := true } =
        .ok exact ∧
      Filter.compile .players {} .string containingSigma = .ok folded ∧
      Conforms .players .string (.string "ΑΣΑ") ∧
      exact.evaluate (.string "ΑΣΑ") = true ∧ folded.evaluate (.string "ΑΣΑ") = false := by
  have hexact := @Filter.compile_literal .players .string {}
    { containingSigma with caseSensitive := true } "ΑΣ" _ rfl rfl rfl
  have hfolded := @Filter.compile_literal .players .string {} containingSigma "ΑΣ" _ rfl rfl rfl
  refine ⟨_, _, hexact, hfolded, .string, ?_, ?_⟩
  · rw [Predicate.evaluate]
    decide +kernel
  · rw [Predicate.evaluate]
    decide +kernel

end RecordQuery

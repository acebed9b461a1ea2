import RecordQuery.Proofs.Predicate.Membership

/-!
# Lists as alternatives

A filter with a list of literals is one with a single literal for each part of the list, any of which
may hold. It compiles if these do and fails as the first of them that does not, whatever the others
would say of a record. So neither the order of the parts nor their repetition matters to a record.
-/

namespace RecordQuery

open Text

variable {schema : Schema} {root : FieldType} {rules : TextRules} {member : MemberPath}
  {literal : String} {v : Value}

namespace Filter

variable {filter : Filter}

/-- The filter asking whether the member equals one text. -/
def equalTo (filter : Filter) (part : String) : Filter :=
  { filter with operation := .equals, value := .literal part }

theorem compile_equalTo (part : String)
    (resolved : MemberPath.resolve schema root filter.property = .ok member)
    (scalar : member.type.isCompound = false) :
    (filter.equalTo part).compile schema rules root =
      compileComparison rules member filter.property (filter.folds rules member) .eq part :=
  @compile_comparison schema root rules member part (filter.equalTo part) .eq rfl rfl resolved
    scalar (absurd · Bool.false_ne_true)

theorem compile_oneOf (hop : filter.operation = .oneOf) (hvalue : filter.value = .literal literal)
    (resolved : MemberPath.resolve schema root filter.property = .ok member)
    (scalar : member.type.isCompound = false) :
    filter.compile schema rules root =
      compileMembership rules member filter.property (filter.folds rules member) literal := by
  rw [compile_literal hvalue (hop ▸ rfl) resolved, hop]
  simp [compileScalar, scalar, folds]

section OneOf

variable (hop : filter.operation = .oneOf) (hvalue : filter.value = .literal literal)
  (resolved : MemberPath.resolve schema root filter.property = .ok member)
  (scalar : member.type.isCompound = false)

include hop hvalue resolved scalar

theorem compile_oneOf_eq_error_iff {cause : CompileError} :
    filter.compile schema rules root = .error cause ↔
      FirstFails (fun part => (filter.equalTo part).compile schema rules root)
        (splitAll ',' literal) cause := by
  rw [compile_oneOf hop hvalue resolved scalar, compileMembership_eq_error_iff]
  simp only [compile_equalTo _ resolved scalar]

theorem exists_compile_oneOf_iff :
    (∃ predicate, filter.compile schema rules root = .ok predicate) ↔
      ∀ part ∈ splitAll ',' literal, ∃ equals,
        (filter.equalTo part).compile schema rules root = .ok equals := by
  rw [exists_ok_iff, ← not_exists_firstFails_iff]
  simp only [compile_oneOf_eq_error_iff hop hvalue resolved scalar]

theorem holdsAt_equalTo_iff {predicate : Predicate}
    (compiled : filter.compile schema rules root = .ok predicate) :
    predicate.evaluate v = true ↔ ∃ part ∈ splitAll ',' literal,
      HoldsAt v ((filter.equalTo part).compile schema rules root) := by
  rw [compile_oneOf hop hvalue resolved scalar] at compiled
  rw [evaluate_compileMembership_iff compiled]
  simp only [HoldsAt, compile_equalTo _ resolved scalar]

/-- A list of literals is compiled part by part and holds of the records that equal one of them. Any
other list of the same parts compiles too and holds of the same records. -/
theorem evaluate_oneOf_iff :
    (∀ cause, filter.compile schema rules root = .error cause ↔
      FirstFails (fun part => (filter.equalTo part).compile schema rules root)
        (splitAll ',' literal) cause) ∧
    ((∃ predicate, filter.compile schema rules root = .ok predicate) ↔
      ∀ part ∈ splitAll ',' literal, ∃ equals,
        (filter.equalTo part).compile schema rules root = .ok equals) ∧
    ∀ predicate, filter.compile schema rules root = .ok predicate →
      (∀ v, predicate.evaluate v = true ↔ ∃ part ∈ splitAll ',' literal,
        HoldsAt v ((filter.equalTo part).compile schema rules root)) ∧
      ∀ other, (∀ part, part ∈ splitAll ',' other ↔ part ∈ splitAll ',' literal) →
        ∃ same, Filter.compile schema rules root { filter with value := .literal other } =
          .ok same ∧ ∀ v, same.evaluate v = predicate.evaluate v := by
  have compile_iff := @exists_compile_oneOf_iff schema root rules member literal filter hop hvalue
    resolved scalar
  refine ⟨fun cause => compile_oneOf_eq_error_iff hop hvalue resolved scalar, compile_iff, ?_⟩
  intro predicate compiled
  refine ⟨fun v => holdsAt_equalTo_iff hop hvalue resolved scalar compiled, ?_⟩
  intro other sameParts
  obtain ⟨same, hsame⟩ := (@exists_compile_oneOf_iff schema root rules member other
    { filter with value := .literal other } hop rfl resolved scalar).2 fun part hpart =>
      compile_iff.1 ⟨predicate, compiled⟩ part ((sameParts part).1 hpart)
  refine ⟨same, hsame, ?_⟩
  intro v
  have hother := @holdsAt_equalTo_iff schema root rules member other v
    { filter with value := .literal other } hop rfl resolved scalar same hsame
  rw [Bool.eq_iff_iff, hother, holdsAt_equalTo_iff hop hvalue resolved scalar compiled]
  simp only [sameParts]
  rfl

end OneOf

def underAnAge : Filter where
  property := "captain.age"
  value := .literal "null, 36"
  operation := .oneOf

/-- A captain aged 36 is of age 36 or of none, in whatever order and however often that is asked. -/
theorem evaluate_oneOf_underAnAge :
    ∃ predicate same, underAnAge.compile .players {} (.record "Player") = .ok predicate ∧
      Filter.compile .players {} (.record "Player")
        { underAnAge with value := .literal " 36,null, 36" } = .ok same ∧
      predicate.evaluate (player "Bo" (some 17) [] captain) = true ∧
      ∀ v, same.evaluate v = predicate.evaluate v := by
  have resolved : MemberPath.resolve .players (.record "Player") underAnAge.property =
      .ok ⟨["captain", "age"], .optional .int, true⟩ := rfl
  have hnull : (underAnAge.equalTo "null").compile .players {} (.record "Player") =
      .ok (.comparison ⟨["captain", "age"], .optional .int, true⟩ .eq .null false) :=
    compile_equalTo "null" resolved rfl
  have hage : (underAnAge.equalTo " 36").compile .players {} (.record "Player") =
      .ok (.comparison ⟨["captain", "age"], .optional .int, true⟩ .eq (.number (.int 36)) false) := by
    rw [compile_equalTo " 36" resolved rfl]
    decide
  have hparts : splitAll ',' "null, 36" = ["null", " 36"] := by decide
  have hsame : splitAll ',' " 36,null, 36" = [" 36", "null", " 36"] := by decide
  obtain ⟨-, compile_iff, evaluate_iff⟩ := @evaluate_oneOf_iff .players (.record "Player") {} _
    "null, 36" underAnAge rfl rfl resolved rfl
  rw [hparts] at compile_iff evaluate_iff
  obtain ⟨predicate, compiled⟩ := compile_iff.2 <| by
    simp only [List.forall_mem_cons]
    exact ⟨⟨_, hnull⟩, ⟨_, hage⟩, List.forall_mem_nil _⟩
  obtain ⟨holds_iff, others⟩ := evaluate_iff predicate compiled
  obtain ⟨same, hcompiled, agree⟩ := others " 36,null, 36" <| by
    intro part
    simp [hsame, or_comm]
  refine ⟨predicate, same, compiled, hcompiled, ?_, agree⟩
  refine (holds_iff _).2 ⟨" 36", by simp, ?_⟩
  rw [hage, holdsAt_ok]
  rfl

end Filter

end RecordQuery

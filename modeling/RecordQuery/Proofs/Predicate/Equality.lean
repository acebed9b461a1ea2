import RecordQuery.Proofs.MemberPath
import RecordQuery.Proofs.Predicate.Membership

/-!
# Equal or different

Wherever there is a value, it either equals a literal or differs from it, and the same goes for the
null literal wherever the records on the way are there. NaN is the exception, in the member as well as
in the literal: no comparison with it holds, not even that it differs.
-/

namespace RecordQuery

open Text

variable {schema : Schema} {root : FieldType} {rules : TextRules} {member : MemberPath}
  {literal : String} {fold : Bool} {v : Value} {constant : Constant}

/-- No comparison with NaN holds. -/
theorem Comparison.holdsOf_of_isNaN {w : Value} (op : Comparison) (present : constant ≠ .null)
    (hkind : w.kind = constant.kind) (nan : (w.isNaN || constant.toValue.isNaN) = true) :
    op.holdsOf fold w constant = false := by
  have other : constant.kind ≠ .string := by
    intro hstring
    obtain ⟨s, rfl⟩ := Value.kind_eq_string.1 (hkind.trans hstring)
    obtain ⟨c, hc⟩ := Value.kind_eq_string.1 hstring
    rw [hc] at nan
    cases nan
  have scalar : w.kind ≠ .record ∧ w.kind ≠ .list := hkind ▸ constant.kind_scalar
  have hnone : w.compare? false constant.toValue = none :=
    (Value.compare?_eq_none_iff hkind scalar).2 (Bool.or_eq_true_iff.1 nan)
  rw [holdsOf_eq_any op present other hkind, hnone]
  rfl

theorem evaluate_comparison_of_unordered (op : Comparison) (path : member.From schema root)
    (fits : constant = .null ∨ constant.kind = member.type.kind)
    (conforms : Conforms schema root v) (unordered : member.Unordered constant v) :
    (Predicate.comparison member op constant fold).evaluate v = false := by
  obtain ⟨hconstant, nan⟩ := unordered
  rw [Predicate.evaluate]
  cases hread : member.read v with
  | none => rfl
  | some w =>
    rw [hread, Option.getD_some] at nan
    rw [Option.any_some]
    by_cases hw : w = .null
    · rw [hw, Comparison.holdsOf_null op fold hconstant]
    · have hmember := (path.kind_of_read conforms hread).resolve_left hw
      have hkind : w.kind = constant.kind := hmember.trans (fits.resolve_left hconstant).symm
      exact Comparison.holdsOf_of_isNaN op hconstant hkind nan

/-- A value equals a constant or differs from it, and not both, unless one of them is NaN. -/
theorem evaluate_eq_ne_iff (path : member.From schema root)
    (fits : constant = .null ∨ constant.kind = member.type.kind)
    (conforms : Conforms schema root v) (present : ¬ v.MissingAlong member.segments) :
    (Predicate.comparison member .eq constant fold).evaluate v ≠
        (Predicate.comparison member .ne constant fold).evaluate v ↔
      ¬ member.Unordered constant v := by
  have ne_iff := @evaluate_ne_iff schema root member fold v constant path fits conforms
  cases heq : (Predicate.comparison member .eq constant fold).evaluate v with
  | true =>
    have hne : (Predicate.comparison member .ne constant fold).evaluate v = false := by
      simpa [heq] using ne_iff
    have ordered : ¬ member.Unordered constant v := by
      intro unordered
      rw [evaluate_comparison_of_unordered .eq path fits conforms unordered] at heq
      cases heq
    exact iff_of_true (hne ▸ nofun) ordered
  | false => simpa [heq, present] using ne_iff

/-- What is read is null or is not. -/
theorem evaluate_eq_ne_null {w : Value} (reads : member.read v = some w) :
    (Predicate.comparison member .eq .null fold).evaluate v ≠
      (Predicate.comparison member .ne .null fold).evaluate v := by
  rw [Predicate.evaluate, Predicate.evaluate, reads]
  simp [Comparison.holdsOf, Comparison.holdsOfNull]

namespace Filter

variable {filter : Filter}

theorem isCompound_of_compile {predicate : Predicate} (hvalue : filter.value = .literal literal)
    (single : filter.operation.isCollection = false)
    (resolved : MemberPath.resolve schema root filter.property = .ok member)
    (compiled : filter.compile schema rules root = .ok predicate) :
    member.type.isCompound = false := by
  cases scalar : member.type.isCompound with
  | false => rfl
  | true =>
    rw [compile_of_isCompound hvalue single resolved scalar] at compiled
    cases compiled

/-- If a literal compiles to be equal, it compiles to be different. Where the member has a value one
of the two filters holds and the other does not, if and only if no NaN is compared. With the null
literal this is so wherever the records on the way are there. -/
theorem evaluate_equals_ne_otherThan {equals : Predicate} (hop : filter.operation = .equals)
    (hvalue : filter.value = .literal literal)
    (resolved : MemberPath.resolve schema root filter.property = .ok member)
    (compiled : filter.compile schema rules root = .ok equals) :
    ∃ constant differs,
      Constant.coerce rules.nullIsString member.type filter.property literal = .ok constant ∧
      (filter.otherThan literal).compile schema rules root = .ok differs ∧
      ∀ v, Conforms schema root v →
        (¬ v.MissingAlong member.segments →
          (equals.evaluate v ≠ differs.evaluate v ↔ ¬ member.Unordered constant v)) ∧
        (constant = .null → ¬ v.MissingBefore member.segments →
          equals.evaluate v ≠ differs.evaluate v) := by
  have path := MemberPath.from_of_resolve resolved
  have scalar := isCompound_of_compile hvalue (hop ▸ rfl) resolved compiled
  rw [compile_comparison .eq hop hvalue resolved scalar (absurd · Bool.false_ne_true)] at compiled
  obtain ⟨constant, hconstant, compiled⟩ := bind_eq_ok_iff.1 compiled
  obtain rfl := Except.ok.inj compiled
  have fits := Constant.fits_folded_of_coerce (filter.folds rules member) hconstant
  have hdiffers : compileComparison rules member filter.property (filter.folds rules member) .ne
      literal = .ok (.comparison member .ne (constant.folded (filter.folds rules member))
        (filter.folds rules member)) := by
    rw [compileComparison, hconstant]
    rfl
  refine ⟨constant, _, hconstant, (compile_otherThan literal resolved scalar).trans hdiffers, ?_⟩
  intro v conforms
  constructor
  · intro present
    rw [evaluate_eq_ne_iff path fits conforms present, MemberPath.unordered_folded]
  · rintro rfl there
    cases hread : member.read v with
    | none =>
      exact absurd ((MemberPath.readSegments_eq_none_iff path conforms).1 hread).1 there
    | some w => exact evaluate_eq_ne_null hread

def captainAged (literal : String) : Filter where
  property := "captain.age"
  value := .literal literal
  operation := .equals

/-- Ada is not 17 and so differs from it; Di, without an age, equals null and so does not differ from
it. -/
theorem evaluate_captainAged_ne :
    (∃ equals differs, (captainAged "17").compile .players {} (.record "Player") = .ok equals ∧
      ((captainAged "17").otherThan "17").compile .players {} (.record "Player") = .ok differs ∧
      equals.evaluate (player "Bo" none [] captain) ≠
        differs.evaluate (player "Bo" none [] captain)) ∧
    ∃ equals differs, (captainAged "null").compile .players {} (.record "Player") = .ok equals ∧
      ((captainAged "null").otherThan "null").compile .players {} (.record "Player") =
        .ok differs ∧
      equals.evaluate (player "Bo" none [] (player "Di" none [4] .null)) ≠
        differs.evaluate (player "Bo" none [] (player "Di" none [4] .null)) := by
  have resolved : MemberPath.resolve .players (.record "Player") "captain.age" =
      .ok ⟨["captain", "age"], .optional .int, true⟩ := rfl
  have compiles (literal : String) (constant : Constant)
      (hconstant : Constant.coerce false (.optional .int) "captain.age" literal = .ok constant) :
      ∃ equals, (captainAged literal).compile .players {} (.record "Player") = .ok equals := by
    have hequals := @compile_comparison .players (.record "Player") {} _ literal
      (captainAged literal) .eq rfl rfl resolved rfl (absurd · Bool.false_ne_true)
    rw [hequals]
    exact exists_compileComparison_iff.2 ⟨constant, hconstant⟩
  constructor
  · have hage : Constant.coerce false (.optional .int) "captain.age" "17" =
        .ok (.number (.int 17)) := by decide
    obtain ⟨equals, compiled⟩ := compiles "17" _ hage
    obtain ⟨constant, differs, hconstant, hdiffers, agree⟩ :=
      @evaluate_equals_ne_otherThan .players (.record "Player") {} _ "17"
        (captainAged "17") _ rfl rfl resolved compiled
    obtain rfl := Except.ok.inj (hage.symm.trans hconstant)
    have conforms : Conforms .players (.record "Player") (player "Bo" none [] captain) :=
      conforms_player _ _ _ (.present conforms_captain)
    have present : ¬ (player "Bo" none [] captain).MissingAlong ["captain", "age"] := by
      rw [← MemberPath.readSegments_getD_eq_null_iff]
      exact nofun
    refine ⟨equals, differs, compiled, hdiffers, ((agree _ conforms).1 present).2 ?_⟩
    rintro ⟨-, nan⟩
    cases nan
  · have hnull : Constant.coerce false (.optional .int) "captain.age" "null" = .ok .null := rfl
    obtain ⟨equals, compiled⟩ := compiles "null" _ hnull
    obtain ⟨constant, differs, hconstant, hdiffers, agree⟩ :=
      @evaluate_equals_ne_otherThan .players (.record "Player") {} _ "null"
        (captainAged "null") _ rfl rfl resolved compiled
    obtain rfl := Except.ok.inj (hnull.symm.trans hconstant)
    have conforms : Conforms .players (.record "Player")
        (player "Bo" none [] (player "Di" none [4] .null)) :=
      conforms_player _ _ _ (.present (conforms_player _ _ _ .absent))
    have there : ¬ (player "Bo" none [] (player "Di" none [4] .null)).MissingBefore
        ["captain", "age"] := by
      simp only [Value.missingBefore_cons]
      rintro (h | h | h)
      · cases h
      · cases h
      · cases h
    exact ⟨equals, differs, compiled, hdiffers, (agree _ conforms).2 rfl there⟩

def equalToOne : Filter where
  property := "_"
  value := .literal "1"
  operation := .equals

/-- NaN is a value that neither equals 1 nor differs from it. -/
theorem not_evaluate_equalToOne_nan :
    ∃ equals differs, equalToOne.compile .players {} .float = .ok equals ∧
      (equalToOne.otherThan "1").compile .players {} .float = .ok differs ∧
      Conforms .players .float (.number (.float .nan)) ∧
      ¬ (Value.number (.float .nan)).MissingAlong [] ∧
      equals.evaluate (.number (.float .nan)) = false ∧
      differs.evaluate (.number (.float .nan)) = false := by
  have hequals := @compile_literal .players .float {} equalToOne "1" ⟨[], .float, false⟩ rfl rfl rfl
  have hdiffers := @compile_otherThan .players .float {} ⟨[], .float, false⟩ equalToOne "1" rfl rfl
  exact ⟨_, _, hequals, hdiffers, .float, nofun, rfl, rfl⟩

end Filter

end RecordQuery

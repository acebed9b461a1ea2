import RecordQuery.Proofs.Predicate.Absence
import RecordQuery.Proofs.Predicate.Folding
import RecordQuery.Proofs.Predicate.Joined

/-!
# Lists of literals

A filter with a list of literals compiles if each part of the list does alone, and it holds if the
member equals one of the parts. A negated list agrees with a filter for each part that the member
differs from it, as long as member and part compare at all: a missing record and NaN neither equal a
part nor differ from it, and the negated list may hold of them.
-/

namespace RecordQuery

open Text

variable {schema : Schema} {root : FieldType} {rules : TextRules} {member : MemberPath}
  {property literal : String} {fold : Bool} {predicate : Predicate} {v : Value}

theorem exists_compileComparison_iff {op : Comparison} :
    (∃ predicate, compileComparison rules member property fold op literal = .ok predicate) ↔
      ∃ constant, Constant.coerce rules.nullIsString member.type property literal =
        .ok constant := by
  constructor
  · rintro ⟨predicate, h⟩
    obtain ⟨constant, hconstant, -⟩ := bind_eq_ok_iff.1 h
    exact ⟨constant, hconstant⟩
  · rintro ⟨constant, hconstant⟩
    refine ⟨.comparison member op (constant.folded fold) fold, ?_⟩
    rw [compileComparison, hconstant]
    rfl

/-- Alternatives hold if one of them does. -/
theorem foldl_orElse_iff {α : Type} {holds : α → Prop} {items : List α} {start : Prop} :
    items.foldl (fun before item => Connective.orElse.Joins before (holds item)) start ↔
      start ∨ ∃ item ∈ items, holds item := by
  induction items generalizing start with
  | nil => simp
  | cons item items ih =>
    rw [List.foldl_cons, ih, Connective.Joins, or_assoc]
    simp

theorem exists_compileMembership_eq (rules : TextRules) (member : MemberPath) (property : String)
    (fold : Bool) (literal : String) :
    ∃ first rest, splitAll ',' literal = first :: rest ∧
      compileMembership rules member property fold literal =
        (compileComparison rules member property fold .eq first >>= fun start =>
          rest.foldlM (fun group part => do
            pure (.binary .orElse group (← compileComparison rules member property fold .eq part)))
            start) := by
  unfold compileMembership
  dsimp only
  split
  · next hsplit => exact absurd hsplit (splitAll_ne_nil ',' literal)
  · next first rest hsplit => exact ⟨first, rest, hsplit, rfl⟩

/-- A list fails by the first of its parts that does not compile. -/
theorem compileMembership_eq_error_iff {cause : CompileError} :
    compileMembership rules member property fold literal = .error cause ↔
      FirstFails (compileComparison rules member property fold .eq) (splitAll ',' literal)
        cause := by
  obtain ⟨first, rest, hsplit, hcompile⟩ :=
    exists_compileMembership_eq rules member property fold literal
  rw [hsplit, hcompile]
  exact bind_foldlM_eq_error_iff

/-- A list compiles if every part does. -/
theorem exists_compileMembership_iff :
    (∃ predicate, compileMembership rules member property fold literal = .ok predicate) ↔
      ∀ part ∈ splitAll ',' literal, ∃ constant,
        Constant.coerce rules.nullIsString member.type property part = .ok constant := by
  rw [exists_ok_iff]
  simp only [compileMembership_eq_error_iff, not_exists_firstFails_iff,
    exists_compileComparison_iff]

/-- A list holds of what equals one of its parts. -/
theorem evaluate_compileMembership_iff
    (h : compileMembership rules member property fold literal = .ok predicate) :
    predicate.evaluate v = true ↔ ∃ part ∈ splitAll ',' literal, ∃ equals,
      compileComparison rules member property fold .eq part = .ok equals ∧
        equals.evaluate v = true := by
  obtain ⟨first, rest, hsplit, hcompile⟩ :=
    exists_compileMembership_eq rules member property fold literal
  rw [hcompile] at h
  obtain ⟨start, hstart, hrest⟩ := bind_eq_ok_iff.1 h
  rw [evaluate_foldlM_binary hrest, foldl_orElse_iff, hsplit]
  simp [HoldsAt, hstart]

namespace Comparison

/-- Values other than texts are compared by their order. -/
theorem holdsOf_eq_any {w : Value} {constant : Constant} (op : Comparison)
    (present : constant ≠ .null) (other : constant.kind ≠ .string)
    (hkind : w.kind = constant.kind) :
    op.holdsOf fold w constant = (w.compare? false constant.toValue).any op.holds := by
  cases constant with
  | null => exact absurd rfl present
  | string => exact absurd rfl other
  | number | timestamp | enum | bool =>
    cases w with
    | null => cases hkind
    | _ => rfl

/-- Of two values of one kind, no NaN among them, one comparison holds. -/
theorem holdsOf_ne_of_kind {w : Value} {constant : Constant} (present : constant ≠ .null)
    (hkind : w.kind = constant.kind) :
    ne.holdsOf fold w constant =
      (!eq.holdsOf fold w constant && !(w.isNaN || constant.toValue.isNaN)) := by
  by_cases hstring : constant.kind = .string
  · obtain ⟨s, rfl⟩ := Value.kind_eq_string.1 (hkind.trans hstring)
    obtain ⟨c, hc⟩ := Value.kind_eq_string.1 hstring
    cases constant with
    | string => cases fold <;> simp [holdsOf, holdsOfStrings, Value.isNaN, Constant.toValue, bne]
    | _ => cases hc
  · have hscalar := constant.kind_scalar
    rw [← hkind] at hscalar
    have hnone := @Value.compare?_eq_none_iff false w _ hkind hscalar
    rw [holdsOf_eq_any ne present hstring hkind, holdsOf_eq_any eq present hstring hkind]
    rw [← Bool.or_eq_true] at hnone
    cases hcompare : w.compare? false constant.toValue with
    | none =>
      rw [hnone.1 hcompare]
      rfl
    | some result =>
      have hordered : (w.isNaN || constant.toValue.isNaN) = false := by
        rw [← Bool.not_eq_true, ← hnone, hcompare]
        exact Option.some_ne_none result
      rw [hordered]
      cases result <;> rfl

end Comparison

/-- NaN neither equals a constant nor differs from it. -/
def MemberPath.Unordered (member : MemberPath) (constant : Constant) (v : Value) : Prop :=
  constant ≠ .null ∧
    (((member.read v).getD .null).isNaN || constant.toValue.isNaN) = true

theorem MemberPath.unordered_folded {constant : Constant} :
    member.Unordered (constant.folded fold) v ↔ member.Unordered constant v := by
  rw [Unordered, ne_eq, Constant.folded_eq_null]
  cases constant <;> exact Iff.rfl

/-- A value differs from a constant if there is one, it does not equal the constant, and the two
compare. -/
theorem evaluate_ne_iff {constant : Constant} (path : member.From schema root)
    (fits : constant = .null ∨ constant.kind = member.type.kind) (conforms : Conforms schema root v) :
    (Predicate.comparison member .ne constant fold).evaluate v = true ↔
      ¬ v.MissingAlong member.segments ∧
        (Predicate.comparison member .eq constant fold).evaluate v = false ∧
        ¬ member.Unordered constant v := by
  rw [← MemberPath.readSegments_getD_eq_null_iff, ← MemberPath.read, MemberPath.Unordered,
    Predicate.evaluate, Predicate.evaluate]
  cases hread : member.read v with
  | none => simp
  | some w =>
    rw [Option.any_some, Option.any_some, Option.getD_some]
    by_cases hconstant : constant = .null
    · subst hconstant
      cases w <;> simp [Comparison.holdsOf, Comparison.holdsOfNull, Value.isNull]
    by_cases hw : w = .null
    · subst hw
      rw [Comparison.holdsOf_null .ne fold hconstant]
      simp
    have hkind : w.kind = constant.kind := by
      have hmember := (path.kind_of_read conforms hread).resolve_left hw
      rw [hmember, fits.resolve_left hconstant]
    rw [Comparison.holdsOf_ne_of_kind hconstant hkind]
    simp [hconstant, hw]

theorem evaluate_ne_null_iff :
    (Predicate.comparison member .ne .null fold).evaluate v = true ↔
      ¬ v.MissingAlong member.segments := by
  rw [← MemberPath.readSegments_getD_eq_null_iff, ← MemberPath.read, Predicate.evaluate]
  cases member.read v with
  | none => simp
  | some w => cases w <;> simp [Comparison.holdsOf, Comparison.holdsOfNull, Value.isNull]

/-- A list is excluded where it does not hold and, on a path through optional types, something is
there. -/
theorem evaluate_excluding_iff {group : Predicate} :
    (excluding member group).evaluate v = true ↔
      (member.nullable = true → ¬ v.MissingAlong member.segments) ∧ group.evaluate v = false := by
  unfold excluding
  split
  · next hnullable =>
    rw [Predicate.evaluate, Connective.combine_eq_apply, Connective.apply, Bool.and_eq_true,
      evaluate_ne_null_iff, Predicate.evaluate, Bool.not_eq_true']
    simp [hnullable]
  · next hnullable =>
    rw [Predicate.evaluate, Bool.not_eq_true']
    simp [hnullable]

namespace Filter

variable {filter : Filter}

/-- The filter asking whether the member differs from one text. -/
def otherThan (filter : Filter) (part : String) : Filter :=
  { filter with operation := .notEqual, value := .literal part }

def folds (rules : TextRules) (filter : Filter) (member : MemberPath) : Bool :=
  member.type.isString && (rules.caseInsensitiveSource || !filter.caseSensitive)

/-- The record is missing where no type after its own is optional, or NaN meets one of the parts. -/
def Incomparable (rules : TextRules) (filter : Filter) (member : MemberPath) (literal : String)
    (v : Value) : Prop :=
  (v = .null ∧ member.nullable = false) ∨
    ∃ part ∈ splitAll ',' literal, ∃ constant,
      Constant.coerce rules.nullIsString member.type filter.property part = .ok constant ∧
        member.Unordered constant v

theorem compile_of_isCompound (hvalue : filter.value = .literal literal)
    (single : filter.operation.isCollection = false)
    (resolved : MemberPath.resolve schema root filter.property = .ok member)
    (compound : member.type.isCompound = true) :
    filter.compile schema rules root =
      .error (.operatorTypeMismatch filter.operation filter.property member.type) := by
  rw [compile_literal hvalue single resolved]
  unfold compileScalar
  dsimp only
  rw [if_pos compound]
  rfl

theorem compile_noneOf (hop : filter.operation = .noneOf)
    (hvalue : filter.value = .literal literal)
    (resolved : MemberPath.resolve schema root filter.property = .ok member)
    (scalar : member.type.isCompound = false) :
    filter.compile schema rules root = excluding member <$>
      compileMembership rules member filter.property (filter.folds rules member) literal := by
  rw [compile_literal hvalue (hop ▸ rfl) resolved, hop]
  simp [compileScalar, scalar, folds]

theorem compile_comparison (op : Comparison) (hop : filter.operation = op.operation)
    (hvalue : filter.value = .literal literal)
    (resolved : MemberPath.resolve schema root filter.property = .ok member)
    (scalar : member.type.isCompound = false)
    (compares : op.operation.isRelational = true →
      member.type.isOrdered = true ∧ member.type.present ≠ .bool) :
    filter.compile schema rules root = compileComparison rules member filter.property
      (filter.folds rules member) op literal := by
  have single : filter.operation.isCollection = false := by
    rw [hop]
    cases op <;> rfl
  rw [compile_literal hvalue single resolved, hop]
  exact compileScalar_of_comparison op scalar compares

theorem compile_otherThan (part : String)
    (resolved : MemberPath.resolve schema root filter.property = .ok member)
    (scalar : member.type.isCompound = false) :
    (filter.otherThan part).compile schema rules root =
      compileComparison rules member filter.property (filter.folds rules member) .ne part :=
  @compile_comparison schema root rules member part (filter.otherThan part) .ne rfl rfl resolved
    scalar (absurd · Bool.false_ne_true)

/-- Both compile if every part of the list denotes a constant. -/
theorem exists_compile_noneOf_iff (hop : filter.operation = .noneOf)
    (hvalue : filter.value = .literal literal) :
    (∃ predicate, filter.compile schema rules root = .ok predicate) ↔
      ∀ part ∈ splitAll ',' literal, ∃ other,
        (filter.otherThan part).compile schema rules root = .ok other := by
  obtain ⟨first, rest, hsplit⟩ := List.exists_cons_of_ne_nil (splitAll_ne_nil ',' literal)
  have hfirst : first ∈ splitAll ',' literal := hsplit ▸ List.mem_cons_self
  cases resolved : MemberPath.resolve schema root filter.property with
  | error cause =>
    have unresolved (other : Filter) (hother : other.property = filter.property) :
        ¬ ∃ predicate, other.compile schema rules root = .ok predicate := by
      rintro ⟨predicate, compiled⟩
      obtain ⟨member, hmember, -⟩ := compile_eq_ok compiled
      rw [hother, resolved] at hmember
      cases hmember
    refine iff_of_false (unresolved filter rfl) ?_
    intro h
    exact unresolved (filter.otherThan first) rfl (h first hfirst)
  | ok member =>
    cases scalar : member.type.isCompound with
    | true =>
      have refused := @compile_of_isCompound schema root rules member
      apply iff_of_false
      · rw [refused hvalue (hop ▸ rfl) resolved scalar]
        exact nofun
      · intro h
        obtain ⟨other, compiled⟩ := h first hfirst
        rw [@refused first (filter.otherThan first) rfl rfl resolved scalar] at compiled
        cases compiled
    | false =>
      have membership_iff := @exists_compileMembership_iff rules member filter.property literal
        (filter.folds rules member)
      simp only [compile_noneOf hop hvalue resolved scalar, map_eq_ok_iff,
        compile_otherThan _ resolved scalar, exists_compileComparison_iff]
      rw [← membership_iff]
      constructor
      · rintro ⟨_, group, hgroup, -⟩
        exact ⟨group, hgroup⟩
      · rintro ⟨group, hgroup⟩
        exact ⟨_, group, hgroup, rfl⟩

/-- A record differs from a part by having a value that compares with it and does not equal it. -/
theorem holds_otherThan_iff {part : String}
    (resolved : MemberPath.resolve schema root filter.property = .ok member)
    (scalar : member.type.isCompound = false) (conforms : Conforms schema root v)
    (compiles : ∃ other, (filter.otherThan part).compile schema rules root = .ok other) :
    (∃ other, (filter.otherThan part).compile schema rules root = .ok other ∧
      other.evaluate v = true) ↔ ¬ v.MissingAlong member.segments ∧
      (¬ ∃ equals, compileComparison rules member filter.property (filter.folds rules member) .eq
        part = .ok equals ∧ equals.evaluate v = true) ∧
      ¬ ∃ constant, Constant.coerce rules.nullIsString member.type filter.property part =
        .ok constant ∧ member.Unordered constant v := by
  rw [compile_otherThan part resolved scalar] at compiles ⊢
  obtain ⟨constant, hconstant⟩ := exists_compileComparison_iff.1 compiles
  have fits := Constant.fits_folded_of_coerce (filter.folds rules member) hconstant
  have differs_iff := @evaluate_ne_iff schema root member (filter.folds rules member) v _
    (MemberPath.from_of_resolve resolved) fits conforms
  rw [MemberPath.unordered_folded] at differs_iff
  simpa [compileComparison, hconstant, pure, Except.pure] using differs_iff

/-- A negated list compiles if its parts do, and where it holds the member differs from every part,
unless the two do not compare. -/
theorem evaluate_noneOf_iff (hop : filter.operation = .noneOf)
    (hvalue : filter.value = .literal literal) :
    ((∃ predicate, filter.compile schema rules root = .ok predicate) ↔
      ∀ part ∈ splitAll ',' literal, ∃ other,
        (filter.otherThan part).compile schema rules root = .ok other) ∧
    ∀ member predicate v, MemberPath.resolve schema root filter.property = .ok member →
      filter.compile schema rules root = .ok predicate → Conforms schema root v →
      ((∀ part ∈ splitAll ',' literal, ∃ other,
          (filter.otherThan part).compile schema rules root = .ok other ∧
            other.evaluate v = true) ↔
        predicate.evaluate v = true ∧ ¬ filter.Incomparable rules member literal v) := by
  have compile_iff := @exists_compile_noneOf_iff schema root rules literal filter hop hvalue
  refine ⟨compile_iff, ?_⟩
  intro member predicate v resolved compiled conforms
  have hothers := compile_iff.1 ⟨predicate, compiled⟩
  cases scalar : member.type.isCompound with
  | true =>
    rw [compile_of_isCompound hvalue (hop ▸ rfl) resolved scalar] at compiled
    cases compiled
  | false =>
    rw [compile_noneOf hop hvalue resolved scalar] at compiled
    obtain ⟨group, hgroup, rfl⟩ := map_eq_ok_iff.1 compiled
    rw [evaluate_excluding_iff, ← Bool.not_eq_true, evaluate_compileMembership_iff hgroup]
    rw [forall₂_congr fun part hpart =>
      holds_otherThan_iff resolved scalar conforms (hothers part hpart)]
    constructor
    · intro differs
      obtain ⟨first, rest, hsplit⟩ := List.exists_cons_of_ne_nil (splitAll_ne_nil ',' literal)
      have present := (differs first (hsplit ▸ List.mem_cons_self)).1
      refine ⟨⟨fun _ => present, ?_⟩, ?_⟩
      · rintro ⟨part, hpart, listed⟩
        exact (differs part hpart).2.1 listed
      · rintro (⟨rfl, -⟩ | ⟨part, hpart, unordered⟩)
        · exact present .here
        · exact (differs part hpart).2.2 unordered
    · rintro ⟨⟨present, unlisted⟩, comparable⟩ part hpart
      refine ⟨?_, ?_, ?_⟩
      · intro missing
        -- the guard goes by the types on the path: without it only the record itself can be missing
        cases hnullable : member.nullable with
        | true => exact present hnullable missing
        | false =>
          have hnull := MemberPath.eq_null_of_resolve resolved hnullable conforms missing
          exact comparable (.inl ⟨hnull, hnullable⟩)
      · exact fun listed => unlisted ⟨part, hpart, listed⟩
      · exact fun unordered => comparable (.inr ⟨part, hpart, unordered⟩)

def underAnotherAge : Filter where
  property := "captain.age"
  value := .literal "17,null"
  operation := .noneOf

/-- A captain aged 36 is neither 17 nor without an age. -/
theorem holds_otherThan_underAnotherAge :
    ∃ predicate, underAnotherAge.compile .players {} (.record "Player") = .ok predicate ∧
      predicate.evaluate (player "Bo" (some 17) [] captain) = true ∧
      ∀ part ∈ ["17", "null"], ∃ other,
        (underAnotherAge.otherThan part).compile .players {} (.record "Player") = .ok other ∧
          other.evaluate (player "Bo" (some 17) [] captain) = true := by
  have resolved : MemberPath.resolve .players (.record "Player") "captain.age" =
      .ok ⟨["captain", "age"], .optional .int, true⟩ := rfl
  have conforms : Conforms .players (.record "Player") (player "Bo" (some 17) [] captain) :=
    conforms_player _ _ _ (.present conforms_captain)
  have hparts : splitAll ',' "17,null" = ["17", "null"] := by decide
  have comparable : ¬ underAnotherAge.Incomparable {} ⟨["captain", "age"], .optional .int, true⟩
      "17,null" (player "Bo" (some 17) [] captain) := by
    rintro (⟨-, hrequired⟩ | ⟨part, hpart, constant, hconstant, hunordered⟩)
    · cases hrequired
    · rw [hparts, List.mem_cons, List.mem_singleton] at hpart
      rcases hpart with rfl | rfl
      · have hage : Constant.coerce false (.optional .int) "captain.age" "17" =
          .ok (.number (.int 17)) := by decide
        obtain rfl := Except.ok.inj (hage.symm.trans hconstant)
        exact absurd hunordered.2 (by decide)
      · have hnull : Constant.coerce false (.optional .int) "captain.age" "null" = .ok .null := rfl
        obtain rfl := Except.ok.inj (hnull.symm.trans hconstant)
        exact hunordered.1 rfl
  obtain ⟨predicate, compiled, holds⟩ : ∃ predicate,
      underAnotherAge.compile .players {} (.record "Player") = .ok predicate ∧
        predicate.evaluate (player "Bo" (some 17) [] captain) = true := by
    rw [underAnotherAge, Filter.compile.eq_def]
    exact ⟨_, rfl, rfl⟩
  refine ⟨predicate, compiled, holds, ?_⟩
  obtain ⟨-, agree⟩ := @evaluate_noneOf_iff .players (.record "Player") {} "17,null" underAnotherAge
    rfl rfl
  rw [← hparts]
  exact (agree _ predicate _ resolved compiled conforms).2 ⟨holds, comparable⟩

def otherThanOne : Filter where
  property := "_"
  value := .literal "1"
  operation := .noneOf

/-- A missing player is not named Bo, and NaN is not 1; but neither is found to differ. -/
theorem not_evaluate_otherThan_null_and_nan :
    (∃ predicate other,
      namedOtherwise.compile .players {} (.optional (.record "Player")) = .ok predicate ∧
      (namedOtherwise.otherThan "Bo").compile .players {} (.optional (.record "Player")) =
        .ok other ∧
      splitAll ',' "Bo" = ["Bo"] ∧ Conforms .players (.optional (.record "Player")) .null ∧
      predicate.evaluate .null = true ∧ other.evaluate .null = false) ∧
    ∃ predicate other,
      otherThanOne.compile .players {} .float = .ok predicate ∧
      (otherThanOne.otherThan "1").compile .players {} .float = .ok other ∧
      splitAll ',' "1" = ["1"] ∧ Conforms .players .float (.number (.float .nan)) ∧
      predicate.evaluate (.number (.float .nan)) = true ∧
      other.evaluate (.number (.float .nan)) = false := by
  constructor
  · have hexcluded := @compile_noneOf .players (.optional (.record "Player")) {}
      ⟨["name"], .string, false⟩ "Bo" namedOtherwise rfl rfl rfl rfl
    have hother := @compile_otherThan .players (.optional (.record "Player")) {}
      ⟨["name"], .string, false⟩ namedOtherwise "Bo" rfl rfl
    exact ⟨_, _, hexcluded, hother, rfl, .absent, rfl, rfl⟩
  · have hexcluded := @compile_noneOf .players .float {} ⟨[], .float, false⟩ "1" otherThanOne rfl rfl
      rfl rfl
    have hother := @compile_otherThan .players .float {} ⟨[], .float, false⟩ otherThanOne "1" rfl rfl
    exact ⟨_, _, hexcluded, hother, rfl, .float, rfl, rfl⟩

end Filter

end RecordQuery

import RecordQuery.Proofs.Predicate.Typing
import RecordQuery.Proofs.Text.Cut

/-!
# Filters on missing values

A filter with a literal other than null is false where its member has no value: nothing compares with
a missing value, and a negated list is guarded by a test for one. The guard is left out for paths
without an optional type on them, and the type of the record at hand does not count there. So one
case is let through: a negated list at a record that is missing itself.
-/

namespace RecordQuery

open Text

variable {schema : Schema} {root : FieldType} {rules : TextRules} {v : Value}

namespace Value

/-- The names lead to no value: the value they start from is missing, or one on their way. -/
inductive MissingAlong : List String → Value → Prop
  | here {names : List String} : MissingAlong names .null
  | further {name : String} {names : List String} {v : Value}
    (h : MissingAlong names (v.member name)) : MissingAlong (name :: names) v

theorem missingAlong_nil : MissingAlong [] v ↔ v = .null := by
  constructor
  · rintro ⟨⟩
    rfl
  · rintro rfl
    exact .here

theorem missingAlong_of_not_isRecord {name : String} {names : List String}
    (h : v.isRecord = false) : MissingAlong (name :: names) v := by
  refine .further ?_
  rw [member_of_not_isRecord h]
  exact .here

theorem missingAlong_cons {name : String} {names : List String} :
    MissingAlong (name :: names) v ↔ MissingAlong names (v.member name) := by
  constructor
  · rintro (_ | h)
    · exact .here
    · exact h
  · exact .further

end Value

namespace MemberPath

/-- Reading finds nothing, or a missing value, exactly where the names lead to none. -/
theorem readSegments_getD_eq_null_iff {names : List String} :
    (readSegments names v).getD .null = .null ↔ v.MissingAlong names := by
  induction names generalizing v with
  | nil => exact Value.missingAlong_nil.symm
  | cons name names ih =>
    rw [Value.missingAlong_cons, ← ih]
    cases names with
    | nil => exact Iff.rfl
    | cons next names =>
      rw [readSegments_cons_cons]
      split
      · exact Iff.rfl
      · next hrecord =>
        rw [ih]
        exact iff_of_true rfl (Value.missingAlong_of_not_isRecord (Bool.eq_false_iff.2 hrecord))

theorem any_read_of_missing {path : MemberPath} {test : Value → Bool}
    (missing : v.MissingAlong path.segments) (htest : test .null = false) :
    (path.read v).any test = false := by
  have hread : (path.read v).getD .null = .null := readSegments_getD_eq_null_iff.2 missing
  cases hvalue : path.read v with
  | none => rfl
  | some w =>
    rw [hvalue, Option.getD_some] at hread
    rw [hread, Option.any_some, htest]

end MemberPath

namespace Conforms

theorem isOptional_of_null {type : FieldType} (h : Conforms schema type .null) :
    type.isOptional = true := by
  cases h <;> rfl

theorem member_of_member? {type next : FieldType} {name : String} (h : Conforms schema type v)
    (present : v ≠ .null) (hnext : type.member? schema name = some next) :
    Conforms schema next (v.member name) := by
  have hpresent := h.of_present.resolve_left present
  unfold FieldType.member? at hnext
  generalize type.present = present at hnext hpresent
  cases hpresent with
  | record declared others => exact declared name next hnext
  | _ => cases hnext

end Conforms

namespace MemberPath

/-- Where no type behind the first is optional only a missing record misses a value. -/
theorem eq_null_of_follow {path : String} {names : List String} {type : FieldType}
    (hfollow : follow schema path root names = .ok (type, false)) (conforms : Conforms schema root v)
    (missing : v.MissingAlong names) : v = .null := by
  induction names generalizing root v with
  | nil => exact Value.missingAlong_nil.1 missing
  | cons name names ih =>
    rw [follow] at hfollow
    cases hnext : root.member? schema name with
    | none =>
      rw [hnext] at hfollow
      cases hfollow
    | some next =>
      rw [hnext] at hfollow
      obtain ⟨⟨rest, nullable⟩, hrest, hfollow⟩ := bind_eq_ok_iff.1 hfollow
      obtain ⟨rfl, hnullable⟩ := Prod.mk.inj (Except.ok.inj hfollow)
      obtain ⟨hrequired, rfl⟩ := Bool.or_eq_false_iff.1 hnullable
      apply Classical.byContradiction
      intro present
      have hmember := conforms.member_of_member? present hnext
      rw [ih hrest hmember (Value.missingAlong_cons.1 missing)] at hmember
      rw [hmember.isOptional_of_null] at hrequired
      cases hrequired

theorem eq_null_of_resolve {property : String} {path : MemberPath}
    (resolved : resolve schema root property = .ok path) (required : path.nullable = false)
    (conforms : Conforms schema root v) (missing : v.MissingAlong path.segments) : v = .null := by
  rcases resolve_cases resolved with ⟨-, rfl⟩ | ⟨-, -, hfollow⟩
  · exact Value.missingAlong_nil.1 missing
  · rw [required] at hfollow
    exact eq_null_of_follow hfollow conforms missing

end MemberPath

/-- The literals that the value of a filter stands for. -/
def Operation.literals (operation : Operation) (literal : String) : List String :=
  if operation = .oneOf ∨ operation = .noneOf then splitAll ',' literal else [literal]

namespace Constant

theorem ne_null_of_ofLiteral? {type : FieldType} {literal : String} {constant : Constant}
    (h : ofLiteral? type literal = some constant) : constant ≠ .null := by
  rintro rfl
  unfold ofLiteral? at h
  cases type <;> simp at h

theorem ne_null_of_coerce {nullIsString : Bool} {type : FieldType} {property literal : String}
    {constant : Constant} (h : coerce nullIsString type property literal = .ok constant)
    (nonnull : isNullLiteral nullIsString type literal = false) : constant ≠ .null := by
  rw [coerce, if_neg (Bool.eq_false_iff.1 nonnull)] at h
  split at h
  · next hliteral =>
    obtain rfl := Except.ok.inj h
    exact ne_null_of_ofLiteral? hliteral
  · cases h

end Constant

theorem Comparison.holdsOf_null {constant : Constant} (op : Comparison) (fold : Bool)
    (h : constant ≠ .null) : op.holdsOf fold .null constant = false := by
  cases constant with
  | null => exact absurd rfl h
  | _ => rfl

section Missing

variable {member : MemberPath} {property literal : String} {fold : Bool} {predicate : Predicate}

theorem evaluate_compileComparison_of_missing {op : Comparison}
    (h : compileComparison rules member property fold op literal = .ok predicate)
    (nonnull : Constant.isNullLiteral rules.nullIsString member.type literal = false)
    (missing : v.MissingAlong member.segments) : predicate.evaluate v = false := by
  obtain ⟨constant, hconstant, h⟩ := bind_eq_ok_iff.1 h
  obtain rfl := Except.ok.inj h
  apply MemberPath.any_read_of_missing missing
  apply Comparison.holdsOf_null
  rw [ne_eq, Constant.folded_eq_null]
  exact Constant.ne_null_of_coerce hconstant nonnull

theorem evaluate_compileMembership_of_missing
    (h : compileMembership rules member property fold literal = .ok predicate)
    (nonnull : ∀ part ∈ splitAll ',' literal,
      Constant.isNullLiteral rules.nullIsString member.type part = false)
    (missing : v.MissingAlong member.segments) : predicate.evaluate v = false := by
  unfold compileMembership at h
  dsimp only at h
  split at h
  · next hsplit => exact absurd hsplit (splitAll_ne_nil ',' literal)
  · next first rest hsplit =>
    rw [hsplit] at nonnull
    obtain ⟨start, hstart, h⟩ := bind_eq_ok_iff.1 h
    have hfirst := evaluate_compileComparison_of_missing hstart (nonnull first List.mem_cons_self)
      missing
    refine foldlM_induction (P := fun group => group.evaluate v = false) h hfirst ?_
    intro part hpart group next hgroup hnext
    obtain ⟨equals, hequals, hnext⟩ := bind_eq_ok_iff.1 hnext
    obtain rfl := Except.ok.inj hnext
    have hpart := evaluate_compileComparison_of_missing hequals
      (nonnull part (List.mem_cons_of_mem first hpart)) missing
    rw [Predicate.evaluate, Connective.combine_eq_apply, hgroup, hpart]
    rfl

/-- The guard decides. -/
theorem evaluate_excluding_of_missing {group : Predicate} (hgroup : group.evaluate v = false)
    (missing : v.MissingAlong member.segments) :
    (excluding member group).evaluate v = !member.nullable := by
  unfold excluding
  split
  · next hnullable =>
    have hguard : (Predicate.comparison member .ne .null false).evaluate v = false :=
      MemberPath.any_read_of_missing missing rfl
    rw [Predicate.evaluate, Connective.combine_eq_apply, hguard, hnullable]
    rfl
  · next hnullable =>
    rw [Predicate.evaluate, hgroup, Bool.eq_false_iff.2 hnullable]

theorem evaluate_compileScalar_of_missing {operation : Operation} {caseSensitive : Bool}
    (h : compileScalar rules member property operation caseSensitive literal = .ok predicate)
    (nonnull : ∀ part ∈ operation.literals literal,
      Constant.isNullLiteral rules.nullIsString member.type part = false)
    (missing : v.MissingAlong member.segments) :
    predicate.evaluate v = (operation == .noneOf && !member.nullable) := by
  unfold compileScalar at h
  dsimp only at h
  split at h
  · cases h
  split at h
  · next hop =>
    subst hop
    exact evaluate_compileMembership_of_missing h nonnull missing
  split at h
  · next hop =>
    subst hop
    obtain ⟨group, hgroup, rfl⟩ := map_eq_ok_iff.1 h
    have hfalse := evaluate_compileMembership_of_missing hgroup nonnull missing
    rw [evaluate_excluding_of_missing hfalse missing]
    rfl
  · next honeOf hnoneOf =>
    rw [Operation.literals, if_neg (not_or.2 ⟨honeOf, hnoneOf⟩)] at nonnull
    have hsingle := nonnull literal List.mem_cons_self
    have hop : (operation == Operation.noneOf) = false := beq_eq_false_iff_ne.2 hnoneOf
    rw [hop, Bool.false_and]
    split at h
    · split at h
      · obtain rfl := Except.ok.inj h
        exact MemberPath.any_read_of_missing missing rfl
      · cases h
    · split at h
      · cases h
      · exact evaluate_compileComparison_of_missing h hsingle missing
    · cases h

end Missing

/-- A filter whose literals are not null holds without a value in one case only: a negated list, where
the record at hand is missing itself and no type behind it is optional. -/
theorem Filter.evaluate_iff_of_missing {filter : Filter} {literal : String} {member : MemberPath}
    {predicate : Predicate} (hvalue : filter.value = .literal literal)
    (resolved : MemberPath.resolve schema root filter.property = .ok member)
    (compiled : Filter.compile schema rules root filter = .ok predicate)
    (nonnull : ∀ part ∈ filter.operation.literals literal,
      Constant.isNullLiteral rules.nullIsString member.type part = false)
    (conforms : Conforms schema root v) (missing : v.MissingAlong member.segments) :
    predicate.evaluate v = true ↔
      filter.operation = .noneOf ∧ v = .null ∧ member.nullable = false := by
  obtain ⟨path, hpath, hscalar | ⟨query, _, _, _, _, hnested, _⟩⟩ := Filter.compile_eq_ok compiled
  · obtain rfl := Except.ok.inj (hpath.symm.trans resolved)
    obtain ⟨text, htext, -, hscalar⟩ := hscalar
    obtain rfl := FilterValue.literal.inj (hvalue.symm.trans htext)
    rw [evaluate_compileScalar_of_missing hscalar nonnull missing, Bool.and_eq_true, beq_iff_eq,
      Bool.not_eq_true']
    constructor
    · rintro ⟨hop, hrequired⟩
      exact ⟨hop, MemberPath.eq_null_of_resolve resolved hrequired conforms missing, hrequired⟩
    · rintro ⟨hop, -, hrequired⟩
      exact ⟨hop, hrequired⟩
  · cases hvalue.symm.trans hnested

def ledByOthers : Filter where
  property := "captain.name"
  value := .literal "Bo,null and void"
  operation := .noneOf

/-- A player without a captain is not led by others either. -/
theorem Filter.evaluate_ledByOthers_captain :
    ∃ predicate, ledByOthers.compile .players {} (.record "Player") = .ok predicate ∧
      Conforms .players (.record "Player") captain ∧ captain.MissingAlong ["captain", "name"] ∧
      predicate.evaluate captain = false := by
  have missing : captain.MissingAlong ["captain", "name"] := .further .here
  obtain ⟨predicate, compiled⟩ : ∃ predicate,
      ledByOthers.compile .players {} (.record "Player") = .ok predicate := by
    rw [ledByOthers, Filter.compile.eq_def]
    exact ⟨_, rfl⟩
  refine ⟨predicate, compiled, conforms_captain, missing, Bool.eq_false_iff.2 ?_⟩
  intro h
  have hcase := (@Filter.evaluate_iff_of_missing .players (.record "Player") {} captain ledByOthers _
    ⟨["captain", "name"], .string, true⟩ predicate rfl rfl compiled (by decide) conforms_captain
    missing).1 h
  cases hcase.2.2

def namedOtherwise : Filter where
  property := "name"
  value := .literal "Bo"
  operation := .noneOf

/-- A missing player is named otherwise, although it has no name. -/
theorem Filter.evaluate_namedOtherwise_null :
    ∃ predicate, namedOtherwise.compile .players {} (.optional (.record "Player")) = .ok predicate ∧
      (∀ part ∈ namedOtherwise.operation.literals "Bo",
        Constant.isNullLiteral false .string part = false) ∧
      Conforms .players (.optional (.record "Player")) .null ∧ Value.null.MissingAlong ["name"] ∧
      predicate.evaluate .null = true := by
  obtain ⟨predicate, compiled, hpredicate⟩ : ∃ predicate,
      namedOtherwise.compile .players {} (.optional (.record "Player")) = .ok predicate ∧
        predicate.evaluate .null = true := by
    rw [namedOtherwise, Filter.compile.eq_def]
    exact ⟨_, rfl, rfl⟩
  exact ⟨predicate, compiled, by decide, .absent, .here, hpredicate⟩

end RecordQuery

import RecordQuery.Proofs.Collation
import RecordQuery.Proofs.Plan.Sorting
import RecordQuery.Proofs.Predicate.Membership

/-!
# Filters and sort keys

Where no case is folded, a filter compares a member with its literal as a sort key compares two
records: the six comparisons are those of the three-way result between a record and any other one
that has the literal as its value. For texts this rests on collation telling all texts apart, since a
filter tests their equality without collating them.
-/

namespace RecordQuery

open Text

variable {schema : Schema} {root : FieldType} {rules : TextRules} {member : MemberPath}
  {property literal : String}

theorem Number.compare?_congr_right {l m n : Number} (hlm : l.kind = m.kind) (hmn : m.kind = n.kind)
    (same : m.compare? n = some .eq) : l.compare? m = l.compare? n := by
  rw [compare?_of_kind hmn] at same
  split at same
  · cases same
  · next number =>
    obtain ⟨hm, hn⟩ := Bool.or_eq_false_iff.1 (Bool.eq_false_iff.2 number)
    have hrank : m.rank = n.rank := Std.compare_eq_iff_eq.1 (Option.some.inj same)
    rw [compare?_of_kind hlm, compare?_of_kind (hlm.trans hmn), hm, hn, hrank]

/-- Equal values of one kind compare alike with every third one. -/
theorem Value.compare?_congr_right {ignoreCase : Bool} {u v w : Value} (huv : u.kind = v.kind)
    (hvw : v.kind = w.kind) (same : v.equals w = true) :
    u.compare? ignoreCase v = u.compare? ignoreCase w := by
  cases v with
  | number m =>
    cases w with
    | number n =>
      cases u with
      | number l =>
        simp only [equals, beq_iff_eq] at same
        exact Number.compare?_congr_right (Kind.number.inj huv) (Kind.number.inj hvw) same
      | _ => cases huv
    | _ => cases hvw
  | record => cases w <;> simp [equals] at same
  | list =>
    cases w with
    | list => cases u <;> rfl
    | _ => cases hvw
  | string | timestamp | enum | bool | null =>
    cases w <;> simp_all [equals, kind]

theorem Value.exists_compare? {ignoreCase : Bool} {u v : Value} (hkind : u.kind = v.kind)
    (scalar : u.kind ≠ .record ∧ u.kind ≠ .list) (hu : u.isNaN = false) (hv : v.isNaN = false) :
    ∃ o, u.compare? ignoreCase v = some o := by
  rw [← Option.ne_none_iff_exists', ne_eq, compare?_eq_none_iff hkind scalar, hu, hv]
  simp

theorem Constant.ne_null_of_equals {constant : Constant} {w : Value} (present : w ≠ .null)
    (same : constant.toValue.equals w = true) : constant ≠ .null := by
  rintro rfl
  cases w with
  | null => exact present rfl
  | _ => simp [toValue, Value.equals] at same

namespace Comparison

/-- Texts are equal if they collate so. -/
theorem holdsOfStrings_exact (op : Comparison) (s c : String) :
    op.holdsOfStrings false s c = op.holds (collate s c) := by
  have hequal : (s == c) = (collate s c).isEq := by
    rw [Bool.eq_iff_iff, beq_iff_eq, Ordering.isEq_iff_eq_eq, collate_eq_iff]
  cases op with
  | eq => exact hequal
  | ne =>
    have hdiffer : (s != c) = !(collate s c).isEq := congrArg Bool.not hequal
    rw [holdsOfStrings, hdiffer, holds]
    cases collate s c <;> rfl
  | lt | le | gt | ge => rfl

theorem holdsOf_exact {w : Value} {constant : Constant} (op : Comparison)
    (present : constant ≠ .null) (hkind : w.kind = constant.kind) :
    op.holdsOf false w constant = (w.compare? false constant.toValue).any op.holds := by
  by_cases hstring : constant.kind = .string
  · obtain ⟨s, rfl⟩ := Value.kind_eq_string.1 (hkind.trans hstring)
    cases constant with
    | string c => exact holdsOfStrings_exact op s c
    | _ => cases hstring
  · exact holdsOf_eq_any op present hstring hkind

/-- A value compares with a constant as it does with what equals the constant. -/
theorem holdsOf_of_equals {u w : Value} {constant : Constant} {o : Ordering} (op : Comparison)
    (present : constant ≠ .null) (hu : u.kind = constant.kind) (hw : constant.kind = w.kind)
    (same : constant.toValue.equals w = true) (h : u.compare? false w = some o) :
    op.holdsOf false u constant = op.holds o := by
  have hliteral : u.compare? false constant.toValue = some o :=
    (Value.compare?_congr_right hu hw same).trans h
  rw [holdsOf_exact op present hu, hliteral, Option.any_some]

end Comparison

theorem FieldType.isCompound_of_isOrdered {type : FieldType} (ordered : type.isOrdered = true) :
    type.isCompound = false := by
  unfold isOrdered at ordered
  unfold isCompound
  cases hpresent : type.present <;> simp_all

theorem SortKey.on_of_resolve (resolved : MemberPath.resolve schema root property = .ok member)
    (ordered : member.type.isOrdered = true) (direction : Direction) :
    SortKey.on schema root property direction = .ok ⟨member, direction, false⟩ := by
  rw [on, compile, resolved, ok_bind, if_pos ordered]
  simp [pure, Except.pure]

namespace Filter

variable {filter : Filter} {constant : Constant} {b w : Value}

/-- Without case folding, a comparison with a literal holds of a record as it holds of the place that
an ascending key gives the record beside any other one whose value is the literal. -/
theorem evaluate_eq_holds_compare (hvalue : filter.value = .literal literal)
    (resolved : MemberPath.resolve schema root filter.property = .ok member)
    (ordered : member.type.isOrdered = true) (relational : member.type.present ≠ .bool)
    (exact : filter.folds rules member = false)
    (coerced : Constant.coerce rules.nullIsString member.type filter.property literal =
      .ok constant)
    (conforms : Conforms schema root b) (reads : member.read b = some w) (present : w ≠ .null)
    (number : w.isNaN = false) (same : constant.toValue.equals w = true) :
    ∃ (key : SortKey) (compiled : Comparison → Predicate),
      SortKey.on schema root filter.property .asc = .ok key ∧
      (∀ op, Filter.compile schema rules root { filter with operation := op.operation } =
        .ok (compiled op)) ∧
      ∀ a u, Conforms schema root a → member.read a = some u → u ≠ .null → u.isNaN = false →
        ∀ op : Comparison, (compiled op).evaluate a = op.holds (key.compare a b) := by
  have path := MemberPath.from_of_resolve resolved
  refine ⟨⟨member, .asc, false⟩, fun op => .comparison member op (constant.folded false) false,
    SortKey.on_of_resolve resolved ordered .asc, ?_, ?_⟩
  · intro op
    have hcompile := @compile_comparison schema root rules member literal
      { filter with operation := op.operation } op rfl hvalue resolved
      (FieldType.isCompound_of_isOrdered ordered) fun _ => ⟨ordered, relational⟩
    have unfolded : folds rules { filter with operation := op.operation } member = false := exact
    rw [hcompile, unfolded, compileComparison, coerced]
    rfl
  · intro a u hconforms hreads hpresent hnumber op
    have hw : w.kind = member.type.kind := (path.kind_of_read conforms reads).resolve_left present
    have hu : u.kind = member.type.kind :=
      (path.kind_of_read hconforms hreads).resolve_left hpresent
    have hnull := Constant.ne_null_of_equals present same
    have hconstant : constant.kind = member.type.kind :=
      (Constant.kind_of_coerce coerced).resolve_left hnull
    have hscalar : u.kind ≠ .record ∧ u.kind ≠ .list := by
      rw [hu, ← hconstant]
      exact constant.kind_scalar
    obtain ⟨o, ho⟩ := @Value.exists_compare? false u w (hu.trans hw.symm) hscalar hnumber number
    have hkey : SortKey.compare ⟨member, .asc, false⟩ a b = o := by
      apply SortKey.compare_of_some rfl
      simpa [SortKey.value, hreads, reads] using ho
    have hexact : constant.folded false = constant := by cases constant <;> rfl
    rw [hkey, Predicate.evaluate, hreads, Option.any_some, hexact]
    exact op.holdsOf_of_equals hnull (hu.trans hconstant.symm) (hconstant.trans hw.symm) same ho

def spelledBo : Filter where
  property := "name"
  value := .literal "Bo"
  operation := .equals
  caseSensitive := true

/-- "bo" and "Bo" are the same letters; case puts the small one in front. -/
theorem evaluate_spelledBo :
    ∃ (key : SortKey) (compiled : Comparison → Predicate),
      SortKey.on .players (.record "Player") "name" .asc = .ok key ∧
      (∀ op, Filter.compile .players {} (.record "Player")
        { spelledBo with operation := op.operation } = .ok (compiled op)) ∧
      ∀ op : Comparison, (compiled op).evaluate (player "bo" none [] .null) =
        op.holds (key.compare (player "bo" none [] .null) (player "Bo" (some 17) [] captain)) := by
  have hbo : Conforms .players (.record "Player") (player "Bo" (some 17) [] captain) :=
    conforms_player _ _ _ (.present conforms_captain)
  obtain ⟨key, compiled, hkey, hcompiled, agree⟩ := @evaluate_eq_holds_compare .players
    (.record "Player") {} ⟨["name"], .string, false⟩ "Bo" spelledBo (.string "Bo")
    (player "Bo" (some 17) [] captain) (.string "Bo") rfl rfl rfl nofun rfl rfl hbo rfl nofun rfl
    (by decide)
  have hsmall : Conforms .players (.record "Player") (player "bo" none [] .null) :=
    conforms_player _ _ _ .absent
  exact ⟨key, compiled, hkey, hcompiled, agree _ (.string "bo") hsmall rfl nofun rfl⟩

end Filter

end RecordQuery

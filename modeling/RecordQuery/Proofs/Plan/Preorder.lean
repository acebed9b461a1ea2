import RecordQuery.Proofs.Plan.Sorting
import RecordQuery.Proofs.Predicate.Absence

/-!
# The preorder of rows by keys

Any list of keys puts the rows of a type in a total preorder, as soon as no key reads NaN from them:
that is what a sort needs to have one outcome. A descending key turns the order of the ascending one
round. Rows without the member tie, and come after all others in ascending order.
-/

namespace RecordQuery

open Std

namespace Value

theorem order_null_of_ne {v : Value} (ignoreCase : Bool) (h : v ≠ null) :
    null.order ignoreCase v = .gt := by
  cases v with
  | null => exact absurd rfl h
  | _ => rfl

end Value

namespace SortKey

variable {key : SortKey} {v w : Value}

/-- A key reads null where its path leads to no value, also behind a missing record. -/
theorem value_eq_null_iff : key.value v = .null ↔ v.MissingAlong key.member.segments :=
  MemberPath.readSegments_getD_eq_null_iff

theorem compare_desc (key : SortKey) (v w : Value) :
    { key with direction := .desc }.compare v w =
      ({ key with direction := .asc }.compare v w).swap := by
  simp only [compare_eq_apply, Direction.apply, value]

theorem compare_of_missing (hv : v.MissingAlong key.member.segments)
    (hw : w.MissingAlong key.member.segments) : key.compare v w = .eq := by
  rw [compare_eq_apply, value_eq_null_iff.2 hv, value_eq_null_iff.2 hw]
  cases key.direction <;> rfl

theorem compare_of_missing_of_not_missing (ascending : key.direction = .asc)
    (hv : v.MissingAlong key.member.segments) (hw : ¬ w.MissingAlong key.member.segments) :
    key.compare v w = .gt := by
  have present : key.value w ≠ .null := mt value_eq_null_iff.1 hw
  rw [compare_eq_apply, value_eq_null_iff.2 hv, ascending]
  exact Value.order_null_of_ne key.ignoreCase present

end SortKey

namespace Plan

variable {Row : Type} {view : Row → Value} {schema : Schema} {element : FieldType}
  {keys : List SortKey} {rows : List Row}

/-- Rows of a type without NaN are in total preorder by any keys; each key has its reverse, and rows
without its member tie behind all others. -/
theorem rowOrder_preorder (conforms : ∀ row ∈ rows, Conforms schema element (view row))
    (numbers : NumbersOnly view keys rows) {a b c : Row} (ha : a ∈ rows) (hb : b ∈ rows)
    (hc : c ∈ rows) :
    rowOrder view keys a a = .eq ∧
      rowOrder view keys b a = (rowOrder view keys a b).swap ∧
      (rowOrder view keys a b = .lt → rowOrder view keys b c = .lt →
        rowOrder view keys a c = .lt) ∧
      (rowOrder view keys a b = .eq → rowOrder view keys b c = .eq →
        rowOrder view keys a c = .eq) ∧
      ((rowOrder view keys a b).isLE → (rowOrder view keys b c).isLE →
        (rowOrder view keys a c).isLE) ∧
      ∀ key : SortKey,
        { key with direction := .desc }.compare (view a) (view b) =
          ({ key with direction := .asc }.compare (view a) (view b)).swap ∧
        ((view a).MissingAlong key.member.segments → (view b).MissingAlong key.member.segments →
          key.compare (view a) (view b) = .eq) ∧
        (key.direction = .asc → (view a).MissingAlong key.member.segments →
          ¬ (view b).MissingAlong key.member.segments →
          key.compare (view a) (view b) = .gt) := by
  have orders : Orders (rowOrder view keys) rows := orders_rowOrder conforms numbers
  refine ⟨?_, ?_, ?_, ?_, ?_, ?_⟩
  · exact ReflCmp.compare_self
  · exact OrientedCmp.eq_swap
  · exact @TransCmp.lt_trans _ _ orders ⟨a, ha⟩ ⟨b, hb⟩ ⟨c, hc⟩
  · exact @TransCmp.eq_trans _ _ orders ⟨a, ha⟩ ⟨b, hb⟩ ⟨c, hc⟩
  · exact @TransCmp.isLE_trans _ _ orders ⟨a, ha⟩ ⟨b, hb⟩ ⟨c, hc⟩
  · intro key
    refine ⟨SortKey.compare_desc key (view a) (view b), ?_, ?_⟩
    · exact SortKey.compare_of_missing
    · exact SortKey.compare_of_missing_of_not_missing

/-- Players by the name of their captain, then by age. -/
def byCaptain : List SortKey :=
  [⟨⟨["captain", "name"], .string, true⟩, .asc, true⟩, ⟨⟨["age"], .optional .int, true⟩, .asc, false⟩]

/-- Of two players of one captain the one without an age is second, and a player without a captain
is third. -/
theorem rowOrder_byCaptain_squad :
    rowOrder id byCaptain (player "Bo" (some 17) [] captain) (player "cy" none [18] captain) = .lt ∧
      rowOrder id byCaptain (player "cy" none [18] captain) (player "Di" (some 29) [4] .null) =
        .lt ∧
      rowOrder id byCaptain (player "Bo" (some 17) [] captain) (player "Di" (some 29) [4] .null) =
        .lt := by
  have numbers : NumbersOnly id byCaptain squad := by
    unfold NumbersOnly
    decide
  have hfirst : rowOrder id byCaptain (player "Bo" (some 17) [] captain)
      (player "cy" none [18] captain) = .lt := by decide
  have hsecond : rowOrder id byCaptain (player "cy" none [18] captain)
      (player "Di" (some 29) [4] .null) = .lt := by decide
  obtain ⟨-, -, htrans, -⟩ := rowOrder_preorder conforms_squad numbers
    (List.mem_cons_self) (List.mem_cons_of_mem _ (List.mem_cons_of_mem _ List.mem_cons_self))
    (List.mem_cons_of_mem _ (List.mem_cons_of_mem _ (List.mem_cons_of_mem _ List.mem_cons_self)))
  exact ⟨hfirst, hsecond, htrans hfirst hsecond⟩

end Plan

end RecordQuery

import RecordQuery.Plan.Run
import RecordQuery.Proofs.Conformance
import RecordQuery.Proofs.StableSort

/-!
# Sorting rows by keys

A key reads values of one kind from all rows of a type, so the keys order such rows as soon as none
of the values is NaN, and `sortRows` is their stable sort.
-/

namespace RecordQuery

open Std

variable {Row : Type} {view : Row → Value} {schema : Schema} {element : FieldType}
  {key : SortKey} {keys more : List SortKey} {rows : List Row}

namespace SortKey

theorem compare_eq_apply (key : SortKey) (v w : Value) :
    key.compare v w = key.direction.apply ((key.value v).order key.ignoreCase (key.value w)) := by
  unfold compare Value.order
  cases (key.value v).compare? key.ignoreCase (key.value w) with
  | none => cases key.direction <;> rfl
  | some o => rfl

/-- The kind of the values that a key reads from the rows of a type. -/
def kind (schema : Schema) (element : FieldType) (key : SortKey) : Kind :=
  ((element.along? schema key.member.segments).map FieldType.kind).getD .null

theorem fits_value {v : Value} (h : Conforms schema element v)
    (number : (key.value v).isNaN = false) : (key.value v).Fits (key.kind schema element) := by
  unfold value at number ⊢
  cases hread : key.member.read v with
  | none => exact .inl rfl
  | some w =>
    simp only [hread, Option.getD_some] at number ⊢
    rcases MemberPath.conforms_of_readSegments h hread with hnull | ⟨type, htype, hw⟩
    · exact .inl hnull
    rcases hw.kind_eq with hnull | hkind
    · exact .inl hnull
    · rw [kind, htype]
      exact .inr ⟨hkind, number⟩

instance (key : SortKey) : OrientedCmp key.compare where
  eq_swap {v w} := by
    rw [compare_eq_apply, compare_eq_apply, @OrientedCmp.eq_swap _ (Value.order key.ignoreCase)]
    cases key.direction <;> rfl

theorem isLE_compare_trans {kind : Kind} {u v w : Value} (hu : (key.value u).Fits kind)
    (hv : (key.value v).Fits kind) (hw : (key.value w).Fits kind) (huv : (key.compare u v).isLE)
    (hvw : (key.compare v w).isLE) : (key.compare u w).isLE := by
  rw [compare_eq_apply] at huv hvw ⊢
  cases hd : key.direction with
  | asc =>
    rw [hd] at huv hvw
    exact Value.isLE_order_trans hu hv hw huv hvw
  | desc =>
    simp only [hd, Direction.apply,
      ← @OrientedCmp.eq_swap _ (Value.order key.ignoreCase)] at huv hvw ⊢
    exact Value.isLE_order_trans hw hv hu hvw huv

instance (keys : List SortKey) : OrientedCmp (compareBy keys) := by
  induction keys with
  | nil => exact ⟨rfl⟩
  | cons key keys ih =>
    exact inferInstanceAs (OrientedCmp (compareLex key.compare (compareBy keys)))

theorem compareBy_append (keys more : List SortKey) (v w : Value) :
    compareBy (keys ++ more) v w = (compareBy keys v w).then (compareBy more v w) := by
  induction keys with
  | nil => rfl
  | cons key keys ih =>
    rw [List.cons_append, compareBy_cons, compareBy_cons, ih, Ordering.then_assoc]

end SortKey

namespace Plan

/-- The order of rows by some keys. -/
def rowOrder (view : Row → Value) (keys : List SortKey) (a b : Row) : Ordering :=
  SortKey.compareBy keys (view a) (view b)

instance (view : Row → Value) (keys : List SortKey) : OrientedCmp (rowOrder view keys) where
  eq_swap {a b} := @OrientedCmp.eq_swap _ (SortKey.compareBy keys) _ (view a) (view b)

/-- No key reads NaN from a row. -/
def NumbersOnly (view : Row → Value) (keys : List SortKey) (rows : List Row) : Prop :=
  ∀ key ∈ keys, ∀ row ∈ rows, (key.value (view row)).isNaN = false

theorem orders_rowOrder (conforms : ∀ row ∈ rows, Conforms schema element (view row))
    (numbers : NumbersOnly view keys rows) : Orders (rowOrder view keys) rows := by
  induction keys with
  | nil => exact { eq_swap := rfl, isLE_trans := fun _ _ => rfl }
  | cons key keys ih =>
    have hkey : Orders (fun a b => key.compare (view a) (view b)) rows := by
      refine { eq_swap := ?_, isLE_trans := ?_ }
      · intro a b
        exact @OrientedCmp.eq_swap _ key.compare _ (view a) (view b)
      intro a b c
      have fits (row : { row // row ∈ rows }) :=
        SortKey.fits_value (conforms row row.2) (numbers key List.mem_cons_self row row.2)
      exact SortKey.isLE_compare_trans (fits a) (fits b) (fits c)
    have hkeys : Orders (rowOrder view keys) rows := by
      apply ih
      intro other hother
      exact numbers other (List.mem_cons_of_mem key hother)
    unfold Orders at hkey hkeys
    exact inferInstanceAs (TransCmp (compareLex
      (fun a b : { row // row ∈ rows } => key.compare (view a) (view b))
      (fun a b : { row // row ∈ rows } => rowOrder view keys a b)))

/-- Sorting is stable. -/
theorem stablySorts_sortRows (h : Orders (rowOrder view keys) rows) :
    StablySorts (rowOrder view keys) rows (sortRows view keys rows) :=
  h.stablySorts_mergeSort

theorem eq_sortRows_iff (h : Orders (rowOrder view keys) rows) {sorted : List Row} :
    sorted = sortRows view keys rows ↔ StablySorts (rowOrder view keys) rows sorted := by
  constructor
  · rintro rfl
    exact stablySorts_sortRows h
  · intro hs
    exact hs.unique (stablySorts_sortRows h)

@[simp] theorem sortRows_nil (view : Row → Value) (rows : List Row) :
    sortRows view [] rows = rows :=
  List.mergeSort_of_pairwise (List.pairwise_of_forall fun _ _ => rfl)

theorem sortRows_filter (h : Orders (rowOrder view keys) rows) (p : Row → Bool) :
    (sortRows view keys rows).filter p = sortRows view keys (rows.filter p) := by
  have hfilter : Orders (rowOrder view keys) (rows.filter p) :=
    h.mono fun row hrow => (List.mem_filter.1 hrow).1
  exact (eq_sortRows_iff hfilter).2 ((stablySorts_sortRows h).filter p)

/-- A sort is absorbed by one by more keys. -/
theorem sortRows_append_sortRows (h : Orders (rowOrder view keys) rows)
    (h' : Orders (rowOrder view (keys ++ more)) rows) :
    sortRows view (keys ++ more) (sortRows view keys rows) = sortRows view (keys ++ more) rows := by
  have hsorted : Orders (rowOrder view (keys ++ more)) (sortRows view keys rows) :=
    h'.mono fun row hrow => mem_sortRows.1 hrow
  have finer (a b : Row) (hab : rowOrder view (keys ++ more) a b = .eq) :
      rowOrder view keys a b = .eq := by
    rw [rowOrder, SortKey.compareBy_append, Ordering.then_eq_eq] at hab
    exact hab.1
  rw [eq_sortRows_iff h']
  exact (stablySorts_sortRows h).refine finer (stablySorts_sortRows hsorted)

end Plan

end RecordQuery

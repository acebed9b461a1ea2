import RecordQuery.Proofs.Plan.Sorting

/-!
# Running a plan stage by stage

The eager interpreter sorts at every ordering stage: by the new key alone at a primary one, by all
keys of the current ordering at a secondary one. Putting sorts off does not change the result. The
invariant is that the rows of a deferred run, once sorted as they are due, are the rows of the eager
run; a sort that is put off is absorbed by the finer one that replaces it.
-/

namespace RecordQuery

open Std

variable {Row : Type} {view : Row → Value} {keys : List SortKey} {rows : List Row}

namespace Plan

/-- The rows between two stages, sorted by the keys of the current ordering. -/
structure Eager (Row : Type) where
  rows : List Row
  keys : List SortKey := []

namespace Eager

def step (view : Row → Value) (eager : Eager Row) : Stage → Eager Row
  | .orderPrimary key => { rows := sortRows view [key] eager.rows, keys := [key] }
  | .orderSecondary key =>
    { rows := sortRows view (eager.keys ++ [key]) eager.rows, keys := eager.keys ++ [key] }
  | .filter predicate =>
    { eager with rows := eager.rows.filter fun row => predicate.evaluate (view row) }
  | .skip n => { eager with rows := eager.rows.drop n }
  | .take n => { eager with rows := eager.rows.take n }

end Eager

def runEagerly (view : Row → Value) (plan : Plan) (rows : List Row) : List Row :=
  (plan.foldl (Eager.step view) { rows }).rows

end Plan

def Stage.key? : Stage → Option SortKey
  | orderPrimary key | orderSecondary key => some key
  | _ => none

namespace Plan

/-- The keys of all orderings of a plan. -/
def sortKeys (plan : Plan) : List SortKey := plan.filterMap Stage.key?

/-- The deferred run is at the point of the eager one, but for a sort that is due. Rows and keys
come from the given ones. -/
structure Progress.Matches (view : Row → Value) (rows : List Row) (keys : List SortKey)
    (progress : Progress Row) (eager : Eager Row) : Prop where
  sorted : progress.sorted view = eager.rows
  sameKeys : progress.keys = eager.keys
  rows_mem : ∀ row ∈ progress.rows, row ∈ rows
  keys_mem : ∀ key ∈ progress.keys, key ∈ keys

namespace Progress

theorem mem_sorted {progress : Progress Row} {row : Row} :
    row ∈ progress.sorted view ↔ row ∈ progress.rows := by
  unfold sorted
  split
  · exact mem_sortRows
  · exact Iff.rfl

variable {progress : Progress Row} {eager : Eager Row}

/-- A stage that needs the rows sorted finds them as in the eager run. -/
theorem Matches.settle (h : Matches view rows keys progress eager) {f : List Row → List Row}
    (sub : ∀ part, ∀ row ∈ f part, row ∈ part) :
    Matches view rows keys (progress.settle view f) { eager with rows := f eager.rows } where
  sorted := congrArg f h.sorted
  sameKeys := h.sameKeys
  rows_mem row hrow := h.rows_mem row (mem_sorted.1 (sub _ row hrow))
  keys_mem := h.keys_mem

theorem Matches.step (sortable : ∀ part : List SortKey, (∀ key ∈ part, key ∈ keys) →
      Orders (rowOrder view part) rows)
    (h : Matches view rows keys progress eager) {stage : Stage}
    (hstage : ∀ key ∈ stage.key?, key ∈ keys) :
    Matches view rows keys (progress.step view stage) (eager.step view stage) := by
  cases stage with
  | filter predicate =>
    apply h.settle
    intro part row hrow
    exact (List.mem_filter.1 hrow).1
  | skip n =>
    apply h.settle
    intro part row hrow
    exact List.mem_of_mem_drop hrow
  | take n =>
    apply h.settle
    intro part row hrow
    exact List.mem_of_mem_take hrow
  | orderPrimary key =>
    refine ⟨?_, rfl, ?_, ?_⟩
    · exact congrArg (sortRows view [key]) h.sorted
    · intro row hrow
      exact h.rows_mem row (mem_sorted.1 hrow)
    · simpa [Progress.step] using hstage key rfl
  | orderSecondary key =>
    have hkeys : ∀ other ∈ progress.keys ++ [key], other ∈ keys := by
      intro other hother
      rcases List.mem_append.1 hother with hold | hnew
      · exact h.keys_mem other hold
      · exact List.mem_singleton.1 hnew ▸ hstage key rfl
    refine ⟨?_, congrArg (· ++ [key]) h.sameKeys, h.rows_mem, hkeys⟩
    simp only [Eager.step, ← h.sameKeys, ← h.sorted]
    -- The sort that was due, if any, is absorbed by the one with the new key.
    unfold Progress.sorted
    cases progress.pending with
    | false => rfl
    | true =>
      exact (sortRows_append_sortRows ((sortable _ h.keys_mem).mono h.rows_mem)
        ((sortable _ hkeys).mono h.rows_mem)).symm

theorem Matches.foldl (sortable : ∀ part : List SortKey, (∀ key ∈ part, key ∈ keys) →
      Orders (rowOrder view part) rows)
    (h : Matches view rows keys progress eager) {plan : Plan}
    (hplan : ∀ key ∈ plan.sortKeys, key ∈ keys) :
    Matches view rows keys (plan.foldl (Progress.step view) progress)
      (plan.foldl (Eager.step view) eager) := by
  induction plan generalizing progress eager with
  | nil => exact h
  | cons stage plan ih =>
    have hstage : ∀ key ∈ stage.key?, key ∈ keys := by
      intro key hkey
      apply hplan
      exact List.mem_filterMap.2 ⟨stage, List.mem_cons_self, hkey⟩
    have hrest : ∀ key ∈ sortKeys plan, key ∈ keys := by
      intro key hkey
      obtain ⟨other, hother, hkey⟩ := List.mem_filterMap.1 hkey
      apply hplan
      exact List.mem_filterMap.2 ⟨other, List.mem_cons_of_mem stage hother, hkey⟩
    exact ih (h.step sortable hstage) hrest

end Progress

/-- Sorting late yields what sorting at once does. -/
theorem run_eq_runEagerly {schema : Schema} {element : FieldType} {plan : Plan}
    (conforms : ∀ row ∈ rows, Conforms schema element (view row))
    (numbers : NumbersOnly view plan.sortKeys rows) :
    run view plan rows = runEagerly view plan rows := by
  have start : Progress.Matches view rows plan.sortKeys { rows } { rows } :=
    ⟨rfl, rfl, fun _ hrow => hrow, nofun⟩
  have sortable (part : List SortKey) (hpart : ∀ key ∈ part, key ∈ plan.sortKeys) :
      Orders (rowOrder view part) rows := by
    apply orders_rowOrder conforms
    intro key hkey
    exact numbers key (hpart key hkey)
  have finished := start.foldl sortable fun _ hkey => hkey
  exact finished.sorted

/-- The two oldest players are found first and then sorted by their captains too. -/
theorem run_oldest_eq_runEagerly :
    run id [.orderPrimary ⟨⟨["age"], .optional .int, true⟩, .desc, false⟩, .take 2,
        .orderSecondary ⟨⟨["captain", "name"], .string, true⟩, .asc, true⟩] squad =
      runEagerly id [.orderPrimary ⟨⟨["age"], .optional .int, true⟩, .desc, false⟩, .take 2,
        .orderSecondary ⟨⟨["captain", "name"], .string, true⟩, .asc, true⟩] squad := by
  refine run_eq_runEagerly conforms_squad ?_
  unfold NumbersOnly
  decide

end Plan

end RecordQuery

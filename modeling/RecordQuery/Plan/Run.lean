import RecordQuery.Plan.Basic

/-!
# Running a plan

The stages are applied to rows of any kind that can be seen as values. Sorting is put off: ordering
stages only collect keys, and the rows are sorted, once and stably, when a stage needs them sorted
or starts another ordering. The keys stay in force for later secondary orderings.
-/

namespace RecordQuery.Plan

variable {Row : Type}

def sortRows (view : Row → Value) (keys : List SortKey) (rows : List Row) : List Row :=
  rows.mergeSort fun a b => (SortKey.compareBy keys (view a) (view b)).isLE

theorem sortRows_perm (view : Row → Value) (keys : List SortKey) (rows : List Row) :
    (sortRows view keys rows).Perm rows := List.mergeSort_perm ..

@[simp] theorem length_sortRows (view : Row → Value) (keys : List SortKey) (rows : List Row) :
    (sortRows view keys rows).length = rows.length := (sortRows_perm view keys rows).length_eq

@[simp] theorem mem_sortRows {view : Row → Value} {keys : List SortKey} {rows : List Row}
    {row : Row} : row ∈ sortRows view keys rows ↔ row ∈ rows :=
  (sortRows_perm view keys rows).mem_iff

/-- The rows between two stages, with the keys of the current ordering. -/
structure Progress (Row : Type) where
  rows : List Row
  keys : List SortKey := []
  /-- The rows are still to be sorted by the keys. -/
  pending : Bool := false

namespace Progress

def sorted (view : Row → Value) (progress : Progress Row) : List Row :=
  if progress.pending then sortRows view progress.keys progress.rows else progress.rows

def settle (view : Row → Value) (progress : Progress Row) (f : List Row → List Row) :
    Progress Row :=
  { progress with rows := f (progress.sorted view), pending := false }

def step (view : Row → Value) (progress : Progress Row) : Stage → Progress Row
  | .orderPrimary key => { rows := progress.sorted view, keys := [key], pending := true }
  | .orderSecondary key => { progress with keys := progress.keys ++ [key], pending := true }
  | .filter predicate =>
    progress.settle view fun rows => rows.filter fun row => predicate.evaluate (view row)
  | .skip n => progress.settle view fun rows => rows.drop n
  | .take n => progress.settle view fun rows => rows.take n

end Progress

def run (view : Row → Value) (plan : Plan) (rows : List Row) : List Row :=
  (plan.foldl (Progress.step view) { rows }).sorted view

@[simp] theorem run_nil (view : Row → Value) (rows : List Row) : run view [] rows = rows := rfl

end RecordQuery.Plan

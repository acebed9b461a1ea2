import Mathlib.Data.List.Perm.Subperm
import RecordQuery.Plan.Run

/-!
# Stages of one sort

Secondary orderings add keys and nothing else. A stage that is no ordering looks at rows in order: it
sorts what is due and selects. A run of such stages is therefore a run of selections from the result
of the plan before them. No stage makes up or repeats a row.
-/

namespace RecordQuery

variable {Row : Type} {view : Row → Value}

namespace Stage

/-- What a stage leaves of rows in order. Orderings leave all. -/
def select (view : Row → Value) (rows : List Row) : Stage → List Row
  | filter predicate => rows.filter fun row => predicate.evaluate (view row)
  | skip n => rows.drop n
  | take n => rows.take n
  | orderPrimary _ | orderSecondary _ => rows

theorem select_sublist (rows : List Row) (stage : Stage) : (stage.select view rows).Sublist rows := by
  cases stage with
  | filter predicate => exact List.filter_sublist
  | skip n => exact List.drop_sublist n rows
  | take n => exact List.take_sublist n rows
  | orderPrimary key | orderSecondary key => exact List.Sublist.refl rows

end Stage

namespace Plan

theorem foldl_orderSecondary (progress : Progress Row) (keys : List SortKey) :
    (keys.map Stage.orderSecondary).foldl (Progress.step view) progress =
      { progress with
        keys := progress.keys ++ keys
        pending := progress.pending || !keys.isEmpty } := by
  induction keys generalizing progress with
  | nil => simp
  | cons key keys ih => simp [ih, Progress.step]

namespace Progress

theorem sorted_perm (progress : Progress Row) : (progress.sorted view).Perm progress.rows := by
  unfold sorted
  split
  · exact sortRows_perm view progress.keys progress.rows
  · exact List.Perm.refl progress.rows

theorem sorted_step {stage : Stage} (selects : stage.isOrder = false) (progress : Progress Row) :
    (progress.step view stage).sorted view = stage.select view (progress.sorted view) := by
  cases stage with
  | filter predicate | skip n | take n => rfl
  | orderPrimary key | orderSecondary key => cases selects

theorem sorted_foldl {stages : Plan} (select : ∀ stage ∈ stages, stage.isOrder = false)
    (progress : Progress Row) :
    (stages.foldl (Progress.step view) progress).sorted view =
      stages.foldl (Stage.select view) (progress.sorted view) := by
  induction stages generalizing progress with
  | nil => rfl
  | cons stage stages ih =>
    obtain ⟨hstage, hlater⟩ := List.forall_mem_cons.1 select
    rw [List.foldl_cons, List.foldl_cons, ← sorted_step hstage]
    exact ih hlater _

theorem step_subperm (progress : Progress Row) (stage : Stage) :
    (progress.step view stage).rows.Subperm progress.rows := by
  have hselect : (stage.select view (progress.sorted view)).Subperm progress.rows :=
    (stage.select_sublist _).subperm.trans progress.sorted_perm.subperm
  cases stage with
  | filter predicate | skip n | take n | orderPrimary key => exact hselect
  | orderSecondary key => exact List.Subperm.refl progress.rows

theorem foldl_subperm (plan : Plan) (progress : Progress Row) :
    (plan.foldl (Progress.step view) progress).rows.Subperm progress.rows := by
  induction plan generalizing progress with
  | nil => exact List.Subperm.refl progress.rows
  | cons stage plan ih => exact (ih _).trans (progress.step_subperm stage)

end Progress

theorem run_append {stages : Plan} (select : ∀ stage ∈ stages, stage.isOrder = false) (plan : Plan)
    (rows : List Row) :
    run view (plan ++ stages) rows = stages.foldl (Stage.select view) (run view plan rows) := by
  rw [run, List.foldl_append]
  exact Progress.sorted_foldl select _

theorem run_subperm (plan : Plan) (rows : List Row) : (run view plan rows).Subperm rows :=
  (Progress.sorted_perm _).subperm.trans (Progress.foldl_subperm plan { rows })

end Plan

end RecordQuery

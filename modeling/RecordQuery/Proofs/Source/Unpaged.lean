import RecordQuery.Proofs.Plan.Sorting
import RecordQuery.Proofs.Plan.Stages
import RecordQuery.Source

/-!
# Options without a page

On rows in memory, options without a page select the rows that satisfy the predicate and sort them
stably by the keys, although the plan sorts all rows and then selects: leaving rows out commutes
with stable sorting.
-/

namespace RecordQuery

open Plan

variable {Row : Type} {view : Row → Value} {keys : List SortKey} {rows : List Row}
  {schema : Schema} {options : QueryOptions} {predicate : Option Predicate}

namespace Plan

/-- A fresh ordering leaves one sort by all its keys to be done. -/
theorem sorted_foldl_freshOrder (view : Row → Value) (keys : List SortKey) (rows : List Row) :
    ((freshOrder keys).foldl (Progress.step view) { rows }).sorted view =
      sortRows view keys rows := by
  cases keys with
  | nil => simp [freshOrder, Progress.sorted]
  | cons key keys =>
    simp [freshOrder, foldl_orderSecondary, Progress.step, Progress.sorted]

theorem run_freshOrder_filter (view : Row → Value) (keys : List SortKey)
    (predicate : Option Predicate) (rows : List Row) :
    run view (freshOrder keys ++ predicate.toList.map .filter) rows =
      (sortRows view keys rows).filter fun row => predicate.all (·.evaluate (view row)) := by
  rw [run, List.foldl_append]
  cases predicate with
  | none =>
    rw [← sorted_foldl_freshOrder]
    exact (List.filter_eq_self.2 fun _ _ => rfl).symm
  | some predicate =>
    rw [← sorted_foldl_freshOrder]
    rfl

end Plan

namespace Query

/-- Options without a page apply if they compile, and do not change. -/
theorem apply_of_compile {query : Query Row} (unpaged : options.page = none)
    (hpredicate : options.predicate? schema query.element = .ok predicate)
    (hkeys : options.sorts.mapM
      (SortKey.compile schema query.element options.caseInsensitiveSource) = .ok keys) :
    query.apply schema options =
      .ok { query with
        plan := query.plan.spliceOrder keys options.ignorePredefinedOrders ++
          predicate.toList.map .filter } options := by
  have hcompile : query.source.compile schema options = .ok
      (query.plan.spliceOrder keys options.ignorePredefinedOrders ++
        predicate.toList.map .filter) := by
    unfold Source.compile
    refine bind_eq_ok_iff.2 ⟨predicate, hpredicate, ?_⟩
    exact bind_eq_ok_iff.2 ⟨keys, hkeys, rfl⟩
  have hsteps : query.source.applySteps schema options = .ok
      ({ query.source with
        plan := query.plan.spliceOrder keys options.ignorePredefinedOrders ++
          predicate.toList.map .filter }, options) := by
    rw [Source.applySteps, hcompile]
    dsimp only
    rw [unpaged]
  have happly : query.source.apply schema options = .ok
      { query.source with
        plan := query.plan.spliceOrder keys options.ignorePredefinedOrders ++
          predicate.toList.map .filter } options := by
    rw [Source.apply, hsteps]
  simp only [Query.apply, bind, EStateM.bind, happly]
  rfl

/-- The result is the one stable sort of the rows that satisfy the predicate. -/
theorem toList_apply_eq_iff {query : Query Row} (fresh : query.plan = [])
    (unpaged : options.page = none)
    (hpredicate : options.predicate? schema query.element = .ok predicate)
    (hkeys : options.sorts.mapM
      (SortKey.compile schema query.element options.caseInsensitiveSource) = .ok keys)
    (conforms : ∀ row ∈ query.rows, Conforms schema query.element (query.view row))
    (numbers : NumbersOnly query.view keys query.rows) :
    ∃ applied, query.apply schema options = .ok applied options ∧
      ∀ result, result = applied.toList ↔
        StablySorts (rowOrder query.view keys)
          (query.rows.filter fun row => predicate.all (·.evaluate (query.view row))) result := by
  refine ⟨_, apply_of_compile unpaged hpredicate hkeys, ?_⟩
  intro result
  have horders := orders_rowOrder conforms numbers
  have hselected : Orders (rowOrder query.view keys)
      (query.rows.filter fun row => predicate.all (·.evaluate (query.view row))) :=
    horders.mono fun row hrow => (List.mem_filter.1 hrow).1
  have hplan : query.plan.spliceOrder keys options.ignorePredefinedOrders = freshOrder keys := by
    rw [fresh, spliceOrder]
    split
    · next h => split at h <;> cases h
    · rfl
  rw [← eq_sortRows_iff hselected, ← sortRows_filter horders, toList, hplan, run_freshOrder_filter]

/-- Grown players by the names of their captains, then from the oldest to the youngest. -/
def grownPlayers : QueryOptions where
  filters := [{ property := "age", value := .literal "18", operation := .greaterThanOrEqual }]
  sorts := [{ property := "captain.name" }, { property := "age", direction := .desc }]

theorem toList_apply_grownPlayers_eq_iff :
    ∃ applied, Query.apply .players { element := .record "Player", view := id, rows := squad }
        grownPlayers = .ok applied grownPlayers ∧
      ∀ result, result = applied.toList ↔
        StablySorts (rowOrder id [⟨⟨["captain", "name"], .string, true⟩, .asc, true⟩,
            ⟨⟨["age"], .optional .int, true⟩, .desc, false⟩])
          (squad.filter fun row => (some (Predicate.comparison ⟨["age"], .optional .int, true⟩ .ge
            (.number (.int 18)) false)).all (·.evaluate row)) result := by
  refine toList_apply_eq_iff rfl rfl ?_ rfl conforms_squad ?_
  · rw [QueryOptions.predicate?, grownPlayers, compileFilters, Filter.compile.eq_def]
    rfl
  · unfold NumbersOnly
    decide

end Query

end RecordQuery

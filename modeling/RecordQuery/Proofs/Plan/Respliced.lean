import RecordQuery.Proofs.Plan.Eager
import RecordQuery.Proofs.Plan.Splice

/-!
# Keys spliced in again

Keys that are put behind keys in force already never decide, and a sort of rows that are in order
already moves none of them. So it makes no difference to splice the same keys in once more, neither
behind the existing orderings nor in their place.
-/

namespace RecordQuery

open Plan

variable {Row : Type} {view : Row → Value} {schema : Schema} {element : FieldType}
  {keys more : List SortKey} {rows : List Row}

theorem SortKey.compareBy_append_of_subset (h : more ⊆ keys) (v w : Value) :
    compareBy (keys ++ more) v w = compareBy keys v w := by
  have ties {part : List SortKey} :
      compareBy part v w = .eq ↔ ∀ key ∈ part, key.compare v w = .eq := by
    induction part with
    | nil => simp
    | cons key part ih => rw [compareBy_cons, Ordering.then_eq_eq, ih, List.forall_mem_cons]
  rw [compareBy_append]
  cases hkeys : compareBy keys v w with
  | lt | gt => rfl
  | eq =>
    rw [Ordering.eq_then, ties]
    intro key hkey
    exact ties.1 hkeys key (h hkey)

namespace Plan

theorem sortRows_append_of_subset (h : more ⊆ keys) (rows : List Row) :
    sortRows view (keys ++ more) rows = sortRows view keys rows := by
  simp only [sortRows, SortKey.compareBy_append_of_subset h]

theorem foldl_activeKeys_secondaries (keys more : List SortKey) :
    (more.map Stage.orderSecondary).foldl Stage.activeKeys keys = keys ++ more := by
  induction more generalizing keys with
  | nil => simp
  | cons key more ih => simp [ih, Stage.activeKeys]

theorem foldl_activeKeys_freshOrder {keys : List SortKey} (h : keys ≠ []) (before : List SortKey) :
    (freshOrder keys).foldl Stage.activeKeys before = keys := by
  cases keys with
  | nil => exact absurd rfl h
  | cons key keys => exact foldl_activeKeys_secondaries [key] keys

theorem foldl_activeKeys_subset (plan : Plan) (before : List SortKey) :
    plan.foldl Stage.activeKeys before ⊆ before ++ plan.sortKeys := by
  induction plan generalizing before with
  | nil => simp [sortKeys]
  | cons stage plan ih =>
    have hstage : stage.activeKeys before ⊆ before ++ stage.key?.toList := by
      cases stage <;> simp [Stage.activeKeys, Stage.key?]
    have hkeys : sortKeys (stage :: plan) = stage.key?.toList ++ sortKeys plan := by
      rw [sortKeys, List.filterMap_cons]
      cases stage.key? <;> rfl
    rw [List.foldl_cons, hkeys, ← List.append_assoc]
    exact List.Subset.trans (ih _) (List.append_subset.2
      ⟨List.Subset.trans hstage (List.subset_append_left _ _), List.subset_append_right _ _⟩)

theorem activeKeys_eq_nil {plan : Plan} (h : ∀ stage ∈ plan, stage.isOrder = false) :
    plan.activeKeys = [] := by
  have hactive : activeKeys ([] ++ plan) = activeKeys [] := activeKeys_append h []
  rwa [List.nil_append] at hactive

theorem ordered_of_mem_activeKeys {plan : Plan} {key : SortKey} (h : key ∈ plan.activeKeys) :
    ∃ stage ∈ plan, stage.isOrder = true := by
  by_contra hnone
  simp only [not_exists, not_and, Bool.not_eq_true] at hnone
  rw [activeKeys_eq_nil hnone] at h
  cases h

/-- Keys start an ordering of their own at the end, or go behind the last ordering of the plan. -/
theorem spliceOrder_cases (plan : Plan) (ignoreExisting : Bool) :
    ((ignoreExisting = true ∨ ∀ stage ∈ plan, stage.isOrder = false) ∧
      ∀ keys, plan.spliceOrder keys ignoreExisting = plan ++ freshOrder keys) ∨
    (ignoreExisting = false ∧ ∃ front order stages, order.isOrder = true ∧
      (∀ stage ∈ stages, stage.isOrder = false) ∧ plan = front ++ [order] ++ stages) := by
  by_cases hfresh : ignoreExisting = true ∨ ∀ stage ∈ plan, stage.isOrder = false
  · refine .inl ⟨hfresh, ?_⟩
    intro keys
    rcases hfresh with rfl | hnone
    · rfl
    · simp [spliceOrder, lastOrderIndex?_eq_none_iff.2 hnone]
  · simp only [not_or, not_forall, Bool.not_eq_true, Bool.not_eq_false] at hfresh
    obtain ⟨hignore, stage, hstage, horder⟩ := hfresh
    obtain ⟨front, order, hlast, hplan⟩ := eq_append_afterOrder ⟨stage, hstage, horder⟩
    exact .inr ⟨hignore, front, order, _, hlast, fun _ => isOrder_of_mem_afterOrder, hplan⟩

/-- The keys in force after a splice are those before it, unless they are ignored, and then the new
ones. -/
theorem activeKeys_spliceOrder {plan : Plan} {ignoreExisting : Bool}
    (h : keys ≠ [] ∨ ignoreExisting = false) :
    (plan.spliceOrder keys ignoreExisting).activeKeys =
      (if ignoreExisting then [] else plan.activeKeys) ++ keys := by
  by_cases hkeys : keys = []
  · obtain rfl : ignoreExisting = false := h.resolve_left (absurd hkeys)
    rw [hkeys, spliceOrder_nil, List.append_nil]
    rfl
  · rcases spliceOrder_cases plan ignoreExisting with ⟨hfresh, hsplice⟩ |
      ⟨rfl, front, order, stages, horder, select, rfl⟩
    · have hbefore : (if ignoreExisting then [] else plan.activeKeys) = [] := by
        rcases hfresh with rfl | hnone
        · rfl
        · rw [activeKeys_eq_nil hnone]
          exact ite_self _
      rw [hsplice, hbefore, activeKeys, List.foldl_append, foldl_activeKeys_freshOrder hkeys,
        List.nil_append]
    · rw [spliceOrder_append horder select, activeKeys_append select, activeKeys_append select,
        activeKeys, List.foldl_append, foldl_activeKeys_secondaries]
      rfl

/-- Keys that are spliced in are in force afterwards. -/
theorem subset_activeKeys_spliceOrder {plan : Plan} (keys : List SortKey) (ignoreExisting : Bool) :
    keys ⊆ (plan.spliceOrder keys ignoreExisting).activeKeys := by
  by_cases hkeys : keys = []
  · rw [hkeys]
    exact List.nil_subset _
  · rw [activeKeys_spliceOrder (.inl hkeys)]
    exact List.subset_append_right _ keys

/-- Keys that are in force already make no difference behind the last ordering. -/
theorem run_spliceOrder_of_subset {plan : Plan} (ordered : ∃ stage ∈ plan, stage.isOrder = true)
    (h : more ⊆ plan.activeKeys) (rows : List Row) :
    run view (plan.spliceOrder more false) rows = run view plan rows := by
  obtain ⟨front, order, horder, hplan⟩ := eq_append_afterOrder ordered
  have hselect : ∀ stage ∈ plan.afterOrder, stage.isOrder = false :=
    fun _ => isOrder_of_mem_afterOrder
  generalize plan.afterOrder = stages at hplan hselect
  subst hplan
  have hold := @run_order_secondaries Row view front stages order horder [] hselect rows
  have hnew := @run_order_secondaries Row view front stages order horder more hselect rows
  rw [List.map_nil, List.append_nil, List.append_nil] at hold
  rw [activeKeys_append hselect] at h
  rw [spliceOrder_append horder hselect, hold, hnew, sortRows_append_of_subset h]

theorem sortRows_of_pairwise
    (h : rows.Pairwise fun a b => (rowOrder view keys a b).isLE) :
    sortRows view keys rows = rows :=
  List.mergeSort_of_pairwise h

theorem run_freshOrder (plan : Plan) (key : SortKey) (keys : List SortKey) (rows : List Row) :
    run view (plan ++ freshOrder (key :: keys)) rows =
      sortRows view (key :: keys) (run view plan rows) := by
  rw [run, List.foldl_append]
  simp [freshOrder, foldl_orderSecondary, Progress.step, Progress.sorted, run]

theorem isOrder_of_mem_filters {predicate : Option Predicate} {stage : Stage}
    (h : stage ∈ predicate.toList.map Stage.filter) : stage.isOrder = false := by
  obtain ⟨_, -, rfl⟩ := List.mem_map.1 h
  rfl

theorem run_append_filters (plan : Plan) (predicate : Option Predicate) (rows : List Row) :
    run view (plan ++ predicate.toList.map .filter) rows =
      (run view plan rows).filter fun row => predicate.all (·.evaluate (view row)) := by
  rw [run_append fun _ => isOrder_of_mem_filters]
  cases predicate with
  | none => exact (List.filter_eq_self.2 fun _ _ => rfl).symm
  | some predicate => rfl

/-- Splicing the same keys in once more makes no difference, be they put behind the existing
orderings or in their place. -/
theorem run_spliceOrder_again {plan : Plan} {predicate : Option Predicate} {ignoreExisting : Bool}
    (conforms : ∀ row ∈ rows, Conforms schema element (view row))
    (numbers : NumbersOnly view keys rows) :
    run view (spliceOrder (plan.spliceOrder keys ignoreExisting ++ predicate.toList.map .filter)
        keys ignoreExisting) rows =
      run view (plan.spliceOrder keys ignoreExisting ++ predicate.toList.map .filter) rows := by
  cases keys with
  | nil => rw [spliceOrder_nil]
  | cons key keys =>
    cases ignoreExisting with
    | false =>
      have hkeys : key :: keys ⊆
          activeKeys (plan.spliceOrder (key :: keys) false ++ predicate.toList.map .filter) := by
        rw [activeKeys_append fun _ => isOrder_of_mem_filters]
        exact subset_activeKeys_spliceOrder _ _
      have hordered := ordered_of_mem_activeKeys (hkeys List.mem_cons_self)
      exact run_spliceOrder_of_subset hordered hkeys rows
    | true =>
      have horders : Orders (rowOrder view (key :: keys)) (run view plan rows) :=
        (orders_rowOrder conforms numbers).mono fun _ hrow => (run_subperm plan rows).subset hrow
      have hordered := ((stablySorts_sortRows horders).ordered).filter
        fun row => predicate.all (·.evaluate (view row))
      have hrun : run view (plan ++ freshOrder (key :: keys) ++ predicate.toList.map .filter) rows =
          (sortRows view (key :: keys) (run view plan rows)).filter
            fun row => predicate.all (·.evaluate (view row)) := by
        rw [run_append_filters, run_freshOrder]
      change run view (plan ++ freshOrder (key :: keys) ++ predicate.toList.map .filter ++
        freshOrder (key :: keys)) rows = run view (plan ++ freshOrder (key :: keys) ++ _) rows
      rw [run_freshOrder, hrun]
      exact sortRows_of_pairwise hordered

end Plan

end RecordQuery

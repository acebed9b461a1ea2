import RecordQuery.Proofs.Outcome
import RecordQuery.Proofs.Plan.Respliced
import RecordQuery.Source

/-!
# Keys spliced in step by step

The keys of one splice end up next to each other behind the ordering that they join, so the next
splice finds its place right behind them, whatever stages come after. Splicing in two steps is
splicing once, and the keys of the second step only break the ties of those of the first.
-/

namespace RecordQuery

variable {plan front block stages : Plan} {keys more : List SortKey} {ignoreExisting : Bool}

namespace Plan

theorem isOrder_of_mem_secondaries {stage : Stage} (h : stage ∈ keys.map Stage.orderSecondary) :
    stage.isOrder = true := by
  obtain ⟨_, -, rfl⟩ := List.mem_map.1 h
  rfl

theorem isOrder_of_mem_freshOrder {stage : Stage} (h : stage ∈ freshOrder keys) :
    stage.isOrder = true := by
  cases keys with
  | nil => cases h
  | cons key keys =>
    rcases List.mem_cons.1 h with rfl | h
    · rfl
    · exact isOrder_of_mem_secondaries h

theorem freshOrder_ne_nil (h : keys ≠ []) : freshOrder keys ≠ [] := by
  cases keys with
  | nil => exact absurd rfl h
  | cons key keys => exact List.cons_ne_nil _ _

theorem freshOrder_append (h : keys ≠ []) (more : List SortKey) :
    freshOrder (keys ++ more) = freshOrder keys ++ more.map .orderSecondary := by
  cases keys with
  | nil => exact absurd rfl h
  | cons key keys => simp [freshOrder]

/-- Behind a block of orderings keys go right after the block. -/
theorem spliceOrder_block (nonempty : block ≠ []) (orders : ∀ stage ∈ block, stage.isOrder = true)
    (select : ∀ stage ∈ stages, stage.isOrder = false) (keys : List SortKey) :
    spliceOrder (front ++ block ++ stages) keys false =
      front ++ block ++ keys.map .orderSecondary ++ stages := by
  rcases List.eq_nil_or_concat block with rfl | ⟨init, last, rfl⟩
  · exact absurd rfl nonempty
  · rw [List.concat_eq_append] at orders ⊢
    have hlast : last.isOrder = true := orders last (by simp)
    have hsplice := @spliceOrder_append (front ++ init) stages last hlast select keys
    rwa [List.append_assoc front init] at hsplice

theorem spliceOrder_append_keys (h : keys ≠ [] ∨ ignoreExisting = false) (more : List SortKey) :
    (plan.spliceOrder keys ignoreExisting).spliceOrder more false =
      plan.spliceOrder (keys ++ more) ignoreExisting := by
  by_cases hkeys : keys = []
  · obtain rfl : ignoreExisting = false := h.resolve_left (absurd hkeys)
    rw [hkeys, spliceOrder_nil, List.nil_append]
  · rcases spliceOrder_cases plan ignoreExisting with ⟨-, hfresh⟩ |
      ⟨rfl, front, order, stages, horder, select, rfl⟩
    · have hblock := @spliceOrder_block plan (freshOrder keys) [] (freshOrder_ne_nil hkeys)
        (fun _ => isOrder_of_mem_freshOrder) (fun _ => nofun) more
      rw [List.append_nil, List.append_nil] at hblock
      rw [hfresh, hfresh, hblock, freshOrder_append hkeys, List.append_assoc]
    · have horders : ∀ stage ∈ order :: keys.map .orderSecondary, stage.isOrder = true :=
        List.forall_mem_cons.2 ⟨horder, fun _ => isOrder_of_mem_secondaries⟩
      have hblock := @spliceOrder_block front _ stages (List.cons_ne_nil _ _) horders select more
      rw [spliceOrder_append horder select, spliceOrder_append horder select]
      simpa using hblock

/-- Keys that are spliced in in two steps are spliced in as one list, and come into force in its
order, behind the keys that were in force if these are not ignored. -/
theorem spliceOrder_spliceOrder (h : keys ≠ [] ∨ ignoreExisting = false) (more : List SortKey) :
    (plan.spliceOrder keys ignoreExisting).spliceOrder more false =
        plan.spliceOrder (keys ++ more) ignoreExisting ∧
      ((plan.spliceOrder keys ignoreExisting).spliceOrder more false).activeKeys =
        (if ignoreExisting then [] else plan.activeKeys) ++ keys ++ more := by
  refine ⟨spliceOrder_append_keys h more, ?_⟩
  rw [activeKeys_spliceOrder (.inr rfl), activeKeys_spliceOrder h]
  rfl

def nameKey : SortKey := ⟨⟨["name"], .string, false⟩, .asc, true⟩

def captainKey : SortKey := ⟨⟨["captain", "name"], .string, true⟩, .asc, true⟩

theorem spliceOrder_oldestLed_twice :
    [nameKey] ≠ [] ∧
      (oldestLed.spliceOrder [nameKey] false).spliceOrder [captainKey] false =
        oldestLed.spliceOrder [nameKey, captainKey] false ∧
      ((oldestLed.spliceOrder [nameKey] false).spliceOrder [captainKey] false).activeKeys =
        oldestLed.activeKeys ++ [nameKey] ++ [captainKey] :=
  ⟨List.cons_ne_nil _ _, spliceOrder_spliceOrder (.inl (List.cons_ne_nil _ _)) [captainKey]⟩

end Plan

variable {schema : Schema} {source : Source} {options : QueryOptions}

theorem Source.compile_of_unfiltered (unfiltered : options.filters = []) :
    source.compile schema options =
      options.sorts.mapM
        (SortKey.compile schema source.element options.caseInsensitiveSource) >>= fun keys =>
      pure (source.plan.spliceOrder keys options.ignorePredefinedOrders) := by
  have hpredicate : options.predicate? schema source.element = .ok none := by
    rw [QueryOptions.predicate?, unfiltered]
    rfl
  rw [Source.compile, hpredicate]
  simp

/-- Sort options that are applied in two steps make the plan that all of them make together, or fail
as they fail together. -/
theorem Source.compile_append_sorts {first : List SortOption} (unfiltered : options.filters = [])
    (h : first ≠ [] ∨ options.ignorePredefinedOrders = false) (second : List SortOption) :
    source.compile schema { options with sorts := first ++ second } =
      source.compile schema { options with sorts := first } >>= fun plan =>
        Source.compile schema { source with plan }
          { options with sorts := second, ignorePredefinedOrders := false } := by
  simp only [Source.compile_of_unfiltered, unfiltered, List.mapM_append, bind_assoc, pure_bind]
  cases hkeys : first.mapM
      (SortKey.compile schema source.element options.caseInsensitiveSource) with
  | error cause => rfl
  | ok keys =>
    have hkept : keys ≠ [] ∨ options.ignorePredefinedOrders = false := by
      refine h.imp_left fun hfirst => ?_
      rintro rfl
      exact hfirst (eq_nil_of_mapM_eq_ok_nil hkeys)
    simp only [ok_bind, Plan.spliceOrder_append_keys hkept]

end RecordQuery

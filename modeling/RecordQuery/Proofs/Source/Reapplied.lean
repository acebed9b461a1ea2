import RecordQuery.Proofs.Plan.Respliced
import RecordQuery.Proofs.Source.Paged

/-!
# Options applied again

Options without a page change nothing when they are applied to what they gave: the rows that they
leave out are left out already, and the keys that they splice in are there already.
-/

namespace RecordQuery

open Plan

variable {Row : Type} {schema : Schema} {options : QueryOptions}

/-- What compiles is spliced into the plan and put behind it. -/
theorem Source.compile_eq_ok {source : Source} {plan : Plan}
    (h : source.compile schema options = .ok plan) :
    ∃ predicate keys, options.predicate? schema source.element = .ok predicate ∧
      options.sorts.mapM (SortKey.compile schema source.element options.caseInsensitiveSource) =
        .ok keys ∧
      plan = source.plan.spliceOrder keys options.ignorePredefinedOrders ++
        predicate.toList.map .filter := by
  obtain ⟨predicate, hpredicate, h⟩ := bind_eq_ok_iff.1 h
  obtain ⟨keys, hkeys, h⟩ := bind_eq_ok_iff.1 h
  exact ⟨predicate, keys, hpredicate, hkeys, (Except.ok.inj h).symm⟩

namespace Query

/-- Options without a page apply to what they gave, and give it again. -/
theorem toList_apply_again {query base : Query Row} {after : QueryOptions}
    (unpaged : options.page = none) (h : query.apply schema options = .ok base after)
    (conforms : ∀ row ∈ query.rows, Conforms schema query.element (query.view row))
    (numbers : NumbersOnly query.view base.plan.sortKeys query.rows) :
    ∃ again, base.apply schema options = .ok again options ∧ again.toList = base.toList := by
  obtain ⟨plan, hcompile, rfl⟩ := compile_of_apply unpaged h
  obtain ⟨predicate, keys, hpredicate, hkeys, rfl⟩ := Source.compile_eq_ok hcompile
  refine ⟨_, apply_of_compile unpaged hpredicate hkeys, ?_⟩
  have hnumbers : NumbersOnly query.view keys query.rows := by
    intro key hkey
    apply numbers key
    apply foldl_activeKeys_subset _ []
    change key ∈ activeKeys (_ ++ _)
    rw [activeKeys_append fun _ => isOrder_of_mem_filters]
    exact subset_activeKeys_spliceOrder keys _ hkey
  have hfilter : ∀ row, (predicate.all (·.evaluate (query.view row)) &&
      predicate.all (·.evaluate (query.view row))) = predicate.all (·.evaluate (query.view row)) :=
    fun _ => Bool.and_self _
  simp only [toList]
  rw [run_append_filters, run_spliceOrder_again conforms hnumbers]
  simp only [run_append_filters, List.filter_filter, hfilter]

/-- In place of the order by name, which the first three players were found by. -/
def grownPlayersAfresh : QueryOptions := { grownPlayers with ignorePredefinedOrders := true }

theorem toList_apply_grownPlayersAfresh_again :
    ∃ base again, firstPlayers.apply .players grownPlayersAfresh = .ok base grownPlayersAfresh ∧
      base.apply .players grownPlayersAfresh = .ok again grownPlayersAfresh ∧
      again.toList = base.toList := by
  have hpredicate : grownPlayersAfresh.predicate? .players firstPlayers.element =
      .ok (some (.comparison ⟨["age"], .optional .int, true⟩ .ge (.number (.int 18)) false)) := by
    rw [QueryOptions.predicate?, grownPlayersAfresh, grownPlayers, compileFilters,
      Filter.compile.eq_def]
    rfl
  have hbase : firstPlayers.apply .players grownPlayersAfresh = .ok _ grownPlayersAfresh :=
    apply_of_compile rfl hpredicate rfl
  obtain ⟨again, happly, hrows⟩ := toList_apply_again rfl hbase conforms_squad (by
    unfold NumbersOnly
    decide)
  exact ⟨_, again, hbase, happly, hrows⟩

end Query

end RecordQuery

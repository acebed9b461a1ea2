import RecordQuery.Proofs.Source.Unpaged

/-!
# Options with a page

A page is cut out of what the same options give without it, whatever plan the rows had before. The
stages of a page stand behind all others, so they select from the finished result, and the count is
taken of the plan before them.
-/

namespace RecordQuery

open Plan

variable {Row : Type} {view : Row → Value} {schema : Schema} {options : QueryOptions}

namespace Page

/-- The rows that a page shows. Offsets below zero drop nothing, counts below one keep all. -/
def slice (page : Page) (rows : List Row) : List Row :=
  let rest := rows.drop (max page.offset.toInt 0).toNat
  if 0 < page.count.toInt then rest.take page.count.toInt.toNat else rest

/-- The data-set count after a page was cut out of some rows. -/
def counted (page : Page) (rows : List Row) : UInt64 :=
  if page.assignDataSetCount then UInt64.ofNat rows.length else page.dataSetCount

theorem isOrder_of_mem_stages {page : Page} {stage : Stage} (h : stage ∈ page.stages) :
    stage.isOrder = false := by
  unfold stages at h
  rcases List.mem_append.1 h with hskip | htake
  · split at hskip
    · rw [List.mem_singleton.1 hskip]
      rfl
    · cases hskip
  · split at htake
    · rw [List.mem_singleton.1 htake]
      rfl
    · cases htake

theorem foldl_stages (page : Page) (rows : List Row) :
    page.stages.foldl (Stage.select view) rows = page.slice rows := by
  have hoffset : (if 0 < page.offset then [Stage.skip page.offset.toInt.toNat] else []).foldl
      (Stage.select view) rows = rows.drop (max page.offset.toInt 0).toNat := by
    split
    · next hpos =>
      have hpos : 0 < page.offset.toInt := Int64.lt_iff_toInt_lt.1 hpos
      rw [Int.max_eq_left (Int.le_of_lt hpos)]
      rfl
    · next hneg =>
      have hneg : page.offset.toInt ≤ 0 := Int.not_lt.1 fun h => hneg (Int64.lt_iff_toInt_lt.2 h)
      rw [Int.max_eq_right hneg]
      rfl
  rw [stages, List.foldl_append, hoffset, slice]
  by_cases hcount : 0 < page.count
  · have htoInt : 0 < page.count.toInt := Int64.lt_iff_toInt_lt.1 hcount
    rw [if_pos hcount, if_pos htoInt]
    rfl
  · have htoInt : ¬ 0 < page.count.toInt := fun h => hcount (Int64.lt_iff_toInt_lt.2 h)
    rw [if_neg hcount, if_neg htoInt]
    rfl

end Page

theorem Plan.run_append_page (plan : Plan) (page : Page) (rows : List Row) :
    run view (plan ++ page.stages) rows = page.slice (run view plan rows) := by
  rw [run_append fun _ => Page.isOrder_of_mem_stages, Page.foldl_stages]

namespace Query

theorem apply_eq (query : Query Row) (options : QueryOptions) :
    query.apply schema options =
      match query.source.applySteps schema options with
      | .ok (source, after) => .ok { query with plan := source.plan } after
      | .error cause => .error (.pipeline options.queryText cause) options := by
  simp only [Query.apply, bind, EStateM.bind, Source.apply]
  cases query.source.applySteps schema options <;> rfl

theorem compile_of_apply {query base : Query Row} {after : QueryOptions}
    (unpaged : options.page = none) (h : query.apply schema options = .ok base after) :
    ∃ plan, query.source.compile schema options = .ok plan ∧ base = { query with plan } := by
  rw [apply_eq, Source.applySteps] at h
  cases hcompile : query.source.compile schema options with
  | error cause =>
    rw [hcompile] at h
    cases h
  | ok plan =>
    simp only [hcompile, unpaged] at h
    cases h
    exact ⟨plan, rfl, rfl⟩

theorem apply_paged {query : Query Row} {plan : Plan} {page : Page} (paged : options.page = some page)
    (hcompile : query.source.compile schema options = .ok plan) :
    query.apply schema options = .ok { query with plan := plan ++ page.stages }
      { options with
        page := some { page with
          dataSetCount := page.counted (run query.view plan query.rows) } } := by
  have hcount : query.source.dataSetCount plan page =
      .ok (page.counted (run query.view plan query.rows)) := by
    unfold Source.dataSetCount Page.counted
    split <;> rfl
  simp only [apply_eq, Source.applySteps, hcompile, paged, hcount]

/-- With a page the same options apply too. They show its slice of the rows that they give without
it, and write down how many those are if that was asked for. The rows of a list in memory are fewer
than `UInt64.size`, so their number is not cut off. -/
theorem toList_apply_page {query base : Query Row} {after : QueryOptions} (page : Page)
    (h : query.apply schema { options with page := none } = .ok base after) :
    ∃ applied dataSetCount,
      query.apply schema { options with page := some page } =
        .ok applied { options with page := some { page with dataSetCount } } ∧
      applied.toList = page.slice base.toList ∧
      (page.assignDataSetCount = false → dataSetCount = page.dataSetCount) ∧
      (page.assignDataSetCount = true → dataSetCount = UInt64.ofNat base.toList.length ∧
        (query.rows.length < UInt64.size → dataSetCount.toNat = base.toList.length)) := by
  obtain ⟨plan, hcompile, rfl⟩ := compile_of_apply rfl h
  refine ⟨_, _, apply_paged rfl hcompile, run_append_page plan page query.rows, ?_, ?_⟩
  · intro hkeep
    rw [Page.counted, hkeep]
    rfl
  · intro hassign
    rw [Page.counted, if_pos hassign]
    refine ⟨rfl, ?_⟩
    intro hfits
    exact UInt64.toNat_ofNat_of_lt' (Nat.lt_of_le_of_lt (run_subperm plan query.rows).length_le hfits)

/-- The three players first by name. -/
def firstPlayers : Query Value where
  element := .record "Player"
  view := id
  rows := squad
  plan := [.orderPrimary ⟨⟨["name"], .string, false⟩, .asc, true⟩, .take 3]

/-- The second of the grown players among the three, and how many of them are grown. -/
theorem toList_apply_second_grownPlayer :
    ∃ base applied dataSetCount,
      firstPlayers.apply .players { grownPlayers with page := none } = .ok base grownPlayers ∧
      firstPlayers.apply .players { grownPlayers with
          page := some { offset := 1, count := 1, assignDataSetCount := true } } =
        .ok applied { grownPlayers with
          page := some { offset := 1, count := 1, assignDataSetCount := true, dataSetCount } } ∧
      applied.toList = Page.slice { offset := 1, count := 1, assignDataSetCount := true }
        base.toList ∧
      dataSetCount.toNat = base.toList.length := by
  have hpredicate : grownPlayers.predicate? .players firstPlayers.element =
      .ok (some (.comparison ⟨["age"], .optional .int, true⟩ .ge (.number (.int 18)) false)) := by
    rw [QueryOptions.predicate?, grownPlayers, compileFilters, Filter.compile.eq_def]
    rfl
  have hbase : firstPlayers.apply .players { grownPlayers with page := none } =
      .ok _ grownPlayers := apply_of_compile rfl hpredicate rfl
  obtain ⟨applied, dataSetCount, happly, hrows, -, hcount⟩ :=
    @toList_apply_page Value .players grownPlayers firstPlayers _ grownPlayers
      { offset := 1, count := 1, assignDataSetCount := true } hbase
  exact ⟨_, applied, dataSetCount, hbase, happly, hrows, (hcount rfl).2 (by decide)⟩

end Query

end RecordQuery

import RecordQuery.Proofs.Predicate.Joined
import RecordQuery.Source

/-!
# Options that do not apply

Applying options does all of it or nothing. It fails by the first of its failures, in the order of
the filters, then of the sort options, then counting, and leaves the options as they were. Where it
succeeds it writes one number at most, and the plan it makes does not depend on what the source
holds.
-/

namespace RecordQuery

variable {schema : Schema} {rules : TextRules} {root : FieldType} {options after : QueryOptions}

namespace Source

variable {source : Source} {cause : QueryError}

theorem compile_eq_error_iff {cause : CompileError} :
    source.compile schema options = .error cause ↔
      FirstFails (Filter.compile schema options.textRules source.element) options.filters cause ∨
        (∀ filter ∈ options.filters, ∃ predicate,
          Filter.compile schema options.textRules source.element filter = .ok predicate) ∧
        FirstFails (SortKey.compile schema source.element options.caseInsensitiveSource)
          options.sorts cause := by
  rw [compile, bind_eq_error_iff, QueryOptions.predicate?, compileFilters_eq_error_iff]
  refine or_congr_right ?_
  rw [← exists_compileFilters_iff]
  constructor
  · rintro ⟨predicate, hpredicate, h⟩
    rcases bind_eq_error_iff.1 h with hkeys | ⟨_, -, h⟩
    · exact ⟨⟨predicate, hpredicate⟩, mapM_eq_error_iff.1 hkeys⟩
    · cases h
  · rintro ⟨⟨predicate, hpredicate⟩, hkeys⟩
    exact ⟨predicate, hpredicate, bind_eq_error_iff.2 (.inl (mapM_eq_error_iff.2 hkeys))⟩

/-- What fails first when options are applied: a filter, or a sort option after all filters, or
counting what the whole plan leaves, if the page asks for that. -/
inductive FirstFailure (schema : Schema) (source : Source) (options : QueryOptions) :
    QueryError → Prop
  | filter {cause : CompileError}
    (fails : FirstFails (Filter.compile schema options.textRules source.element) options.filters
      cause) : FirstFailure schema source options (.compile cause)
  | sort {cause : CompileError}
    (filters : ∀ filter ∈ options.filters, ∃ predicate,
      Filter.compile schema options.textRules source.element filter = .ok predicate)
    (fails : FirstFails (SortKey.compile schema source.element options.caseInsensitiveSource)
      options.sorts cause) : FirstFailure schema source options (.compile cause)
  | count {plan : Plan} {page : Page} {cause : QueryError}
    (compiled : source.compile schema options = .ok plan) (paged : options.page = some page)
    (asked : page.assignDataSetCount = true) (fails : source.count plan = .error cause) :
    FirstFailure schema source options cause

theorem dataSetCount_eq_error_iff {plan : Plan} {page : Page} :
    source.dataSetCount plan page = .error cause ↔
      page.assignDataSetCount = true ∧ source.count plan = .error cause := by
  unfold dataSetCount
  cases page.assignDataSetCount with
  | true =>
    rw [if_pos rfl]
    cases source.count plan <;> simp [Functor.map, Except.map]
  | false => simp [pure, Except.pure]

theorem applySteps_eq_error_iff :
    source.applySteps schema options = .error cause ↔ source.FirstFailure schema options cause := by
  unfold applySteps
  cases hcompile : source.compile schema options with
  | error compileCause =>
    constructor
    · intro h
      obtain rfl := Except.error.inj h
      rcases compile_eq_error_iff.1 hcompile with hfails | ⟨hfilters, hfails⟩
      · exact .filter hfails
      · exact .sort hfilters hfails
    · intro h
      refine congrArg Except.error ?_
      cases h with
      | filter fails =>
        have h := hcompile.symm.trans (compile_eq_error_iff.2 (.inl fails))
        rw [Except.error.inj h]
      | sort filters fails =>
        have h := hcompile.symm.trans (compile_eq_error_iff.2 (.inr ⟨filters, fails⟩))
        rw [Except.error.inj h]
      | count compiled => cases hcompile.symm.trans compiled
  | ok plan =>
    have hcounts : source.FirstFailure schema options cause ↔ ∃ page, options.page = some page ∧
        source.dataSetCount plan page = .error cause := by
      constructor
      · intro h
        cases h with
        | filter fails =>
          cases hcompile.symm.trans (compile_eq_error_iff.2 (.inl fails))
        | sort filters fails =>
          cases hcompile.symm.trans (compile_eq_error_iff.2 (.inr ⟨filters, fails⟩))
        | count compiled paged asked fails =>
          obtain rfl := Except.ok.inj (hcompile.symm.trans compiled)
          exact ⟨_, paged, dataSetCount_eq_error_iff.2 ⟨asked, fails⟩⟩
      · rintro ⟨page, paged, h⟩
        obtain ⟨asked, fails⟩ := dataSetCount_eq_error_iff.1 h
        exact .count hcompile paged asked fails
    rw [hcounts]
    dsimp only
    cases options.page with
    | none => simp
    | some page => cases hcount : source.dataSetCount plan page <;> simp [hcount]

theorem apply_eq_error_iff {e : QueryError} :
    source.apply schema options = .error e after ↔
      after = options ∧ ∃ cause, source.FirstFailure schema options cause ∧
        e = .pipeline options.queryText cause := by
  simp only [← applySteps_eq_error_iff]
  unfold apply
  cases source.applySteps schema options with
  | error cause => simp [eq_comm, and_comm]
  | ok result => simp

end Source

/-- The options are the same, but for the data-set count of a page that asks for it. -/
def QueryOptions.Recounted (before after : QueryOptions) : Prop :=
  after = before ∨ ∃ page dataSetCount, before.page = some page ∧ page.assignDataSetCount = true ∧
    after = { before with page := some { page with dataSetCount } }

namespace Source

variable {source applied : Source}

theorem compile_congr {other : Source} (element : other.element = source.element)
    (plan : other.plan = source.plan) :
    other.compile schema options = source.compile schema options := by
  unfold compile
  rw [element, plan]

theorem recounted_of_dataSetCount {plan : Plan} {page : Page} {dataSetCount : UInt64}
    (paged : options.page = some page) (h : source.dataSetCount plan page = .ok dataSetCount) :
    options.Recounted { options with page := some { page with dataSetCount } } := by
  by_cases asked : page.assignDataSetCount = true
  · exact .inr ⟨page, dataSetCount, paged, asked, rfl⟩
  · left
    rw [Source.dataSetCount, if_neg asked] at h
    obtain rfl := Except.ok.inj h
    obtain ⟨_, _, _, _, _, _, _⟩ := options
    dsimp only at paged
    rw [paged]

/-- The page is cut out behind what the options compile to; the number of elements is written if it
was asked for. -/
theorem apply_eq_ok (h : source.apply schema options = .ok applied after) :
    ∃ plan, source.compile schema options = .ok plan ∧
      applied = { source with plan := plan ++ options.page.elim [] Page.stages } ∧
      options.Recounted after := by
  unfold apply applySteps at h
  cases hcompile : source.compile schema options with
  | error cause => simp [hcompile] at h
  | ok plan =>
    rw [hcompile] at h
    dsimp only at h
    cases hpage : options.page with
    | none =>
      rw [hpage] at h
      obtain ⟨rfl, rfl⟩ := EStateM.Result.ok.inj h
      exact ⟨plan, rfl, by simp, .inl rfl⟩
    | some page =>
      rw [hpage] at h
      dsimp only at h
      cases hcount : source.dataSetCount plan page with
      | error cause => simp [hcount] at h
      | ok dataSetCount =>
        rw [hcount] at h
        obtain ⟨rfl, rfl⟩ := EStateM.Result.ok.inj h
        exact ⟨plan, rfl, rfl, recounted_of_dataSetCount hpage hcount⟩

/-- Options apply or are left as they were. -/
theorem apply_outcome (schema : Schema) (source : Source) (options : QueryOptions) :
    (∀ e after, source.apply schema options = .error e after ↔
      after = options ∧ ∃ cause, source.FirstFailure schema options cause ∧
        e = .pipeline options.queryText cause) ∧
    ∀ applied after, source.apply schema options = .ok applied after →
      options.Recounted after ∧ applied = { source with plan := applied.plan } ∧
      ∀ other : Source, other.element = source.element → other.plan = source.plan →
        ∀ otherApplied otherAfter, other.apply schema options = .ok otherApplied otherAfter →
          otherApplied.plan = applied.plan := by
  refine ⟨fun _ _ => apply_eq_error_iff, ?_⟩
  intro applied after happly
  obtain ⟨plan, hcompile, rfl, hafter⟩ := apply_eq_ok happly
  refine ⟨hafter, rfl, ?_⟩
  intro other element samePlan otherApplied otherAfter hother
  obtain ⟨otherPlan, hotherCompile, rfl, -⟩ := apply_eq_ok hother
  rw [compile_congr element samePlan, hcompile] at hotherCompile
  obtain rfl := Except.ok.inj hotherCompile
  rfl

/-- Cannot be reached, so that it cannot be counted either. -/
def offline : Source where
  element := .record "Player"
  plan := []
  count _ := .error (.source "connection refused")

/-- Players have no height and no weight. -/
def byHeight : QueryOptions where
  sorts := [{ property := "name" }, { property := "height" }, { property := "weight" }]
  page := some { count := 10, assignDataSetCount := true }
  sourceText := some "s=name&s=height&s=weight&offset=0&count=10"

theorem apply_offline_byHeight :
    offline.FirstFailure .players byHeight
        (.compile (.unknownMember "height" (.record "Player"))) ∧
      offline.apply .players byHeight = .error (.pipeline byHeight.queryText
        (.compile (.unknownMember "height" (.record "Player")))) byHeight := by
  have hfails : offline.FirstFailure .players byHeight
      (.compile (.unknownMember "height" (.record "Player"))) := by
    refine .sort nofun ⟨[{ property := "name" }], { property := "height" }, _, rfl, ?_, rfl⟩
    exact List.forall_mem_singleton.2 ⟨_, rfl⟩
  exact ⟨hfails, ((apply_outcome .players offline byHeight).1 _ _).2 ⟨rfl, _, hfails, rfl⟩⟩

end Source

end RecordQuery

import RecordQuery.Predicate.Compile
import RecordQuery.Proofs.Conformance
import RecordQuery.SortKey

/-!
# Case flags

`unflagged` takes the case flags off all filters, in nested queries too, and off all sort options.
Where the source ignores case already the flags are not looked at: options compile as they do
without them, so two that differ in their flags only compile to the same predicate and the same keys.
-/

namespace RecordQuery

variable {schema : Schema} {root : FieldType} {rules : TextRules} {options others : QueryOptions}

def SortOption.unflagged (sort : SortOption) : SortOption := { sort with caseSensitive := false }

mutual

def FilterValue.unflagged : FilterValue QueryOptions → FilterValue QueryOptions
  | .literal text => .literal text
  | .nested query => .nested query.unflagged

def FilterOf.unflagged : FilterOf QueryOptions → FilterOf QueryOptions
  | ⟨property, value, operation, _, connective⟩ =>
    ⟨property, value.unflagged, operation, false, connective⟩

def filtersUnflagged : List (FilterOf QueryOptions) → List (FilterOf QueryOptions)
  | [] => []
  | filter :: filters => filter.unflagged :: filtersUnflagged filters

/-- The options without any case flag, otherwise the same. -/
def QueryOptions.unflagged : QueryOptions → QueryOptions
  | ⟨filters, sorts, page, caseInsensitiveSource, ignorePredefinedOrders, nullIsString,
      sourceText⟩ =>
    ⟨filtersUnflagged filters, sorts.map SortOption.unflagged, page, caseInsensitiveSource,
      ignorePredefinedOrders, nullIsString, sourceText⟩

end

@[simp] theorem filtersUnflagged_eq_map (filters : List Filter) :
    filtersUnflagged filters = filters.map FilterOf.unflagged := by
  induction filters with
  | nil => rfl
  | cons filter filters ih => rw [filtersUnflagged, ih, List.map_cons]

@[simp] theorem FilterOf.unflagged_connective (filter : Filter) :
    filter.unflagged.connective = filter.connective := by
  cases filter
  rw [FilterOf.unflagged]

namespace QueryOptions

@[simp] theorem unflagged_filters (options : QueryOptions) :
    options.unflagged.filters = options.filters.map FilterOf.unflagged := by
  cases options
  rw [unflagged, filtersUnflagged_eq_map]

@[simp] theorem unflagged_sorts (options : QueryOptions) :
    options.unflagged.sorts = options.sorts.map SortOption.unflagged := by
  cases options
  rw [unflagged]

@[simp] theorem unflagged_textRules (options : QueryOptions) :
    options.unflagged.textRules = options.textRules := by
  cases options
  rw [unflagged, textRules, textRules]

@[simp] theorem unflagged_caseInsensitiveSource (options : QueryOptions) :
    options.unflagged.caseInsensitiveSource = options.caseInsensitiveSource := by
  cases options
  rw [unflagged]

end QueryOptions

theorem compileScalar_of_source (source : rules.caseInsensitiveSource = true) (member : MemberPath)
    (property : String) (operation : Operation) (caseSensitive other : Bool) (literal : String) :
    compileScalar rules member property operation caseSensitive literal =
      compileScalar rules member property operation other literal := by
  simp only [compileScalar, source, Bool.true_or]

theorem Filter.compile_unflagged (source : rules.caseInsensitiveSource = true) (filter : Filter) :
    Filter.compile schema rules root filter.unflagged = Filter.compile schema rules root filter := by
  induction root, filter using Filter.compile.induct with
  | case1 root property value operation caseSensitive connective ih =>
    rw [FilterOf.unflagged, Filter.compile, Filter.compile]
    refine congrArg (_ >>= ·) (funext fun member => ?_)
    rcases value with literal | ⟨_ | ⟨first, rest⟩, _⟩
    · rw [FilterValue.unflagged]
      dsimp only
      rw [compileScalar_of_source source member property operation false caseSensitive]
    · rfl
    · -- the rules of the whole query go for nested ones too, whatever these say of the source
      rw [FilterValue.unflagged, QueryOptions.unflagged, filtersUnflagged]
      dsimp only
      cases member.type.element? with
      | none => rfl
      | some element => simp only [ih element]

theorem compileFilters_unflagged (source : rules.caseInsensitiveSource = true)
    (filters : List Filter) :
    compileFilters schema rules root (filters.map FilterOf.unflagged) =
      compileFilters schema rules root filters := by
  cases filters with
  | nil => rfl
  | cons first rest =>
    simp only [List.map_cons, compileFilters, List.foldlM_map, Filter.compile_unflagged source,
      FilterOf.unflagged_connective]

theorem SortKey.compile_unflagged (sort : SortOption) :
    SortKey.compile schema root true sort.unflagged = SortKey.compile schema root true sort := by
  simp only [compile, SortOption.unflagged, Bool.true_or]

namespace QueryOptions

theorem predicate?_unflagged (source : options.caseInsensitiveSource = true) :
    options.unflagged.predicate? schema root = options.predicate? schema root := by
  have hrules : options.textRules.caseInsensitiveSource = true := source
  rw [predicate?, unflagged_filters, unflagged_textRules, compileFilters_unflagged hrules,
    predicate?]

theorem mapM_compile_unflagged (source : options.caseInsensitiveSource = true) :
    options.unflagged.sorts.mapM
        (SortKey.compile schema root options.unflagged.caseInsensitiveSource) =
      options.sorts.mapM (SortKey.compile schema root options.caseInsensitiveSource) := by
  rw [unflagged_sorts, unflagged_caseInsensitiveSource, source, List.mapM_map]
  simp only [Function.comp_def, SortKey.compile_unflagged]

/-- On a source that ignores case, options that differ in their case flags only compile to the same
predicate and the same keys, or fail for the same reason. -/
theorem compile_eq_of_unflagged_eq (source : options.caseInsensitiveSource = true)
    (same : options.unflagged = others.unflagged) (schema : Schema) (root : FieldType) :
    options.predicate? schema root = others.predicate? schema root ∧
      options.sorts.mapM (SortKey.compile schema root options.caseInsensitiveSource) =
        others.sorts.mapM (SortKey.compile schema root others.caseInsensitiveSource) := by
  have otherSource : others.caseInsensitiveSource = true := by
    rw [← unflagged_caseInsensitiveSource, ← same, unflagged_caseInsensitiveSource, source]
  constructor
  · rw [← predicate?_unflagged source, same, predicate?_unflagged otherSource]
  · rw [← mapM_compile_unflagged source, same, mapM_compile_unflagged otherSource]

/-- Players with a score of 18 whose captain is called Ada, by their names. -/
def captainedByAda (caseSensitive : Bool) : QueryOptions where
  filters :=
    [{ property := "scores", operation := .any, caseSensitive, value := .nested { filters :=
        [{ property := "_", value := .literal "18", operation := .equals, caseSensitive }] } },
      { property := "captain.name", value := .literal "Ada", operation := .startsWith,
        caseSensitive }]
  sorts := [{ property := "name", caseSensitive }]
  caseInsensitiveSource := true

theorem compile_eq_captainedByAda :
    (captainedByAda true).unflagged = (captainedByAda false).unflagged ∧
      (captainedByAda true).predicate? .players (.record "Player") =
        (captainedByAda false).predicate? .players (.record "Player") ∧
      (captainedByAda true).sorts.mapM (SortKey.compile .players (.record "Player") true) =
        (captainedByAda false).sorts.mapM (SortKey.compile .players (.record "Player") true) := by
  have same : (captainedByAda true).unflagged = (captainedByAda false).unflagged := by
    simp [captainedByAda, unflagged, FilterOf.unflagged, FilterValue.unflagged,
      SortOption.unflagged]
  exact ⟨same, compile_eq_of_unflagged_eq rfl same .players (.record "Player")⟩

end QueryOptions

end RecordQuery

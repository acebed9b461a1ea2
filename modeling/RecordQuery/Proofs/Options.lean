import RecordQuery.Options

/-!
# Options up to the texts they were read from

`withoutSource` drops the texts that a query and the queries nested in it were read from. Two
queries that are equal without them ask for the same.
-/

namespace RecordQuery

mutual

def FilterValue.withoutSource : FilterValue QueryOptions → FilterValue QueryOptions
  | .literal text => .literal text
  | .nested query => .nested query.withoutSource

def FilterOf.withoutSource : FilterOf QueryOptions → FilterOf QueryOptions
  | ⟨property, value, operation, caseSensitive, connective⟩ =>
    ⟨property, value.withoutSource, operation, caseSensitive, connective⟩

def filtersWithoutSource : List (FilterOf QueryOptions) → List (FilterOf QueryOptions)
  | [] => []
  | filter :: filters => filter.withoutSource :: filtersWithoutSource filters

def QueryOptions.withoutSource : QueryOptions → QueryOptions
  | ⟨filters, sorts, page, caseInsensitiveSource, ignorePredefinedOrders, nullIsString, _⟩ =>
    ⟨filtersWithoutSource filters, sorts, page, caseInsensitiveSource, ignorePredefinedOrders,
      nullIsString, none⟩

end

@[simp] theorem filtersWithoutSource_eq_map (filters : List Filter) :
    filtersWithoutSource filters = filters.map FilterOf.withoutSource := by
  induction filters with
  | nil => rfl
  | cons filter filters ih => rw [filtersWithoutSource, ih, List.map_cons]

end RecordQuery

import RecordQuery.Error

/-!
# Options up to the case of names

`caseless` writes the property names of options in lower case, in nested queries too, and drops the
texts that they were read from. An error is told apart by its kind only: the rest of it quotes names
and texts.
-/

namespace RecordQuery

inductive CompileErrorKind
  | missingProperty | unknownMember | coercion | nullOnNonOptional | operatorTypeMismatch
  | notACollection | missingNestedQuery | unexpectedNestedQuery
deriving DecidableEq

inductive ErrorKind
  | invalidQuery | tripletMismatch | operationNotSupported
  | compile (kind : CompileErrorKind)
  | pipeline (cause : ErrorKind)
  | maximumResultSetExceeded | config | source
deriving DecidableEq

/-- A sort option on a member without an order has the failure of an operator. -/
def CompileError.kind : CompileError → CompileErrorKind
  | missingProperty => .missingProperty
  | unknownMember .. => .unknownMember
  | coercion .. => .coercion
  | nullOnNonOptional .. => .nullOnNonOptional
  | operatorTypeMismatch .. | notOrdered .. => .operatorTypeMismatch
  | notACollection .. => .notACollection
  | missingNestedQuery .. => .missingNestedQuery
  | unexpectedNestedQuery .. => .unexpectedNestedQuery

def QueryError.kind : QueryError → ErrorKind
  | invalidQuery .. => .invalidQuery
  | tripletMismatch .. => .tripletMismatch
  | operationNotSupported .. => .operationNotSupported
  | compile error => .compile error.kind
  | pipeline _ cause => .pipeline cause.kind
  | maximumResultSetExceeded .. => .maximumResultSetExceeded
  | config _ => .config
  | source _ => .source

def SortOption.caseless (sort : SortOption) : SortOption :=
  { sort with property := sort.property.toLower }

mutual

def FilterValue.caseless : FilterValue QueryOptions → FilterValue QueryOptions
  | .literal text => .literal text
  | .nested query => .nested query.caseless

def FilterOf.caseless : FilterOf QueryOptions → FilterOf QueryOptions
  | ⟨property, value, operation, caseSensitive, connective⟩ =>
    ⟨property.toLower, value.caseless, operation, caseSensitive, connective⟩

def filtersCaseless : List (FilterOf QueryOptions) → List (FilterOf QueryOptions)
  | [] => []
  | filter :: filters => filter.caseless :: filtersCaseless filters

/-- The options with all names in lower case, whatever text they come from. -/
def QueryOptions.caseless : QueryOptions → QueryOptions
  | ⟨filters, sorts, page, caseInsensitiveSource, ignorePredefinedOrders, nullIsString, _⟩ =>
    ⟨filtersCaseless filters, sorts.map SortOption.caseless, page, caseInsensitiveSource,
      ignorePredefinedOrders, nullIsString, none⟩

end

@[simp] theorem filtersCaseless_eq_map (filters : List Filter) :
    filtersCaseless filters = filters.map FilterOf.caseless := by
  induction filters with
  | nil => rfl
  | cons filter filters ih => rw [filtersCaseless, ih, List.map_cons]

end RecordQuery

import RecordQuery.Document.Basic
import RecordQuery.Options

/-!
# Options as documents

The document form of query options. Reading takes back what `toDocument` writes, except that a page
never asks for the data set count. A literal is a string and a nested query a record, so neither can
be taken for the other.
-/

namespace RecordQuery

open Document

def Direction.caseName : Direction → String
  | asc => "Asc"
  | desc => "Desc"

def Direction.ofDocument? (document : Document) : Option Direction :=
  document.caseName?.bind fun name => [Direction.asc, .desc].find? (·.caseName == name)

/-- The operation of exactly that name. -/
def Operation.ofCaseName? (name : String) : Option Operation := catalog.find? (·.name == name)

def Operation.ofDocument? (document : Document) : Option Operation :=
  document.caseName?.bind ofCaseName?

def Connective.ofDocument? (document : Document) : Option Connective :=
  document.caseName?.bind fun name => catalog.find? (·.name == name)

namespace SortOption

def toDocument (sort : SortOption) : Document :=
  .record [("property_name", .string sort.property),
    ("direction", .string sort.direction.caseName),
    ("case_sensitive", .bool sort.caseSensitive)]

def ofDocument? (document : Document) : Option SortOption := do
  let field ← document.fields? ["property_name", "direction", "case_sensitive"]
  some {
    property := ← required? field "property_name" string?
    direction := ← defaulted? field "direction" .asc Direction.ofDocument?
    caseSensitive := ← defaulted? field "case_sensitive" false bool? }

end SortOption

namespace Page

def toDocument (page : Page) : Document :=
  .record [("count", .integer page.count.toInt), ("offset", .integer page.offset.toInt),
    ("data_set_count", .integer page.dataSetCount.toNat)]

def ofDocument? (document : Document) : Option Page := do
  let field ← document.fields? ["count", "offset", "data_set_count"]
  some {
    count := ← required? field "count" int64?
    offset := ← required? field "offset" int64?
    dataSetCount := ← defaulted? field "data_set_count" 0 uint64? }

end Page

def sourceTextEntry : Option String → List (String × Document)
  | none => []
  | some text => [("source_text", .string text)]

mutual

def FilterValue.toDocument : FilterValue QueryOptions → Document
  | .literal text => .string text
  | .nested query => query.toDocument

def FilterOf.toDocument : FilterOf QueryOptions → Document
  | ⟨property, value, operation, caseSensitive, connective⟩ =>
    .record [("property_name", .string property), ("value", value.toDocument),
      ("operator", .string operation.name), ("case_sensitive", .bool caseSensitive),
      ("logical_operator", .string connective.name)]

def filtersToDocuments : List (FilterOf QueryOptions) → List Document
  | [] => []
  | filter :: filters => filter.toDocument :: filtersToDocuments filters

def QueryOptions.toDocument : QueryOptions → Document
  | ⟨filters, sorts, page, caseInsensitiveSource, ignorePredefinedOrders, nullIsString, source⟩ =>
    .record ([("filters", .list (filtersToDocuments filters)),
      ("sort_options", .list (sorts.map SortOption.toDocument)),
      ("pagination", page.elim .null Page.toDocument),
      ("uses_case_insensitive_source", .bool caseInsensitiveSource),
      ("ignore_predefined_orders", .bool ignorePredefinedOrders),
      ("is_null_value_string", .bool nullIsString)] ++ sourceTextEntry source)

end

def filterFields : List String :=
  ["property_name", "value", "operator", "case_sensitive", "logical_operator"]

def optionsFields : List String :=
  ["filters", "sort_options", "pagination", "uses_case_insensitive_source",
    "ignore_predefined_orders", "is_null_value_string", "source_text"]

mutual

def Filter.ofDocument? (document : Document) : Option Filter :=
  match hfields : document.fields? filterFields with
  | none => none
  | some field => do
    let value ← match hvalue : field "value" with
      | none => none
      | some (.string text) => some (.literal text)
      | some nested =>
        have := sizeOf_field_lt hfields hvalue
        FilterValue.nested <$> QueryOptions.ofDocument? nested
    some {
      property := ← required? field "property_name" string?
      value
      operation := ← required? field "operator" Operation.ofDocument?
      caseSensitive := ← defaulted? field "case_sensitive" false bool?
      connective := ← defaulted? field "logical_operator" .andAlso Connective.ofDocument? }
termination_by sizeOf document

def QueryOptions.ofDocument? (document : Document) : Option QueryOptions :=
  match hfields : document.fields? optionsFields with
  | none => none
  | some field => do
    let filters ← match hfilters : field "filters" with
      | none => some []
      | some (.list items) =>
        have := sizeOf_field_lt hfields hfilters
        items.attach.mapM fun ⟨item, hitem⟩ =>
          have := List.sizeOf_lt_of_mem hitem
          Filter.ofDocument? item
      | some _ => none
    some {
      filters
      sorts := ← defaulted? field "sort_options" [] fun d =>
        d.list?.bind fun items => items.mapM SortOption.ofDocument?
      page := ← defaulted? field "pagination" none (optional? Page.ofDocument?)
      caseInsensitiveSource := ← defaulted? field "uses_case_insensitive_source" false bool?
      ignorePredefinedOrders := ← defaulted? field "ignore_predefined_orders" false bool?
      nullIsString := ← defaulted? field "is_null_value_string" false bool?
      sourceText := ← defaulted? field "source_text" none (optional? string?) }
termination_by sizeOf document
decreasing_by
  simp_all
  omega

end

end RecordQuery

import RecordQuery.Operation

/-!
# Query options

What a query asks for: filters in the order they are folded, sort options in the order they break
ties, and a page. The value of a filter is a literal or, for the operations on collections, another
query.
-/

namespace RecordQuery

open Text

inductive Direction
  | asc | desc
deriving DecidableEq, Repr, Inhabited

namespace Direction

def name : Direction → String
  | asc => "asc"
  | desc => "desc"

def ofName? (text : String) : Option Direction :=
  if sameName text "asc" then some asc else if sameName text "desc" then some desc else none

def apply : Direction → Ordering → Ordering
  | asc, o => o
  | desc, o => o.swap

end Direction

inductive FilterValue (Query : Type)
  | literal (text : String)
  | nested (query : Query)

structure FilterOf (Query : Type) where
  /-- Member path; dots lead into nested records, `_` is the element itself. -/
  property : String
  value : FilterValue Query
  operation : Operation
  caseSensitive : Bool := false
  /-- How the filter joins those before it; the first filter joins nothing. -/
  connective : Connective := .andAlso

structure SortOption where
  property : String
  direction : Direction := .asc
  caseSensitive : Bool := false
deriving DecidableEq

structure Page where
  offset : Int64 := 0
  count : Int64 := 0
  /-- Written when the options are applied: how many elements there are before paging. -/
  dataSetCount : UInt64 := 0
  assignDataSetCount : Bool := false
deriving DecidableEq

structure QueryOptions where
  filters : List (FilterOf QueryOptions) := []
  sorts : List SortOption := []
  page : Option Page := none
  caseInsensitiveSource : Bool := false
  ignorePredefinedOrders : Bool := false
  nullIsString : Bool := false
  sourceText : Option String := none

abbrev Filter := FilterOf QueryOptions

namespace QueryOptions

def isEmpty (options : QueryOptions) : Bool :=
  options.filters.isEmpty && options.sorts.isEmpty && options.page.isNone

/-- The text shown in diagnostics; options that were not read from a text have none. -/
def queryText (options : QueryOptions) : String := options.sourceText.getD ""

def withFilter (options : QueryOptions) (filter : Filter) : QueryOptions :=
  { options with filters := options.filters ++ [filter] }

def withSort (options : QueryOptions) (sort : SortOption) : QueryOptions :=
  { options with sorts := options.sorts ++ [sort] }

def withPage (options : QueryOptions) (offset count : Int64) : QueryOptions :=
  { options with page := some { offset, count } }

end QueryOptions

end RecordQuery

import RecordQuery.Plan.Run
import RecordQuery.Predicate.Compile

/-!
# Applying options to a source

A source has a plan and can count what a plan leaves of its elements. Applying options compiles the
filters, then the sort options, splices the ordering into the plan, appends the filters, counts if
that is asked for, and cuts out the page. The options are state: the only field that changes is the
count, and nothing changes when a step fails.
-/

namespace RecordQuery

structure Source where
  element : FieldType
  plan : Plan
  /-- The number of elements after a plan, or why they cannot be counted. -/
  count : Plan → Except QueryError Nat

/-- Skips before it takes; counts that are not positive cut nothing. -/
def Page.stages (page : Page) : Plan :=
  (if 0 < page.offset then [.skip page.offset.toInt.toNat] else []) ++
    if 0 < page.count then [.take page.count.toInt.toNat] else []

namespace Source

/-- The plan of a source with the filters and orderings of some options. -/
def compile (schema : Schema) (source : Source) (options : QueryOptions) :
    Except CompileError Plan := do
  let predicate ← options.predicate? schema source.element
  let keys ← options.sorts.mapM
    (SortKey.compile schema source.element options.caseInsensitiveSource)
  pure (source.plan.spliceOrder keys options.ignorePredefinedOrders ++
    predicate.toList.map .filter)

/-- The elements before paging, if a page wants to know. -/
def dataSetCount (source : Source) (plan : Plan) (page : Page) : Except QueryError UInt64 :=
  if page.assignDataSetCount then UInt64.ofNat <$> source.count plan else pure page.dataSetCount

def applySteps (schema : Schema) (source : Source) (options : QueryOptions) :
    Except QueryError (Source × QueryOptions) :=
  match source.compile schema options with
  | .error cause => .error (.compile cause)
  | .ok plan =>
    match options.page with
    | none => .ok ({ source with plan }, options)
    | some page =>
      match source.dataSetCount plan page with
      | .error cause => .error cause
      | .ok dataSetCount =>
        .ok ({ source with plan := plan ++ page.stages },
          { options with page := some { page with dataSetCount } })

/-- A failure is reported once, with the text of the query. -/
def apply (schema : Schema) (source : Source) : EStateM QueryError QueryOptions Source :=
  fun options =>
    match source.applySteps schema options with
    | .ok (source, options) => .ok source options
    | .error cause => .error (.pipeline options.queryText cause) options

end Source

/-- Rows in memory with a plan that is run when the rows are asked for. -/
structure Query (Row : Type) where
  element : FieldType
  view : Row → Value
  rows : List Row
  plan : Plan := []

namespace Query

variable {Row : Type}

def toList (query : Query Row) : List Row := query.plan.run query.view query.rows

def first? (query : Query Row) : Option Row := query.toList.head?

def count (query : Query Row) : Nat := query.toList.length

def isEmpty (query : Query Row) : Bool := query.count == 0

def addStage (query : Query Row) (stage : Stage) : Query Row :=
  { query with plan := query.plan ++ [stage] }

def source (query : Query Row) : Source where
  element := query.element
  plan := query.plan
  count plan := pure (plan.run query.view query.rows).length

def apply (schema : Schema) (query : Query Row) : EStateM QueryError QueryOptions (Query Row) := do
  let source ← query.source.apply schema
  pure { query with plan := source.plan }

def diagnostic (query : Query Row) : String :=
  s!"Query \x7b items: {query.rows.length}, plan: {Text.quoted query.plan.text} \x7d"

end Query

end RecordQuery

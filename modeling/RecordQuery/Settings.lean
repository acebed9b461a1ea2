import RecordQuery.Document.Json
import RecordQuery.Document.Options
import RecordQuery.Document.Yaml
import RecordQuery.PagePolicy
import RecordQuery.QueryText.Parse
import RecordQuery.Request

/-!
# Settings

All that a service fixes about the queries of its requests: where their text is, which short codes
they may use, how texts compare and how large pages may be.
-/

namespace RecordQuery

structure Settings where
  codes : OpCodes := []
  caseInsensitiveSource : Bool := false
  ignorePredefinedOrders : Bool := false
  nullIsString : Bool := false
  resolver : Resolver := {}
  pagePolicy : PagePolicy := {}

namespace Settings

/-- Reads the query text of a request, and lays the settings on the options. -/
def readOptions (settings : Settings) (request : Request) : Except QueryError QueryOptions := do
  let options ← QueryText.parse settings.codes (settings.resolver.resolve request)
  pure { options with
    caseInsensitiveSource := settings.caseInsensitiveSource
    ignorePredefinedOrders := settings.ignorePredefinedOrders
    nullIsString := settings.nullIsString }

def prepare (settings : Settings) (request : Request) : Except QueryError QueryOptions := do
  let options ← settings.readOptions request
  match settings.pagePolicy.enforce options with
  | .ok _ options => pure options
  | .error refusal _ => throw refusal

end Settings

open Document

def Exceeding.name : Exceeding → String
  | clamp => "clamp"
  | reject => "reject"

def Exceeding.ofCaseName? (name : String) : Option Exceeding :=
  [Exceeding.clamp, .reject].find? (·.name == name)

namespace PagePolicy

def toDocument (policy : PagePolicy) : Document :=
  .record [("max_count", .integer policy.maxCount.toInt),
    ("include_data_set_count", .bool policy.includeDataSetCount),
    ("exceeded_behaviour", .string policy.exceeding.name)]

/-- How a document names a case depends on the kind of its text. -/
def ofDocument? (caseName? : Document → Option String) (document : Document) :
    Option PagePolicy := do
  let field ← document.fields? ["max_count", "include_data_set_count", "exceeded_behaviour"]
  some {
    maxCount := ← defaulted? field "max_count" 100 int64?
    includeDataSetCount := ← defaulted? field "include_data_set_count" true bool?
    exceeding := ← defaulted? field "exceeded_behaviour" .clamp fun name =>
      (caseName? name).bind Exceeding.ofCaseName? }

end PagePolicy

namespace QueryLocation

def toDocument : QueryLocation → Document
  | queryString => .record [("from", .string "query_string")]
  | parameter name => .record [("from", .string "query_string"), ("parameter", .string name)]
  | header name => .record [("from", .string "header"), ("name", .string name)]

/-- The kind of a location, by name or by number. -/
def isHeader? : Document → Option Bool
  | .string "query_string" | .integer 0 => some false
  | .string "header" | .integer 1 => some true
  | _ => none

/-- Locations are always records, and all of a location is read. The field of another kind of
location is passed over. -/
def ofDocument? (document : Document) : Option QueryLocation := do
  guard document.isReadable
  let document := Document.record (← document.entries?)
  let field ← document.fields? ["from"]
  if ← required? field "from" isHeader? then
    let field ← document.fields? ["name"]
    some (.header (← required? field "name" string?))
  else
    let field ← document.fields? ["parameter"]
    match ← defaulted? field "parameter" none (optional? string?) with
    | none => some .queryString
    | some name => some (.parameter name)

end QueryLocation

def OpCodes.toDocument (codes : OpCodes) : Document :=
  .record (codes.map fun (code, op) => (code, .string op.name))

def OpCodes.ofDocument? (caseName? : Document → Option String) (document : Document) :
    Option OpCodes := do
  let entries ← document.entries?
  entries.foldlM (fun codes (code, name) => do
    some (codes.insert code (← (caseName? name).bind Operation.ofCaseName?))) []

namespace Settings

def toDocument (settings : Settings) : Document :=
  .record [("op_codes", settings.codes.toDocument),
    ("uses_case_insensitive_source", .bool settings.caseInsensitiveSource),
    ("ignore_predefined_orders", .bool settings.ignorePredefinedOrders),
    ("is_null_value_string", .bool settings.nullIsString),
    ("resolver", settings.resolver.location.toDocument),
    ("pagination", settings.pagePolicy.toDocument)]

def ofDocument? (caseName? : Document → Option String) (document : Document) : Option Settings := do
  let field ← document.fields? ["op_codes", "uses_case_insensitive_source",
    "ignore_predefined_orders", "is_null_value_string", "resolver", "pagination"]
  some {
    codes := ← defaulted? field "op_codes" [] (OpCodes.ofDocument? caseName?)
    caseInsensitiveSource := ← defaulted? field "uses_case_insensitive_source" false bool?
    ignorePredefinedOrders := ← defaulted? field "ignore_predefined_orders" false bool?
    nullIsString := ← defaulted? field "is_null_value_string" false bool?
    resolver := { location := ← defaulted? field "resolver" .queryString QueryLocation.ofDocument? }
    pagePolicy := ← defaulted? field "pagination" {} (PagePolicy.ofDocument? caseName?) }

def ofJson? (text : String) : Option Settings :=
  (Json.parse? text).bind (ofDocument? Document.caseName?)

/-- In YAML only a scalar names a case. -/
def ofYaml? (text : String) : Option Settings :=
  (Yaml.parse? text).bind (ofDocument? Document.string?)

end Settings

end RecordQuery

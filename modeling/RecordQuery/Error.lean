import RecordQuery.Options
import RecordQuery.Schema

/-!
# Errors

Causes of failure, each with the one text that reports it.
-/

namespace RecordQuery

/-- Failures of a filter or sort option against a declared type. -/
inductive CompileError
  | missingProperty
  | unknownMember (property : String) (on : FieldType)
  | coercion (property value : String) (expected : FieldType)
  | nullOnNonOptional (property : String)
  | operatorTypeMismatch (operation : Operation) (property : String) (memberType : FieldType)
  | notOrdered (property : String) (memberType : FieldType)
  | notACollection (property : String) (memberType : FieldType)
  | missingNestedQuery (operation : Operation) (property : String)
  | unexpectedNestedQuery (operation : Operation) (property : String)
deriving DecidableEq

namespace CompileError

def mismatchMessage (operator property : String) (memberType : FieldType) : String :=
  s!"operator '{operator}' cannot be applied to property '{property}' of type {memberType.name}"

def message : CompileError → String
  | missingProperty => "a property name is required"
  | unknownMember property on => s!"property '{property}' is not defined on {on.name}"
  | coercion property value expected =>
    s!"value '{value}' cannot be converted to {expected.name} for property '{property}'"
  | nullOnNonOptional property =>
    s!"type of property '{property}' is not nullable but query value was received null"
  | operatorTypeMismatch operation property memberType =>
    mismatchMessage operation.name property memberType
  | notOrdered property memberType => mismatchMessage "OrderBy" property memberType
  | notACollection property memberType =>
    s!"property '{property}' of type {memberType.name} is not a collection"
  | missingNestedQuery operation property =>
    s!"operator '{operation.name}' on property '{property}' requires a nested query with at least " ++
      "one filter"
  | unexpectedNestedQuery operation property =>
    s!"operator '{operation.name}' on property '{property}' expects a literal value, not a nested " ++
      "query"

end CompileError

/-- Why a parenthesised value could not be delimited. -/
inductive GroupFault
  | unbalanced
  | trailingText
deriving DecidableEq

/-- What is wrong with one part of a query text. -/
inductive TextFault
  | connective (text : String)
  | filterModifier (property modifiers : String)
  | group (fault : GroupFault)
  | literalForNested (operation : Operation)
  | sortParts (token : String)
  | direction (text : String)
  | sortModifier (property modifier : String)
  | page
deriving DecidableEq

namespace TextFault

def message : TextFault → String
  | connective text => s!"invalid logical operator '{text}'"
  | filterModifier property modifiers =>
    s!"invalid extra option provided for filter property '{property}'. Received value was " ++
      s!"'{modifiers}'"
  | group .unbalanced => "unbalanced parentheses in nested query"
  | group .trailingText => "unexpected text after nested query"
  | literalForNested operation => s!"operation '{operation.name}' requires a nested query value"
  | sortParts token => s!"sort option '{token}' is malformed"
  | direction text => s!"invalid sorting direction '{text}'"
  | sortModifier property modifier =>
    s!"invalid extra option provided for sort property '{property}'. Received value was " ++
      s!"'{modifier}'"
  | page => "invalid pagination options"

end TextFault

inductive QueryError
  | invalidQuery (fault : TextFault) (query : String)
  | tripletMismatch (operations properties values : Nat) (query : String)
  | operationNotSupported (operation query : String)
  | compile (error : CompileError)
  /-- The failure of options applied to a source, with the text of the query. -/
  | pipeline (query : String) (cause : QueryError)
  | maximumResultSetExceeded (count maximum : Int64)
  | config (description : String)
  | source (description : String)
deriving DecidableEq

namespace QueryError

def message : QueryError → String
  | invalidQuery fault query => s!"invalid query: {fault.message} (query: '{query}')"
  | tripletMismatch operations properties values query =>
    s!"invalid query structure: {operations} operation(s), {properties} property(ies) and " ++
      s!"{values} value(s) do not form triplets (query: '{query}')"
  | operationNotSupported operation query =>
    s!"operation '{operation}' is not supported (query: '{query}')"
  | compile error => error.message
  | pipeline query cause => s!"query could not be applied (query: '{query}'): {cause.message}"
  | maximumResultSetExceeded count maximum =>
    s!"given count {count.toInt} exceeds the maximum amount of {maximum.toInt}"
  | config description => s!"invalid settings: {description}"
  | source description => s!"data source error: {description}"

/-- The query text an error refers to. -/
def query? : QueryError → Option String
  | invalidQuery _ query => some query
  | tripletMismatch _ _ _ query => some query
  | operationNotSupported _ query => some query
  | pipeline query _ => some query
  | _ => none

end QueryError

end RecordQuery

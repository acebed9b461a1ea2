import RecordQuery.Predicate.Basic

/-!
# Compiling filters

A filter becomes a predicate against the declared type of a record, or fails with the first cause
found: its path, then the kind of its value, then its type, then its literal. Filters fold from the
left, each joined to those before it by its own connective.
-/

namespace RecordQuery

open Text

/-- What the whole query says about texts. -/
structure TextRules where
  /-- The source compares texts ignoring case already. -/
  caseInsensitiveSource : Bool := false
  /-- The literal `null` is text for string members. -/
  nullIsString : Bool := false
deriving DecidableEq

def QueryOptions.textRules (options : QueryOptions) : TextRules :=
  ⟨options.caseInsensitiveSource, options.nullIsString⟩

namespace Constant

/-- A constant that folded texts are compared with is folded too. -/
def folded (fold : Bool) : Constant → Constant
  | string s => string (if fold then lowercase s else s)
  | constant => constant

end Constant

/-- Compares a member with a literal. -/
def compileComparison (rules : TextRules) (member : MemberPath) (property : String) (fold : Bool)
    (op : Comparison) (literal : String) : Except CompileError Predicate := do
  let constant ← Constant.coerce rules.nullIsString member.type property literal
  pure (.comparison member op (constant.folded fold) fold)

/-- One of several literals, separated by commas, equals the member. -/
def compileMembership (rules : TextRules) (member : MemberPath) (property : String) (fold : Bool)
    (literal : String) : Except CompileError Predicate :=
  let equals := compileComparison rules member property fold .eq
  match splitAll ',' literal with
  | [] => equals literal
  | first :: rest => do
    rest.foldlM (fun group part => do pure (.binary .orElse group (← equals part)))
      (← equals first)

/-- A missing value is in no list, but it is not outside of one either. -/
def excluding (member : MemberPath) (group : Predicate) : Predicate :=
  if member.nullable then .binary .andAlso (.comparison member .ne .null false) (.not group)
  else .not group

/-- A filter of a single value with a literal. -/
def compileScalar (rules : TextRules) (member : MemberPath) (property : String)
    (operation : Operation) (caseSensitive : Bool) (literal : String) :
    Except CompileError Predicate :=
  let mismatch : CompileError := .operatorTypeMismatch operation property member.type
  let fold := member.type.isString && (rules.caseInsensitiveSource || !caseSensitive)
  if member.type.isCompound then throw mismatch
  else if operation = .oneOf then compileMembership rules member property fold literal
  else if operation = .noneOf then
    excluding member <$> compileMembership rules member property fold literal
  else
    match TextTest.ofOperation? operation, Comparison.ofOperation? operation with
    | some test, _ =>
      if member.type.isString then
        pure (.textTest member test (if fold then lowercase literal else literal) fold)
      else throw mismatch
    | none, some op =>
      if operation.isRelational && (!member.type.isOrdered || member.type.present == .bool) then
        throw mismatch
      else compileComparison rules member property fold op literal
    | none, none => throw mismatch

def Operation.quantifier (operation : Operation) : Quantifier :=
  if operation = .any then .any else .all

/-- Of the filters of a nested query only the first is applied, to each element. -/
def Filter.compile (schema : Schema) (rules : TextRules) (root : FieldType) :
    Filter → Except CompileError Predicate
  | ⟨property, value, operation, caseSensitive, _⟩ => do
    let member ← MemberPath.resolve schema root property
    if operation.isCollection then
      match member.type.element? with
      | none => throw (.notACollection property member.type)
      | some element =>
        match value with
        | .nested ⟨first :: _, _, _, _, _, _, _⟩ => do
          let body ← Filter.compile schema rules element first
          pure (.quantified member operation.quantifier body)
        | _ => throw (.missingNestedQuery operation property)
    else
      match value with
      | .literal literal => compileScalar rules member property operation caseSensitive literal
      | .nested _ => throw (.unexpectedNestedQuery operation property)

/-- No filters make no predicate, not one that refuses everything. -/
def compileFilters (schema : Schema) (rules : TextRules) (root : FieldType) :
    List Filter → Except CompileError (Option Predicate)
  | [] => pure none
  | first :: rest => do
    let predicate ← rest.foldlM (fun predicate filter => do
      pure (Predicate.binary filter.connective predicate (← filter.compile schema rules root)))
      (← first.compile schema rules root)
    pure (some predicate)

def QueryOptions.predicate? (schema : Schema) (root : FieldType) (options : QueryOptions) :
    Except CompileError (Option Predicate) :=
  compileFilters schema options.textRules root options.filters

/-- A nested query has filters that are not applied. -/
structure IgnoredFilters where
  operation : Operation
  property : String
  count : Nat

def IgnoredFilters.message (ignored : IgnoredFilters) : String :=
  s!"{ignored.operation.name} on '{ignored.property}': only the first of {ignored.count} nested " ++
    "filters is applied"

/-- What is left out of a filter that compiles, from the outside in. -/
def Filter.ignored : Filter → List IgnoredFilters
  | ⟨property, value, operation, _, _⟩ =>
    match value with
    | .nested ⟨first :: rest, _, _, _, _, _, _⟩ =>
      (if rest.isEmpty then [] else [⟨operation, property, rest.length + 1⟩]) ++
        Filter.ignored first
    | _ => []

end RecordQuery

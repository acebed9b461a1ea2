import RecordQuery.QueryText.Occurrence
import RecordQuery.Text.Blank
import RecordQuery.Text.Integer
import RecordQuery.Text.Search

/-!
# Options from a query text

Operations, properties and values are matched up by position, so their counts are compared before
anything else. Then the filters are read in order, then the sort options, then the page; the first
failure is the answer. A group after an operation on collections is a query of its own.
-/

namespace RecordQuery.QueryText

open Text

def operationTokens (found : List Occurrence) : List String :=
  found.filterMap fun | .operation token => some token | _ => none

def propertyTokens (found : List Occurrence) : List String :=
  found.filterMap fun | .property token => some token | _ => none

def rawValues (found : List Occurrence) : List RawValue :=
  found.filterMap fun | .value raw => some raw | _ => none

def sortTokens (found : List Occurrence) : List String :=
  found.filterMap fun | .sort token => some token | _ => none

def offsetTokens (found : List Occurrence) : List String :=
  found.filterMap fun | .offset token => some token | _ => none

def countTokens (found : List Occurrence) : List String :=
  found.filterMap fun | .count token => some token | _ => none

theorem mem_rawValues {found : List Occurrence} {raw : RawValue} :
    raw ∈ rawValues found ↔ .value raw ∈ found := by
  simp only [rawValues, List.mem_filterMap]
  constructor
  · rintro ⟨o, ho, h⟩
    cases o <;> simp_all
  · exact fun h => ⟨_, h, rfl⟩

/-- A value whose group, if it is one, has been read as a query. -/
inductive Argument
  | literal (text : String)
  | group (literal : String) (query : Except QueryError QueryOptions)
  | malformed (fault : GroupFault)

def RawValue.toArgument (read : String → Bool → Except QueryError QueryOptions) :
    RawValue → Argument
  | .literal text => .literal text
  | .group inner whole decoded => .group whole (read inner decoded)
  | .malformed fault => .malformed fault

/-- An operation, perhaps followed by a bar and a connective. -/
def readOperation (codes : OpCodes) (query token : String) :
    Except QueryError (Operation × Connective) := do
  let (name, suffix) := cut '|' token
  let connective ← match suffix with
    | none => pure .andAlso
    | some text =>
      match Connective.ofName? text with
      | some connective => pure connective
      | none => throw (.invalidQuery (.connective text) query)
  match Operation.resolve? codes name with
  | some operation => pure (operation, connective)
  | none => throw (.operationNotSupported name query)

def isCaseSensitiveModifier (text : String) : Bool := sameName text "cs"

/-- A property name, perhaps followed by a comma and the modifier `cs`. -/
def readProperty (query token : String) : Except QueryError (String × Bool) :=
  match splitAll ',' token with
  | [] => pure (token, false)
  | [name] => pure (name, false)
  | name :: modifiers =>
    match modifiers with
    | [modifier] =>
      if isCaseSensitiveModifier modifier then pure (name, true)
      else throw (.invalidQuery (.filterModifier name modifier) query)
    | _ => throw (.invalidQuery (.filterModifier name (join ',' modifiers)) query)

/-- Operations on collections take a query, all others a literal, which may have parentheses. -/
def readValue (query : String) (operation : Operation) :
    Argument → Except QueryError (FilterValue QueryOptions)
  | .group literal nested =>
    if operation.isCollection then FilterValue.nested <$> nested else pure (.literal literal)
  | .literal text =>
    if operation.isCollection then throw (.invalidQuery (.literalForNested operation) query)
    else pure (.literal text)
  | .malformed fault => throw (.invalidQuery (.group fault) query)

def readFilter (codes : OpCodes) (query : String) :
    String × String × Argument → Except QueryError Filter
  | (operationToken, propertyToken, argument) => do
    let (operation, connective) ← readOperation codes query operationToken
    let (property, caseSensitive) ← readProperty query propertyToken
    let value ← readValue query operation argument
    pure { property, value, operation, caseSensitive, connective }

def readDirection (query text : String) : Except QueryError Direction :=
  match Direction.ofName? text with
  | some direction => pure direction
  | none => throw (.invalidQuery (.direction text) query)

/-- A property name, perhaps a direction, perhaps the modifier `cs`. -/
def readSort (query token : String) : Except QueryError SortOption :=
  match splitAll ',' token with
  | [property] => pure { property }
  | [property, direction] => do pure { property, direction := ← readDirection query direction }
  | [property, direction, modifier] => do
    let direction ← readDirection query direction
    if isCaseSensitiveModifier modifier then pure { property, direction, caseSensitive := true }
    else throw (.invalidQuery (.sortModifier property modifier) query)
  | _ => throw (.invalidQuery (.sortParts token) query)

/-- Offset and count go together; only the first of each is read. -/
def readPage (query : String) (offsets counts : List String) :
    Except QueryError (Option Page) :=
  if offsets.length ≠ counts.length then pure none else
    match offsets, counts with
    | offset :: _, count :: _ =>
      match readInt64? offset, readInt64? count with
      | some offset, some count => pure (some { offset, count })
      | _, _ => throw (.invalidQuery .page query)
    | _, _ => pure none

/-- Reads the options from the occurrences of a query whose groups have been read. -/
def assemble (codes : OpCodes) (query : String) (found : List Occurrence)
    (arguments : List Argument) : Except QueryError QueryOptions := do
  let operations := operationTokens found
  let properties := propertyTokens found
  if operations.length ≠ properties.length ∨ properties.length ≠ arguments.length then
    throw (.tripletMismatch operations.length properties.length arguments.length query)
  let filters ← (operations.zip (properties.zip arguments)).mapM (readFilter codes query)
  let sorts ← ((sortTokens found).filter (· ≠ "")).mapM (readSort query)
  let page ← readPage query (offsetTokens found) (countTokens found)
  pure { filters, sorts, page, sourceText := some query }

/-- A question mark in front of the query is no part of it. -/
def body (query : String) : List Char :=
  match query.toList with
  | '?' :: cs => cs
  | cs => cs

/-- No equals sign stands in the text itself but an encoded one does. -/
def isFullyEncoded (cs : List Char) : Bool :=
  !cs.contains '=' && contains ['%', '3', 'd'] (cs.map Char.toLower)

/-- The text to be lexed, and whether it is decoded. -/
def decodedBody (query : String) (decoded : Bool) : List Char × Bool :=
  let cs := body query
  if !decoded && isFullyEncoded cs then ((Percent.decode (String.ofList cs)).toList, true)
  else (cs, decoded)

theorem byteSize_body_le (query : String) : byteSize (body query) ≤ query.utf8ByteSize := by
  rw [← byteSize_toList, body]
  split
  · next h => simp [h]
  · exact Nat.le_refl _

theorem byteSize_decodedBody_le (query : String) (decoded : Bool) :
    byteSize (decodedBody query decoded).1 ≤ query.utf8ByteSize := by
  rw [decodedBody]
  split
  · rw [byteSize_toList]
    refine Nat.le_trans (Percent.utf8ByteSize_decode_le _) ?_
    rw [utf8ByteSize_ofList]
    exact byteSize_body_le query
  · exact byteSize_body_le query

def occurrences (query : String) (decoded : Bool) : List Occurrence :=
  lex (decodedBody query decoded).2 (decodedBody query decoded).1

theorem size_of_mem_rawValues {query inner literal : String} {decoded d : Bool}
    (h : .group inner literal d ∈ rawValues (occurrences query decoded)) :
    inner.utf8ByteSize + 4 ≤ query.utf8ByteSize :=
  Nat.le_trans (size_of_mem_lex (mem_rawValues.1 h)) (byteSize_decodedBody_le query decoded)

def parseText (codes : OpCodes) (query : String) (decoded : Bool) :
    Except QueryError QueryOptions :=
  if (trimChars (body query)).isEmpty then pure {}
  else
    let found := occurrences query decoded
    let arguments := (rawValues found).attach.map fun
      | ⟨.literal text, _⟩ => .literal text
      | ⟨.group inner literal d, h⟩ =>
        have := size_of_mem_rawValues h
        .group literal (parseText codes inner d)
      | ⟨.malformed fault, _⟩ => .malformed fault
    assemble codes query found arguments
termination_by query.utf8ByteSize

theorem parseText_eq (codes : OpCodes) (query : String) (decoded : Bool) :
    parseText codes query decoded =
      if (trimChars (body query)).isEmpty then pure {}
      else assemble codes query (occurrences query decoded)
        ((rawValues (occurrences query decoded)).map (RawValue.toArgument (parseText codes))) := by
  rw [parseText]
  split
  · rfl
  · dsimp only
    congr 1
    conv => rhs; rw [← List.attach_map_subtype_val (rawValues _), List.map_map]
    exact List.map_congr_left fun ⟨raw, _⟩ _ => by cases raw <;> rfl

/-- The options that a query text asks for. -/
def parse (codes : OpCodes) (query : String) : Except QueryError QueryOptions :=
  parseText codes query false

end RecordQuery.QueryText

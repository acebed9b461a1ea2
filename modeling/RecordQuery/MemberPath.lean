import RecordQuery.Error
import RecordQuery.Text.Blank
import RecordQuery.Text.Cut
import RecordQuery.Value.Basic

/-!
# Member paths

A property name resolved against a declared type. Dots lead into nested records, also optional ones;
`_` is the element itself. Reading a path follows the same names through a value and finds nothing
when a record on the way is missing.
-/

namespace RecordQuery

open Text

structure MemberPath where
  segments : List String
  type : FieldType
  /-- There may be no value to read: a type on the path is optional. -/
  nullable : Bool
deriving DecidableEq

namespace MemberPath

/-- The type that the names lead to, and whether it or one before it is optional. The first type is
that of the record at hand and does not count. -/
def follow (schema : Schema) (path : String) (current : FieldType) :
    List String → Except CompileError (FieldType × Bool)
  | [] => pure (current, false)
  | name :: names =>
    match current.member? schema name with
    | none => throw (.unknownMember path current)
    | some next => do
      let (type, nullable) ← follow schema path next names
      pure (type, next.isOptional || nullable)

def resolve (schema : Schema) (root : FieldType) (property : String) :
    Except CompileError MemberPath :=
  let path := trim property
  if path = "" then throw .missingProperty
  else if path = "_" then pure ⟨[], root, root.isOptional⟩
  else do
    let segments := splitAll '.' path
    let (type, nullable) ← follow schema path root segments
    pure ⟨segments, type, nullable⟩

def isSelf (path : MemberPath) : Bool := path.segments.isEmpty

def text (path : MemberPath) : String :=
  if path.isSelf then "_" else join '.' path.segments

def readSegments : List String → Value → Option Value
  | [], value => some value
  | [name], value => some (value.member name)
  | name :: names, value =>
    let next := value.member name
    if next.isRecord then readSegments names next else none

/-- The value at the end of the path, if every record before it is there. -/
def read (path : MemberPath) (root : Value) : Option Value := readSegments path.segments root

end MemberPath

end RecordQuery

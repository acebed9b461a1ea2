import RecordQuery.MemberPath
import RecordQuery.Value.Order

/-!
# Sort keys

A sort option resolved against a declared type. Keys compare two records by one member; records
whose members do not compare count as equal, and later keys decide among the equals of earlier ones.
-/

namespace RecordQuery

structure SortKey where
  member : MemberPath
  direction : Direction
  ignoreCase : Bool
deriving DecidableEq

namespace SortKey

def compile (schema : Schema) (root : FieldType) (caseInsensitiveSource : Bool)
    (sort : SortOption) : Except CompileError SortKey := do
  let member ← MemberPath.resolve schema root sort.property
  if member.type.isOrdered then
    pure {
      member
      direction := sort.direction
      ignoreCase := member.type.isString && (caseInsensitiveSource || !sort.caseSensitive) }
  else throw (.notOrdered sort.property member.type)

/-- A case-sensitive key. -/
def on (schema : Schema) (root : FieldType) (property : String) (direction : Direction) :
    Except CompileError SortKey :=
  compile schema root false { property, direction, caseSensitive := true }

/-- The member of a record; a missing record has a missing member. -/
def value (key : SortKey) (row : Value) : Value := (key.member.read row).getD .null

def compare (key : SortKey) (a b : Value) : Ordering :=
  (((key.value a).compare? key.ignoreCase (key.value b)).map key.direction.apply).getD .eq

def compareBy (keys : List SortKey) (a b : Value) : Ordering :=
  keys.foldr (fun key rest => (key.compare a b).then rest) .eq

@[simp] theorem compareBy_nil (a b : Value) : compareBy [] a b = .eq := rfl

@[simp] theorem compareBy_cons (key : SortKey) (keys : List SortKey) (a b : Value) :
    compareBy (key :: keys) a b = (key.compare a b).then (compareBy keys a b) := rfl

def text (key : SortKey) : String :=
  s!"{key.member.text} {key.direction.name}" ++ if key.ignoreCase then " ignore-case" else ""

end SortKey

end RecordQuery

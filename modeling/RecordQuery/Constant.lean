import RecordQuery.Error
import RecordQuery.Number.Literal
import RecordQuery.Text.Blank
import RecordQuery.Text.Cut
import RecordQuery.Value.Basic

/-!
# Constants

The literal of a filter as a value of the member's type. `null` means that there is no value and is
refused for members that always have one. All types but strings ignore blanks around the literal.
-/

namespace RecordQuery

open Text

inductive Constant
  | string (s : String)
  | number (n : Number)
  | timestamp (t : Timestamp)
  | enum (discriminant : Int64)
  | bool (b : Bool)
  | null
deriving DecidableEq

namespace Constant

def toValue : Constant → Value
  | string s => .string s
  | number n => .number n
  | timestamp t => .timestamp t
  | enum d => .enum d
  | bool b => .bool b
  | null => .null

def isNull : Constant → Bool
  | null => true
  | _ => false

def text : Constant → String
  | string s => quoted s
  | number n => n.text
  | timestamp t => t.text
  | enum d => toString d.toInt
  | bool b => toString b
  | null => "null"

def readBool? (s : String) : Option Bool :=
  if sameName s "true" then some true else if sameName s "false" then some false else none

/-- A variant by its name, or any discriminant as a number. -/
def readVariant? (variants : List (String × Int64)) (s : String) : Option Int64 :=
  (lookup variants s).or (readInt64? s)

/-- The constant that a literal other than null denotes; compound types have none. -/
def ofLiteral? (type : FieldType) (literal : String) : Option Constant :=
  let trimmed := trim literal
  match type with
  | .string => some (string literal)
  | .int => (readInt64? trimmed).map fun n => number (.int n)
  | .uint => (readUInt64? trimmed).map fun n => number (.uint n)
  | .float => (Binary64.ofString? trimmed).map fun x => number (.float x)
  | .bool => (readBool? trimmed).map bool
  | .timestamp => (Timestamp.ofString? trimmed).map timestamp
  | .enum _ variants => (readVariant? variants trimmed).map enum
  | .record _ | .list _ | .optional _ => none

/-- The literal stands for no value; a string member may be told to take it as text. -/
def isNullLiteral (nullIsString : Bool) (type : FieldType) (literal : String) : Bool :=
  literal == "null" && !(nullIsString && type.isString)

def coerce (nullIsString : Bool) (type : FieldType) (property literal : String) :
    Except CompileError Constant :=
  if isNullLiteral nullIsString type literal then
    if type.isOptional then pure null else throw (.nullOnNonOptional property)
  else
    match ofLiteral? type.present literal with
    | some constant => pure constant
    | none => throw (.coercion property literal type.present)

end Constant

end RecordQuery

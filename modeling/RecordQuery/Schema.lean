import RecordQuery.Text.Ascii

/-!
# Declared types

The type of a member as a query sees it. A record type is a name that a `Schema` resolves to its
members, so that records may contain one another. Members are found ignoring ASCII case.
-/

namespace RecordQuery

open Text

inductive FieldType
  | string | int | uint | float | bool | timestamp
  | enum (name : String) (variants : List (String × Int64))
  | record (name : String)
  | list (element : FieldType)
  | optional (inner : FieldType)
deriving DecidableEq, Inhabited

structure RecordType where
  name : String
  members : List (String × FieldType)

structure Schema where
  records : List RecordType

namespace Schema

def find? (schema : Schema) (name : String) : Option RecordType :=
  schema.records.find? fun type => type.name == name

def member? (schema : Schema) (recordName memberName : String) : Option FieldType :=
  (schema.find? recordName).bind fun type => lookup type.members memberName

end Schema

namespace FieldType

def name : FieldType → String
  | string => "string"
  | int => "int"
  | uint => "uint"
  | float => "float"
  | bool => "bool"
  | timestamp => "timestamp"
  | enum name _ => "enum " ++ name
  | record name => "record " ++ name
  | list element => "list<" ++ element.name ++ ">"
  | optional inner => "option<" ++ inner.name ++ ">"

def isOptional : FieldType → Bool
  | optional _ => true
  | _ => false

/-- The type without the options around it. -/
def present : FieldType → FieldType
  | optional inner => inner.present
  | type => type

@[simp] theorem isOptional_present (type : FieldType) : type.present.isOptional = false := by
  induction type <;> simp_all [present, isOptional]

def isString (type : FieldType) : Bool := type.present == string

def isOrdered (type : FieldType) : Bool :=
  match type.present with
  | string | int | uint | float | timestamp | bool | enum _ _ => true
  | _ => false

/-- The type has parts and no single value to compare. -/
def isCompound (type : FieldType) : Bool :=
  match type.present with
  | record _ | list _ => true
  | _ => false

def element? (type : FieldType) : Option FieldType :=
  match type.present with
  | list element => some element
  | _ => none

def member? (schema : Schema) (type : FieldType) (name : String) : Option FieldType :=
  match type.present with
  | record recordName => schema.member? recordName name
  | _ => none

end FieldType

end RecordQuery

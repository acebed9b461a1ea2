import RecordQuery.Schema
import RecordQuery.Text.LetterCase
import RecordQuery.Value.Basic

/-!
# Declarations

The declaration of a type lists its fields or its variants, each with attributes that give it
another name in queries or hide it. From a declaration comes the table of the members of a record,
or of the variants of an enumeration. No two members of a record have the same name, ignoring ASCII
case.
-/

namespace RecordQuery

open Text

inductive AttributeItem
  | word (name : String)
  /-- Nothing, if the value is not a text. -/
  | assignment (name : String) (value : Option String)
  | call (name : String)

structure Field where
  identifier : String
  type : FieldType
  attributes : List (List AttributeItem) := []

structure Variant where
  identifier : String
  /-- One more than that of the variant before it, if left out. -/
  discriminant : Option Int64 := none
  hasPayload : Bool := false
  attributes : List (List AttributeItem) := []

inductive Shape
  | record (fields : List Field)
  | tuple
  | unit
  | union
  | enumeration (variants : List Variant)

structure Declaration where
  name : String
  generic : Bool := false
  shape : Shape

inductive DeclarationError
  | notRecord
  | unnamedFields
  | notEnumeration
  | noVariants
  | genericEnumeration
  | variantPayload
  | renameNotText
  | renameEmpty
  | unknownAttribute
  | duplicateMember (name : String)
deriving DecidableEq

def DeclarationError.message : DeclarationError → String
  | notRecord => "Queryable can only be derived for structs"
  | unnamedFields => "Queryable can only be derived for structs with named fields"
  | notEnumeration => "QueryEnum can only be derived for enums"
  | noVariants => "QueryEnum requires at least one variant"
  | genericEnumeration => "QueryEnum cannot be derived for generic enums"
  | variantPayload => "QueryEnum can only be derived for fieldless enums"
  | renameNotText => "rename must be a string literal"
  | renameEmpty => "rename must not be empty"
  | unknownAttribute => "unknown query attribute. Expected: skip or rename = \"...\""
  | duplicateMember name =>
    s!"member name '{name}' is used more than once (names are case-insensitive)"

/-- What the attributes of a field or variant say about its name. -/
structure Naming where
  hidden : Bool := false
  rename : Option String := none
deriving DecidableEq

namespace Naming

def addItem (naming : Naming) : AttributeItem → Except DeclarationError Naming
  | .word "skip" => pure { naming with hidden := true }
  | .assignment "rename" none => throw .renameNotText
  | .assignment "rename" (some name) =>
    if name = "" then throw .renameEmpty else pure { naming with rename := some name }
  | _ => throw .unknownAttribute

/-- Only the first attribute counts. -/
def ofAttributes (attributes : List (List AttributeItem)) : Except DeclarationError Naming :=
  (attributes.headD []).foldlM addItem {}

end Naming

/-- A keyword serves as an identifier behind the mark `r#`, which is not part of the name. -/
def withoutKeywordMark : List Char → List Char
  | 'r' :: '#' :: cs => withoutKeywordMark cs
  | cs => cs

namespace Field

def queryName (field : Field) (naming : Naming) : String :=
  naming.rename.getD (String.ofList (withoutKeywordMark field.identifier.toList))

end Field

/-- A field that queries can name. -/
structure Member where
  name : String
  field : Field

/-- Upper case with underscores between words; only ASCII letters are raised. -/
def constantChars (afterLower : Bool) : List Char → List Char
  | [] => []
  | c :: cs =>
    if isUppercase c then (if afterLower then ['_', c] else [c]) ++ constantChars false cs
    else if c = '_' ∨ c = '-' ∨ c = '.' then '_' :: constantChars false cs
    else c.toUpper :: constantChars (isLowercase c) cs

namespace Member

/-- The name of the constant that holds the name of the member. -/
def constantName (member : Member) : String :=
  String.ofList (constantChars false member.name.toList)

/-- Adds the fields from the left, after `members`. -/
def ofFields (members : List Member) : List Field → Except DeclarationError (List Member)
  | [] => pure members
  | field :: fields => do
    let naming ← Naming.ofAttributes field.attributes
    if naming.hidden then ofFields members fields
    else
      let name := field.queryName naming
      if members.any fun member => sameName member.name name then throw (.duplicateMember name)
      else ofFields (members ++ [⟨name, field⟩]) fields

end Member

namespace Declaration

def members (declaration : Declaration) : Except DeclarationError (List Member) :=
  match declaration.shape with
  | .record fields => Member.ofFields [] fields
  | .tuple | .unit => throw .unnamedFields
  | .union | .enumeration _ => throw .notRecord

def recordType (declaration : Declaration) : Except DeclarationError RecordType := do
  let members ← declaration.members
  pure ⟨declaration.name, members.map fun member => (member.name, member.field.type)⟩

end Declaration

/-- The record value whose fields, by identifier, have the given values. -/
def Member.toRecord (members : List Member) (valueOf : String → Value) : Value :=
  .record (members.map fun member => (member.name, valueOf member.field.identifier))

/-- A variant with the name queries know it by. -/
structure NamedVariant where
  name : String
  identifier : String
  discriminant : Int64
  hidden : Bool
deriving DecidableEq

namespace NamedVariant

/-- Gives names and discriminants from the left; `next` is the discriminant to go on with. -/
def ofVariants (next : Int64) : List Variant → Except DeclarationError (List NamedVariant)
  | [] => pure []
  | variant :: variants => do
    if variant.hasPayload then throw .variantPayload
    let naming ← Naming.ofAttributes variant.attributes
    let discriminant := variant.discriminant.getD next
    let named := {
      name := naming.rename.getD variant.identifier
      identifier := variant.identifier
      discriminant
      hidden := naming.hidden }
    pure (named :: (← ofVariants (discriminant + 1) variants))

/-- The names that literals may use. -/
def table (variants : List NamedVariant) : List (String × Int64) :=
  (variants.filter (!·.hidden)).map fun variant => (variant.name, variant.discriminant)

end NamedVariant

namespace Declaration

def variants (declaration : Declaration) : Except DeclarationError (List NamedVariant) :=
  match declaration.shape with
  | .enumeration [] => throw .noVariants
  | .enumeration variants =>
    if declaration.generic then throw .genericEnumeration else NamedVariant.ofVariants 0 variants
  | _ => throw .notEnumeration

def enumType (declaration : Declaration) : Except DeclarationError FieldType := do
  pure (.enum declaration.name (NamedVariant.table (← declaration.variants)))

end Declaration

end RecordQuery

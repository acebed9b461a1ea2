import RecordQuery.Number.Literal

/-!
# Documents

The tree that JSON and YAML texts stand for. A document is read as a record with known fields, each
at most once, by name or, from a list, by position; unknown fields are passed over, and with them
values that cannot be read. A value left blank counts as a record without fields.
-/

namespace RecordQuery

inductive Document
  | blank
  | null
  | bool (b : Bool)
  | integer (n : Int)
  /-- The integer zero behind a minus sign, which is no natural number. -/
  | negativeZero
  /-- A number that is not written as an integer. -/
  | decimal (literal : FloatLiteral)
  | string (s : String)
  | list (items : List Document)
  | record (entries : List (String × Document))
  /-- A value of good form that stands for nothing, such as a string with half a surrogate pair. -/
  | unreadable
deriving Inhabited

namespace Document

/-- A string of a document as such, without one around it. -/
def string? : Document → Option String
  | string s => some s
  | _ => none

def bool? : Document → Option Bool
  | bool b => some b
  | _ => none

def int64? : Document → Option Int64
  | integer n => Text.int64? n
  | negativeZero => some 0
  | _ => none

def uint64? : Document → Option UInt64
  | integer n => if 0 ≤ n then Text.uint64? n.toNat else none
  | _ => none

def list? : Document → Option (List Document)
  | list items => some items
  | _ => none

/-- The entries of a record; a later entry does not replace an earlier one. -/
def entries? : Document → Option (List (String × Document))
  | record entries => some entries
  | blank => some []
  | _ => none

/-- Null stands for no value. -/
def optional? {α : Type} (read : Document → Option α) : Document → Option (Option α)
  | null | blank => some none
  | document => (read document).map some

/-- The name of a case: a string, or a record whose only entry has that name and no value. -/
def caseName? : Document → Option String
  | string s => some s
  | record [(name, null)] => some name
  | _ => none

mutual

/-- Nothing in a document is unreadable. -/
def isReadable : Document → Bool
  | unreadable => false
  | list items => areReadable items
  | record entries => haveReadableValues entries
  | _ => true

def areReadable : List Document → Bool
  | [] => true
  | item :: items => item.isReadable && areReadable items

def haveReadableValues : List (String × Document) → Bool
  | [] => true
  | (_, value) :: entries => value.isReadable && haveReadableValues entries

end

def occursOnce (entries : List (String × Document)) (name : String) : Bool :=
  (entries.filter fun entry => entry.1 == name).length ≤ 1

/-- Finds the fields of a document read as a record. -/
def fields? (document : Document) (names : List String) : Option (String → Option Document) :=
  match document with
  | record entries =>
    if names.all (occursOnce entries) then some fun name => entries.lookup name else none
  | list items =>
    if items.length ≤ names.length then some fun name => (names.zip items).lookup name else none
  | blank => some fun _ => none
  | _ => none

theorem mem_of_lookup {entries : List (String × Document)} {name : String} {value : Document}
    (h : entries.lookup name = some value) : (name, value) ∈ entries := by
  induction entries with
  | nil => simp at h
  | cons entry entries ih =>
    obtain ⟨key, v⟩ := entry
    rw [List.lookup_cons] at h
    split at h
    · next hkey => simp_all
    · exact List.mem_cons_of_mem _ (ih h)

theorem sizeOf_field_lt {document value : Document} {names : List String}
    {field : String → Option Document} {name : String} (hfields : document.fields? names = some field)
    (hvalue : field name = some value) : sizeOf value < sizeOf document := by
  unfold fields? at hfields
  split at hfields
  · next entries =>
    split at hfields
    · obtain rfl := Option.some.inj hfields
      have := List.sizeOf_lt_of_mem (mem_of_lookup hvalue)
      simp only [record.sizeOf_spec, Prod.mk.sizeOf_spec] at this ⊢
      omega
    · simp at hfields
  · next items =>
    split at hfields
    · obtain rfl := Option.some.inj hfields
      have := List.sizeOf_lt_of_mem (List.of_mem_zip (mem_of_lookup hvalue)).2
      simp only [list.sizeOf_spec] at this ⊢
      omega
    · simp at hfields
  · obtain rfl := Option.some.inj hfields
    simp at hvalue
  · simp at hfields

/-- A field that must be there. -/
def required? {α : Type} (field : String → Option Document) (name : String)
    (read : Document → Option α) : Option α :=
  (field name).bind read

/-- A field that may be left out, but not be something else. -/
def defaulted? {α : Type} (field : String → Option Document) (name : String) (fallback : α)
    (read : Document → Option α) : Option α :=
  match field name with
  | none => some fallback
  | some document => read document

end Document

end RecordQuery

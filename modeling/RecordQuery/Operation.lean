import RecordQuery.Text.Ascii

/-!
# Operations and connectives

An operation compares a member with a value; a connective joins a filter to those before it. Both
are named in a query ignoring ASCII case, and an operation also by a short code: canonical names
win over the caller's codes and those over the built-in ones.
-/

namespace RecordQuery

open Text

inductive Operation
  | oneOf | equals | lessThan | contains | notEqual | endsWith | startsWith | greaterThan
  | lessThanOrEqual | greaterThanOrEqual | noneOf
  | any | all
deriving DecidableEq, Repr, Inhabited

namespace Operation

def catalog : List Operation :=
  [oneOf, equals, lessThan, contains, notEqual, endsWith, startsWith, greaterThan,
    lessThanOrEqual, greaterThanOrEqual, noneOf, any, all]

@[simp] theorem mem_catalog (op : Operation) : op ∈ catalog := by cases op <;> decide

def name : Operation → String
  | oneOf => "In"
  | equals => "Equals"
  | lessThan => "LessThan"
  | contains => "Contains"
  | notEqual => "NotEqual"
  | endsWith => "EndsWith"
  | startsWith => "StartsWith"
  | greaterThan => "GreaterThan"
  | lessThanOrEqual => "LessThanOrEqual"
  | greaterThanOrEqual => "GreaterThanOrEqual"
  | noneOf => "NotIn"
  | any => "Any"
  | all => "All"

/-- Operations on collections are numbered from 100. -/
def code : Operation → Nat
  | oneOf => 0
  | equals => 1
  | lessThan => 2
  | contains => 3
  | notEqual => 4
  | endsWith => 5
  | startsWith => 6
  | greaterThan => 7
  | lessThanOrEqual => 8
  | greaterThanOrEqual => 9
  | noneOf => 10
  | any => 100
  | all => 101

def isCollection (op : Operation) : Bool := 100 ≤ op.code

theorem isCollection_iff {op : Operation} : op.isCollection = true ↔ op = any ∨ op = all := by
  cases op <;> decide

def isRelational : Operation → Bool
  | lessThan | lessThanOrEqual | greaterThan | greaterThanOrEqual => true
  | _ => false

def ofName? (text : String) : Option Operation :=
  catalog.find? fun op => sameName op.name text

end Operation

/-- Short codes with the operations they stand for, no code twice. -/
abbrev OpCodes := List (String × Operation)

namespace OpCodes

/-- The code as written, else a code that differs in case only. -/
def find? (codes : OpCodes) (token : String) : Option Operation :=
  (codes.lookup token).or (Text.lookup codes token)

/-- A later entry for the same code replaces the earlier one. -/
def insert (codes : OpCodes) (code : String) (op : Operation) : OpCodes :=
  codes.filter (fun entry => entry.1 != code) ++ [(code, op)]

def builtin : OpCodes :=
  [("eq", .equals), ("ne", .notEqual), ("lt", .lessThan), ("ltoe", .lessThanOrEqual),
    ("gt", .greaterThan), ("gtoe", .greaterThanOrEqual), ("cts", .contains),
    ("sw", .startsWith), ("ew", .endsWith), ("in", .oneOf), ("nin", .noneOf),
    ("any", .any), ("all", .all)]

end OpCodes

def Operation.resolve? (codes : OpCodes) (token : String) : Option Operation :=
  if token.isEmpty then none
  else (ofName? token).or ((codes.find? token).or (OpCodes.builtin.find? token))

inductive Connective
  | andAlso | orElse | and | or | xor
deriving DecidableEq, Repr, Inhabited

namespace Connective

def catalog : List Connective := [andAlso, orElse, and, or, xor]

def name : Connective → String
  | andAlso => "AndAlso"
  | orElse => "OrElse"
  | and => "And"
  | or => "Or"
  | xor => "Xor"

def symbol : Connective → String
  | andAlso => "&&"
  | orElse => "||"
  | and => "&"
  | or => "|"
  | xor => "^"

def ofName? (text : String) : Option Connective :=
  catalog.find? fun op => sameName op.name text

/-- The Boolean function of a connective. -/
def apply : Connective → Bool → Bool → Bool
  | andAlso, l, r | and, l, r => l && r
  | orElse, l, r | or, l, r => l || r
  | xor, l, r => l ^^ r

/-- Two connectives do not look at their right side when the left one decides. -/
def skipsRight : Connective → Bool → Bool
  | andAlso, l => !l
  | orElse, l => l
  | _, _ => false

def combine (op : Connective) (left : Bool) (right : Unit → Bool) : Bool :=
  if op.skipsRight left then left else op.apply left (right ())

theorem combine_eq_apply (op : Connective) (left : Bool) (right : Unit → Bool) :
    op.combine left right = op.apply left (right ()) := by
  cases op <;> cases left <;> simp [combine, skipsRight, apply]

end Connective

end RecordQuery

import RecordQuery.Constant
import RecordQuery.MemberPath
import RecordQuery.Text.Search
import RecordQuery.Value.Order

/-!
# Predicates

Conditions on a value, and their evaluation. A comparison whose member has no value is false, unless
it compares with null; a substring test and a quantifier without a value to test are false.
-/

namespace RecordQuery

open Text

inductive Comparison
  | eq | ne | lt | le | gt | ge
deriving DecidableEq, Repr

namespace Comparison

def catalog : List Comparison := [eq, ne, lt, le, gt, ge]

def ofOperation? : Operation → Option Comparison
  | .equals => some eq
  | .notEqual => some ne
  | .lessThan => some lt
  | .lessThanOrEqual => some le
  | .greaterThan => some gt
  | .greaterThanOrEqual => some ge
  | _ => none

def holds : Comparison → Ordering → Bool
  | eq, o => o.isEq
  | ne, o => o.isNe
  | lt, o => o.isLT
  | le, o => o.isLE
  | gt, o => o.isGT
  | ge, o => o.isGE

def symbol : Comparison → String
  | eq => "=="
  | ne => "!="
  | lt => "<"
  | le => "<="
  | gt => ">"
  | ge => ">="

end Comparison

inductive TextTest
  | contains | startsWith | endsWith
deriving DecidableEq, Repr

namespace TextTest

def ofOperation? : Operation → Option TextTest
  | .contains => some contains
  | .startsWith => some startsWith
  | .endsWith => some endsWith
  | _ => none

def name : TextTest → String
  | contains => "Contains"
  | startsWith => "StartsWith"
  | endsWith => "EndsWith"

def symbol : TextTest → String
  | contains => "contains"
  | startsWith => "starts_with"
  | endsWith => "ends_with"

def holds : TextTest → String → String → Bool
  | contains, s, needle => Text.contains needle.toList s.toList
  | startsWith, s, needle => Text.startsWith needle.toList s.toList
  | endsWith, s, needle => Text.endsWith needle.toList s.toList

end TextTest

inductive Quantifier
  | any | all
deriving DecidableEq, Repr

namespace Quantifier

def name : Quantifier → String
  | any => "Any"
  | all => "All"

def symbol : Quantifier → String
  | any => "any"
  | all => "all"

def holds : Quantifier → List Value → (Value → Bool) → Bool
  | any, items, test => items.any test
  | all, items, test => items.all test

end Quantifier

inductive Predicate
  /-- With `fold` a string is compared by its lowercase form; the constant is lowercase already. -/
  | comparison (member : MemberPath) (op : Comparison) (constant : Constant) (fold : Bool)
  | textTest (member : MemberPath) (test : TextTest) (argument : String) (fold : Bool)
  | quantified (member : MemberPath) (quantifier : Quantifier) (body : Predicate)
  | binary (op : Connective) (left right : Predicate)
  | not (body : Predicate)
deriving DecidableEq

namespace Comparison

def holdsOfStrings (op : Comparison) (fold : Bool) (s c : String) : Bool :=
  match op, fold with
  | eq, true => lowercase s == c
  | ne, true => lowercase s != c
  | eq, false => s == c
  | ne, false => s != c
  | op, true => op.holds (collateIgnoreCase s c)
  | op, false => op.holds (collate s c)

def holdsOfNull (op : Comparison) (value : Value) : Bool :=
  match op with
  | eq => value.isNull
  | ne => !value.isNull
  | _ => false

def holdsOf (op : Comparison) (fold : Bool) (value : Value) (constant : Constant) : Bool :=
  match value, constant with
  | value, .null => op.holdsOfNull value
  | .null, _ => false
  | .string s, .string c => op.holdsOfStrings fold s c
  | value, constant => (value.compare? false constant.toValue).any op.holds

end Comparison

def TextTest.holdsOf (test : TextTest) (fold : Bool) (argument : String) : Value → Bool
  | .string s => test.holds (if fold then lowercase s else s) argument
  | _ => false

namespace Predicate

def evaluate : Predicate → Value → Bool
  | comparison member op constant fold, root =>
    (member.read root).any fun value => op.holdsOf fold value constant
  | textTest member test argument fold, root =>
    (member.read root).any (test.holdsOf fold argument)
  | quantified member quantifier body, root =>
    match member.read root with
    | some (.list items) => quantifier.holds items fun item => body.evaluate item
    | _ => false
  | binary op left right, root => op.combine (left.evaluate root) fun _ => right.evaluate root
  | not body, root => !body.evaluate root

def foldText (fold : Bool) : String := if fold then ".to_lowercase()" else ""

def isBinary : Predicate → Bool
  | binary .. => true
  | _ => false

def text : Predicate → String
  | comparison member op constant fold =>
    s!"{member.text}{foldText fold} {op.symbol} {constant.text}"
  | textTest member test argument fold =>
    s!"{member.text}{foldText fold}.{test.symbol}({quoted argument})"
  | quantified member quantifier body => s!"{member.text}.{quantifier.symbol}({body.text})"
  | binary op left right => s!"({left.text} {op.symbol} {right.text})"
  | not body => if body.isBinary then s!"!{body.text}" else s!"!({body.text})"

end Predicate

end RecordQuery

import RecordQuery.Number.Basic
import RecordQuery.Text.Ascii
import RecordQuery.Text.Quoted
import RecordQuery.Time.Timestamp

/-!
# Values

What the members of records hold. A record is seen through its members, found ignoring ASCII case;
a member without a value, or one that a record does not have, is null.
-/

namespace RecordQuery

open Text

inductive Value
  | string (s : String)
  | number (n : Number)
  | timestamp (t : Timestamp)
  | enum (discriminant : Int64)
  | bool (b : Bool)
  | record (members : List (String × Value))
  | list (items : List Value)
  | null
deriving Inhabited

namespace Value

def isNull : Value → Bool
  | null => true
  | _ => false

@[simp] theorem isNull_iff {v : Value} : v.isNull = true ↔ v = null := by cases v <;> simp [isNull]

def isRecord : Value → Bool
  | record _ => true
  | _ => false

def member : Value → String → Value
  | record members, name => (lookup members name).getD null
  | _, _ => null

theorem member_of_not_isRecord {v : Value} (h : v.isRecord = false) (name : String) :
    v.member name = null := by cases v <;> simp_all [isRecord, member]

mutual

/-- Numbers are equal by value whatever their kinds. Records are never equal: they are compared
through their members only. -/
def equals : Value → Value → Bool
  | string a, string b => a == b
  | number a, number b => a.compare? b == some .eq
  | timestamp a, timestamp b => a == b
  | enum a, enum b => a == b
  | bool a, bool b => a == b
  | list as, list bs => equalsAll as bs
  | null, null => true
  | _, _ => false

def equalsAll : List Value → List Value → Bool
  | [], [] => true
  | a :: as, b :: bs => equals a b && equalsAll as bs
  | _, _ => false

end

def diagnosticNumber : Number → String
  | .int n => s!"I64({n.toInt})"
  | .uint n => s!"U64({n.toNat})"
  | .float x => s!"F64({x.text .diagnostic})"

mutual

def diagnostic : Value → String
  | string s => s!"String({quoted s})"
  | number n => s!"Number({diagnosticNumber n})"
  | timestamp t => s!"Timestamp(Timestamp({t.millis.toInt}))"
  | enum d => s!"Enum({d.toInt})"
  | bool b => s!"Bool({b})"
  | record _ => "Record(..)"
  | list items => "List([" ++ ", ".intercalate (diagnosticAll items) ++ "])"
  | null => "Null"

def diagnosticAll : List Value → List String
  | [] => []
  | item :: items => diagnostic item :: diagnosticAll items

end

end Value

end RecordQuery

import RecordQuery.Collation
import RecordQuery.Value.Basic

/-!
# Order of values

Values of one type are ordered; those of different types and NaN are not. No value comes after every
value, so that missing members sort last.
-/

namespace RecordQuery.Value

def compare? (ignoreCase : Bool) : Value → Value → Option Ordering
  | string a, string b => some (if ignoreCase then collateIgnoreCase a b else collate a b)
  | number a, number b => a.compare? b
  | timestamp a, timestamp b => some (compare a.millis.toInt b.millis.toInt)
  | enum a, enum b => some (compare a.toInt b.toInt)
  | bool a, bool b => some (compare a b)
  | null, null => some .eq
  | null, _ => some .gt
  | _, null => some .lt
  | _, _ => none

end RecordQuery.Value

import RecordQuery.Number.Shortest

/-!
# Numbers

Signed and unsigned integers of 64 bits and floating-point numbers. Two integers compare exactly,
whatever their kinds; beside a floating-point number an integer is rounded to one.
-/

namespace RecordQuery

inductive Number
  | int (n : Int64)
  | uint (n : UInt64)
  | float (x : Binary64)
deriving DecidableEq, Inhabited

namespace Number

def integer? : Number → Option Int
  | .int n => some n.toInt
  | .uint n => some n.toNat
  | .float _ => none

def toFloat : Number → Binary64
  | .int n => .ofInt n.toInt
  | .uint n => .ofInt n.toNat
  | .float x => x

def isNaN : Number → Bool
  | .float x => x.isNaN
  | _ => false

def compare? (a b : Number) : Option Ordering :=
  match a.integer?, b.integer? with
  | some m, some n => some (compare m n)
  | _, _ => Binary64.compare? a.toFloat b.toFloat

def text : Number → String
  | .int n => toString n.toInt
  | .uint n => toString n.toNat
  | .float x => x.text .plain

end Number

end RecordQuery

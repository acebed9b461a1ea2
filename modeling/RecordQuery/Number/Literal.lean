import RecordQuery.Number.Binary64
import RecordQuery.Text.Integer

/-!
# Literals of floating-point numbers

A sign, then `inf`, `infinity` or `nan` in any case, or decimal digits with at most one point, at
least one digit beside it, and perhaps an exponent.
-/

namespace RecordQuery

/-- What a literal denotes before it is rounded. -/
inductive FloatLiteral
  | nan
  | infinite (negative : Bool)
  | decimal (negative : Bool) (digits : Nat) (exponent : Int)
deriving DecidableEq

namespace FloatLiteral

open Text

def unsigned? (negative : Bool) (cs : List Char) : Option FloatLiteral :=
  let key := String.ofList (cs.map Char.toLower)
  if key = "nan" then some .nan
  else if key = "inf" ∨ key = "infinity" then some (.infinite negative)
  else
    let whole := cs.takeWhile isDigit
    let afterWhole := cs.dropWhile isDigit
    let (fraction, afterFraction) := match afterWhole with
      | '.' :: rest => (rest.takeWhile isDigit, rest.dropWhile isDigit)
      | _ => ([], afterWhole)
    let digits := whole ++ fraction
    if digits.isEmpty then none else
      let exponent := match afterFraction with
        | [] => some 0
        | c :: rest => if c = 'e' ∨ c = 'E' then readInt? rest else none
      exponent.map fun e => .decimal negative (digitsValue digits) (e - fraction.length)

def ofChars? : List Char → Option FloatLiteral
  | '-' :: cs => unsigned? true cs
  | '+' :: cs => unsigned? false cs
  | cs => unsigned? false cs

def ofString? (s : String) : Option FloatLiteral := ofChars? s.toList

def toBinary64 : FloatLiteral → Binary64
  | .nan => .nan
  | .infinite negative => .infinity negative
  | .decimal negative digits exponent => .ofDecimal negative digits exponent

/-- The literal as a number of the 32-bit format. -/
def toSingle : FloatLiteral → Binary64
  | .decimal negative digits exponent => .ofDecimalSingle negative digits exponent
  | other => other.toBinary64

end FloatLiteral

def Binary64.ofString? (s : String) : Option Binary64 :=
  (FloatLiteral.ofString? s).map FloatLiteral.toBinary64

end RecordQuery

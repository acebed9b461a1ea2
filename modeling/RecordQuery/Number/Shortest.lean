import RecordQuery.Number.Binary64

/-!
# Shortest decimal text of a number

Every real number near enough to a floating-point number reads back as that number. Among the
decimals that do, the text has one on the coarsest decimal grid, and there the nearest. `Style` says
when a text has an exponent and whether a whole number shows a point.
-/

namespace RecordQuery.Binary64

/-- The numbers `low / 4` and `high / 4` that bound the reals which round to `4 * m / 4`; they
belong to it when `m` is even. -/
def neighbourhood (m : Nat) (e : Int) : Nat × Nat :=
  (4 * m - (if m = 1 <<< 52 ∧ e ≠ -1074 then 1 else 2), 4 * m + 2)

/-- A multiple of `10 ^ p` that reads back as `m * 2 ^ e`, the nearest if there are two. -/
def onGrid? (m : Nat) (e : Int) (p : Int) : Option Nat :=
  let (low, high) := neighbourhood m e
  let lift (n : Nat) : Nat := n <<< (e - 2).toNat * Nat.pow 10 (-p).toNat
  let unit := 1 <<< (2 - e).toNat * Nat.pow 10 p.toNat
  let value := lift (4 * m)
  let below := value / unit
  let inside (d : Nat) : Bool :=
    d != 0 && if m % 2 = 0 then lift low ≤ d * unit && d * unit ≤ lift high
      else lift low < d * unit && d * unit < lift high
  match inside below, inside (below + 1) with
  | true, true => some (if 2 * value < (2 * below + 1) * unit then below else below + 1)
  | true, false => some below
  | false, true => some (below + 1)
  | false, false => none

/-- Tries `10 ^ (n - 343)` and then ever finer grids; the finest has a point for every number. -/
def onCoarsestGrid (m : Nat) (e : Int) : Nat → Nat × Int
  | 0 => ((onGrid? m e (-343)).getD 0, -343)
  | n + 1 =>
    let p : Int := (n : Int) + 1 - 343
    match onGrid? m e p with
    | some d => (d, p)
    | none => onCoarsestGrid m e n

/-- Digits and power of ten of the shortest decimal that reads back. -/
def shortest (x : Binary64) : Nat × Int :=
  let (m, e) := x.significand
  onCoarsestGrid m e 653

structure Style where
  /-- Powers of ten of the leading digit for which the text has no exponent; all when absent. -/
  positional : Option (Int × Int)
  /-- Written after a whole number without an exponent. -/
  wholeSuffix : String

def Style.plain : Style := ⟨none, ""⟩

/-- Diagnostics write a point in whole numbers and an exponent below `10 ^ -4` and from `10 ^ 16`. -/
def Style.diagnostic : Style := ⟨some (-4, 15), ".0"⟩

def Style.isPositional (style : Style) (leading : Int) : Bool :=
  match style.positional with
  | none => true
  | some (least, greatest) => least ≤ leading && leading ≤ greatest

def positionalText (style : Style) (digits : List Char) (p : Int) : List Char :=
  if 0 ≤ p then digits ++ List.replicate p.toNat '0' ++ style.wholeSuffix.toList
  else
    let places := (-p).toNat
    let padded := List.replicate (places + 1 - digits.length) '0' ++ digits
    padded.take (padded.length - places) ++ '.' :: padded.drop (padded.length - places)

def exponentText (digits : List Char) (leading : Int) : List Char :=
  let mantissa := match digits with
    | first :: second :: rest => first :: '.' :: second :: rest
    | short => short
  mantissa ++ 'e' :: (toString leading).toList

def text (style : Style) (x : Binary64) : String :=
  if x.isNaN then "NaN" else
    let absolute :=
      if x.isInfinite then "inf".toList
      else if x.magnitude = 0 then positionalText style ['0'] 0
      else
        let (d, p) := x.shortest
        let digits := Nat.toDigits 10 d
        let leading := p + digits.length - 1
        if style.isPositional leading then positionalText style digits p
        else exponentText digits leading
    String.ofList (if x.isNegative then '-' :: absolute else absolute)

end RecordQuery.Binary64

import RecordQuery.Text.Blank
import RecordQuery.Text.Integer
import RecordQuery.Time.Calendar

/-!
# Timestamps

A point in time is a count of milliseconds from the start of 1970 in UTC. Its text is a date and a
time of day with the offset `+00:00`. It is read from a count of milliseconds, from a date and time
with an offset, or from a date, tried in this order.
-/

namespace RecordQuery

structure Timestamp where
  millis : Int64
deriving DecidableEq, Inhabited

namespace Timestamp

open Text

def ofSeconds (seconds : Int64) : Timestamp := ⟨seconds * 1000⟩

def millisPerDay : Int := 86400000

def ofMillis? (n : Int) : Option Timestamp := (int64? n).map Timestamp.mk

/-- Midnight of a date. -/
def ofDate? (date : Date) : Option Timestamp :=
  if date.isValid then ofMillis? (date.toDayNumber * millisPerDay) else none

/-- Midnight of the day a timestamp falls on. -/
def startOfDay (t : Timestamp) : Timestamp :=
  ⟨Int64.ofInt (t.millis.toInt / millisPerDay * millisPerDay)⟩

def padded (width n : Nat) : List Char :=
  let digits := Nat.toDigits 10 n
  List.replicate (width - digits.length) '0' ++ digits

/-- Years of four digits stand alone, all others have a sign. -/
def yearText (year : Int) : List Char :=
  let digits := padded 4 year.natAbs
  if 0 ≤ year ∧ year ≤ 9999 then digits else (if year < 0 then '-' else '+') :: digits

def dateText (date : Date) : List Char :=
  yearText date.year ++ '-' :: padded 2 date.month ++ '-' :: padded 2 date.day

/-- Milliseconds are shown unless they are zero. -/
def timeText (millisOfDay : Nat) : List Char :=
  let seconds := millisOfDay / 1000
  let millis := millisOfDay % 1000
  padded 2 (seconds / 3600) ++ ':' :: padded 2 (seconds / 60 % 60) ++ ':' :: padded 2 (seconds % 60)
    ++ if millis = 0 then [] else '.' :: padded 3 millis

/-- Outside the calendar the bare count is shown. -/
def text (t : Timestamp) : String :=
  let n := t.millis.toInt
  let date := Date.ofDayNumber (n / millisPerDay)
  if date.inRange then
    String.ofList (dateText date ++ 'T' :: timeText (n % millisPerDay).toNat ++ "+00:00".toList)
  else toString n ++ "ms"

/-- Exactly `n` digits and the rest of the text. -/
def readDigits? (n : Nat) (cs : List Char) : Option (Nat × List Char) :=
  let digits := cs.take n
  if digits.length = n ∧ digits.all isDigit then some (digitsValue digits, cs.drop n) else none

def expect? (c : Char) : List Char → Option (List Char)
  | d :: rest => if d = c then some rest else none
  | [] => none

/-- A fraction of a second in milliseconds; finer digits are dropped. -/
def readFraction? : List Char → Option (Nat × List Char)
  | '.' :: cs =>
    let digits := cs.takeWhile isDigit
    if digits.isEmpty then none
    else some (digitsValue ((digits ++ ['0', '0']).take 3), cs.dropWhile isDigit)
  | cs => some (0, cs)

/-- An offset from UTC in minutes; the minus sign may be the mathematical one. -/
def readOffset? : List Char → Option Int
  | [] => none
  | sign :: rest =>
    if sign = 'Z' ∨ sign = 'z' then (if rest.isEmpty then some 0 else none)
    else do
      let (hours, rest) ← readDigits? 2 rest
      let rest ← expect? ':' rest
      let (minutes, rest) ← readDigits? 2 rest
      let offset : Int := hours * 60 + minutes
      if ¬ rest.isEmpty ∨ 24 ≤ hours ∨ 60 ≤ minutes then none
      else if sign = '+' then some offset
      else if sign = '-' ∨ sign = '−' then some (-offset)
      else none

def readClock? (cs : List Char) : Option (Int × List Char) := do
  let (hour, cs) ← readDigits? 2 cs
  let cs ← expect? ':' cs
  let (minute, cs) ← readDigits? 2 cs
  let cs ← expect? ':' cs
  let (second, cs) ← readDigits? 2 cs
  let (fraction, cs) ← readFraction? cs
  -- The second 60 is a leap second and counts on into the next minute.
  if 24 ≤ hour ∨ 60 ≤ minute ∨ 61 ≤ second then none
  else some ((((hour * 60 + minute) * 60 + second) * 1000 + fraction : Nat), cs)

/-- Date, `T` or a space, time of day, offset. -/
def readMoment? (cs : List Char) : Option Timestamp := do
  let (year, cs) ← readDigits? 4 cs
  let cs ← expect? '-' cs
  let (month, cs) ← readDigits? 2 cs
  let cs ← expect? '-' cs
  let (day, cs) ← readDigits? 2 cs
  let date : Date := ⟨year, month, day⟩
  let (millis, cs) ← match cs with
    | c :: cs => if c = 'T' ∨ c = 't' ∨ c = ' ' then readClock? cs else none
    | [] => none
  let offset ← readOffset? cs
  if date.isValid then ofMillis? (date.toDayNumber * millisPerDay + millis - offset * 60000)
  else none

/-- At least one and at most `most` digits. -/
def readUpTo? (most : Nat) (cs : List Char) : Option (Nat × List Char) :=
  let digits := (cs.take most).takeWhile isDigit
  if digits.isEmpty then none else some (digitsValue digits, cs.drop digits.length)

/-- A year without a sign has at most four digits. -/
def readYear? : List Char → Option (Int × List Char)
  | '-' :: cs => (readUpTo? cs.length cs).map fun (n, rest) => (-(n : Int), rest)
  | '+' :: cs => (readUpTo? cs.length cs).map fun (n, rest) => ((n : Int), rest)
  | cs => (readUpTo? 4 cs).map fun (n, rest) => ((n : Int), rest)

/-- Year, month and day with hyphens; each number may have blanks before it. -/
def readDate? (cs : List Char) : Option Timestamp := do
  let (year, cs) ← readYear? (trimStart cs)
  let cs ← expect? '-' cs
  let (month, cs) ← readUpTo? 2 (trimStart cs)
  let cs ← expect? '-' cs
  let (day, cs) ← readUpTo? 2 (trimStart cs)
  if cs.isEmpty then ofDate? ⟨year, month, day⟩ else none

def ofString? (s : String) : Option Timestamp :=
  let cs := trimChars s.toList
  ((readInt? cs).bind ofMillis?).or ((readMoment? cs).or (readDate? cs))

end Timestamp

end RecordQuery

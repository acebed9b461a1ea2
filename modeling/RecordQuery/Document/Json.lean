import RecordQuery.Document.Basic

/-!
# JSON texts

A text is split into tokens, and the tokens drive a machine whose stack holds the lists and records
that are still open. A string with half a surrogate pair, a number out of range and a value nested
too deep have the form of a value and are unreadable, and so is a record with an unreadable key.
`render` writes a document as a text of one line.
-/

namespace RecordQuery.Document.Json

open Text

inductive Token
  | listOpen | listClose | recordOpen | recordClose | comma | colon
  /-- Nothing, if the string has half a surrogate pair. -/
  | string (s : Option String)
  | atom (value : Document)
deriving Inhabited

def isSpace (c : Char) : Bool := c == ' ' || c == '\t' || c == '\n' || c == '\r'

def readHex4? (cs : List Char) : Option (Nat × List Char) :=
  if (cs.take 4).length < 4 then none
  else (readBase? 16 (cs.take 4)).map fun n => (n, cs.drop 4)

/-- A low surrogate written as an escape. -/
def readLowSurrogate? : List Char → Option (Nat × List Char)
  | '\\' :: 'u' :: cs => (readHex4? cs).filter fun (n, _) => 0xDC00 ≤ n && n < 0xE000
  | _ => none

/-- The character of an escape after `\u`. Half a surrogate pair has the form of an escape, but it
is no character. -/
def readCodePoint? (cs : List Char) : Option (Option Char × List Char) := do
  let (n, rest) ← readHex4? cs
  if 0xD800 ≤ n ∧ n < 0xDC00 then
    match readLowSurrogate? rest with
    | some (m, rest) =>
      some (some (Char.ofNat (0x10000 + (n - 0xD800) * 0x400 + (m - 0xDC00))), rest)
    | none => some (none, rest)
  else if 0xDC00 ≤ n ∧ n < 0xE000 then some (none, rest)
  else some (some (Char.ofNat n), rest)

def escaped? : Char → Option Char
  | '"' => some '"'
  | '\\' => some '\\'
  | '/' => some '/'
  | 'b' => some '\x08'
  | 'f' => some '\x0c'
  | 'n' => some '\n'
  | 'r' => some '\r'
  | 't' => some '\t'
  | _ => none

/-- Puts a character before a text; neither may be missing. -/
def consChar (c : Option Char) (text : Option (List Char)) : Option (List Char) :=
  return (← c) :: (← text)

/-- Reads a string up to its closing quote. The bound is the length of the text. -/
def readString? (cs : List Char) (bound : Nat) : Option (Option (List Char) × List Char) :=
  match bound, cs with
  | _, '"' :: rest => some (some [], rest)
  | bound + 1, '\\' :: 'u' :: rest => do
    let (c, rest) ← readCodePoint? rest
    let (tail, rest) ← readString? rest bound
    some (consChar c tail, rest)
  | bound + 1, '\\' :: c :: rest => do
    let c ← escaped? c
    let (tail, rest) ← readString? rest bound
    some (consChar c tail, rest)
  | bound + 1, c :: rest =>
    if c.toNat < 0x20 ∨ c = '\\' then none else do
      let (tail, rest) ← readString? rest bound
      some (consChar c tail, rest)
  | _, _ => none

def digitRun (cs : List Char) : List Char × List Char := (cs.takeWhile isDigit, cs.dropWhile isDigit)

/-- A whole number has no zero in front. -/
def readWhole? (cs : List Char) : Option (List Char × List Char) :=
  match cs with
  | '0' :: rest => some (['0'], rest)
  | _ =>
    let (digits, rest) := digitRun cs
    if digits.isEmpty then none else some (digits, rest)

def readFraction? : List Char → Option (List Char × List Char)
  | '.' :: cs =>
    let (digits, rest) := digitRun cs
    if digits.isEmpty then none else some (digits, rest)
  | cs => some ([], cs)

def readExponent? : List Char → Option (Option Int × List Char)
  | c :: cs =>
    if c = 'e' ∨ c = 'E' then
      let (sign, unsigned) : List Char × List Char := match cs with
        | '+' :: cs => (['+'], cs)
        | '-' :: cs => (['-'], cs)
        | cs => ([], cs)
      let (digits, rest) := digitRun unsigned
      (readInt? (sign ++ digits)).map fun n => (some n, rest)
    else some (none, c :: cs)
  | [] => some (none, [])

/-- Reads digits on from a number, as long as it fits in 64 bits; also how many digits are left. -/
def leadingValue (n : Nat) : List Char → Nat × Nat
  | [] => (n, 0)
  | c :: cs =>
    let next := n * 10 + (c.toNat - '0'.toNat)
    if next < UInt64.size then leadingValue next cs else (n, cs.length + 1)

/-- A number is the product of its leading digits, as many as fit in 64 bits, and of a power of ten.
Each of the two is rounded, and so is the product, which must be finite. -/
def isInRange (digits : List Char) (exponent : Int) : Bool :=
  let (n, left) := leadingValue 0 digits
  let exponent := exponent + left
  n == 0 || exponent ≤ 0 ||
    (exponent ≤ 308 && !((Binary64.ofInt n).mul (.ofDecimal false 1 exponent)).isInfinite)

/-- Integers of 64 bits, signed or unsigned, are kept as such; all else is a decimal. -/
def numberOf (negative : Bool) (whole fraction : List Char) (exponent : Option Int) : Document :=
  let digits := whole ++ fraction
  let value := digitsValue digits
  let n : Int := if negative then -(value : Int) else value
  if fraction.isEmpty ∧ exponent = none ∧ Int64.minValue.toInt ≤ n ∧ n < UInt64.size ∧
      ¬(negative ∧ value = 0) then
    .integer n
  else
    let exponent := exponent.getD 0 - fraction.length
    if isInRange digits exponent then .decimal (.decimal negative value exponent) else .unreadable

def readNumber? (cs : List Char) : Option (Document × List Char) := do
  let (negative, unsigned) := match cs with
    | '-' :: rest => (true, rest)
    | _ => (false, cs)
  let (whole, rest) ← readWhole? unsigned
  let (fraction, rest) ← readFraction? rest
  let (exponent, rest) ← readExponent? rest
  some (numberOf negative whole fraction exponent, rest)

def readToken? : List Char → Option (Token × List Char)
  | '[' :: rest => some (.listOpen, rest)
  | ']' :: rest => some (.listClose, rest)
  | '{' :: rest => some (.recordOpen, rest)
  | '}' :: rest => some (.recordClose, rest)
  | ',' :: rest => some (.comma, rest)
  | ':' :: rest => some (.colon, rest)
  | '"' :: rest =>
    (readString? rest rest.length).map fun (s, rest) => (.string (s.map String.ofList), rest)
  | 'n' :: 'u' :: 'l' :: 'l' :: rest => some (.atom .null, rest)
  | 't' :: 'r' :: 'u' :: 'e' :: rest => some (.atom (.bool true), rest)
  | 'f' :: 'a' :: 'l' :: 's' :: 'e' :: rest => some (.atom (.bool false), rest)
  | cs => (readNumber? cs).map fun (value, rest) => (.atom value, rest)

/-- All tokens of a text. Each takes a character, so the length of the text bounds their number. -/
def tokens? (bound : Nat) (cs : List Char) : Option (List Token) :=
  match bound, cs.dropWhile isSpace with
  | _, [] => some []
  | 0, _ => none
  | bound + 1, cs => do
    let (token, rest) ← readToken? cs
    let tokens ← tokens? bound rest
    some (token :: tokens)

/-- A list or record that is open, with its parts in reverse. An unreadable key is missing. -/
inductive Frame
  | list (items : List Document)
  | record (entries : List (Option String × Document))
  | entry (entries : List (Option String × Document)) (key : Option String)

/-- A record with an unreadable key is itself unreadable. -/
def recordOf (entries : List (Option String × Document)) : Document :=
  match entries.mapM fun (key, value) => key.map (·, value) with
  | some entries => .record entries
  | none => .unreadable

/-- What may come next. -/
inductive Mode
  | value
  | firstItem
  | firstKey
  | key
  | colon
  | afterValue
  | finished (document : Document)

structure State where
  stack : List Frame
  mode : Mode

/-- Puts a finished value into the innermost open frame. -/
def State.complete (value : Document) : List Frame → State
  | [] => ⟨[], .finished value⟩
  | .list items :: stack => ⟨.list (value :: items) :: stack, .afterValue⟩
  | .entry entries key :: stack => ⟨.record ((key, value) :: entries) :: stack, .afterValue⟩
  | .record entries :: stack => ⟨.record entries :: stack, .afterValue⟩

def maxDepth : Nat := 127

/-- Closes a list or a record, which can only be read if it is not too deep in others. -/
def State.close (value : Document) (stack : List Frame) : State :=
  State.complete (if stack.length < maxDepth then value else .unreadable) stack

def State.beginValue? (stack : List Frame) : Token → Option State
  | .atom value => some (State.complete value stack)
  | .string s => some (State.complete (s.elim .unreadable .string) stack)
  | .listOpen => some ⟨.list [] :: stack, .firstItem⟩
  | .recordOpen => some ⟨.record [] :: stack, .firstKey⟩
  | _ => none

def State.step? (state : State) (token : Token) : Option State :=
  match state.mode, state.stack, token with
  | .value, stack, token => State.beginValue? stack token
  | .firstItem, .list _ :: stack, .listClose => some (State.close (.list []) stack)
  | .firstItem, stack, token => State.beginValue? stack token
  | .firstKey, .record _ :: stack, .recordClose => some (State.close (.record []) stack)
  | .firstKey, .record entries :: stack, .string key => some ⟨.entry entries key :: stack, .colon⟩
  | .key, .record entries :: stack, .string key => some ⟨.entry entries key :: stack, .colon⟩
  | .colon, stack, .colon => some ⟨stack, .value⟩
  | .afterValue, .list items :: stack, .comma => some ⟨.list items :: stack, .value⟩
  | .afterValue, .list items :: stack, .listClose =>
    some (State.close (.list items.reverse) stack)
  | .afterValue, .record entries :: stack, .comma => some ⟨.record entries :: stack, .key⟩
  | .afterValue, .record entries :: stack, .recordClose =>
    some (State.close (recordOf entries.reverse) stack)
  | _, _, _ => none

def State.finished? : State → Option Document
  | ⟨[], .finished document⟩ => some document
  | _ => none

def parse? (text : String) : Option Document := do
  let cs := text.toList
  let tokens ← tokens? cs.length cs
  let state ← tokens.foldlM State.step? ⟨[], .value⟩
  state.finished?

def hexDigit (n : Nat) : Char := (Nat.toDigits 16 n).headD '0'

/-- The letter that stands for a control character behind a backslash. -/
def controlLetter? : Char → Option Char
  | '\x08' => some 'b'
  | '\x0c' => some 'f'
  | '\n' => some 'n'
  | '\r' => some 'r'
  | '\t' => some 't'
  | _ => none

def escape (c : Char) : List Char :=
  if c = '"' ∨ c = '\\' then ['\\', c]
  else match controlLetter? c with
  | some letter => ['\\', letter]
  | none =>
    if c.toNat < 0x20 then
      ['\\', 'u', '0', '0', hexDigit (c.toNat / 16), hexDigit (c.toNat % 16)]
    else [c]

def stringText (s : String) : String := String.ofList ('"' :: s.toList.flatMap escape ++ ['"'])

mutual

def render : Document → String
  | .blank | .null | .unreadable => "null"
  | .bool b => if b then "true" else "false"
  | .integer n => toString n
  | .negativeZero => "-0"
  | .decimal .nan | .decimal (.infinite _) => "null"
  | .decimal (.decimal negative digits exponent) =>
    (if negative then "-" else "") ++ toString digits ++ "e" ++ toString exponent
  | .string s => stringText s
  | .list items => "[" ++ ",".intercalate (renderItems items) ++ "]"
  | .record entries => "\x7b" ++ ",".intercalate (renderEntries entries) ++ "\x7d"

def renderItems : List Document → List String
  | [] => []
  | item :: items => render item :: renderItems items

def renderEntries : List (String × Document) → List String
  | [] => []
  | (key, value) :: entries => (stringText key ++ ":" ++ render value) :: renderEntries entries

end

end RecordQuery.Document.Json

import RecordQuery.Document.Basic

/-!
# Scalars of YAML texts

A scalar is plain or stands in quotes. It may go on over several lines: a line break in it is a
space, and of several breaks in a row the first is left out. A cursor is a place in a text, which
knows its line and column and whether a block may begin there.
-/

namespace RecordQuery.Document.Yaml

open Text

def isBlank (c : Char) : Bool := c == ' ' || c == '\t'

/-- Carriage returns and next-line characters have become line feeds before. -/
def isBreak (c : Char) : Bool := c == '\n' || c == '\u2028' || c == '\u2029'

def beginsBlank (cs : List Char) : Bool := cs.head?.all fun c => isBlank c || isBreak c

/-- Brackets and commas, which end a plain scalar inside brackets. -/
def isFlowMark (c : Char) : Bool := ['[', ']', '{', '}', ','].contains c

structure Cursor where
  line : Nat
  column : Nat
  /-- Only blanks, and hyphens of list items, stand before this place on its line. -/
  opensBlock : Bool
  rest : List Char

namespace Cursor

/-- The place behind `count` characters of the same line. -/
def advance (cursor : Cursor) (count : Nat) : Cursor :=
  ⟨cursor.line, cursor.column + count, false, cursor.rest.drop count⟩

/-- Three hyphens or three points at the beginning of a line. -/
def isMarker (cursor : Cursor) : Bool :=
  cursor.column == 0 && beginsBlank (cursor.rest.drop 3) &&
    (cursor.rest.take 3 == ['-', '-', '-'] || cursor.rest.take 3 == ['.', '.', '.'])

def isEnd (cursor : Cursor) : Bool := cursor.rest.isEmpty || cursor.isMarker

end Cursor

/-- The blanks and line breaks between two words of a scalar. -/
structure Gap where
  blanks : List Char
  breaks : List Char
  /-- A tab stands where a line is to be indented. -/
  misindented : Bool
  after : Cursor

namespace Gap

/-- Reads a gap. Lines after the first have to reach the column `least` without tabs. -/
def read (least line column : Nat) (broken : Bool) : List Char → Gap
  | [] => ⟨[], [], false, ⟨line, column, broken, []⟩⟩
  | c :: cs =>
    if isBreak c then
      let gap := read least (line + 1) 0 true cs
      { gap with breaks := c :: gap.breaks }
    else if isBlank c then
      let gap := read least line (column + 1) broken cs
      { gap with
        blanks := c :: gap.blanks
        misindented := gap.misindented || (broken && column < least && c == '\t') }
    else ⟨[], [], false, ⟨line, column, broken, c :: cs⟩⟩

def ofCursor (least : Nat) (cursor : Cursor) : Gap :=
  read least cursor.line cursor.column false cursor.rest

/-- The text that a gap stands for. -/
def text (gap : Gap) : List Char :=
  match gap.breaks with
  | [] => gap.blanks
  | ['\n'] => [' ']
  | '\n' :: more => more
  | breaks => breaks

end Gap

def prepend (cs : List Char) : Option (List Char × Cursor) → Option (List Char × Cursor) :=
  Option.map fun (more, cursor) => (cs ++ more, cursor)

def escaped? : Char → Option Char
  | '0' => some '\x00'
  | 'a' => some '\x07'
  | 'b' => some '\x08'
  | 't' | '\t' => some '\t'
  | 'n' => some '\n'
  | 'v' => some '\x0b'
  | 'f' => some '\x0c'
  | 'r' => some '\r'
  | 'e' => some '\x1b'
  | ' ' => some ' '
  | '"' => some '"'
  | '/' => some '/'
  | '\\' => some '\\'
  | 'N' => some '\u0085'
  | '_' => some '\u00a0'
  | 'L' => some '\u2028'
  | 'P' => some '\u2029'
  | _ => none

/-- The number of hexadecimal digits after the letter of an escape. -/
def escapeWidth : Char → Nat
  | 'x' => 2
  | 'u' => 4
  | 'U' => 8
  | _ => 0

/-- The character of an escape, without its backslash, and the length of the escape. Surrogates are
no characters. -/
def readEscape? : List Char → Option (Char × Nat)
  | [] => none
  | c :: cs =>
    let width := escapeWidth c
    if width = 0 then (escaped? c).map fun c => (c, 1)
    else if (cs.take width).length < width then none
    else do
      let n ← readBase? 16 (cs.take width)
      if n.isValidChar then some (Char.ofNat n, width + 1) else none

/-- Reads up to the closing quote. Between double quotes, a backslash begins an escape and also
hides a line break; between single quotes, a quote is doubled. -/
def readQuoted? (quote : Char) : Nat → Cursor → Option (List Char × Cursor)
  | 0, _ => none
  | bound + 1, cursor =>
    let goOn := fun (text : List Char) (after : Cursor) =>
      if after.isMarker then none else prepend text (readQuoted? quote bound after)
    match cursor.rest with
    | [] => none
    | c :: cs =>
      if isBlank c || isBreak c then
        let gap := Gap.ofCursor 0 cursor
        goOn gap.text gap.after
      else if c = quote then
        if quote = '\x27' ∧ cs.head? = some quote then goOn [quote] (cursor.advance 2)
        else some ([], cursor.advance 1)
      else if c = '\\' ∧ quote = '"' then
        if cs.head?.any isBreak then
          let gap := Gap.read 0 (cursor.line + 1) 0 true (cs.drop 1)
          goOn gap.breaks gap.after
        else do
          let (c, length) ← readEscape? cs
          goOn [c] (cursor.advance (length + 1))
      else goOn [c] (cursor.advance 1)

/-- A plain scalar does not begin with a character that has a meaning. -/
def beginsPlain (inFlow : Bool) : List Char → Bool
  | [] => false
  | c :: rest =>
    if c == '-' then !beginsBlank rest
    else if c == '?' || c == ':' then !(inFlow || beginsBlank rest)
    else !(isBlank c || isFlowMark c ||
      ['#', '&', '*', '!', '|', '>', '\x27', '"', '%', '@', '\x60'].contains c)

/-- Cuts behind the characters up to a blank, or up to one that ends a plain scalar. -/
def cutWord (inFlow : Bool) : List Char → List Char × List Char
  | [] => ([], [])
  | c :: cs =>
    let followedByMark := inFlow && cs.head?.any fun c => c == '?' || isFlowMark c
    if isBlank c || isBreak c || (c == ':' && (beginsBlank cs || followedByMark)) ||
        (inFlow && isFlowMark c) then ([], c :: cs)
    else
      let (word, rest) := cutWord inFlow cs
      (c :: word, rest)

/-- Inside brackets a colon before a mark is refused. -/
def endsInColonAndMark (inFlow : Bool) : List Char → Bool
  | ':' :: c :: _ => inFlow && (c == '?' || isFlowMark c)
  | _ => false

/-- Reads the words of a plain scalar. Outside of brackets, it ends before a line that does not
reach the column `least`. -/
def readPlain? (inFlow : Bool) (least : Nat) : Nat → Cursor → Option (List Char × Cursor)
  | 0, _ => none
  | bound + 1, cursor =>
    let (word, rest) := cutWord inFlow cursor.rest
    let afterWord := cursor.advance word.length
    if endsInColonAndMark inFlow rest then none
    else
      let gap := Gap.ofCursor least afterWord
      let next := gap.after
      if gap.misindented then none
      else if next.isEnd || next.rest.head? == some '#' || (!inFlow && next.column < least) ||
          gap.text.isEmpty || (cutWord inFlow next.rest).1.isEmpty then
        if endsInColonAndMark inFlow next.rest then none else some (word, next)
      else prepend (word ++ gap.text) (readPlain? inFlow least bound next)

/-- Integers of 64 bits are kept as such. Those of 128 bits are integers too, but no value can hold
them, and longer ones are no integers. -/
def integerOf? (negative : Bool) (n : Nat) : Option Document :=
  if negative then
    if n = 0 then some .negativeZero
    else if n ≤ 1 <<< 63 then some (.integer (-n))
    else if n ≤ 1 <<< 127 then some .unreadable
    else none
  else if n < UInt64.size then some (.integer n)
  else if n < 1 <<< 128 then some .unreadable
  else none

/-- Several digits of which the first is a zero are a text. -/
def isZeroPadded : List Char → Bool
  | '0' :: c :: cs => (c :: cs).all isDigit
  | _ => false

def readMagnitude? : List Char → Option Nat
  | '0' :: 'x' :: digits => readBase? 16 digits
  | '0' :: 'o' :: digits => readBase? 8 digits
  | '0' :: 'b' :: digits => readBase? 2 digits
  | digits => if isZeroPadded digits then none else readNat? digits

def splitSign : List Char → Option Char × List Char
  | '-' :: cs => (some '-', cs)
  | '+' :: cs => (some '+', cs)
  | cs => (none, cs)

def readInteger? (cs : List Char) : Option Document :=
  let (sign, unsigned) := splitSign cs
  (readMagnitude? unsigned).bind (integerOf? (sign = some '-'))

/-- A finite number, or one of the names of the others, which begin with a point. -/
def readDecimal? (cs : List Char) : Option FloatLiteral :=
  let (sign, unsigned) := splitSign cs
  let name := String.ofList unsigned
  if [".inf", ".Inf", ".INF"].contains name then some (.infinite (sign = some '-'))
  else if [".nan", ".NaN", ".NAN"].contains name ∧ sign = none then some .nan
  else if isZeroPadded unsigned then none
  else (FloatLiteral.ofChars? cs).filter fun literal =>
    !(literal.toBinary64.isInfinite || literal.toBinary64.isNaN)

/-- What a scalar without quotes stands for: text, unless it is of another kind. -/
def ofPlain (cs : List Char) : Document :=
  let text := String.ofList cs
  if cs.isEmpty then .blank
  else if ["null", "Null", "NULL", "~"].contains text then .null
  else if ["true", "True", "TRUE"].contains text then .bool true
  else if ["false", "False", "FALSE"].contains text then .bool false
  else match readInteger? cs, readDecimal? cs with
    | some whole, _ => whole
    | none, some literal => .decimal literal
    | none, none => .string text

end RecordQuery.Document.Yaml

import RecordQuery.Document.Yaml.Scalar

/-!
# YAML texts

A block map has one key a line, all in one column, and a block list one item a line behind a hyphen.
A value follows its key or stands in the lines below, which reach further to the right; a list may
begin in the column of its key. Lists and maps may also stand in brackets. Anchors, tags and block
scalars are refused.
-/

namespace RecordQuery.Document.Yaml

namespace Cursor

/-- The next token: blanks, comments and line breaks are passed over. Outside of brackets a tab is
no blank where a block may begin. -/
def skip (inFlow comment : Bool) (line column : Nat) (opensBlock : Bool) : List Char → Cursor
  | [] => ⟨line, column, opensBlock, []⟩
  | c :: cs =>
    if isBreak c then skip inFlow false (line + 1) 0 true cs
    else if comment || c == ' ' || (c == '\t' && (inFlow || !opensBlock)) then
      skip inFlow comment line (column + 1) opensBlock cs
    else if c == '#' then skip inFlow true line (column + 1) opensBlock cs
    else ⟨line, column, opensBlock, c :: cs⟩

def toToken (cursor : Cursor) (inFlow : Bool) : Cursor :=
  skip inFlow false cursor.line cursor.column cursor.opensBlock cursor.rest

/-- A colon that ends a key. -/
def isColon (cursor : Cursor) (inFlow : Bool) : Bool :=
  cursor.rest.head? == some ':' && (inFlow || beginsBlank (cursor.rest.drop 1))

/-- A hyphen before an item of a list; a block may begin behind it. -/
def isItem (cursor : Cursor) : Bool :=
  cursor.rest.head? == some '-' && beginsBlank (cursor.rest.drop 1)

def afterHyphen (cursor : Cursor) : Cursor := { cursor.advance 1 with opensBlock := true }

end Cursor

structure Scalar where
  text : List Char
  isQuoted : Bool

namespace Scalar

def key (scalar : Scalar) : String := String.ofList scalar.text

def document (scalar : Scalar) : Document :=
  if scalar.isQuoted then .string scalar.key else ofPlain scalar.text

end Scalar

/-- Reads a scalar, and goes on to the next token. -/
def readScalar? (inFlow : Bool) (least : Nat) (cursor : Cursor) : Option (Scalar × Cursor) :=
  let bound := cursor.rest.length + 1
  let (result, isQuoted) := match cursor.rest with
    | '"' :: _ => (readQuoted? '"' bound (cursor.advance 1), true)
    | '\x27' :: _ => (readQuoted? '\x27' bound (cursor.advance 1), true)
    | cs =>
      let beginsHere := beginsPlain inFlow cs && !cursor.isMarker
      (if beginsHere then readPlain? inFlow least bound cursor else none, false)
  result.map fun (text, after) => (⟨text, isQuoted⟩, after.toToken inFlow)

mutual

/-- Reads a list, a map or a scalar. The bound is above twice the length of the text. -/
def readFlow? : Nat → Nat → Cursor → Option (Document × Cursor)
  | 0, _, _ => none
  | bound + 1, least, cursor =>
    let inner := (cursor.advance 1).toToken true
    match cursor.rest.head? with
    | some '[' => (readFlowItems? bound least inner).map fun (items, after) => (.list items, after)
    | some '{' =>
      (readFlowEntries? bound least inner).map fun (entries, after) => (.record entries, after)
    | _ => (readScalar? true least cursor).map fun (scalar, after) => (scalar.document, after)

def readFlowItems? : Nat → Nat → Cursor → Option (List Document × Cursor)
  | 0, _, _ => none
  | bound + 1, least, cursor =>
    if cursor.rest.head? = some ']' then some ([], cursor.advance 1)
    else do
      let (item, after) ← readFlow? bound least cursor
      let after := after.toToken true
      match after.rest.head? with
      | some ',' =>
        let (items, after) ← readFlowItems? bound least ((after.advance 1).toToken true)
        some (item :: items, after)
      | some ']' => some ([item], after.advance 1)
      | _ => none

def readFlowEntries? : Nat → Nat → Cursor → Option (List (String × Document) × Cursor)
  | 0, _, _ => none
  | bound + 1, least, cursor =>
    if cursor.rest.head? = some '}' then some ([], cursor.advance 1)
    else do
      let (key, after) ← readScalar? true least cursor
      let hasValue := after.isColon true && after.line == cursor.line
      let next := if hasValue then (after.advance 1).toToken true else after
      let (value, after) ←
        if [some ',', some '}'].contains next.rest.head? then some (Document.blank, next)
        else if hasValue then readFlow? bound least next
        else none
      let after := after.toToken true
      match after.rest.head? with
      | some ',' =>
        let (entries, after) ← readFlowEntries? bound least ((after.advance 1).toToken true)
        some ((key.key, value) :: entries, after)
      | some '}' => some ([(key.key, value)], after.advance 1)
      | _ => none

end

mutual

/-- Reads a value, which is blank if the token does not reach the column `least`, and goes on to the
next token. The bound is above twice the length of the text. -/
def readNode? : Nat → Nat → Cursor → Option (Document × Cursor)
  | 0, _, _ => none
  | bound + 1, least, cursor =>
    if cursor.isEnd || cursor.column < least then some (.blank, cursor)
    else if cursor.isItem then
      if cursor.opensBlock then
        (readItems? bound cursor).map fun (items, after) => (.list items, after)
      else none
    else if [some '[', some '{'].contains cursor.rest.head? then
      (readFlow? bound least cursor).map fun (document, after) => (document, after.toToken false)
    else do
      let (scalar, after) ← readScalar? false least cursor
      if after.line = cursor.line ∧ after.isColon false then
        if cursor.opensBlock then
          (readEntries? bound cursor).map fun (entries, after) => (.record entries, after)
        else none
      else some (scalar.document, after)

/-- Reads the entries of a map from its first key on. -/
def readEntries? : Nat → Cursor → Option (List (String × Document) × Cursor)
  | 0, _ => none
  | bound + 1, cursor => do
    let (key, colon) ← readScalar? false (cursor.column + 1) cursor
    if colon.line ≠ cursor.line ∨ !colon.isColon false then none
    else
      let next := (colon.advance 1).toToken false
      let (value, after) ←
        if next.opensBlock ∧ next.column = cursor.column ∧ next.isItem then
          (readItems? bound next).map fun (items, after) => (Document.list items, after)
        else readNode? bound (cursor.column + 1) next
      if after.isEnd then some ([(key.key, value)], after)
      else if !after.opensBlock then none
      else if after.column < cursor.column then some ([(key.key, value)], after)
      else if after.column = cursor.column then do
        let (entries, after) ← readEntries? bound after
        some ((key.key, value) :: entries, after)
      else none

/-- Reads the items of a list from its first hyphen on. -/
def readItems? : Nat → Cursor → Option (List Document × Cursor)
  | 0, _ => none
  | bound + 1, cursor => do
    let (item, after) ← readNode? bound (cursor.column + 1) (cursor.afterHyphen.toToken false)
    if after.isEnd then some ([item], after)
    else if !after.opensBlock then none
    else if after.column = cursor.column ∧ after.isItem then do
      let (items, after) ← readItems? bound after
      some (item :: items, after)
    else if after.column ≤ cursor.column then some ([item], after)
    else none

end

/-- The characters that a text may hold: no controls but tabs and line breaks, no byte order mark
and no noncharacters of the first plane. -/
def isAllowed (c : Char) : Bool :=
  ['\t', '\n', '\r', '\u0085'].contains c || (0x20 ≤ c.toNat && c.toNat ≤ 0x7E) ||
    (0xA0 ≤ c.toNat && !(c.toNat == 0xFEFF || c.toNat == 0xFFFE || c.toNat == 0xFFFF))

/-- All line breaks but the line and paragraph separators are alike. -/
def normalizeBreaks : List Char → List Char
  | [] => []
  | '\r' :: '\n' :: cs => '\n' :: normalizeBreaks cs
  | c :: cs => (if c = '\r' ∨ c = '\u0085' then '\n' else c) :: normalizeBreaks cs

def withoutByteOrderMark : List Char → List Char
  | '\ufeff' :: cs => cs
  | cs => cs

/-- Nothing is left but lines of three points. -/
def isFinished : Nat → Cursor → Bool
  | 0, cursor => cursor.rest.isEmpty
  | bound + 1, cursor =>
    if cursor.isMarker && cursor.rest.head? == some '.' then
      isFinished bound ((cursor.advance 3).toToken false)
    else cursor.rest.isEmpty

/-- Reads the only document of a text, which may begin with a line of three hyphens and end with
lines of three points. -/
def readDocument? (cs : List Char) : Option Document := do
  let first := (Cursor.mk 0 0 true cs).toToken false
  let isMarked := first.isMarker && first.rest.head? == some '-'
  let start := if isMarked then (first.advance 3).toToken false else first
  let (document, after) ← readNode? (2 * cs.length + 2) 0 start
  if isFinished cs.length after then some document else none

def parse? (text : String) : Option Document :=
  let cs := withoutByteOrderMark text.toList
  if cs.all isAllowed then readDocument? (normalizeBreaks cs) else none

end RecordQuery.Document.Yaml

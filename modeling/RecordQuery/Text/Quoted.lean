import RecordQuery.Text.PrintTable

/-!
# Quoted texts

A text in diagnostics stands between double quotes. Quotes, backslashes and the usual controls have
an escape of their own; other characters that would not show as themselves are written by their
code point.
-/

namespace RecordQuery.Text

def inRange (n : Nat) : Nat × Nat → Bool
  | (first, last) => first ≤ n && n ≤ last

def isPrintable (c : Char) : Bool :=
  !PrintTable.unprintable.any (inRange c.toNat) &&
    !PrintTable.graphemeExtending.any (inRange c.toNat)

def codePointEscape (c : Char) : List Char :=
  ['\\', 'u', '{'] ++ Nat.toDigits 16 c.toNat ++ ['}']

def escapeChar (c : Char) : List Char :=
  if c.toNat = 0x0 then ['\\', '0']
  else if c = '\t' then ['\\', 't']
  else if c = '\r' then ['\\', 'r']
  else if c = '\n' then ['\\', 'n']
  else if c = '\\' ∨ c = '"' then ['\\', c]
  else if (0x20 ≤ c.toNat ∧ c.toNat ≤ 0x7E) ∨ isPrintable c then [c]
  else codePointEscape c

def quoted (s : String) : String :=
  String.ofList ('"' :: s.toList.flatMap escapeChar ++ ['"'])

end RecordQuery.Text

/-!
# Searching a text

Whether a text starts with, ends with or contains another.
-/

namespace RecordQuery.Text

def startsWith (needle cs : List Char) : Bool := needle.isPrefixOf cs

def endsWith (needle cs : List Char) : Bool := needle.isSuffixOf cs

def contains (needle : List Char) : List Char → Bool
  | [] => needle.isEmpty
  | c :: cs => startsWith needle (c :: cs) || contains needle cs

theorem startsWith_iff {needle cs : List Char} :
    startsWith needle cs = true ↔ needle <+: cs := by
  simp [startsWith]

theorem endsWith_iff {needle cs : List Char} : endsWith needle cs = true ↔ needle <:+ cs := by
  simp [endsWith]

theorem contains_iff {needle cs : List Char} : contains needle cs = true ↔ needle <:+: cs := by
  induction cs with
  | nil => simp [contains]
  | cons c cs ih => simp [contains, startsWith_iff, ih, List.infix_cons_iff]

end RecordQuery.Text

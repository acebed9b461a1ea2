import RecordQuery.Text.CaseTable

/-!
# Lowercase texts

A text is lowered character by character, except that a capital sigma becomes a final sigma at the
end of a word: a cased letter stands before it and none after it, marks passed over. The character
map alone, `lowerChars`, is what collation compares.
-/

namespace RecordQuery.Text

def inRow (n : Nat) : Nat × Nat × Nat → Bool
  | (first, last, stride) => first ≤ n && n ≤ last && (n - first) % stride == 0

def isUppercase (c : Char) : Bool := CaseTable.uppercaseLetters.any (inRow c.toNat)

def isLowercase (c : Char) : Bool := CaseTable.lowercaseLetters.any (inRow c.toNat)

def isCased (c : Char) : Bool :=
  isLowercase c || isUppercase c || CaseTable.titlecaseLetters.any (inRow c.toNat)

def isCaseIgnorable (c : Char) : Bool := CaseTable.caseIgnorable.any (inRow c.toNat)

def lowerChar (c : Char) : Char :=
  if c.toNat < 0x80 then c.toLower else
    match CaseTable.lowercase.find? fun (first, last, stride, _) =>
      inRow c.toNat (first, last, stride) with
    | some (_, _, _, shift) => Char.ofNat (c.toNat + shift).toNat
    | none => c

/-- The dotted capital I has two lowercase characters, every other character has one. -/
def lowerChars (c : Char) : List Char :=
  if c = 'İ' then ['i', '\u0307'] else [lowerChar c]

theorem lowerChars_ne_nil (c : Char) : lowerChars c ≠ [] := by
  rw [lowerChars]; split <;> simp

/-- The nearest character that is no mark is a cased letter. -/
def startsCased (cs : List Char) : Bool :=
  match cs.dropWhile isCaseIgnorable with
  | [] => false
  | c :: _ => isCased c

def lowerSigma (before after : List Char) : Char :=
  if startsCased before && !startsCased after then 'ς' else 'σ'

/-- Lowers the characters after `before`, which lists the characters passed in reverse. -/
def lowerAfter (before : List Char) : List Char → List Char
  | [] => []
  | c :: after =>
    (if c = 'Σ' then [lowerSigma before after] else lowerChars c) ++ lowerAfter (c :: before) after

def lowercase (s : String) : String := String.ofList (lowerAfter [] s.toList)

theorem lowerAfter_eq_flatMap {before cs : List Char} (h : 'Σ' ∉ cs) :
    lowerAfter before cs = cs.flatMap lowerChars := by
  induction cs generalizing before with
  | nil => rfl
  | cons c cs ih =>
    simp only [List.mem_cons, not_or] at h
    simp [lowerAfter, Ne.symm h.1, ih h.2]

/-- Away from the sigma a text is lowered character by character. -/
theorem lowercase_eq {s : String} (h : 'Σ' ∉ s.toList) :
    lowercase s = String.ofList (s.toList.flatMap lowerChars) := by
  rw [lowercase, lowerAfter_eq_flatMap h]

end RecordQuery.Text

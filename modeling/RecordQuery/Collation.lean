import RecordQuery.Text.LetterCase

/-!
# Collation of texts

Texts are ordered by their letters first, ignoring case. Only among texts that agree in that does
case decide, lowercase letters ahead of capitals, and after it the code points, so that no two texts
are equal in the full order.
-/

namespace RecordQuery

open Text

def letterKey (s : String) : List Char := s.toList.flatMap lowerChars

def caseKey (s : String) : List Bool := s.toList.map isUppercase

def collateIgnoreCase (a b : String) : Ordering := compare (letterKey a) (letterKey b)

def collate (a b : String) : Ordering :=
  (collateIgnoreCase a b).then ((compare (caseKey a) (caseKey b)).then (compare a.toList b.toList))

theorem collate_of_collateIgnoreCase_ne {a b : String} (h : collateIgnoreCase a b ≠ .eq) :
    collate a b = collateIgnoreCase a b := by
  unfold collate
  cases hab : collateIgnoreCase a b <;> simp_all

end RecordQuery

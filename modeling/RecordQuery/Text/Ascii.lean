/-!
# Names that ignore ASCII case

Keys, operation names, member names and header names are matched ignoring the case of the ASCII
letters and of nothing else. `sameName` is an equivalence; `lookup` takes the first entry whose
name matches.
-/

namespace RecordQuery.Text

def asciiKey (s : String) : List Char := s.toList.map Char.toLower

def sameName (a b : String) : Bool := asciiKey a == asciiKey b

theorem sameName_iff {a b : String} : sameName a b = true ↔ asciiKey a = asciiKey b := by
  simp [sameName]

@[simp] theorem sameName_refl (a : String) : sameName a a = true := by simp [sameName]

theorem sameName_comm (a b : String) : sameName a b = sameName b a := by
  simp only [sameName, Bool.beq_eq_decide_eq, eq_comm]

theorem sameName_congr {a b : String} (h : sameName a b = true) (c : String) :
    sameName a c = sameName b c := by
  rw [sameName_iff] at h
  simp [sameName, h]

def lookup {α : Type} (entries : List (String × α)) (name : String) : Option α :=
  (entries.find? fun entry => sameName entry.1 name).map Prod.snd

@[simp] theorem lookup_nil {α : Type} (name : String) :
    lookup ([] : List (String × α)) name = none :=
  rfl

theorem lookup_cons {α : Type} (key : String) (value : α) (entries : List (String × α))
    (name : String) : lookup ((key, value) :: entries) name =
      if sameName key name then some value else lookup entries name := by
  cases h : sameName key name <;> simp [lookup, h]

end RecordQuery.Text

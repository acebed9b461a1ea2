import RecordQuery.Text.Blank
import RecordQuery.Text.Integer

/-!
# Reading back decimal digits

The decimal form of an integer has digits and perhaps a minus sign, and reading it gives back the
integer.
-/

namespace RecordQuery.Text

theorem digitsValue_eq_ofDigitChars (digits : List Char) :
    digitsValue digits = Nat.ofDigitChars 10 digits 0 := by
  simp only [digitsValue, Nat.ofDigitChars_eq_foldl, Nat.mul_comm]

theorem isDigit_of_mem_toDigits {n : Nat} {c : Char} (h : c ∈ Nat.toDigits 10 n) :
    c.isDigit = true :=
  Nat.isDigit_of_mem_toDigits (by decide) (by decide) h

theorem readNat?_toDigits (n : Nat) : readNat? (Nat.toDigits 10 n) = some n := by
  have hdigits : (Nat.toDigits 10 n).all isDigit = true :=
    List.all_eq_true.2 fun _ hc => isDigit_of_mem_toDigits hc
  have hne : (Nat.toDigits 10 n).isEmpty = false := by simp [Nat.toDigits_ne_nil]
  rw [readNat?, hdigits, hne, digitsValue_eq_ofDigitChars, Nat.ofDigitChars_ten_toDigits]
  rfl

/-- No sign starts with a digit. -/
theorem readInt?_cons {c : Char} (h : isDigit c = true) (cs : List Char) :
    readInt? (c :: cs) = (readNat? (c :: cs)).map fun n => (n : Int) := by
  unfold readInt?
  split
  · next heq =>
    obtain ⟨rfl, -⟩ := List.cons.inj heq
    cases h
  · next heq =>
    obtain ⟨rfl, -⟩ := List.cons.inj heq
    cases h
  · rfl

theorem readInt?_of_isDigit {cs : List Char} (h : ∀ c ∈ cs, c.isDigit = true) :
    readInt? cs = (readNat? cs).map fun n => (n : Int) := by
  cases cs with
  | nil => rfl
  | cons c cs => exact readInt?_cons (h c List.mem_cons_self) cs

theorem readNat?_eq_none {cs : List Char} {c : Char} (hmem : c ∈ cs) (h : isDigit c = false) :
    readNat? cs = none := by
  have hall : cs.all isDigit = false := List.all_eq_false.2 ⟨c, hmem, by simp [h]⟩
  rw [readNat?, hall, Bool.and_false]
  rfl

theorem isBlank_of_isDigit {c : Char} (h : isDigit c = true) : isBlank c = false := by
  have hzero : '0'.val.toNat = 48 := rfl
  have hnine : '9'.val.toNat = 57 := rfl
  have hcode : c.toNat = c.val.toNat := rfl
  simp only [isDigit, Bool.and_eq_true, decide_eq_true_eq, Char.le_def, UInt32.le_iff_toNat_le] at h
  simp only [isBlank, hcode, Bool.or_eq_false_iff, Bool.and_eq_false_iff, decide_eq_false_iff_not,
    beq_eq_false_iff_ne]
  omega

theorem toList_toString_int (n : Int) :
    (toString n).toList =
      if 0 ≤ n then Nat.toDigits 10 n.toNat else '-' :: Nat.toDigits 10 (-n).toNat := by
  rw [Int.toString_eq_repr, Int.repr_eq_if]
  split
  · exact Nat.toList_repr
  · rw [String.toList_append, Nat.toList_repr]
    rfl

theorem readInt?_toString (n : Int) : readInt? (toString n).toList = some n := by
  rw [toList_toString_int]
  split
  · next h =>
    rw [readInt?_of_isDigit fun _ hc => isDigit_of_mem_toDigits hc, readNat?_toDigits]
    exact congrArg some (Int.toNat_of_nonneg h)
  · next h =>
    have hvalue : -((-n).toNat : Int) = n := by omega
    rw [readInt?, readNat?_toDigits]
    exact congrArg some hvalue

@[simp] theorem readInt64?_toString (n : Int64) : readInt64? (toString n.toInt) = some n := by
  rw [readInt64?, readInt?_toString, Option.bind_some, int64?_toInt]

theorem of_mem_toString_int {n : Int} {c : Char} (h : c ∈ (toString n).toList) :
    c = '-' ∨ c.isDigit = true := by
  rw [toList_toString_int] at h
  split at h
  · exact .inr (isDigit_of_mem_toDigits h)
  · rcases List.mem_cons.1 h with rfl | h
    · exact .inl rfl
    · exact .inr (isDigit_of_mem_toDigits h)

end RecordQuery.Text

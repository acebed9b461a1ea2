import RecordQuery.Proofs.Text.Cut
import RecordQuery.Proofs.Text.Integer
import RecordQuery.Proofs.Time.Calendar
import RecordQuery.Time.Timestamp

/-!
# Reading timestamps back

Each number of a written timestamp fills its places, so that reading takes it off with as many
digits. The three forms do not get into each other's way: a count has no hyphen behind a digit, and a
date alone ends where a moment goes on.
-/

namespace RecordQuery.Timestamp

open Text

section

variable {width n : Nat}

theorem isDigit_of_mem_padded {c : Char} (h : c ∈ padded width n) : isDigit c = true := by
  rcases List.mem_append.1 h with h | h
  · obtain rfl := List.eq_of_mem_replicate h
    rfl
  · exact isDigit_of_mem_toDigits h

theorem isBlank_of_mem_padded {c : Char} (h : c ∈ padded width n) : isBlank c = false :=
  isBlank_of_isDigit (isDigit_of_mem_padded h)

theorem exists_cons_padded (width n : Nat) :
    ∃ c cs, padded width n = c :: cs ∧ isDigit c = true := by
  have hne : padded width n ≠ [] := by simp [padded, Nat.toDigits_ne_nil]
  obtain ⟨c, cs, hcons⟩ := List.exists_cons_of_ne_nil hne
  exact ⟨c, cs, hcons, isDigit_of_mem_padded (hcons ▸ List.mem_cons_self)⟩

theorem isEmpty_padded (width n : Nat) : (padded width n).isEmpty = false := by
  obtain ⟨c, cs, hcons, -⟩ := exists_cons_padded width n
  rw [hcons]
  rfl

theorem digitsValue_padded (width n : Nat) : digitsValue (padded width n) = n := by
  rw [padded, digitsValue_eq_ofDigitChars, Nat.ofDigitChars_append,
    Nat.ofDigitChars_replicate_zero, Nat.mul_zero, Nat.ofDigitChars_ten_toDigits]

variable (hwidth : 0 < width) (h : n < 10 ^ width)
include hwidth h

theorem length_padded : (padded width n).length = width := by
  have hdigits := (Nat.length_toDigits_le_iff (by decide) hwidth).2 h
  rw [padded, List.length_append, List.length_replicate]
  omega

theorem readDigits?_padded (rest : List Char) :
    readDigits? width (padded width n ++ rest) = some (n, rest) := by
  have hlength := length_padded hwidth h
  have hall : (padded width n).all isDigit = true :=
    List.all_eq_true.2 fun _ hc => isDigit_of_mem_padded hc
  rw [readDigits?, List.take_left' hlength, List.drop_left' hlength, digitsValue_padded,
    if_pos ⟨hlength, hall⟩]

theorem readUpTo?_padded (rest : List Char) :
    readUpTo? width (padded width n ++ rest) = some (n, rest) := by
  have hlength := length_padded hwidth h
  have hdigits : (padded width n).takeWhile isDigit = padded width n :=
    List.takeWhile_eq_self_iff.2 fun _ hc => isDigit_of_mem_padded hc
  rw [readUpTo?, List.take_left' hlength, hdigits, isEmpty_padded, List.drop_left,
    digitsValue_padded]
  rfl

end

@[simp] theorem expect?_cons (c : Char) (cs : List Char) : expect? c (c :: cs) = some cs := by
  rw [expect?, if_pos rfl]

theorem readYear?_cons {c : Char} (h : isDigit c = true) (cs : List Char) :
    readYear? (c :: cs) = (readUpTo? 4 (c :: cs)).map fun (n, rest) => ((n : Int), rest) := by
  unfold readYear?
  split
  · next heq =>
    obtain ⟨rfl, -⟩ := List.cons.inj heq
    cases h
  · next heq =>
    obtain ⟨rfl, -⟩ := List.cons.inj heq
    cases h
  · rfl

/-- The year has four digits, month and day have two. -/
structure FitsText (date : Date) : Prop where
  year_nonneg : 0 ≤ date.year
  year_le : date.year ≤ 9999
  month_lt : date.month < 10 ^ 2
  day_lt : date.day < 10 ^ 2

variable {date : Date}

theorem fitsText_of_isValid (valid : date.isValid = true) (nonneg : 0 ≤ date.year)
    (le : date.year ≤ 9999) : FitsText date := by
  have hlength : Date.daysInMonth date.year date.month ≤ 31 := by
    unfold Date.daysInMonth
    split_ifs <;> omega
  simp only [Date.isValid, Bool.and_eq_true, decide_eq_true_eq] at valid
  exact ⟨nonneg, le, by omega, by omega⟩

namespace FitsText

variable (h : FitsText date)
include h

theorem year_lt : date.year.toNat < 10 ^ 4 := by
  have hyear := h.year_le
  omega

theorem eq_mk : Date.mk (date.year.toNat : Int) date.month date.day = date := by
  rw [Int.toNat_of_nonneg h.year_nonneg]

theorem dateText_append (rest : List Char) :
    dateText date ++ rest = padded 4 date.year.toNat ++
      '-' :: (padded 2 date.month ++ '-' :: (padded 2 date.day ++ rest)) := by
  have hyear : date.year.natAbs = date.year.toNat := by
    have hnonneg := h.year_nonneg
    omega
  rw [dateText, yearText, if_pos ⟨h.year_nonneg, h.year_le⟩, hyear, List.append_assoc,
    List.cons_append, List.append_assoc, List.cons_append]

theorem isBlank_of_mem {c : Char} (hc : c ∈ dateText date) : isBlank c = false := by
  rw [← List.append_nil (dateText date), h.dateText_append] at hc
  simp only [List.mem_append, List.mem_cons, List.not_mem_nil, or_false] at hc
  rcases hc with hc | rfl | hc | rfl | hc
  · exact isBlank_of_mem_padded hc
  · rfl
  · exact isBlank_of_mem_padded hc
  · rfl
  · exact isBlank_of_mem_padded hc

/-- A moment is its date and what the time of day and the offset behind it say. -/
theorem readMoment?_append (cs : List Char) :
    readMoment? (dateText date ++ 'T' :: cs) =
      (readClock? cs).bind fun (millis, cs) => (readOffset? cs).bind fun offset =>
        if date.isValid then
          ofMillis? (date.toDayNumber * millisPerDay + millis - offset * 60000)
        else none := by
  rw [h.dateText_append, readMoment?, readDigits?_padded (by decide) h.year_lt]
  simp only [Option.bind_eq_bind, Option.bind_some, expect?_cons,
    readDigits?_padded Nat.zero_lt_two h.month_lt, readDigits?_padded Nat.zero_lt_two h.day_lt,
    true_or, if_true, h.eq_mk]

theorem readMoment?_eq_none : readMoment? (dateText date) = none := by
  rw [← List.append_nil (dateText date), h.dateText_append, readMoment?,
    readDigits?_padded (by decide) h.year_lt]
  simp only [Option.bind_eq_bind, Option.bind_some, expect?_cons,
    readDigits?_padded Nat.zero_lt_two h.month_lt, readDigits?_padded Nat.zero_lt_two h.day_lt,
    Option.bind_none]

theorem readDate?_eq : readDate? (dateText date) = ofDate? date := by
  have hblanks (width n : Nat) (rest : List Char) :
      trimStart (padded width n ++ rest) = padded width n ++ rest := by
    obtain ⟨c, cs, hcons, hdigit⟩ := exists_cons_padded width n
    rw [hcons, List.cons_append, trimStart_cons (isBlank_of_isDigit hdigit)]
  have hyear (rest : List Char) :
      readYear? (padded 4 date.year.toNat ++ rest) = some ((date.year.toNat : Int), rest) := by
    have hdigits := readUpTo?_padded (by decide) h.year_lt rest
    obtain ⟨c, cs, hcons, hdigit⟩ := exists_cons_padded 4 date.year.toNat
    rw [hcons, List.cons_append] at hdigits ⊢
    rw [readYear?_cons hdigit, hdigits]
    rfl
  rw [← List.append_nil (dateText date), h.dateText_append, readDate?, hblanks, hyear]
  simp only [Option.bind_eq_bind, Option.bind_some, expect?_cons, hblanks,
    readUpTo?_padded Nat.zero_lt_two h.month_lt, readUpTo?_padded Nat.zero_lt_two h.day_lt,
    List.isEmpty_nil, if_true, h.eq_mk]

theorem readInt?_append (rest : List Char) : readInt? (dateText date ++ rest) = none := by
  obtain ⟨c, cs, hcons, hdigit⟩ := exists_cons_padded 4 date.year.toNat
  rw [h.dateText_append, hcons, List.cons_append, readInt?_cons hdigit,
    readNat?_eq_none (by simp : '-' ∈ _) rfl]
  rfl

/-- A text that starts with a date is read as a moment or as a date. -/
theorem ofString?_append {rest : List Char} (hrest : ∀ c ∈ rest, isBlank c = false) :
    ofString? (String.ofList (dateText date ++ rest)) =
      (readMoment? (dateText date ++ rest)).or (readDate? (dateText date ++ rest)) := by
  have htrim : trimChars (dateText date ++ rest) = dateText date ++ rest := by
    apply trimChars_of_forall
    intro c hc
    rcases List.mem_append.1 hc with hc | hc
    · exact h.isBlank_of_mem hc
    · exact hrest c hc
  rw [ofString?, String.toList_ofList, htrim, h.readInt?_append]
  rfl

/-- The days of these years are within the range of timestamps. -/
theorem exists_ofMillis? : ∃ t, ofMillis? (date.toDayNumber * millisPerDay) = some t ∧
    t.millis.toInt = date.toDayNumber * millisPerDay := by
  obtain ⟨hnonneg, hle, hmonth, hday⟩ := h
  have hmin : -2 ^ 63 ≤ date.toDayNumber * millisPerDay := by
    unfold Date.toDayNumber Date.daysBeforeYear Date.daysBeforeMonth millisPerDay
    dsimp only
    split_ifs <;> omega
  have hmax : date.toDayNumber * millisPerDay < 2 ^ 63 := by
    unfold Date.toDayNumber Date.daysBeforeYear Date.daysBeforeMonth millisPerDay
    dsimp only
    split_ifs <;> omega
  have hrange : Int64.minValue.toInt ≤ date.toDayNumber * millisPerDay ∧
      date.toDayNumber * millisPerDay ≤ Int64.maxValue.toInt := ⟨hmin, Int.le_of_lt_add_one hmax⟩
  refine ⟨⟨Int64.ofInt (date.toDayNumber * millisPerDay)⟩, ?_, Int64.toInt_ofInt_of_le hmin hmax⟩
  rw [ofMillis?, int64?, if_pos hrange]
  rfl

end FitsText

theorem isBlank_of_mem_timeText {c : Char} {millis : Nat} (h : c ∈ timeText millis) :
    isBlank c = false := by
  simp only [timeText, List.mem_append, List.mem_cons, List.mem_ite_nil_left] at h
  rcases h with ((h | rfl | h) | rfl | h) | ⟨-, rfl | h⟩
  · exact isBlank_of_mem_padded h
  · rfl
  · exact isBlank_of_mem_padded h
  · rfl
  · exact isBlank_of_mem_padded h
  · rfl
  · exact isBlank_of_mem_padded h

section

variable {c : Char} {rest : List Char} (hdigit : isDigit c = false) (hpoint : c ≠ '.')
include hdigit hpoint

/-- A fraction that is left out counts as none. -/
theorem readFraction?_padded {millis : Nat} (h : millis < 10 ^ 3) :
    readFraction? ((if millis = 0 then [] else '.' :: padded 3 millis) ++ c :: rest) =
      some (millis, c :: rest) := by
  split
  · next hzero =>
    rw [hzero, List.nil_append]
    unfold readFraction?
    split
    · next heq => exact absurd (List.cons.inj heq).1 hpoint
    · rfl
  · have hrun : ∀ d ∈ padded 3 millis, isDigit d = true := fun _ hd => isDigit_of_mem_padded hd
    have hend : ¬ isDigit c = true := Bool.eq_false_iff.1 hdigit
    rw [List.cons_append, readFraction?, List.takeWhile_append_of_pos hrun,
      List.takeWhile_cons_of_neg hend, List.append_nil, List.dropWhile_append_of_pos hrun,
      List.dropWhile_cons_of_neg hend, isEmpty_padded,
      List.take_left' (length_padded (by decide) h), digitsValue_padded]
    rfl

theorem readClock?_timeText {millis : Nat} (h : millis < 86400000) :
    readClock? (timeText millis ++ c :: rest) = some ((millis : Int), c :: rest) := by
  have hhour : millis / 1000 / 3600 < 10 ^ 2 := by omega
  have hminute : millis / 1000 / 60 % 60 < 10 ^ 2 := by omega
  have hsecond : millis / 1000 % 60 < 10 ^ 2 := by omega
  have hfraction : millis % 1000 < 10 ^ 3 := by omega
  have hvalid : ¬ (24 ≤ millis / 1000 / 3600 ∨ 60 ≤ millis / 1000 / 60 % 60 ∨
      61 ≤ millis / 1000 % 60) := by omega
  have hsum : ((millis / 1000 / 3600 * 60 + millis / 1000 / 60 % 60) * 60 +
      millis / 1000 % 60) * 1000 + millis % 1000 = millis := by omega
  rw [timeText, readClock?]
  simp only [List.append_assoc, List.cons_append, Option.bind_eq_bind, Option.bind_some,
    expect?_cons, readDigits?_padded Nat.zero_lt_two hhour,
    readDigits?_padded Nat.zero_lt_two hminute, readDigits?_padded Nat.zero_lt_two hsecond,
    readFraction?_padded hdigit hpoint hfraction, hvalid, if_false, hsum]

end

/-- A moment in UTC is read as the milliseconds of its day after those of the days before. -/
theorem FitsText.ofString?_moment (h : FitsText date) (valid : date.isValid = true) {millis : Nat}
    (hmillis : millis < 86400000) {c : Char} {rest : List Char} (hdigit : isDigit c = false)
    (hpoint : c ≠ '.') (utc : readOffset? (c :: rest) = some 0)
    (hblank : (c :: rest).any isBlank = false) {t : Timestamp}
    (ht : ofMillis? (date.toDayNumber * millisPerDay + millis) = some t) :
    ofString? (String.ofList (dateText date ++ 'T' :: (timeText millis ++ c :: rest))) = some t := by
  have hmoment := h.readMoment?_append (timeText millis ++ c :: rest)
  rw [readClock?_timeText hdigit hpoint hmillis] at hmoment
  simp only [Option.bind_some, utc, valid, if_true, Int.zero_mul, Int.sub_zero, ht] at hmoment
  rw [h.ofString?_append, hmoment]
  · rfl
  · intro d hd
    rcases List.mem_cons.1 hd with rfl | hd
    · rfl
    rcases List.mem_append.1 hd with hd | hd
    · exact isBlank_of_mem_timeText hd
    · exact Bool.eq_false_iff.2 (List.any_eq_false.1 hblank d hd)

variable {t : Timestamp}

theorem ofString?_text (first : (Date.mk 0 1 1).toDayNumber * millisPerDay ≤ t.millis.toInt)
    (last : t.millis.toInt ≤ (Date.mk 9999 12 31).toDayNumber * millisPerDay + 86399999) :
    ofString? t.text = some t := by
  have hday : (Date.mk 0 1 1).toDayNumber ≤ t.millis.toInt / millisPerDay ∧
      t.millis.toInt / millisPerDay ≤ (Date.mk 9999 12 31).toDayNumber := by
    unfold millisPerDay at *
    omega
  have hmillis : (t.millis.toInt % millisPerDay).toNat < 86400000 := by
    unfold millisPerDay
    omega
  have hsum : t.millis.toInt / millisPerDay * millisPerDay +
      ((t.millis.toInt % millisPerDay).toNat : Int) = t.millis.toInt := by
    unfold millisPerDay
    omega
  obtain ⟨nonneg, le⟩ := Date.year_ofDayNumber hday.1 hday.2
  have hrange : (Date.ofDayNumber (t.millis.toInt / millisPerDay)).inRange = true := by
    simp only [Date.inRange, Bool.and_eq_true, decide_eq_true_eq]
    omega
  have valid := Date.isValid_ofDayNumber hrange
  have ht : ofMillis? ((Date.ofDayNumber (t.millis.toInt / millisPerDay)).toDayNumber *
      millisPerDay + ((t.millis.toInt % millisPerDay).toNat : Int)) = some t := by
    rw [Date.toDayNumber_ofDayNumber, hsum, ofMillis?, int64?_toInt]
    rfl
  have utc : readOffset? ('+' :: "00:00".toList) = some 0 := rfl
  rw [text, if_pos hrange, List.append_assoc, List.cons_append]
  exact (fitsText_of_isValid valid nonneg le).ofString?_moment valid hmillis rfl (by decide) utc
    (by decide) ht

theorem ofString?_toString (t : Timestamp) : ofString? (toString t.millis.toInt) = some t := by
  have htrim : trimChars (toString t.millis.toInt).toList = (toString t.millis.toInt).toList := by
    apply trimChars_of_forall
    intro c hc
    rcases of_mem_toString_int hc with rfl | hdigit
    · rfl
    · exact isBlank_of_isDigit hdigit
  rw [ofString?, htrim, readInt?_toString, Option.bind_some, ofMillis?, int64?_toInt]
  rfl

theorem ofString?_date (valid : date.isValid = true) (nonneg : 0 ≤ date.year)
    (le : date.year ≤ 9999) :
    ∃ t, t.millis.toInt = date.toDayNumber * millisPerDay ∧
      ofString? (String.ofList (dateText date)) = some t ∧
      ofString? (String.ofList (dateText date) ++ "T00:00:00Z") = some t := by
  have fits := fitsText_of_isValid valid nonneg le
  obtain ⟨t, ht, hmillis⟩ := fits.exists_ofMillis?
  refine ⟨t, hmillis, ?_, ?_⟩
  · have hblank : ∀ c ∈ ([] : List Char), isBlank c = false := nofun
    rw [← List.append_nil (dateText date), fits.ofString?_append hblank, List.append_nil,
      fits.readMoment?_eq_none, fits.readDate?_eq, ofDate?, if_pos valid, ht]
    rfl
  · have utc : readOffset? ['Z'] = some 0 := rfl
    have midnight : ofMillis? (date.toDayNumber * millisPerDay + (0 : Nat)) = some t := by
      rw [Int.natCast_zero, Int.add_zero, ht]
    have hmoment := fits.ofString?_moment valid (by decide) rfl (by decide) utc (by decide) midnight
    rw [String.ofList_append] at hmoment
    exact hmoment

/-- A timestamp of the years 0 to 9999 is read back from its text and from its count of milliseconds,
and a date of these years alone is read as its midnight. -/
theorem ofString?_forms :
    (∀ t : Timestamp, (Date.mk 0 1 1).toDayNumber * millisPerDay ≤ t.millis.toInt →
      t.millis.toInt ≤ (Date.mk 9999 12 31).toDayNumber * millisPerDay + 86399999 →
      ofString? t.text = some t ∧ ofString? (toString t.millis.toInt) = some t) ∧
    ∀ date : Date, date.isValid = true → 0 ≤ date.year → date.year ≤ 9999 →
      ∃ t, t.millis.toInt = date.toDayNumber * millisPerDay ∧
        ofString? (String.ofList (dateText date)) = some t ∧
        ofString? (String.ofList (dateText date) ++ "T00:00:00Z") = some t := by
  refine ⟨?_, fun date => ofString?_date⟩
  intro t first last
  exact ⟨ofString?_text first last, ofString?_toString t⟩

/-- The last millisecond before 1970 and the leap day of 2000. -/
theorem ofString?_lastMilli1969_leapDay2000 :
    ((Date.mk 0 1 1).toDayNumber * millisPerDay ≤ (Timestamp.mk (-1)).millis.toInt ∧
      (Timestamp.mk (-1)).millis.toInt ≤
        (Date.mk 9999 12 31).toDayNumber * millisPerDay + 86399999 ∧
      ofString? "1969-12-31T23:59:59.999+00:00" = some ⟨-1⟩ ∧ ofString? "-1" = some ⟨-1⟩) ∧
    (Date.mk 2000 2 29).isValid = true ∧
      ∃ t, ofString? "2000-02-29" = some t ∧ ofString? "2000-02-29T00:00:00Z" = some t := by
  obtain ⟨hmoments, hdates⟩ := ofString?_forms
  have first : (Date.mk 0 1 1).toDayNumber * millisPerDay ≤ (Timestamp.mk (-1)).millis.toInt := by
    decide
  have last : (Timestamp.mk (-1)).millis.toInt ≤
      (Date.mk 9999 12 31).toDayNumber * millisPerDay + 86399999 := by
    decide
  have valid : (Date.mk 2000 2 29).isValid = true := by decide
  have htext : (Timestamp.mk (-1)).text = "1969-12-31T23:59:59.999+00:00" := by decide
  have hdate : String.ofList (dateText ⟨2000, 2, 29⟩) = "2000-02-29" := by decide
  have hread := hmoments ⟨-1⟩ first last
  obtain ⟨t, -, hleap, hmidnight⟩ := hdates ⟨2000, 2, 29⟩ valid (by decide) (by decide)
  rw [htext] at hread
  rw [hdate] at hleap hmidnight
  exact ⟨⟨first, last, hread⟩, valid, t, hleap, hmidnight⟩

/-- The bounds are the first and the last moment with a year of four digits. -/
example :
    ofString? "0000-01-01T00:00:00.000Z" =
      ofMillis? ((Date.mk 0 1 1).toDayNumber * millisPerDay) ∧
    ofString? "9999-12-31T23:59:59.999Z" =
      ofMillis? ((Date.mk 9999 12 31).toDayNumber * millisPerDay + 86399999) := by
  decide

end RecordQuery.Timestamp

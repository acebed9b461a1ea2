import Mathlib.Data.List.Forall2
import RecordQuery.Proofs.Text.Percent
import RecordQuery.Text.Ascii
import RecordQuery.Text.Blank
import RecordQuery.Text.Cut
import RecordQuery.Text.Integer

/-!
# ASCII case

A text and its lower case are cut at the same places, read as the same numbers and decoded to texts
that differ in case only: separators, blanks and digits have no case, and hexadecimal digits are
read in either.
-/

namespace RecordQuery.Text

theorem toNat_toLower (c : Char) :
    c.toLower.toNat = if 65 ≤ c.toNat ∧ c.toNat ≤ 90 then c.toNat + 32 else c.toNat := by
  have hupper : (c.val ≥ 'A'.val ∧ c.val ≤ 'Z'.val) ↔ (65 ≤ c.toNat ∧ c.toNat ≤ 90) := by
    simp [UInt32.le_iff_toNat_le]
  unfold Char.toLower
  by_cases h : c.val ≥ 'A'.val ∧ c.val ≤ 'Z'.val
  · have hle := (hupper.1 h).2
    rw [dif_pos h, if_pos (hupper.1 h)]
    change (c.val + ('a'.val - 'A'.val)).toNat = _
    rw [UInt32.toNat_add]
    simp
    omega
  · rw [dif_neg h, if_neg (hupper.not.1 h)]

theorem isAlpha_iff (c : Char) :
    c.isAlpha = true ↔ (65 ≤ c.toNat ∧ c.toNat ≤ 90) ∨ (97 ≤ c.toNat ∧ c.toNat ≤ 122) := by
  have hcases : c.isAlpha = (decide (c.val ≥ 'A'.val ∧ c.val ≤ 'Z'.val) ||
      c.val ≥ 'a'.val && c.val ≤ 'z'.val) := rfl
  rw [hcases]
  simp [UInt32.le_iff_toNat_le]

theorem toLower_of_not_isAlpha {c : Char} (h : c.isAlpha = false) : c.toLower = c := by
  rw [Bool.eq_false_iff, ne_eq, isAlpha_iff] at h
  rw [← Char.toNat_inj, toNat_toLower, if_neg (by omega)]

theorem toUpper_of_not_isAlpha {c : Char} (h : c.isAlpha = false) : c.toUpper = c := by
  rw [Bool.eq_false_iff, ne_eq, isAlpha_iff] at h
  refine dif_neg ?_
  rw [UInt32.le_iff_toNat_le, UInt32.le_iff_toNat_le]
  exact fun hlower => h (.inr hlower)

theorem isAlpha_toLower (c : Char) : c.toLower.isAlpha = c.isAlpha := by
  rw [Bool.eq_iff_iff, isAlpha_iff, isAlpha_iff, toNat_toLower]
  split <;> omega

/-- Only a letter is the lower case of another character. -/
theorem toLower_eq_iff {c d : Char} (h : d.isAlpha = false) : c.toLower = d ↔ c = d := by
  constructor
  · rintro rfl
    rw [isAlpha_toLower] at h
    exact (toLower_of_not_isAlpha h).symm
  · rintro rfl
    exact toLower_of_not_isAlpha h

theorem toLower_ne {c d : Char} (h : d.isAlpha = false) (hne : c ≠ d) : c.toLower ≠ d :=
  mt (toLower_eq_iff h).1 hne

theorem toNat_toUpper (c : Char) :
    c.toUpper.toNat = if 97 ≤ c.toNat ∧ c.toNat ≤ 122 then c.toNat - 32 else c.toNat := by
  have hlower : (c.val ≥ 'a'.val ∧ c.val ≤ 'z'.val) ↔ (97 ≤ c.toNat ∧ c.toNat ≤ 122) := by
    simp [UInt32.le_iff_toNat_le]
  unfold Char.toUpper
  by_cases h : c.val ≥ 'a'.val ∧ c.val ≤ 'z'.val
  · rw [dif_pos h, if_pos (hlower.1 h)]
    change (c.val + ('A'.val - 'a'.val)).toNat = _
    have hbounds := hlower.1 h
    rw [UInt32.toNat_add]
    simp
    omega
  · rw [dif_neg h, if_neg (hlower.not.1 h)]

theorem toUpper_eq_toUpper_iff {c d : Char} : c.toUpper = d.toUpper ↔ c.toLower = d.toLower := by
  rw [← Char.toNat_inj, ← Char.toNat_inj, toNat_toUpper, toNat_toUpper, toNat_toLower,
    toNat_toLower]
  grind

/-- Only a letter is the capital of another character. -/
theorem toUpper_eq_iff {c d : Char} (h : d.isAlpha = false) : c.toUpper = d ↔ c = d := by
  have hupper : c.toUpper = d ↔ c.toUpper = d.toUpper := by rw [toUpper_of_not_isAlpha h]
  rw [hupper, toUpper_eq_toUpper_iff, toLower_of_not_isAlpha h, toLower_eq_iff h]

/-- A test that no letter passes does not see the case of letters. -/
theorem apply_toLower {p : Char → Bool} (h : ∀ c, c.isAlpha = true → p c = false) (c : Char) :
    p c.toLower = p c := by
  by_cases hc : c.isAlpha = true
  · rw [h c hc, h _ (by rw [isAlpha_toLower, hc])]
  · rw [toLower_of_not_isAlpha (Bool.eq_false_iff.2 hc)]

theorem isBlank_of_isAlpha {c : Char} (h : c.isAlpha = true) : isBlank c = false := by
  rw [isAlpha_iff] at h
  simp only [isBlank, Bool.or_eq_false_iff, Bool.and_eq_false_iff, decide_eq_false_iff_not,
    beq_eq_false_iff_ne]
  omega

theorem isBlank_toLower (c : Char) : isBlank c.toLower = isBlank c :=
  apply_toLower (fun _ => isBlank_of_isAlpha) c

theorem isDigit_of_isAlpha {c : Char} (h : c.isAlpha = true) : isDigit c = false := by
  rw [isAlpha_iff] at h
  simp [isDigit, Char.le_def, UInt32.le_iff_toNat_le]
  omega

theorem isDigit_toLower (c : Char) : isDigit c.toLower = isDigit c :=
  apply_toLower (fun _ => isDigit_of_isAlpha) c

theorem toList_toLower (s : String) : s.toLower.toList = s.toList.map Char.toLower :=
  String.toList_map

theorem toLower_ofList (cs : List Char) :
    (String.ofList cs).toLower = String.ofList (cs.map Char.toLower) := by
  rw [← String.toList_inj, toList_toLower, String.toList_ofList, String.toList_ofList]

theorem toLower_toLower (s : String) : s.toLower.toLower = s.toLower := by
  have hlower (c : Char) : c.toLower.toLower = c.toLower := by
    rw [← Char.toNat_inj, toNat_toLower c.toLower, if_neg]
    rw [toNat_toLower]
    split <;> omega
  simp [← String.toList_inj, toList_toLower, hlower]

theorem map_eq_map_iff_forall₂ {α β : Type} {f : α → β} {as bs : List α} :
    as.map f = bs.map f ↔ List.Forall₂ (fun a b => f a = f b) as bs := by
  rw [← List.forall₂_eq_eq_eq, List.forall₂_map_left_iff, List.forall₂_map_right_iff]

/-- Two names are the same if their lower cases are. -/
theorem sameName_iff_toLower {a b : String} : sameName a b = true ↔ a.toLower = b.toLower := by
  rw [sameName_iff, ← String.toList_inj, toList_toLower, toList_toLower]
  rfl

theorem sameName_congr_left {a b : String} (h : a.toLower = b.toLower) (name : String) :
    sameName a name = sameName b name :=
  sameName_congr (sameName_iff_toLower.2 h) name

theorem sameName_congr_right {a b : String} (h : a.toLower = b.toLower) (name : String) :
    sameName name a = sameName name b := by
  rw [sameName_comm, sameName_congr_left h, sameName_comm]

/-- A text without letters is the lower case of itself only. -/
theorem toLower_eq_iff_of_not_isAlpha {s t : String} (h : ∀ c ∈ t.toList, c.isAlpha = false) :
    s.toLower = t ↔ s = t := by
  rw [← String.toList_inj, toList_toLower, ← String.toList_inj]
  generalize s.toList = cs at *
  generalize t.toList = ds at *
  induction ds generalizing cs with
  | nil => exact List.map_eq_nil_iff
  | cons d ds ih =>
    rw [List.forall_mem_cons] at h
    cases cs with
    | nil => simp
    | cons c cs =>
      rw [List.map_cons, List.cons.injEq, List.cons.injEq, toLower_eq_iff h.1, ih _ h.2]

theorem toLower_eq_empty_iff {s : String} : s.toLower = "" ↔ s = "" := by
  rw [← String.toList_inj, toList_toLower, ← String.toList_inj]
  simp

section Cut

variable {sep : Char} (hsep : sep.isAlpha = false)

include hsep

theorem cutChars_map_toLower (cs : List Char) :
    cutChars sep (cs.map Char.toLower) =
      ((cutChars sep cs).1.map Char.toLower, (cutChars sep cs).2.map (List.map Char.toLower)) := by
  induction cs with
  | nil => rfl
  | cons c cs ih =>
    by_cases hc : c = sep
    · simp [cutChars, hc, toLower_of_not_isAlpha hsep]
    · have hlower := toLower_ne hsep hc
      simp [cutChars, hc, hlower, ih]

theorem splitAllChars_map_toLower (cs : List Char) :
    splitAllChars sep (cs.map Char.toLower) =
      (splitAllChars sep cs).map (List.map Char.toLower) := by
  induction cs with
  | nil => rfl
  | cons c cs ih =>
    by_cases hc : c = sep
    · simp [splitAllChars, hc, toLower_of_not_isAlpha hsep, ih]
    · have hlower := toLower_ne hsep hc
      rw [List.map_cons, splitAllChars, if_neg hlower, ih, splitAllChars, if_neg hc]
      cases splitAllChars sep cs <;> rfl

theorem cut_toLower (s : String) :
    cut sep s.toLower = ((cut sep s).1.toLower, (cut sep s).2.map String.toLower) := by
  rw [cut, toList_toLower, cutChars_map_toLower hsep]
  simp [cut, toLower_ofList, Function.comp_def]

theorem splitAll_toLower (s : String) :
    splitAll sep s.toLower = (splitAll sep s).map String.toLower := by
  rw [splitAll, toList_toLower, splitAllChars_map_toLower hsep]
  simp [splitAll, toLower_ofList]

end Cut

theorem trimChars_map_toLower (cs : List Char) :
    trimChars (cs.map Char.toLower) = (trimChars cs).map Char.toLower := by
  have hblank : isBlank ∘ Char.toLower = isBlank := funext isBlank_toLower
  rw [trimChars, trimChars, trimStart, trimStart, List.dropWhile_map, hblank, trimEnd, trimEnd,
    ← List.map_reverse, List.dropWhile_map, hblank, List.map_reverse]

theorem sameName_trim {a b : String} (h : sameName a b = true) :
    sameName (trim a) (trim b) = true := by
  rw [sameName_iff, asciiKey, asciiKey] at h ⊢
  rw [toList_trim, toList_trim, ← trimChars_map_toLower, h, trimChars_map_toLower]

/-- An entry is found by its name if every entry of that name has its value. -/
theorem lookup_eq_some_of_mem {α : Type} {entries : List (String × α)} {key name : String}
    {value : α} (hmem : (key, value) ∈ entries) (hkey : sameName key name = true)
    (alone : ∀ entry ∈ entries, sameName entry.1 name = true → entry.2 = value) :
    lookup entries name = some value := by
  cases hfind : entries.find? fun entry => sameName entry.1 name with
  | none => exact absurd hkey (List.find?_eq_none.1 hfind _ hmem)
  | some entry =>
    have hname : sameName entry.1 name = true := by simpa using List.find?_some hfind
    have hvalue := alone entry (List.mem_of_find?_eq_some hfind) hname
    rw [lookup, hfind, Option.map_some, hvalue]

theorem readNat?_map_toLower (cs : List Char) : readNat? (cs.map Char.toLower) = readNat? cs := by
  have hall : (cs.map Char.toLower).all isDigit = cs.all isDigit := by
    rw [List.all_map]
    exact congrArg cs.all (funext isDigit_toLower)
  have hdigits (h : cs.all isDigit = true) : cs.map Char.toLower = cs := by
    have hlower : ∀ c ∈ cs, c.toLower = id c := by
      intro c hc
      refine toLower_of_not_isAlpha (Bool.eq_false_iff.2 ?_)
      intro hletter
      have hdigit := List.all_eq_true.1 h c hc
      rw [isDigit_of_isAlpha hletter] at hdigit
      cases hdigit
    rw [List.map_congr_left hlower, List.map_id]
  unfold readNat?
  rw [hall, List.isEmpty_map]
  by_cases h : cs.all isDigit = true
  · rw [hdigits h]
  · simp [h]

theorem readInt?_map_toLower (cs : List Char) : readInt? (cs.map Char.toLower) = readInt? cs := by
  cases cs with
  | nil => rfl
  | cons c cs =>
    by_cases hminus : c = '-'
    · subst hminus
      rw [List.map_cons, toLower_of_not_isAlpha (by decide), readInt?, readInt?,
        readNat?_map_toLower]
    by_cases hplus : c = '+'
    · subst hplus
      rw [List.map_cons, toLower_of_not_isAlpha (by decide), readInt?, readInt?,
        readNat?_map_toLower]
    have hplain {c : Char} {cs : List Char} (hminus : c ≠ '-') (hplus : c ≠ '+') :
        readInt? (c :: cs) = (readNat? (c :: cs)).map fun n => (n : Int) := by
      unfold readInt?
      split <;> simp_all
    rw [hplain hminus hplus, ← readNat?_map_toLower, List.map_cons,
      hplain (toLower_ne (by decide) hminus) (toLower_ne (by decide) hplus)]

theorem readInt64?_toLower (s : String) : readInt64? s.toLower = readInt64? s := by
  rw [readInt64?, toList_toLower, readInt?_map_toLower, readInt64?]

namespace Percent

def lowerByte (b : UInt8) : UInt8 := if 0x41 ≤ b ∧ b ≤ 0x5A then b + 0x20 else b

theorem lowerByte_lowerByte (b : UInt8) : lowerByte (lowerByte b) = lowerByte b := by
  unfold lowerByte
  grind

theorem hexValue_lowerByte (b : UInt8) : hexValue (lowerByte b) = hexValue b := by
  unfold hexValue lowerByte
  grind

/-- Outside of the letters a byte is the lower case of itself only. -/
theorem lowerByte_eq_iff {a b : UInt8} (h : b < 0x41 ∨ 0x7A < b) : lowerByte a = b ↔ a = b := by
  unfold lowerByte
  grind

theorem decodeBytes_of_not_hex {high low : UInt8} {tail : List UInt8}
    (h : ∀ a b, hexValue high = some a → hexValue low = some b → False) :
    decodeBytes (0x25 :: high :: low :: tail) = 0x25 :: decodeBytes (high :: low :: tail) := by
  rw [decodeBytes, if_pos rfl]
  split
  · next a b ha hb => exact (h a b ha hb).elim
  · rfl

theorem map_lowerByte_decodeBytes (bytes : List UInt8) :
    (decodeBytes (bytes.map lowerByte)).map lowerByte = (decodeBytes bytes).map lowerByte := by
  have hpercent (b : UInt8) : lowerByte b = 0x25 ↔ b = 0x25 := lowerByte_eq_iff (by decide)
  fun_induction decodeBytes bytes with
  | case1 => rfl
  | case2 high low tail h l hl hh ih => simp [decodeBytes, hpercent, hexValue_lowerByte, hl, hh, ih]
  | case3 high low tail hdigits ih =>
    have hlower : ∀ h l, hexValue (lowerByte high) = some h →
        hexValue (lowerByte low) = some l → False := by
      simpa [hexValue_lowerByte] using hdigits
    have hself : lowerByte 0x25 = 0x25 := rfl
    rw [List.map_cons, hself, List.map_cons, List.map_cons, decodeBytes_of_not_hex hlower,
      List.map_cons, hself, List.map_cons, hself, ← ih, List.map_cons, List.map_cons]
  | case4 short hshort =>
    rcases short with _ | ⟨digit, _ | ⟨high, tail⟩⟩
    · rfl
    · simp [decodeBytes, hpercent, lowerByte_lowerByte]
    · exact (hshort _ _ _ rfl).elim
  | case5 b rest hb ih =>
    rw [List.map_cons, decodeBytes_cons_of_ne (hpercent b |>.not.2 hb), List.map_cons,
      lowerByte_lowerByte, ih, List.map_cons]

theorem not_lt_of_mem_utf8EncodeChar {b : UInt8} {c : Char} (hc : ¬ c.toNat < 128)
    (hb : b ∈ String.utf8EncodeChar c) : ¬ b < 0x80 := by
  intro hsmall
  have hcode := toNat_of_mem_utf8EncodeChar hsmall hb
  rw [isAscii_iff] at hsmall
  omega

theorem utf8EncodeChar_toLower (c : Char) :
    String.utf8EncodeChar c.toLower = (String.utf8EncodeChar c).map lowerByte := by
  by_cases hc : c.toNat < 128
  · have hbyte : ∀ n < 128, String.utf8EncodeChar (Char.ofNat n).toLower =
        (String.utf8EncodeChar (Char.ofNat n)).map lowerByte := by decide
    rw [← Char.ofNat_toNat c]
    exact hbyte c.toNat hc
  · have hself : c.toLower = c := by
      rw [← Char.toNat_inj, toNat_toLower, if_neg (by omega)]
    have hbytes : ∀ b ∈ String.utf8EncodeChar c, lowerByte b = id b := by
      intro b hb
      have hlarge := not_lt_of_mem_utf8EncodeChar hc hb
      exact (lowerByte_eq_iff (by grind)).2 rfl
    rw [hself, List.map_congr_left hbytes, List.map_id]

theorem utf8_toLower (s : String) : utf8 s.toLower = (utf8 s).map lowerByte := by
  rw [← s.ofList_toList, toLower_ofList, utf8_ofList, utf8_ofList, List.flatMap_map,
    List.map_flatMap]
  exact congrArg (List.flatMap · s.toList) (funext utf8EncodeChar_toLower)

theorem lowerByte_lt {b : UInt8} (h : lowerByte b < 0x80) : b < 0x80 := by
  unfold lowerByte at h
  grind

theorem lowerByte_of_not_lt {b : UInt8} (h : ¬ lowerByte b < 0x80) : lowerByte b = b := by
  unfold lowerByte at h ⊢
  grind

theorem exists_utf8_of_map_lowerByte {bytes : List UInt8} {t : String}
    (h : bytes.map lowerByte = utf8 t) : ∃ s, bytes = utf8 s := by
  rw [← t.ofList_toList, utf8_ofList] at h
  generalize t.toList = cs at h
  induction cs generalizing bytes with
  | nil => exact ⟨"", List.map_eq_nil_iff.1 h⟩
  | cons c cs ih =>
    rw [List.flatMap_cons] at h
    obtain ⟨first, rest, rfl, hfirst, hrest⟩ := List.map_eq_append_iff.1 h
    obtain ⟨s, rfl⟩ := ih hrest
    suffices ∃ c, first = String.utf8EncodeChar c by
      obtain ⟨c, rfl⟩ := this
      refine ⟨String.ofList (c :: s.toList), ?_⟩
      rw [utf8_ofList, List.flatMap_cons, ← utf8_ofList, s.ofList_toList]
    by_cases hc : c.toNat < 128
    · have hbyte : String.utf8EncodeChar c = [UInt8.ofNat c.toNat] := by
        have hcode : (UInt8.ofNat c.toNat).toNat = c.toNat := by
          rw [UInt8.toNat_ofNat']
          omega
        have hself := utf8EncodeChar_ofNat (isAscii_iff.2 (hcode.symm ▸ hc))
        rwa [hcode, Char.ofNat_toNat] at hself
      rw [hbyte] at hfirst
      obtain ⟨b, rfl, hb⟩ : ∃ b, first = [b] ∧ lowerByte b = UInt8.ofNat c.toNat := by
        rcases first with _ | ⟨b, _ | ⟨_, _⟩⟩ <;> simp_all
      have hsmall : lowerByte b < 0x80 := by
        rw [hb, isAscii_iff, UInt8.toNat_ofNat']
        omega
      exact ⟨Char.ofNat b.toNat, (utf8EncodeChar_ofNat (lowerByte_lt hsmall)).symm⟩
    · refine ⟨c, ?_⟩
      have hself : ∀ b ∈ first, lowerByte b = id b := by
        intro b hb
        have hmem := hfirst ▸ List.mem_map_of_mem hb
        have hlarge := not_lt_of_mem_utf8EncodeChar hc hmem
        exact lowerByte_of_not_lt hlarge
      rw [← hfirst, List.map_congr_left hself, List.map_id]

theorem utf8_of_ofUtf8? {bytes : List UInt8} {s : String} (h : ofUtf8? bytes = some s) :
    bytes = utf8 s := by
  simp only [ofUtf8?, String.fromUTF8?] at h
  split at h
  · obtain rfl := Option.some.inj h
    rfl
  · cases h

theorem map_toLower_ofUtf8? (bytes : List UInt8) :
    ofUtf8? (bytes.map lowerByte) = (ofUtf8? bytes).map String.toLower := by
  by_cases h : ∃ s, bytes = utf8 s
  · obtain ⟨s, rfl⟩ := h
    rw [← utf8_toLower, ofUtf8?_utf8, ofUtf8?_utf8, Option.map_some]
  · have hnone {bytes : List UInt8} (h : ¬ ∃ s, bytes = utf8 s) : ofUtf8? bytes = none :=
      Option.eq_none_iff_forall_ne_some.2 fun s hs => h ⟨s, utf8_of_ofUtf8? hs⟩
    have hlower : ¬ ∃ s, bytes.map lowerByte = utf8 s :=
      fun ⟨_, ht⟩ => h (exists_utf8_of_map_lowerByte ht)
    rw [hnone h, hnone hlower, Option.map_none]

theorem plusAsSpace_toLower (s : String) : plusAsSpace s.toLower = (plusAsSpace s).toLower := by
  have hchar (c : Char) : (if c.toLower = '+' then ' ' else c.toLower) =
      (if c = '+' then ' ' else c).toLower := by
    by_cases hc : c = '+'
    · subst hc
      decide
    · rw [if_neg hc, if_neg (toLower_ne (by decide) hc)]
  rw [plusAsSpace, plusAsSpace, toList_toLower, toLower_ofList, List.map_map, List.map_map]
  exact congrArg (fun f => String.ofList (s.toList.map f)) (funext hchar)

/-- What is decoded has the case of what it is decoded from. -/
theorem toLower_decode (s : String) : (decode s.toLower).toLower = (decode s).toLower := by
  have hbytes := map_lowerByte_decodeBytes (utf8 (plusAsSpace s))
  have hread := congrArg ofUtf8? hbytes
  rw [map_toLower_ofUtf8?, map_toLower_ofUtf8?] at hread
  have hdefault (read : Option String) (fallback : String) :
      (read.getD fallback).toLower = (read.map String.toLower).getD fallback.toLower := by
    cases read <;> rfl
  rw [decode, decode, plusAsSpace_toLower, utf8_toLower, hdefault, hdefault, hread, toLower_toLower]

end Percent

end RecordQuery.Text

import RecordQuery.Text.Percent

/-!
# Decoding what was encoded

Decoding undoes encoding, also when plain text follows: text without percent and plus signs stands
for itself. An encoded text has unreserved characters and percent signs only, so none of the
characters at which a query text is cut stand in it.
-/

namespace RecordQuery.Text.Percent

theorem hexValue_hexDigit {n : UInt8} (h : n < 16) : hexValue (hexDigit n) = some n := by
  unfold hexDigit
  split
  · have hvalue : 0x30 + n - 0x30 = n := by grind
    have hrange : 0x30 ≤ 0x30 + n ∧ 0x30 + n ≤ 0x39 := by grind
    rw [hexValue, if_pos hrange, hvalue]
  · have hvalue : 0x37 + n - 0x37 = n := by grind
    have hdecimal : ¬(0x30 ≤ 0x37 + n ∧ 0x37 + n ≤ 0x39) := by grind
    have hrange : 0x41 ≤ 0x37 + n ∧ 0x37 + n ≤ 0x46 := by grind
    rw [hexValue, if_neg hdecimal, if_pos hrange, hvalue]

theorem isUnreserved_hexDigit {n : UInt8} (h : n < 16) : isUnreserved (hexDigit n) = true := by
  unfold hexDigit
  split
  · have hrange : 0x30 ≤ 0x30 + n ∧ 0x30 + n ≤ 0x39 := by grind
    simp [isUnreserved, hrange]
  · have hrange : 0x41 ≤ 0x37 + n ∧ 0x37 + n ≤ 0x5A := by grind
    simp [isUnreserved, hrange]

theorem digits_of_byte (b : UInt8) : b / 16 < 16 ∧ b % 16 < 16 ∧ b / 16 * 16 + b % 16 = b := by
  simp only [UInt8.lt_iff_toNat_lt, ← UInt8.toNat_inj, UInt8.toNat_add, UInt8.toNat_mul,
    UInt8.toNat_div, UInt8.toNat_mod, UInt8.reduceToNat]
  have := b.toNat_lt
  omega

theorem decodeBytes_cons_of_ne {b : UInt8} (h : b ≠ 0x25) (rest : List UInt8) :
    decodeBytes (b :: rest) = b :: decodeBytes rest := by
  rw [decodeBytes.eq_def]
  exact if_neg h

theorem decodeBytes_of_notMem {bytes : List UInt8} (h : 0x25 ∉ bytes) :
    decodeBytes bytes = bytes := by
  induction bytes with
  | nil => rfl
  | cons b rest ih =>
    rw [List.mem_cons, not_or] at h
    rw [decodeBytes_cons_of_ne (Ne.symm h.1), ih h.2]

theorem decodeBytes_encodeByte (b : UInt8) (rest : List UInt8) :
    decodeBytes (encodeByte b ++ rest) = b :: decodeBytes rest := by
  unfold encodeByte
  split
  · next hplain =>
    have hb : b ≠ 0x25 := by
      rintro rfl
      cases hplain
    exact decodeBytes_cons_of_ne hb rest
  · obtain ⟨hhigh, hlow, hwhole⟩ := digits_of_byte b
    rw [List.cons_append, List.cons_append, List.cons_append, List.nil_append, decodeBytes,
      if_pos rfl, hexValue_hexDigit hhigh, hexValue_hexDigit hlow]
    exact congrArg (· :: decodeBytes rest) hwhole

theorem decodeBytes_flatMap_encodeByte (bytes rest : List UInt8) :
    decodeBytes (bytes.flatMap encodeByte ++ rest) = bytes ++ decodeBytes rest := by
  induction bytes with
  | nil => rfl
  | cons b bytes ih =>
    rw [List.flatMap_cons, List.append_assoc, decodeBytes_encodeByte, ih, List.cons_append]

theorem isUnreserved_lt {b : UInt8} (h : isUnreserved b = true) : b < 0x80 := by
  simp only [isUnreserved, Bool.or_eq_true, Bool.and_eq_true, decide_eq_true_eq, beq_iff_eq] at h
  grind

theorem of_mem_encodeByte {b c : UInt8} (h : c ∈ encodeByte b) :
    isUnreserved c = true ∨ c = 0x25 := by
  unfold encodeByte at h
  obtain ⟨hhigh, hlow, -⟩ := digits_of_byte b
  split at h
  · next hplain => exact .inl (List.mem_singleton.1 h ▸ hplain)
  · simp only [List.mem_cons, List.not_mem_nil, or_false] at h
    rcases h with rfl | rfl | rfl
    · exact .inr rfl
    · exact .inl (isUnreserved_hexDigit hhigh)
    · exact .inl (isUnreserved_hexDigit hlow)

theorem isAscii_iff {b : UInt8} : b < 0x80 ↔ b.toNat < 128 := UInt8.lt_iff_toNat_lt

theorem utf8_append (s t : String) : utf8 (s ++ t) = utf8 s ++ utf8 t := by
  simp [utf8]

theorem utf8_ofList (cs : List Char) :
    utf8 (String.ofList cs) = cs.flatMap String.utf8EncodeChar := by
  induction cs with
  | nil => rfl
  | cons c cs ih =>
    have hsplit : String.ofList (c :: cs) = String.ofList [c] ++ String.ofList cs := by
      rw [← String.ofList_append, List.singleton_append]
    rw [hsplit, utf8_append, ih, List.flatMap_cons]
    simp [utf8, List.utf8Encode_singleton]

/-- A byte below 128 stands in the form of its own character only. -/
theorem toNat_of_mem_utf8EncodeChar {b : UInt8} {c : Char} (hb : b < 0x80)
    (h : b ∈ String.utf8EncodeChar c) : c.toNat = b.toNat := by
  rw [isAscii_iff] at hb
  change c.val.toNat = _
  unfold String.utf8EncodeChar at h
  dsimp only at h
  split at h
  · rw [List.mem_singleton.1 h, UInt8.toNat_ofNat']
    omega
  -- the bytes of all other characters are 128 or more
  split at h
  · simp only [List.mem_cons, List.not_mem_nil, or_false, ← UInt8.toNat_inj,
      UInt8.toNat_ofNat'] at h
    omega
  split at h
  all_goals
    simp only [List.mem_cons, List.not_mem_nil, or_false, ← UInt8.toNat_inj,
      UInt8.toNat_ofNat'] at h
    omega

theorem toNat_ofNat_byte (b : UInt8) : (Char.ofNat b.toNat).toNat = b.toNat := by
  have hvalid : b.toNat.isValidChar := .inl (Nat.lt_trans b.toNat_lt (by decide))
  rw [Char.ofNat, dif_pos hvalid]
  rfl

theorem utf8EncodeChar_ofNat {b : UInt8} (hb : b < 0x80) :
    String.utf8EncodeChar (Char.ofNat b.toNat) = [b] := by
  rw [isAscii_iff] at hb
  have hvalue : (Char.ofNat b.toNat).val.toNat = b.toNat := toNat_ofNat_byte b
  rw [String.utf8EncodeChar]
  simp only [hvalue]
  rw [if_pos (by omega), UInt8.ofNat_toNat]

theorem utf8_encode (s : String) : utf8 (encode s) = (utf8 s).flatMap encodeByte := by
  have hascii : ∀ b ∈ (utf8 s).flatMap encodeByte, b < 0x80 := by
    intro b hb
    obtain ⟨a, -, hb⟩ := List.mem_flatMap.1 hb
    rcases of_mem_encodeByte hb with h | rfl
    · exact isUnreserved_lt h
    · decide
  rw [encode, utf8_ofList, List.flatMap_map]
  generalize (utf8 s).flatMap encodeByte = bytes at hascii
  induction bytes with
  | nil => rfl
  | cons b bytes ih =>
    rw [List.flatMap_cons, utf8EncodeChar_ofNat (hascii b List.mem_cons_self),
      ih fun b hb => hascii b (List.mem_cons_of_mem _ hb), List.singleton_append]

theorem encode_append (s t : String) : encode (s ++ t) = encode s ++ encode t := by
  rw [encode, utf8_append, List.flatMap_append, List.map_append, String.ofList_append]
  rfl

/-- Characters that an encoded text does not have. -/
theorem notMem_encode {c : Char} (hc : isUnreserved (UInt8.ofNat c.toNat) = false) (h : c ≠ '%')
    (s : String) : c ∉ (encode s).toList := by
  intro hmem
  rw [encode, String.toList_ofList] at hmem
  obtain ⟨b, hb, rfl⟩ := List.mem_map.1 hmem
  obtain ⟨a, -, hb⟩ := List.mem_flatMap.1 hb
  rcases of_mem_encodeByte hb with hplain | rfl
  · rw [toNat_ofNat_byte, UInt8.ofNat_toNat, hplain] at hc
    cases hc
  · exact h rfl

theorem plusAsSpace_of_notMem {s : String} (h : '+' ∉ s.toList) : plusAsSpace s = s := by
  have hmap : s.toList.map (fun c => if c = '+' then ' ' else c) = s.toList.map id := by
    apply List.map_congr_left
    intro c hc
    apply if_neg
    rintro rfl
    exact h hc
  rw [plusAsSpace, hmap, List.map_id, String.ofList_toList]

theorem notMem_utf8 {s : String} (h : '%' ∉ s.toList) : 0x25 ∉ utf8 s := by
  rw [← s.ofList_toList, utf8_ofList]
  intro hmem
  obtain ⟨c, hc, hb⟩ := List.mem_flatMap.1 hmem
  have hcode : c.toNat = '%'.toNat := toNat_of_mem_utf8EncodeChar (by decide) hb
  exact h (Char.toNat_inj.1 hcode ▸ hc)

/-- Decoding undoes encoding and leaves the plain text that follows as it is. -/
theorem decode_encode_append (s : String) {plain : String} (hpercent : '%' ∉ plain.toList)
    (hplus : '+' ∉ plain.toList) : decode (encode s ++ plain) = s ++ plain := by
  have hspaced : plusAsSpace (encode s ++ plain) = encode s ++ plain := by
    refine plusAsSpace_of_notMem ?_
    rw [String.toList_append, List.mem_append, not_or]
    exact ⟨notMem_encode rfl (by decide) s, hplus⟩
  have hbytes : decodeBytes (utf8 (encode s ++ plain)) = utf8 (s ++ plain) := by
    rw [utf8_append, utf8_encode, decodeBytes_flatMap_encodeByte,
      decodeBytes_of_notMem (notMem_utf8 hpercent), utf8_append]
  rw [decode, hspaced, hbytes, ofUtf8?_utf8, Option.getD_some]

theorem decode_encode (s : String) : decode (encode s) = s := by
  have h := @decode_encode_append s "" nofun nofun
  rwa [String.append_empty, String.append_empty] at h

theorem decode_plain {s : String} (hpercent : '%' ∉ s.toList) (hplus : '+' ∉ s.toList) :
    decode s = s := by
  have hempty : encode "" = "" := rfl
  simpa [hempty] using decode_encode_append "" hpercent hplus

end RecordQuery.Text.Percent

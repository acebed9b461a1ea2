import RecordQuery.Text.Percent

/-!
# Sizes in bytes

The size of a text is the number of bytes of its UTF-8 form. Percent decoding never makes a text
larger.
-/

namespace RecordQuery.Text

def byteSize (cs : List Char) : Nat := cs.foldr (fun c size => c.utf8Size + size) 0

@[simp] theorem byteSize_nil : byteSize [] = 0 := rfl

@[simp] theorem byteSize_cons (c : Char) (cs : List Char) :
    byteSize (c :: cs) = c.utf8Size + byteSize cs := rfl

@[simp] theorem byteSize_append (cs ds : List Char) :
    byteSize (cs ++ ds) = byteSize cs + byteSize ds := by
  induction cs with
  | nil => simp
  | cons c cs ih => rw [List.cons_append, byteSize_cons, byteSize_cons, ih, Nat.add_assoc]

@[simp] theorem utf8ByteSize_ofList (cs : List Char) :
    (String.ofList cs).utf8ByteSize = byteSize cs := by
  induction cs with
  | nil => simp
  | cons c cs ih =>
    rw [← String.size_toByteArray, String.toByteArray_ofList] at ih ⊢
    rw [List.utf8Encode_cons, ByteArray.size_append, ih, List.utf8Encode_singleton]
    simp [List.size_toByteArray]

theorem byteSize_toList (s : String) : byteSize s.toList = s.utf8ByteSize := by
  rw [← utf8ByteSize_ofList, String.ofList_toList]

theorem byteSize_pos {cs : List Char} (h : cs ≠ []) : 0 < byteSize cs := by
  cases cs with
  | nil => exact absurd rfl h
  | cons c cs =>
    have := c.utf8Size_pos
    simp only [byteSize_cons]
    omega

theorem byteSize_le_of_suffix {cs ds : List Char} (h : cs <:+ ds) : byteSize cs ≤ byteSize ds := by
  obtain ⟨es, rfl⟩ := h
  simp

namespace Percent

theorem utf8ByteSize_plusAsSpace (s : String) : (plusAsSpace s).utf8ByteSize = s.utf8ByteSize := by
  rw [plusAsSpace, utf8ByteSize_ofList, ← byteSize_toList]
  induction s.toList with
  | nil => rfl
  | cons c cs ih =>
    by_cases h : c = '+'
    · have hsize : ' '.utf8Size = '+'.utf8Size := by decide
      simp [h, ih, hsize]
    · simp [h, ih]

theorem utf8ByteSize_of_ofUtf8? {bytes : List UInt8} {s : String} (h : ofUtf8? bytes = some s) :
    s.utf8ByteSize = bytes.length := by
  simp only [ofUtf8?, String.fromUTF8?] at h
  split at h
  · obtain rfl := Option.some.inj h
    rfl
  · simp at h

theorem utf8ByteSize_decode_le (s : String) : (decode s).utf8ByteSize ≤ s.utf8ByteSize := by
  rw [← utf8ByteSize_plusAsSpace s, decode]
  cases h : ofUtf8? (decodeBytes (utf8 (plusAsSpace s))) with
  | none => simp
  | some t =>
    rw [Option.getD_some, utf8ByteSize_of_ofUtf8? h]
    exact length_decodeBytes_le _

end Percent

end RecordQuery.Text

import Mathlib.Data.List.Basic
import RecordQuery.Proofs.Text.Percent
import RecordQuery.Text.Size

/-!
# Places in bytes

A character stands in the bytes of a text behind those of all characters before it. Bytes below 128
are characters of their own, so that counting them up to a byte is counting characters up to the one
that the byte belongs to.
-/

namespace RecordQuery.Text

variable {text : List Char} {i j : Nat}

/-- The place of a character counted in bytes. -/
def bytePlace (text : List Char) (i : Nat) : Nat := byteSize (text.take i)

theorem bytePlace_mono (h : i ≤ j) : bytePlace text i ≤ bytePlace text j := by
  obtain ⟨more, hmore⟩ := List.take_prefix_take_left (l := text) h
  rw [bytePlace, bytePlace, ← hmore, byteSize_append]
  exact Nat.le_add_right _ _

theorem bytePlace_lt_succ (h : i < text.length) : bytePlace text i < bytePlace text (i + 1) := by
  rw [bytePlace, bytePlace, List.take_add_one, List.getElem?_eq_getElem h, byteSize_append]
  have hpos := byteSize_pos (List.cons_ne_nil text[i] [])
  exact Nat.lt_add_of_pos_right hpos

theorem lt_of_bytePlace_lt (h : bytePlace text i < bytePlace text j) : i < j := by
  by_contra hle
  exact Nat.not_lt_of_le (bytePlace_mono (Nat.le_of_not_lt hle)) h

theorem bytePlace_add (text : List Char) (i k : Nat) :
    bytePlace text (i + k) = bytePlace text i + bytePlace (text.drop i) k := by
  rw [bytePlace, List.take_add, byteSize_append]
  rfl

theorem length_utf8_ofList (cs : List Char) :
    (Percent.utf8 (String.ofList cs)).length = byteSize cs := by
  rw [← utf8ByteSize_ofList]
  rfl

theorem drop_utf8 (text : List Char) (i : Nat) :
    (Percent.utf8 (String.ofList text)).drop (bytePlace text i) =
      Percent.utf8 (String.ofList (text.drop i)) := by
  have hsplit : Percent.utf8 (String.ofList text) =
      Percent.utf8 (String.ofList (text.take i)) ++ Percent.utf8 (String.ofList (text.drop i)) := by
    rw [← Percent.utf8_append, ← String.ofList_append, List.take_append_drop]
  rw [hsplit]
  exact List.drop_left' (length_utf8_ofList _)

theorem count_take_utf8EncodeChar {b : UInt8} (hb : b < 0x80) (c : Char) (n : Nat) :
    ((String.utf8EncodeChar c).take (n + 1)).count b = [c].count (Char.ofNat b.toNat) := by
  by_cases hc : c = Char.ofNat b.toNat
  · rw [hc, Percent.utf8EncodeChar_ofNat hb, List.take_succ_cons, List.take_nil]
    simp
  · have hbyte : b ∉ String.utf8EncodeChar c := by
      intro hmem
      apply hc
      rw [← Char.toNat_inj, Percent.toNat_ofNat_byte, Percent.toNat_of_mem_utf8EncodeChar hb hmem]
    rw [List.count_eq_zero_of_not_mem fun hmem => hbyte (List.mem_of_mem_take hmem),
      List.count_singleton, if_neg (by simpa using hc)]

/-- Up to a byte there are as many of an ASCII character as up to the character of the byte. -/
theorem exists_count_take_utf8 {cs : List Char} {place : Nat} (h : place < byteSize cs) :
    ∃ k < cs.length, bytePlace cs k ≤ place ∧ place < bytePlace cs (k + 1) ∧
      ∀ b < 0x80, ((Percent.utf8 (String.ofList cs)).take (place + 1)).count b =
        (cs.take (k + 1)).count (Char.ofNat b.toNat) := by
  induction cs generalizing place with
  | nil => exact absurd h (Nat.not_lt_zero _)
  | cons c cs ih =>
    have hlength := String.length_utf8EncodeChar c
    have hbytes : Percent.utf8 (String.ofList (c :: cs)) =
        String.utf8EncodeChar c ++ Percent.utf8 (String.ofList cs) := by
      rw [Percent.utf8_ofList, Percent.utf8_ofList, List.flatMap_cons]
    rw [hbytes]
    by_cases hfirst : place < c.utf8Size
    · refine ⟨0, Nat.succ_pos _, Nat.zero_le _, by simpa [bytePlace] using hfirst, ?_⟩
      intro b hb
      rw [List.take_append_of_le_length (by omega), count_take_utf8EncodeChar hb]
      rfl
    · have hbehind : place - c.utf8Size < byteSize cs := by
        rw [byteSize_cons] at h
        omega
      obtain ⟨k, hk, hle, hlt, hcount⟩ := ih hbehind
      have hsize (n : Nat) : bytePlace (c :: cs) (n + 1) = c.utf8Size + bytePlace cs n := rfl
      refine ⟨k + 1, Nat.succ_lt_succ hk, by rw [hsize]; omega, by rw [hsize]; omega, ?_⟩
      intro b hb
      have hrest : place + 1 - c.utf8Size = place - c.utf8Size + 1 := by omega
      have hwhole := count_take_utf8EncodeChar hb c place
      rw [List.take_of_length_le (by omega)] at hwhole
      rw [List.take_append, List.count_append, List.take_of_length_le (by omega), hlength, hrest,
        hcount b hb, hwhole, ← List.count_append]
      rfl

end RecordQuery.Text

/-!
# Percent coding

In an encoded component `+` stands for a space and `%XX` for a byte. Decoding never fails: an escape
without two hexadecimal digits stands for itself, and a component whose bytes are no UTF-8 keeps its
escapes. Encoding writes every byte outside the unreserved set as an escape.
-/

namespace RecordQuery.Text.Percent

def hexValue (b : UInt8) : Option UInt8 :=
  if 0x30 ≤ b ∧ b ≤ 0x39 then some (b - 0x30)
  else if 0x41 ≤ b ∧ b ≤ 0x46 then some (b - 0x37)
  else if 0x61 ≤ b ∧ b ≤ 0x66 then some (b - 0x57)
  else none

def hexDigit (n : UInt8) : UInt8 := if n < 10 then 0x30 + n else 0x37 + n

def decodeBytes : List UInt8 → List UInt8
  | [] => []
  | b :: rest =>
    if b = 0x25 then
      match rest with
      | high :: low :: tail =>
        match hexValue high, hexValue low with
        | some h, some l => (h * 16 + l) :: decodeBytes tail
        | _, _ => b :: decodeBytes (high :: low :: tail)
      | short => b :: short
    else b :: decodeBytes rest

theorem length_decodeBytes_le (bytes : List UInt8) :
    (decodeBytes bytes).length ≤ bytes.length := by
  fun_induction decodeBytes bytes <;> simp_all
  omega

def utf8 (s : String) : List UInt8 := s.toByteArray.data.toList

def ofUtf8? (bytes : List UInt8) : Option String := String.fromUTF8? ⟨bytes.toArray⟩

@[simp] theorem ofUtf8?_utf8 (s : String) : ofUtf8? (utf8 s) = some s := by
  have h : s.toByteArray.IsValidUTF8 := s.isValidUTF8
  simp [ofUtf8?, utf8, String.fromUTF8?, h, String.fromUTF8]

def plusAsSpace (s : String) : String :=
  String.ofList (s.toList.map fun c => if c = '+' then ' ' else c)

def decode (s : String) : String :=
  let spaced := plusAsSpace s
  (ofUtf8? (decodeBytes (utf8 spaced))).getD spaced

def isUnreserved (b : UInt8) : Bool :=
  (0x30 ≤ b && b ≤ 0x39) || (0x41 ≤ b && b ≤ 0x5A) || (0x61 ≤ b && b ≤ 0x7A) ||
    b == 0x2D || b == 0x2E || b == 0x5F || b == 0x7E

def encodeByte (b : UInt8) : List UInt8 :=
  if isUnreserved b then [b] else [0x25, hexDigit (b / 16), hexDigit (b % 16)]

def encode (s : String) : String :=
  String.ofList (((utf8 s).flatMap encodeByte).map fun b => Char.ofNat b.toNat)

end RecordQuery.Text.Percent

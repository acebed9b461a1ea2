import RecordQuery.Error
import RecordQuery.QueryText.Group
import RecordQuery.Text.Cut
import RecordQuery.Text.Size

/-!
# Occurrences of keys in a query text

A query text is a sequence of segments `key=value` between ampersands. A value in parentheses after
the key `v` is a group and may hold ampersands itself. Lexing never fails: a group that cannot be
delimited is an occurrence too, so that it is reported in its place. Every group is shorter than the
text around it by at least four bytes (`size_of_mem_lex`), which bounds the nesting of queries.
-/

namespace RecordQuery.QueryText

open Text

/-- A value as it stands in the text. The inside of a group is decoded already if the group was
found in decoded text. -/
inductive RawValue
  | literal (text : String)
  | group (inner literal : String) (decoded : Bool)
  | malformed (fault : GroupFault)
deriving DecidableEq

inductive Occurrence
  | operation (token : String)
  | property (token : String)
  | value (raw : RawValue)
  | sort (token : String)
  | offset (token : String)
  | count (token : String)
deriving DecidableEq

/-- Form-decodes a component that is still encoded. -/
def decodeUnless (decoded : Bool) (cs : List Char) : String :=
  if decoded then String.ofList cs else Percent.decode (String.ofList cs)

/-- A decoded value is a group if it is one from its first character to its last. -/
def groupOf (value : String) : RawValue :=
  match splitGroup? value.toList with
  | some (inner, []) => .group (String.ofList inner) value true
  | _ => .literal value

def withoutSpaces (s : String) : String := String.ofList (s.toList.filter (· ≠ ' '))

/-- The occurrence of a known key; other keys are passed over. -/
def Occurrence.ofKey? (key value : String) : Option Occurrence :=
  if sameName key "o" then some (.operation (withoutSpaces value))
  else if sameName key "p" then some (.property (withoutSpaces value))
  else if sameName key "v" then some (.value (groupOf value))
  else if sameName key "s" then some (.sort (withoutSpaces value))
  else if sameName key "offset" then some (.offset (withoutSpaces value))
  else if sameName key "count" then some (.count (withoutSpaces value))
  else none

/-- The text after the next ampersand. -/
def nextSegment (text : List Char) : List Char := (cutChars '&' text).2.getD []

/-- The value of a group and the text after it. The group must end its segment; one that is never
closed ends the text. -/
def lexGroup (decoded : Bool) (text : List Char) : RawValue × List Char :=
  match splitGroup? text with
  | none => (.malformed .unbalanced, [])
  | some (inner, rest) =>
    if rest = [] ∨ rest.head? = some '&' then
      (.group (String.ofList inner) (decodeUnless decoded ('(' :: inner ++ [')'])) decoded,
        rest.drop 1)
    else (.malformed .trailingText, nextSegment rest)

/-- Reads one segment, or one group with all segments inside it. -/
def lexStep (decoded : Bool) (text : List Char) : Option Occurrence × List Char :=
  match cutChars '=' (cutChars '&' text).1 with
  | (_, none) => (none, nextSegment text)
  | (key, some value) =>
    let name := decodeUnless decoded key
    let afterKey := text.drop (key.length + 1)
    if sameName name "v" && afterKey.head? == some '(' then
      (some (.value (lexGroup decoded afterKey).1), (lexGroup decoded afterKey).2)
    else (Occurrence.ofKey? name (decodeUnless decoded value), nextSegment text)

theorem nextSegment_suffix (text : List Char) : nextSegment text <:+ text := by
  unfold nextSegment
  rcases h : cutChars '&' text with ⟨segment, _ | rest⟩
  · exact List.nil_suffix
  · exact ⟨segment ++ ['&'], by simp [append_of_cutChars h]⟩

theorem length_nextSegment_lt {text : List Char} (h : text ≠ []) :
    (nextSegment text).length < text.length := by
  unfold nextSegment
  rcases hcut : cutChars '&' text with ⟨segment, _ | rest⟩
  · exact List.length_pos_iff.2 h
  · simp [append_of_cutChars hcut]
    omega

theorem lexGroup_suffix (decoded : Bool) (text : List Char) :
    (lexGroup decoded text).2 <:+ text := by
  unfold lexGroup
  split
  · exact List.nil_suffix
  · next inner rest h =>
    have hrest : rest <:+ text := ⟨'(' :: inner ++ [')'], by simp [eq_of_splitGroup? h]⟩
    split
    · exact (List.drop_suffix 1 rest).trans hrest
    · exact (nextSegment_suffix rest).trans hrest

theorem lexStep_suffix (decoded : Bool) (text : List Char) : (lexStep decoded text).2 <:+ text := by
  unfold lexStep
  split
  · exact nextSegment_suffix text
  · dsimp only
    split
    · exact (lexGroup_suffix _ _).trans (List.drop_suffix _ _)
    · exact nextSegment_suffix text

theorem length_lexStep_lt (decoded : Bool) {text : List Char} (h : text ≠ []) :
    (lexStep decoded text).2.length < text.length := by
  unfold lexStep
  split
  · exact length_nextSegment_lt h
  · next key _ _ =>
    dsimp only
    split
    · have hle := (lexGroup_suffix decoded (text.drop (key.length + 1))).length_le
      have hpos := List.length_pos_iff.2 h
      simp only [List.length_drop] at hle
      exact Nat.lt_of_le_of_lt hle (by omega)
    · exact length_nextSegment_lt h

/-- The occurrences of a text, in order. -/
def lex (decoded : Bool) (text : List Char) : List Occurrence :=
  if h : text = [] then []
  else
    have := length_lexStep_lt decoded h
    (lexStep decoded text).1.toList ++ lex decoded (lexStep decoded text).2
termination_by text.length

@[simp] theorem lex_nil (decoded : Bool) : lex decoded [] = [] := by simp [lex]

theorem lex_of_ne_nil (decoded : Bool) {text : List Char} (h : text ≠ []) :
    lex decoded text =
      (lexStep decoded text).1.toList ++ lex decoded (lexStep decoded text).2 := by
  rw [lex, dif_neg h]

theorem utf8ByteSize_decodeUnless_le (decoded : Bool) (cs : List Char) :
    (decodeUnless decoded cs).utf8ByteSize ≤ byteSize cs := by
  unfold decodeUnless
  split
  · simp
  · exact Nat.le_trans (Percent.utf8ByteSize_decode_le _) (by simp)

theorem byteSize_of_splitGroup? {text inner rest : List Char}
    (h : splitGroup? text = some (inner, rest)) : byteSize inner + 2 ≤ byteSize text := by
  have hopen : '('.utf8Size = 1 := by decide
  have hclose : ')'.utf8Size = 1 := by decide
  simp only [eq_of_splitGroup? h, List.cons_append, byteSize_cons, byteSize_append, hopen, hclose]
  omega

theorem size_groupOf {value inner literal : String} {decoded : Bool}
    (h : groupOf value = .group inner literal decoded) :
    inner.utf8ByteSize + 2 ≤ value.utf8ByteSize := by
  unfold groupOf at h
  split at h
  · next chars hsplit =>
    obtain ⟨rfl, -, -⟩ := RawValue.group.inj h
    have := byteSize_of_splitGroup? hsplit
    rwa [utf8ByteSize_ofList, ← byteSize_toList]
  · cases h

theorem size_lexGroup {decoded : Bool} {text : List Char} {inner literal : String} {d : Bool}
    (h : (lexGroup decoded text).1 = .group inner literal d) :
    inner.utf8ByteSize + 2 ≤ byteSize text := by
  unfold lexGroup at h
  split at h
  · cases h
  · next chars rest hsplit =>
    split at h
    · obtain ⟨rfl, -, -⟩ := RawValue.group.inj h
      rw [utf8ByteSize_ofList]
      exact byteSize_of_splitGroup? hsplit
    · cases h

/-- A key that is read as `v` has a letter. -/
theorem byteSize_key_pos {decoded : Bool} {key : List Char}
    (h : sameName (decodeUnless decoded key) "v" = true) : 0 < byteSize key := by
  refine byteSize_pos fun hkey => ?_
  have hsize := utf8ByteSize_decodeUnless_le decoded key
  rw [hkey, byteSize_nil, Nat.le_zero, String.utf8ByteSize_eq_zero_iff] at hsize
  rw [hkey, hsize] at h
  exact absurd h (by decide)

theorem ofKey?_eq_value {key value : String} {raw : RawValue}
    (h : Occurrence.ofKey? key value = some (.value raw)) :
    sameName key "v" = true ∧ groupOf value = raw := by
  unfold Occurrence.ofKey? at h
  split at h
  · cases h
  split at h
  · cases h
  split at h
  · next hkey => exact ⟨hkey, by injection Option.some.inj h⟩
  split at h
  · cases h
  split at h
  · cases h
  split at h <;> cases h

/-- The key with its equals sign and the two parentheses take four bytes at least. -/
theorem size_lexStep {decoded : Bool} {text : List Char} {inner literal : String} {d : Bool}
    (h : (lexStep decoded text).1 = some (.value (.group inner literal d))) :
    inner.utf8ByteSize + 4 ≤ byteSize text := by
  unfold lexStep at h
  split at h
  · cases h
  · next key value hcut =>
    obtain ⟨tail, htext⟩ := cutChars_fst_append '&' text
    have hequals : '='.utf8Size = 1 := by decide
    have hsize : byteSize text = byteSize key + 1 + byteSize value + byteSize tail := by
      rw [htext, append_of_cutChars hcut]
      simp only [byteSize_append, byteSize_cons, hequals]
      omega
    have hdrop : text.drop (key.length + 1) = value ++ tail := by
      rw [htext, append_of_cutChars hcut]
      simp
    dsimp only at h
    split at h
    · next hname =>
      rw [Bool.and_eq_true] at hname
      have hkey := byteSize_key_pos hname.1
      have hgroup := size_lexGroup (Occurrence.value.inj (Option.some.inj h))
      rw [hdrop, byteSize_append] at hgroup
      omega
    · obtain ⟨hname, hraw⟩ := ofKey?_eq_value h
      have hkey := byteSize_key_pos hname
      have hgroup := size_groupOf hraw
      have := utf8ByteSize_decodeUnless_le decoded value
      omega

theorem size_of_mem_lex {decoded : Bool} {text : List Char} {inner literal : String} {d : Bool}
    (h : .value (.group inner literal d) ∈ lex decoded text) :
    inner.utf8ByteSize + 4 ≤ byteSize text := by
  fun_induction lex decoded text with
  | case1 => simp at h
  | case2 text hne _ ih =>
    rcases List.mem_append.1 h with h | h
    · exact size_lexStep (Option.mem_toList.1 h)
    · exact Nat.le_trans (ih h) (byteSize_le_of_suffix (lexStep_suffix decoded text))

end RecordQuery.QueryText

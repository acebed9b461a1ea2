import RecordQuery.Proofs.QueryText.Group
import RecordQuery.Proofs.Text.Cut
import RecordQuery.Proofs.Text.Percent
import RecordQuery.QueryText.Occurrence

/-!
# Occurrences of joined texts

A query text is read segment by segment: what is read from two texts joined by an ampersand is what
is read from the first and then what is read from the second, unless a group that the first leaves
open takes in the second.
-/

namespace RecordQuery

namespace QueryText

open Text

variable {decoded : Bool} {text : List Char}

theorem lex_ampersand (decoded : Bool) (rest : List Char) :
    lex decoded ('&' :: rest) = lex decoded rest := by
  rw [lex_of_ne_nil decoded (List.cons_ne_nil _ _)]
  rfl

theorem lex_nextSegment_append (decoded : Bool) (text rest : List Char) :
    lex decoded (nextSegment (text ++ '&' :: rest)) =
      lex decoded (nextSegment text ++ '&' :: rest) := by
  rw [nextSegment, cutChars_append_sep, nextSegment]
  cases (cutChars '&' text).2 with
  | none => exact (lex_ampersand decoded rest).symm
  | some after => rfl

theorem lexGroup_append (h : (lexGroup decoded text).1 ≠ .malformed .unbalanced)
    (rest : List Char) :
    (lexGroup decoded (text ++ '&' :: rest)).1 = (lexGroup decoded text).1 ∧
      lex decoded (lexGroup decoded (text ++ '&' :: rest)).2 =
        lex decoded ((lexGroup decoded text).2 ++ '&' :: rest) := by
  unfold lexGroup at h ⊢
  cases hsplit : splitGroup? text with
  | none =>
    rw [hsplit] at h
    exact absurd rfl h
  | some group =>
    obtain ⟨inner, after⟩ := group
    rw [splitGroup?_append hsplit]
    dsimp only
    cases after with
    | nil => simp [lex_ampersand]
    | cons c after =>
      by_cases hc : c = '&'
      · simp [hc]
      · simp only [List.cons_append, List.head?_cons, Option.some.injEq, hc, reduceCtorEq,
          or_self, if_false, true_and]
        exact lex_nextSegment_append decoded (c :: after) rest

theorem lexStep_append (h : (lexStep decoded text).1 ≠ some (.value (.malformed .unbalanced)))
    (rest : List Char) :
    (lexStep decoded (text ++ '&' :: rest)).1 = (lexStep decoded text).1 ∧
      lex decoded (lexStep decoded (text ++ '&' :: rest)).2 =
        lex decoded ((lexStep decoded text).2 ++ '&' :: rest) := by
  unfold lexStep at h ⊢
  rw [cutChars_append_sep]
  obtain ⟨tail, htail⟩ := cutChars_fst_append '&' text
  rcases hcut : cutChars '=' (cutChars '&' text).1 with ⟨key, _ | value⟩
  · exact ⟨rfl, lex_nextSegment_append decoded text rest⟩
  · have hlength : key.length + 1 ≤ text.length := by
      rw [htail, append_of_cutChars hcut]
      simp
    rw [hcut] at h
    dsimp only at h ⊢
    rw [List.drop_append_of_le_length hlength]
    have hhead : ((text.drop (key.length + 1) ++ '&' :: rest).head? == some '(') =
        ((text.drop (key.length + 1)).head? == some '(') := by
      cases text.drop (key.length + 1) <;> rfl
    rw [hhead]
    split
    · next hgroup =>
      rw [if_pos hgroup] at h
      have hclosed : (lexGroup decoded (text.drop (key.length + 1))).1 ≠
          .malformed .unbalanced := by
        intro hmalformed
        exact h (by rw [hmalformed])
      obtain ⟨hvalue, hrest⟩ := lexGroup_append hclosed rest
      exact ⟨by rw [hvalue], hrest⟩
    · exact ⟨rfl, lex_nextSegment_append decoded text rest⟩

/-- Reading joined texts, if the first closes its groups. -/
theorem lex_append (h : .value (.malformed .unbalanced) ∉ lex decoded text) (rest : List Char) :
    lex decoded (text ++ '&' :: rest) = lex decoded text ++ lex decoded rest := by
  fun_induction lex decoded text with
  | case1 => exact lex_ampersand decoded rest
  | case2 text hne _ ih =>
    rw [List.mem_append, not_or, Option.mem_toList] at h
    obtain ⟨hfirst, hrest⟩ := lexStep_append (fun hfirst => h.1 hfirst) rest
    have hjoined : text ++ '&' :: rest ≠ [] := by simp
    rw [lex_of_ne_nil decoded hjoined, hfirst, hrest, ih h.2, List.append_assoc]

theorem lex_join {segments : List String}
    (h : ∀ segment ∈ segments, .value (.malformed .unbalanced) ∉ lex decoded segment.toList) :
    lex decoded (join '&' segments).toList =
      segments.flatMap fun segment => lex decoded segment.toList := by
  induction segments with
  | nil => simp [join]
  | cons segment segments ih =>
    cases segments with
    | nil => simp
    | cons next rest =>
      rw [toList_join_cons_cons, lex_append (h segment List.mem_cons_self),
        ih fun other hother => h other (List.mem_cons_of_mem _ hother)]
      rfl

theorem lexStep_pair {key value : List Char} (hkey : '&' ∉ key) (hequals : '=' ∉ key)
    (hvalue : '&' ∉ value)
    (hgroup : sameName (decodeUnless decoded key) "v" = true → value.head? ≠ some '(') :
    lexStep decoded (key ++ '=' :: value) =
      (Occurrence.ofKey? (decodeUnless decoded key) (decodeUnless decoded value), []) := by
  have hwhole : '&' ∉ key ++ '=' :: value := by
    simp [hkey, hvalue]
  have hdrop : (key ++ '=' :: value).drop (key.length + 1) = value := by
    simp
  have hliteral : (sameName (decodeUnless decoded key) "v" && value.head? == some '(') = false := by
    rw [Bool.and_eq_false_imp]
    intro hname
    exact beq_eq_false_iff_ne.2 (hgroup hname)
  unfold lexStep nextSegment
  rw [cutChars_eq_none hwhole, cutChars_append hequals]
  dsimp only
  rw [hdrop, hliteral]
  rfl

theorem lex_pair {key value : List Char} (hkey : '&' ∉ key) (hequals : '=' ∉ key)
    (hvalue : '&' ∉ value)
    (hgroup : sameName (decodeUnless decoded key) "v" = true → value.head? ≠ some '(') :
    lex decoded (key ++ '=' :: value) =
      (Occurrence.ofKey? (decodeUnless decoded key) (decodeUnless decoded value)).toList := by
  rw [lex_of_ne_nil decoded (by simp), lexStep_pair hkey hequals hvalue hgroup, lex_nil,
    List.append_nil]

/-- A whole segment that is no group. -/
theorem lex_segment {key value : List Char} (hampersand : '&' ∉ key ++ '=' :: value)
    (hequals : '=' ∉ key)
    (hgroup : sameName (decodeUnless decoded key) "v" = true → value.head? ≠ some '(') :
    lex decoded (key ++ '=' :: value) =
      (Occurrence.ofKey? (decodeUnless decoded key) (decodeUnless decoded value)).toList := by
  rw [List.mem_append, List.mem_cons, not_or, not_or] at hampersand
  exact lex_pair hampersand.1 hequals hampersand.2.2 hgroup

theorem lexStep_group {key : List Char} (hkey : '&' ∉ key) (hequals : '=' ∉ key)
    (hname : sameName (decodeUnless decoded key) "v" = true) (rest : List Char) :
    lexStep decoded (key ++ '=' :: '(' :: rest) =
      (some (.value (lexGroup decoded ('(' :: rest)).1), (lexGroup decoded ('(' :: rest)).2) := by
  have hsegment : (cutChars '&' (key ++ '=' :: '(' :: rest)).1 =
      key ++ '=' :: '(' :: (cutChars '&' rest).1 := by
    rw [cutChars_append_of_notMem hkey]
    simp [cutChars]
  have hdrop : (key ++ '=' :: '(' :: rest).drop (key.length + 1) = '(' :: rest := by
    simp
  unfold lexStep
  rw [hsegment, cutChars_append hequals]
  dsimp only
  rw [hdrop, hname]
  rfl

theorem lex_of_lexGroup {key rest : List Char} {raw : RawValue} (hkey : '&' ∉ key)
    (hequals : '=' ∉ key) (hname : sameName (decodeUnless decoded key) "v" = true)
    (h : lexGroup decoded ('(' :: rest) = (raw, [])) :
    lex decoded (key ++ '=' :: '(' :: rest) = [.value raw] := by
  rw [lex_of_ne_nil decoded (by simp), lexStep_group hkey hequals hname, h, lex_nil]
  rfl

theorem lexGroup_of_balanced {inner : List Char} (h : Balanced inner) :
    lexGroup decoded ('(' :: inner ++ [')']) =
      (.group (String.ofList inner) (decodeUnless decoded ('(' :: inner ++ [')'])) decoded,
        []) := by
  rw [lexGroup, splitGroup?_of_balanced h]
  rfl

/-- A balanced text in parentheses is the value as a whole, with the ampersands in it. -/
theorem lex_group_of_name {key inner : List Char} (hkey : '&' ∉ key) (hequals : '=' ∉ key)
    (hname : sameName (decodeUnless decoded key) "v" = true) (h : Balanced inner) :
    lex decoded (key ++ '=' :: ('(' :: inner ++ [')'])) =
      [.value (.group (String.ofList inner) (decodeUnless decoded ('(' :: inner ++ [')']))
        decoded)] :=
  lex_of_lexGroup hkey hequals hname (lexGroup_of_balanced h)

theorem lex_group {inner : List Char} (h : Balanced inner) :
    lex decoded ('v' :: '=' :: ('(' :: inner ++ [')'])) =
      [.value (.group (String.ofList inner) (decodeUnless decoded ('(' :: inner ++ [')']))
        decoded)] := by
  have hname : sameName (decodeUnless decoded ['v']) "v" = true := by
    cases decoded with
    | true => rfl
    | false =>
      rw [decodeUnless, if_neg Bool.false_ne_true, Percent.decode_plain (by decide) (by decide)]
      rfl
  exact @lex_group_of_name decoded ['v'] inner (by decide) (by decide) hname h

end QueryText

end RecordQuery

import RecordQuery.Proofs.QueryText.Occurrence

/-!
# Where segments start

Reading a text comes to the start of a segment again after each segment and each group. Such a place
cuts the text in two: what is read before it does not depend on what stands behind it.
-/

namespace RecordQuery

namespace QueryText

open Text

variable {decoded : Bool} {text : List Char}

/-- A segment without an equals sign is passed over. -/
theorem lex_flag (hampersand : '&' ∉ text) (hequals : '=' ∉ text) : lex decoded text = [] := by
  by_cases hempty : text = []
  · rw [hempty, lex_nil]
  · have hstep : lexStep decoded text = (none, []) := by
      rw [lexStep, cutChars_eq_none hampersand, cutChars_eq_none hequals]
      dsimp only
      rw [nextSegment, cutChars_eq_none hampersand]
      rfl
    rw [lex_of_ne_nil decoded hempty, hstep, lex_nil]
    rfl

theorem nextSegment_of_notMem (h : '&' ∉ text) : nextSegment text = [] := by
  rw [nextSegment, cutChars_eq_none h]
  rfl

theorem eq_append_nextSegment (h : nextSegment text ≠ []) :
    text = (cutChars '&' text).1 ++ '&' :: nextSegment text := by
  unfold nextSegment at h ⊢
  rcases hcut : cutChars '&' text with ⟨segment, _ | rest⟩
  · rw [hcut] at h
    exact absurd rfl h
  · exact append_of_cutChars hcut

theorem splitGroup?_of_groupOf {value inner whole : String} {d : Bool}
    (h : groupOf value = .group inner whole d) :
    splitGroup? value.toList = some (inner.toList, []) := by
  unfold groupOf at h
  split at h
  · next hsplit =>
    obtain ⟨rfl, -, -⟩ := RawValue.group.inj h
    rw [hsplit, String.toList_ofList]
  · cases h

theorem splitGroup?_of_lexGroup {inner whole : String} {d : Bool}
    (h : (lexGroup decoded text).1 = .group inner whole d) :
    ∃ rest, splitGroup? text = some (inner.toList, rest) ∧
      (rest = [] ∨ rest.head? = some '&') := by
  unfold lexGroup at h
  split at h
  · cases h
  · next rest hsplit =>
    split at h
    · next hends =>
      obtain ⟨rfl, -, -⟩ := RawValue.group.inj h
      exact ⟨rest, by rw [hsplit, String.toList_ofList], hends⟩
    · cases h

theorem ofKey?_of_sameName {key : String} (h : sameName key "v" = true) (value : String) :
    Occurrence.ofKey? key value = some (.value (groupOf value)) := by
  unfold Occurrence.ofKey?
  simp only [sameName_congr h]
  rfl

theorem groupOf_ne_malformed (value : String) (fault : GroupFault) :
    groupOf value ≠ .malformed fault := by
  unfold groupOf
  split <;> exact nofun

theorem ofKey?_ne_malformed (key value : String) (fault : GroupFault) :
    Occurrence.ofKey? key value ≠ some (.value (.malformed fault)) := by
  intro h
  exact groupOf_ne_malformed value fault (ofKey?_eq_value h).2

/-- A group with text after it, up to the next ampersand, is faulty on its own too. -/
theorem lexGroup_segment (h : (lexGroup decoded text).2 ≠ []) :
    ∃ segment, text = segment ++ '&' :: (lexGroup decoded text).2 ∧
      lexGroup decoded segment = ((lexGroup decoded text).1, []) ∧
      (lexGroup decoded text).1 ≠ .malformed .unbalanced := by
  cases hsplit : splitGroup? text with
  | none =>
    rw [lexGroup, hsplit] at h
    exact absurd rfl h
  | some group =>
    obtain ⟨inner, rest⟩ := group
    obtain ⟨hbalanced, htext⟩ := splitGroup?_eq_some_iff.1 hsplit
    by_cases hends : rest = [] ∨ rest.head? = some '&'
    · have hgroup : lexGroup decoded text = (.group (String.ofList inner)
          (decodeUnless decoded ('(' :: inner ++ [')'])) decoded, rest.drop 1) := by
        rw [lexGroup, hsplit]
        exact if_pos hends
      rw [hgroup] at h ⊢
      rcases hends with rfl | hhead
      · exact absurd rfl h
      · obtain ⟨next, rfl⟩ := List.head?_eq_some_iff.1 hhead
        exact ⟨'(' :: inner ++ [')'], by simp [htext], lexGroup_of_balanced hbalanced, by simp⟩
    · have hgroup : lexGroup decoded text = (.malformed .trailingText, nextSegment rest) := by
        rw [lexGroup, hsplit]
        exact if_neg hends
      rw [hgroup] at h ⊢
      obtain ⟨trailing, hnoAmpersand, hrest⟩ :
          ∃ trailing, '&' ∉ trailing ∧ rest = trailing ++ '&' :: nextSegment rest :=
        ⟨_, notMem_cutChars_fst '&' rest, eq_append_nextSegment h⟩
      generalize nextSegment rest = next at hrest
      subst hrest
      refine ⟨'(' :: inner ++ ')' :: trailing, by simp [htext], ?_, by simp⟩
      · have hfaulty : ¬(trailing = [] ∨ trailing.head? = some '&') := by
          rintro (rfl | hhead)
          · exact hends (.inr rfl)
          · exact hnoAmpersand (List.mem_of_head? hhead)
        rw [lexGroup, splitGroup?_of_balanced hbalanced]
        dsimp only
        rw [if_neg hfaulty, nextSegment_of_notMem hnoAmpersand]

/-- A group takes its text up to the ampersand behind it, or all of it. -/
theorem lexGroup_cases (decoded : Bool) (rest : List Char) :
    ∃ value tail, rest = value ++ tail ∧
      lexGroup decoded ('(' :: value) = ((lexGroup decoded ('(' :: rest)).1, []) ∧
      (tail = [] ∨ tail = '&' :: (lexGroup decoded ('(' :: rest)).2 ∧
        (lexGroup decoded ('(' :: rest)).1 ≠ .malformed .unbalanced) := by
  by_cases hnext : (lexGroup decoded ('(' :: rest)).2 = []
  · exact ⟨rest, [], by simp, Prod.ext rfl hnext, .inl rfl⟩
  · obtain ⟨segment, hrest, hgroup, hclosed⟩ := lexGroup_segment hnext
    rcases segment with _ | ⟨c, value⟩
    · cases (List.cons.inj hrest).1
    · obtain ⟨rfl, hvalue⟩ := List.cons.inj hrest
      exact ⟨value, _, hvalue, hgroup, .inr ⟨rfl, hclosed⟩⟩

/-- A segment has no equals sign, or a key and a value, or a group starts behind its key. -/
theorem lexStep_cases (decoded : Bool) (text : List Char) :
    ('=' ∉ (cutChars '&' text).1 ∧ lexStep decoded text = (none, nextSegment text)) ∨
    (∃ key value, (cutChars '&' text).1 = key ++ '=' :: value ∧ '=' ∉ key ∧
      (sameName (decodeUnless decoded key) "v" = true → value.head? ≠ some '(') ∧
      lexStep decoded text =
        (Occurrence.ofKey? (decodeUnless decoded key) (decodeUnless decoded value),
          nextSegment text)) ∨
    ∃ key rest, text = key ++ '=' :: '(' :: rest ∧ '&' ∉ key ∧ '=' ∉ key ∧
      sameName (decodeUnless decoded key) "v" = true ∧
      lexStep decoded text =
        (some (.value (lexGroup decoded ('(' :: rest)).1), (lexGroup decoded ('(' :: rest)).2) := by
  have hnoAmpersand := notMem_cutChars_fst '&' text
  have hnoEquals := notMem_cutChars_fst '=' (cutChars '&' text).1
  obtain ⟨tail, htail, hends⟩ := eq_cutChars_fst_append '&' text
  rcases hcut : cutChars '=' (cutChars '&' text).1 with ⟨key, _ | value⟩
  · left
    rw [hcut, eq_of_cutChars_eq_none hcut] at hnoEquals
    refine ⟨hnoEquals, ?_⟩
    rw [lexStep, hcut]
  · right
    rw [hcut] at hnoEquals
    have hsegment := append_of_cutChars hcut
    rw [hsegment] at hnoAmpersand htail
    have hkey : '&' ∉ key := fun h => hnoAmpersand (List.mem_append_left _ h)
    by_cases hgroup : sameName (decodeUnless decoded key) "v" = true ∧ value.head? = some '('
    · right
      obtain ⟨hname, hhead⟩ := hgroup
      obtain ⟨rest, rfl⟩ := List.head?_eq_some_iff.1 hhead
      have htext : text = key ++ '=' :: '(' :: (rest ++ tail) := by
        simpa using htail
      refine ⟨key, rest ++ tail, htext, hkey, hnoEquals, hname, ?_⟩
      rw [htext, lexStep_group hkey hnoEquals hname]
    · left
      refine ⟨key, value, hsegment, hnoEquals, not_and.1 hgroup, ?_⟩
      have hdrop : text.drop (key.length + 1) = value ++ tail := by
        simp [htail]
      have hhead : (value ++ tail).head? = some '(' ↔ value.head? = some '(' := by
        rcases value with _ | ⟨c, value⟩
        · rcases hends with rfl | hends <;> simp [*]
        · rfl
      have hliteral : (sameName (decodeUnless decoded key) "v" &&
          (value ++ tail).head? == some '(') = false := by
        rw [← hhead] at hgroup
        simpa using hgroup
      rw [lexStep, hcut]
      dsimp only
      rw [hdrop, hliteral]
      rfl

/-- What is read in one step is followed by an ampersand, and leaves no group open on its own. -/
theorem lexStep_segment (h : (lexStep decoded text).2 ≠ []) :
    ∃ segment, text = segment ++ '&' :: (lexStep decoded text).2 ∧
      .value (.malformed .unbalanced) ∉ lex decoded segment := by
  have hnoAmpersand := notMem_cutChars_fst '&' text
  rcases lexStep_cases decoded text with ⟨hequals, hstep⟩ |
    ⟨key, value, hsegment, hequals, hgroup, hstep⟩ | ⟨key, rest, rfl, hkey, hequals, hname, hstep⟩
  · rw [hstep] at h ⊢
    refine ⟨_, eq_append_nextSegment h, ?_⟩
    rw [lex_flag hnoAmpersand hequals]
    exact List.not_mem_nil
  · rw [hstep] at h ⊢
    refine ⟨_, eq_append_nextSegment h, ?_⟩
    rw [hsegment] at hnoAmpersand ⊢
    rw [lex_segment hnoAmpersand hequals hgroup, Option.mem_toList]
    exact ofKey?_ne_malformed _ _ _
  · rw [hstep] at h ⊢
    obtain ⟨value, tail, hrest, hvalue, rfl | ⟨rfl, hclosed⟩⟩ := lexGroup_cases decoded rest
    · rw [List.append_nil] at hrest
      subst hrest
      exact absurd (congrArg Prod.snd hvalue) h
    · refine ⟨key ++ '=' :: '(' :: value, by simpa using hrest, ?_⟩
      rw [lex_of_lexGroup hkey hequals hname hvalue]
      simpa using hclosed.symm

/-- A whole segment is read apart from what comes after it. -/
theorem lex_segment_append {segment after : List Char}
    (ends : after = [] ∨ after.head? = some '&')
    (h : .value (.malformed .unbalanced) ∉ lex decoded segment) :
    lex decoded (segment ++ after) = lex decoded segment ++ lex decoded (after.drop 1) := by
  rcases ends with rfl | hhead
  · rw [List.append_nil, List.drop_nil, lex_nil, List.append_nil]
  · obtain ⟨rest, rfl⟩ := List.head?_eq_some_iff.1 hhead
    exact lex_append h rest

/-- Reading the text comes to a place where a segment starts, with the rest of the text behind
it. -/
inductive SegmentStart (decoded : Bool) (text : List Char) : List Char → Prop
  | first : SegmentStart decoded text text
  | next {rest : List Char} (start : SegmentStart decoded text rest) :
    SegmentStart decoded text (lexStep decoded rest).2

theorem lexStep_nil (decoded : Bool) : lexStep decoded [] = (none, []) := rfl

/-- A segment that is not the first stands behind an ampersand, and no group is open there. -/
theorem SegmentStart.cases_of_ne_nil {rest : List Char} (start : SegmentStart decoded text rest)
    (h : rest ≠ []) :
    rest = text ∨ ∃ before, text = before ++ '&' :: rest ∧
      .value (.malformed .unbalanced) ∉ lex decoded before := by
  induction start with
  | first => exact .inl rfl
  | @next rest _ ih =>
    right
    have hrest : rest ≠ [] := by
      rintro rfl
      exact h (congrArg Prod.snd (lexStep_nil decoded))
    obtain ⟨segment, hsegment, hclosed⟩ := lexStep_segment h
    rcases ih hrest with rfl | ⟨before, htext, hbefore⟩
    · exact ⟨segment, hsegment, hclosed⟩
    · refine ⟨before ++ '&' :: segment, ?_, ?_⟩
      · rw [htext, List.append_assoc, List.cons_append, ← hsegment]
      · rw [lex_append hbefore, List.mem_append, not_or]
        exact ⟨hbefore, hclosed⟩

/-- What is read before the start of a segment does not depend on what stands there. -/
theorem SegmentStart.lex_append {rest : List Char} (start : SegmentStart decoded text rest)
    (h : rest ≠ []) :
    ∃ before found, text = before ++ rest ∧
      ∀ other, lex decoded (before ++ other) = found ++ lex decoded other := by
  rcases start.cases_of_ne_nil h with rfl | ⟨before, htext, hclosed⟩
  · exact ⟨[], [], rfl, fun _ => rfl⟩
  · refine ⟨before ++ ['&'], lex decoded before, by simp [htext], ?_⟩
    intro other
    rw [List.append_assoc, List.singleton_append, QueryText.lex_append hclosed]

/-- A segment without parentheses ends at the next ampersand. -/
theorem SegmentStart.skip {segment rest : List Char}
    (start : SegmentStart decoded text (segment ++ '&' :: rest)) (hampersand : '&' ∉ segment)
    (hopen : '(' ∉ segment) : SegmentStart decoded text rest := by
  have hcut : cutChars '&' (segment ++ '&' :: rest) = (segment, some rest) :=
    cutChars_append hampersand rest
  have hnext : nextSegment (segment ++ '&' :: rest) = rest := by
    rw [nextSegment, hcut]
    rfl
  have hstep : (lexStep decoded (segment ++ '&' :: rest)).2 = rest := by
    rcases lexStep_cases decoded (segment ++ '&' :: rest) with ⟨-, hstep⟩ |
      ⟨key, value, -, -, -, hstep⟩ | ⟨key, group, htext, hkey, -, -, -⟩
    · rw [hstep, hnext]
    · rw [hstep, hnext]
    · have hsegment : segment = key ++ '=' :: '(' :: (cutChars '&' group).1 := by
        rw [htext, cutChars_append_of_notMem hkey] at hcut
        rw [← (Prod.mk.inj hcut).1]
        simp [cutChars]
      exact absurd (by simp [hsegment]) hopen
  exact hstep ▸ start.next

end QueryText

end RecordQuery

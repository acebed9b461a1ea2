import RecordQuery.Proofs.Caseless.Compile
import RecordQuery.Proofs.Caseless.Spelling
import RecordQuery.Proofs.QueryText.Nested

/-!
# Queries in any case

Two spellings of a query are read alike: both are refused for the same kind of reason, or what they
ask for differs in the case of names only. Then both leave the same rows of every source, or both
fail there for the same kind of reason.
-/

namespace RecordQuery

namespace QueryText

open Text

variable {codes : OpCodes} {decoded : Bool} {operations : List String}

theorem withoutSpaces_toLower (s : String) :
    (withoutSpaces s).toLower = withoutSpaces s.toLower := by
  have hspace (c : Char) : decide (c.toLower ≠ ' ') = decide (c ≠ ' ') := by
    simp only [ne_eq, toLower_eq_iff (c := c) (d := ' ') (by decide)]
  rw [withoutSpaces, withoutSpaces, toLower_ofList, toList_toLower, List.filter_map]
  simp only [Function.comp_def, hspace]

/-- The occurrence of a key in another case. -/
theorem outline_ofKey? {key key' value value' : String} (hkey : key.toLower = key'.toLower)
    (hvalue : value.toLower = value'.toLower) :
    (Occurrence.ofKey? key value).map Occurrence.outline =
      (Occurrence.ofKey? key' value').map Occurrence.outline := by
  have hspaces : (withoutSpaces value).toLower = (withoutSpaces value').toLower := by
    rw [withoutSpaces_toLower, hvalue, withoutSpaces_toLower]
  simp only [Occurrence.ofKey?, sameName_congr_left hkey]
  repeat' split
  all_goals simp [Occurrence.outline, hspaces]

theorem rawValues_ofKey? {key : String} (h : sameName key "v" = false) (value : String) :
    rawValues (Occurrence.ofKey? key value).toList = [] := by
  cases hfound : Occurrence.ofKey? key value with
  | none => rfl
  | some occurrence =>
    cases occurrence with
    | value raw =>
      rw [(ofKey?_eq_value hfound).1] at h
      cases h
    | operation | property | sort | offset | count => rfl

/-- A segment that holds no value is found alike in any case. -/
theorem foundAlike_segment {part part' : List Char} (ampersand : '&' ∉ part)
    (letters : SameLetters part part')
    (noValue : ∀ key value, part = key ++ '=' :: value → '=' ∉ key →
      sameName (decodeUnless decoded key) "v" = false) :
    (lex decoded part).map Occurrence.outline = (lex decoded part').map Occurrence.outline ∧
      rawValues (lex decoded part) = [] ∧ rawValues (lex decoded part') = [] := by
  have ampersand' : '&' ∉ part' := (letters.mem_iff (by decide)).not.1 ampersand
  rcases hcut : cutChars '=' part with ⟨key, _ | value⟩
  · have hequals : '=' ∉ part := by
      have hkey := notMem_cutChars_fst '=' part
      rwa [hcut, eq_of_cutChars_eq_none hcut] at hkey
    have hequals' : '=' ∉ part' := (letters.mem_iff (by decide)).not.1 hequals
    rw [lex_flag ampersand hequals, lex_flag ampersand' hequals']
    exact ⟨rfl, rfl, rfl⟩
  · have hequals : '=' ∉ key := by
      have hkey := notMem_cutChars_fst '=' part
      rwa [hcut] at hkey
    obtain rfl := append_of_cutChars hcut
    obtain ⟨key', after', rfl, hkey, hafter⟩ := letters.exists_append
    obtain ⟨value', rfl, hvalue⟩ := hafter.exists_cons (by decide)
    have hequals' : '=' ∉ key' := (hkey.mem_iff (by decide)).not.1 hequals
    have hname := noValue key value rfl hequals
    have hname' : sameName (decodeUnless decoded key') "v" = false := by
      rwa [← sameName_congr_left (hkey.toLower_decodeUnless decoded)]
    rw [lex_segment ampersand hequals (by simp [hname]),
      lex_segment ampersand' hequals' (by simp [hname'])]
    refine ⟨?_, rawValues_ofKey? hname _, rawValues_ofKey? hname' _⟩
    rw [← Option.toList_map, ← Option.toList_map, outline_ofKey?
      (hkey.toLower_decodeUnless decoded) (hvalue.toLower_decodeUnless decoded)]

/-- Reading a segment with a key depends on the name of the key only. -/
theorem lexStep_key {key : List Char} (ampersand : '&' ∉ key) (equals : '=' ∉ key)
    (value : List Char) :
    lexStep decoded (key ++ '=' :: value) =
      if sameName (decodeUnless decoded key) "v" && value.head? == some '(' then
        (some (.value (lexGroup decoded value).1), (lexGroup decoded value).2)
      else
        (Occurrence.ofKey? (decodeUnless decoded key) (decodeUnless decoded (cutChars '&' value).1),
          nextSegment value) := by
  have hsegment : cutChars '&' (key ++ '=' :: value) =
      (key ++ '=' :: (cutChars '&' value).1, (cutChars '&' value).2) := by
    rw [cutChars_append_of_notMem ampersand]
    simp [cutChars]
  have hdrop : (key ++ '=' :: value).drop (key.length + 1) = value := by simp
  rw [lexStep, hsegment, cutChars_append equals]
  dsimp only
  rw [hdrop, nextSegment, hsegment, nextSegment]

theorem ValueKey.respelled {key key' : List Char} (h : ValueKey decoded key key') :
    ValueKey decoded key' key' :=
  .refl ((h.letters.mem_iff (by decide)).not.1 h.ampersand)
    ((h.letters.mem_iff (by decide)).not.1 h.equals)
    (sameName_congr_left (h.letters.toLower_decodeUnless decoded) "v" ▸ h.name)

/-- A value is read the same behind any spelling of its key. -/
theorem lex_valueKey {key key' : List Char} (h : ValueKey decoded key key') (value : List Char) :
    lex decoded (key' ++ '=' :: value) = lex decoded (key ++ '=' :: value) := by
  have hstep : lexStep decoded (key' ++ '=' :: value) = lexStep decoded (key ++ '=' :: value) := by
    rw [lexStep_key h.ampersand h.equals, lexStep_key h.respelled.ampersand h.respelled.equals,
      h.name, h.respelled.name, ofKey?_of_sameName h.name, ofKey?_of_sameName h.respelled.name]
  rw [lex_of_ne_nil decoded (by simp), hstep, ← lex_of_ne_nil decoded (by simp)]

/-- What is read in the first segment, then what is read in the others. -/
theorem lex_ampersand_append {part rest : List Char} {found : List Occurrence}
    (read : lex decoded part = found) (ends : rest = [] ∨ rest.head? = some '&')
    (closed : .value (.malformed .unbalanced) ∉ found ∨ rest = []) :
    lex decoded ('&' :: (part ++ rest)) = found ++ lex decoded rest := by
  subst read
  rw [lex_ampersand]
  rcases closed with closed | rfl
  · rw [lex_segment_append ends closed]
    rcases ends with rfl | hhead
    · rfl
    · obtain ⟨after, rfl⟩ := List.head?_eq_some_iff.1 hhead
      rw [lex_ampersand, List.drop_one, List.tail_cons]
  · rw [List.append_nil, lex_nil, List.append_nil]

theorem rawValues_append (found other : List Occurrence) :
    rawValues (found ++ other) = rawValues found ++ rawValues other :=
  List.filterMap_append

theorem FoundAlike.append {front front' found found' : List Occurrence}
    (h : FoundAlike codes operations found found')
    (tokens : front.map Occurrence.outline = front'.map Occurrence.outline)
    (noValues : rawValues front = []) (noValues' : rawValues front' = []) :
    FoundAlike codes operations (front ++ found) (front' ++ found') where
  tokens := by rw [List.map_append, List.map_append, tokens, h.tokens]
  values := by
    rw [rawValues_append, rawValues_append, noValues, noValues']
    exact h.values

/-- Queries are alike if what is found in them is, for both are encoded or neither is. -/
theorem alike_parseText (distinct : codes.Distinct) {query query' : String}
    (letters : SameLetters query.toList query'.toList)
    (found : FoundAlike codes (operationsOf query decoded)
      (lex (decodedBody query decoded).2 (segmentsOf query decoded))
      (lex (decodedBody query decoded).2 (segmentsOf query' decoded))) :
    AlikeReadings (parseText codes query decoded) (parseText codes query' decoded) := by
  have hfound : FoundAlike codes (operationTokens (occurrences query decoded))
      (occurrences query decoded) (occurrences query' decoded) := by
    rw [segmentsOf, segmentsOf, lex_ampersand, lex_ampersand] at found
    rw [occurrences, occurrences, ← letters.decodedBody_snd_eq]
    exact found
  rw [parseText_eq_interpret, parseText_eq_interpret, letters.body.trimChars_isEmpty_eq]
  refine .ite (fun _ => .ok rfl) fun _ => ?_
  exact hfound.interpret distinct query query'

/-- What is found in two spellings is alike. -/
theorem Respelled.foundAlike (distinct : codes.Distinct) {text text' : List Char}
    (h : Respelled codes decoded operations text text') :
    FoundAlike codes operations (lex decoded text) (lex decoded text') := by
  induction h with
  | done =>
    rw [lex_nil]
    exact ⟨rfl, .nil⟩
  | segment ampersand letters noValue after ih =>
    obtain ⟨tokens, noValues, noValues'⟩ := foundAlike_segment ampersand letters noValue
    have hclosed {found : List Occurrence} (h : rawValues found = []) :
        .value (.malformed .unbalanced) ∉ found := by
      intro hopen
      rw [← mem_rawValues, h] at hopen
      cases hopen
    rw [lex_ampersand_append rfl after.ends.1 (.inl (hclosed noValues)),
      lex_ampersand_append rfl after.ends.2 (.inl (hclosed noValues'))]
    exact ih.append tokens noValues noValues'
  | @value decoded operations key key' value rest rest' raw valueKey read closed after ih =>
    have read' := lex_valueKey valueKey value
    rw [read] at read'
    have hclosed : .value (.malformed .unbalanced) ∉ [Occurrence.value raw] ∨ rest = [] := by
      by_cases hopen : raw = .malformed .unbalanced
      · exact .inr (closed hopen)
      · exact .inl (by simpa using Ne.symm hopen)
    rw [lex_ampersand_append read after.ends.1 hclosed,
      lex_ampersand_append read' after.ends.2 (hclosed.imp_right after.eq_nil)]
    exact ⟨congrArg (_ :: ·) ih.tokens, .same raw ih.values⟩
  | @group decoded operation operations key key' inner inner' rest rest' valueKey takes balanced
      letters inside after ihInside ih =>
    have read := lex_group_of_name valueKey.ampersand valueKey.equals valueKey.name balanced
    have read' := lex_group_of_name valueKey.respelled.ampersand valueKey.respelled.equals
      valueKey.respelled.name (letters.balanced_iff.1 balanced)
    rw [lex_ampersand_append read after.ends.1 (.inl (by simp)),
      lex_ampersand_append read' after.ends.2 (.inl (by simp))]
    have hletters : SameLetters (String.ofList inner).toList (String.ofList inner').toList := by
      rw [String.toList_ofList, String.toList_ofList]
      exact letters
    exact ⟨congrArg (_ :: ·) ih.tokens,
      .group takes (alike_parseText distinct hletters ihInside) ih.values⟩

/-- Outside of values a query text has no case: both spellings are refused for the same kind of
reason, or they ask for the same but for the case of names, and then both leave the same rows of
every source or fail there for the same kind of reason. -/
theorem parse_respelled (distinct : codes.Distinct) {query query' : String}
    (h : Respells codes query query') :
    Alike QueryError.kind
      (fun options others => options.caseless = others.caseless ∧
        ∀ schema element, SameAnswers schema element options others)
      (parse codes query) (parse codes query') := by
  refine (alike_parseText distinct h.letters (h.segments.foundAlike distinct)).mono ?_
  intro options others hcaseless
  exact ⟨hcaseless, sameAnswers_of_caseless hcaseless⟩

/-- A query in a group, behind a code of the caller's. -/
def filledBoxes : String := "o=has&p=items&v=(o=eq&p=name,cs&v=X)"

def filledBoxesInCapitals : String := "O=HAS&P=Items&V=(O=EQ&p=name,cs&v=X)"

theorem respells_filledBoxes : Respells [("has", .any)] filledBoxes filledBoxesInCapitals where
  letters := by decide
  segments := by
    have hinner : segmentsOf "o=eq&p=name,cs&v=X" false =
        '&' :: ("o".toList ++ '=' :: "eq".toList ++ '&' :: "p=name,cs&v=X".toList) := by
      decide
    have hinner' : segmentsOf "O=EQ&p=name,cs&v=X" false =
        '&' :: ("O=EQ".toList ++ '&' :: "p=name,cs&v=X".toList) := by
      decide
    have inside (operations : List String) : Respelled [("has", .any)] false operations
        (segmentsOf "o=eq&p=name,cs&v=X" false) (segmentsOf "O=EQ&p=name,cs&v=X" false) := by
      rw [hinner, hinner']
      exact .pair (by decide) (by decide) (by decide) (by decide) (.refl _ _ _ _)
    have hbody : decodedBody filledBoxes false = ((segment "o" "has").toList ++
        '&' :: ((segment "p" "items").toList ++
          '&' :: ('v' :: '=' :: ('(' :: "o=eq&p=name,cs&v=X".toList ++ [')']))), false) := by
      decide
    have hoperations : operationsOf filledBoxes false = ["has"] := by
      rw [operationsOf, occurrences, hbody, lex_filter_group (by decide) (by decide) (by decide)]
      rfl
    have houter : segmentsOf filledBoxes false = '&' :: ("o".toList ++ '=' :: "has".toList ++
        '&' :: ("p".toList ++ '=' :: "items".toList ++
          '&' :: ("v".toList ++ '=' :: ('(' :: "o=eq&p=name,cs&v=X".toList ++ [')']) ++ []))) := by
      decide
    have houter' : segmentsOf filledBoxesInCapitals false = '&' :: ("O=HAS".toList ++
        '&' :: ("P=Items".toList ++
          '&' :: ("V".toList ++ '=' :: ('(' :: "O=EQ&p=name,cs&v=X".toList ++ [')']) ++ []))) := by
      decide
    rw [hoperations, houter, houter']
    refine .pair (by decide) (by decide) (by decide) (by decide) ?_
    refine .pair (by decide) (by decide) (by decide) (by decide) ?_
    exact .group ⟨by decide, by decide, by decide, by decide⟩ (by decide) (by decide) (by decide)
      (inside _) .done

theorem parse_respelled_filledBoxes :
    OpCodes.Distinct [("has", .any)] ∧
      Respells [("has", .any)] filledBoxes filledBoxesInCapitals ∧
      Alike QueryError.kind
        (fun options others => options.caseless = others.caseless ∧
          ∀ schema element, SameAnswers schema element options others)
        (parse [("has", .any)] filledBoxes) (parse [("has", .any)] filledBoxesInCapitals) := by
  have distinct : OpCodes.Distinct [("has", .any)] := by
    decide
  exact ⟨distinct, respells_filledBoxes, parse_respelled distinct respells_filledBoxes⟩

end QueryText

end RecordQuery

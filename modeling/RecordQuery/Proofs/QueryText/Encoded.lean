import RecordQuery.Proofs.QueryText.Unescaped

/-!
# Encoded queries

A query asks for the same whether it stands as it is, is encoded as a whole, or has a group that is
encoded. The three ways differ in when a part is decoded, and all of them decode it once.
-/

namespace RecordQuery

namespace QueryText

open Text

variable {decoded : Bool} {codes : OpCodes}

theorem encode_of_equals {query : String} (h : '=' ∈ query.toList) :
    ∃ before after, (Percent.encode query).toList = before ++ ['%', '3', 'D'] ++ after := by
  obtain ⟨before, after, hquery⟩ := List.append_of_mem h
  have hparts : query = String.ofList before ++ "=" ++ String.ofList after := by
    rw [← String.toList_inj]
    simp [hquery]
  have hequals : (Percent.encode "=").toList = ['%', '3', 'D'] := by decide
  refine ⟨(Percent.encode (String.ofList before)).toList,
    (Percent.encode (String.ofList after)).toList, ?_⟩
  rw [hparts, Percent.encode_append, Percent.encode_append, String.toList_append,
    String.toList_append, hequals]

theorem isFullyEncoded_encode {query : String} (h : '=' ∈ query.toList) :
    isFullyEncoded (Percent.encode query).toList = true := by
  have hnone : (Percent.encode query).toList.contains '=' = false := by
    rw [Bool.eq_false_iff, ne_eq, List.contains_iff_mem]
    exact Percent.notMem_encode (by decide) (by decide) query
  obtain ⟨before, after, hencoded⟩ := encode_of_equals h
  have hsome :
      contains ['%', '3', 'd'] ((Percent.encode query).toList.map Char.toLower) = true := by
    rw [contains_iff, hencoded, List.map_append, List.map_append]
    exact List.infix_append _ _ _
  rw [isFullyEncoded, hnone, hsome]
  rfl

/-- A query that is encoded as a whole is decoded before it is lexed, and not again. -/
theorem parse_encode {query : String} (hequals : '=' ∈ query.toList) :
    parse codes (Percent.encode query) =
      interpret codes (Percent.encode query) (lex true query.toList) := by
  have hmark : (Percent.encode query).toList.head? ≠ some '?' := fun hhead =>
    Percent.notMem_encode (by decide) (by decide) query (List.mem_of_head? hhead)
  have hbody := body_of_head? hmark
  have hpercent : '%' ∈ body (Percent.encode query) := by
    obtain ⟨before, after, hencoded⟩ := encode_of_equals hequals
    simp [hbody, hencoded]
  have hdecoded : decodedBody (Percent.encode query) false = (query.toList, true) := by
    rw [decodedBody, hbody, isFullyEncoded_encode hequals, String.ofList_toList,
      Percent.decode_encode]
    rfl
  rw [parse, parseText_of_mem_body hpercent (by decide), occurrences, hdecoded]

theorem outcome_parse_encode (codes : OpCodes) {query : String} (plain : Unescaped query.toList)
    (hequals : '=' ∈ query.toList) (hmark : query.toList.head? ≠ some '?') :
    outcome (parse codes (Percent.encode query)) = outcome (parse codes query) := by
  have hbody := body_of_head? hmark
  calc outcome (parse codes (Percent.encode query))
      = outcome (interpret codes (Percent.encode query)
          ((lex false query.toList).map Occurrence.asDecoded)) := by
        rw [parse_encode hequals, lex_true plain]
    _ = outcome (interpret codes (Percent.encode query) (lex false query.toList)) := by
        rw [interpret_asDecoded _ (groupsAlike_lex codes plain false)]
    _ = outcome (interpret codes query (lex false query.toList)) := outcome_interpret _ _ _ _
    _ = outcome (parse codes query) := by
        rw [parse, parseText_of_equals codes (hbody ▸ hequals), hbody]

theorem notMem_of_sameName {key : String} (h : sameName key "v" = true) {c : Char}
    (hc : c.toLower ≠ 'v') : c ∉ key.toList := by
  rw [sameName_iff] at h
  intro hmem
  have hlower : c.toLower ∈ asciiKey key := List.mem_map_of_mem hmem
  rw [h] at hlower
  exact hc (List.mem_singleton.1 hlower)

theorem ampersand_notMem {key : String} (h : sameName key "v" = true) : '&' ∉ key.toList :=
  notMem_of_sameName h (by decide)

theorem equals_notMem {key : String} (h : sameName key "v" = true) : '=' ∉ key.toList :=
  notMem_of_sameName h (by decide)

theorem groupOf_of_balanced {inner : String} (h : Balanced inner.toList) :
    groupOf ("(" ++ inner ++ ")") = .group inner ("(" ++ inner ++ ")") true := by
  have hvalue : ("(" ++ inner ++ ")").toList = '(' :: inner.toList ++ [')'] := by
    simp
  rw [groupOf, hvalue, splitGroup?_of_balanced h]
  exact congrArg (RawValue.group · _ true) String.ofList_toList

/-- A group in parentheses, under the key of a value, where a segment of the query itself starts. -/
structure GroupAt (query before key inner after : String) : Prop where
  text : query = before ++ key ++ "=(" ++ inner ++ ")" ++ after
  start : SegmentStart false (body query) (key ++ "=(" ++ inner ++ ")" ++ after).toList
  name : sameName key "v" = true
  balanced : Balanced inner.toList
  ends : after = "" ∨ after.toList.head? = some '&'

theorem SegmentStart.exists_groupAt {query : String} {rest : List Char}
    (start : SegmentStart false (body query) rest) (plain : Unescaped query.toList)
    {inner whole : String} {d : Bool}
    (h : (lexStep false rest).1 = some (.value (.group inner whole d))) :
    ∃ before key after, GroupAt query before key inner after := by
  have hne : rest ≠ [] := by
    rintro rfl
    cases h
  obtain ⟨front, -, hbody, -⟩ := start.lex_append hne
  obtain ⟨mark, hquery⟩ := eq_append_body query
  have hrest : Unescaped rest := by
    apply plain.of_subset
    intro c hc
    simp [hquery, hbody, hc]
  obtain ⟨key, after, htext, name, balanced, hends⟩ := hrest.exists_group h
  have hsegment : rest =
      (String.ofList key ++ "=(" ++ inner ++ ")" ++ String.ofList after).toList := by
    simp [htext]
  refine ⟨String.ofList (mark ++ front), String.ofList key, String.ofList after, ?_,
    hsegment ▸ start, name, balanced, by simpa using hends⟩
  rw [← String.toList_inj, hquery, hbody, hsegment]
  simp

/-- Every group that is found in a query without escapes stands in parentheses as it is. -/
theorem exists_groupAt {query : String} {rest : List Char} (plain : Unescaped query.toList)
    (start : SegmentStart false (body query) rest) {inner whole : String} {d : Bool}
    (hmem : .value (.group inner whole d) ∈ lex false rest) :
    ∃ before key after, GroupAt query before key inner after := by
  fun_induction lex false rest with
  | case1 => cases hmem
  | case2 rest _ _ ih =>
    rcases List.mem_append.1 hmem with hfirst | hlater
    · exact start.exists_groupAt plain (Option.mem_toList.1 hfirst)
    · exact ih start.next hlater

section Group

variable {key inner : String}

theorem lex_raw_group (plain : Unescaped key.toList) (hinner : Unescaped inner.toList)
    (name : sameName key "v" = true) (balanced : Balanced inner.toList) :
    lex false (key ++ "=(" ++ inner ++ ")").toList =
      [.value (.group inner ("(" ++ inner ++ ")") false)] := by
  have htext : (key ++ "=(" ++ inner ++ ")").toList =
      key.toList ++ '=' :: ('(' :: inner.toList ++ [')']) := by
    simp
  have hkey : decodeUnless false key.toList = key := by
    rw [plain.decodeUnless_eq, String.ofList_toList]
  have hwhole : decodeUnless false ('(' :: inner.toList ++ [')']) = "(" ++ inner ++ ")" := by
    have hplain : Unescaped ('(' :: inner.toList ++ [')']) := by
      simpa [Unescaped] using hinner
    rw [hplain.decodeUnless_eq, ← String.toList_inj]
    simp
  have hnamed : sameName (decodeUnless false key.toList) "v" = true := by
    rw [hkey]
    exact name
  rw [htext, lex_group_of_name (ampersand_notMem name) (equals_notMem name) hnamed balanced,
    hwhole, String.ofList_toList]

theorem lex_encoded_group (plain : Unescaped key.toList) (name : sameName key "v" = true)
    (balanced : Balanced inner.toList) :
    lex false (key ++ "=" ++ Percent.encode ("(" ++ inner ++ ")")).toList =
      [.value (.group inner ("(" ++ inner ++ ")") true)] := by
  have htext : (key ++ "=" ++ Percent.encode ("(" ++ inner ++ ")")).toList =
      key.toList ++ '=' :: (Percent.encode ("(" ++ inner ++ ")")).toList := by
    simp
  have hkey : decodeUnless false key.toList = key := by
    rw [plain.decodeUnless_eq, String.ofList_toList]
  have hvalue : decodeUnless false (Percent.encode ("(" ++ inner ++ ")")).toList =
      "(" ++ inner ++ ")" := by
    rw [decodeUnless, if_neg Bool.false_ne_true, String.ofList_toList, Percent.decode_encode]
  have hampersand : '&' ∉ (Percent.encode ("(" ++ inner ++ ")")).toList :=
    Percent.notMem_encode (by decide) (by decide) _
  have hparen : (Percent.encode ("(" ++ inner ++ ")")).toList.head? ≠ some '(' := fun hhead =>
    Percent.notMem_encode (by decide) (by decide) _ (List.mem_of_head? hhead)
  rw [htext, lex_pair (ampersand_notMem name) (equals_notMem name) hampersand fun _ => hparen, hkey,
    hvalue, ofKey?_of_sameName name, groupOf_of_balanced balanced]
  rfl

end Group

section GroupAt

variable {query before key inner after other : String}

/-- The text in front of the segment is read the same in both queries. -/
theorem GroupAt.exists_front (group : GroupAt query before key inner after)
    (encoded : other = before ++ key ++ "=" ++ Percent.encode ("(" ++ inner ++ ")") ++ after) :
    ∃ front found, body query = front ++ (key ++ "=(" ++ inner ++ ")" ++ after).toList ∧
      body other =
        front ++ (key ++ "=" ++ Percent.encode ("(" ++ inner ++ ")") ++ after).toList ∧
      ∀ rest, lex false (front ++ rest) = found ++ lex false rest := by
  obtain ⟨front, found, hbody, hfront⟩ := group.start.lex_append (by simp)
  refine ⟨front, found, hbody, ?_, hfront⟩
  have hquery : query.toList = (before ++ key).toList ++ '=' ::
      ('(' :: inner.toList ++ ')' :: after.toList) := by
    simp [group.text]
  have hqueryBody : body query = front ++ key.toList ++ '=' ::
      ('(' :: inner.toList ++ ')' :: after.toList) := by
    simp [hbody]
  have hother : other.toList = (before ++ key).toList ++ '=' ::
      ((Percent.encode ("(" ++ inner ++ ")")).toList ++ after.toList) := by
    simp [encoded]
  rw [body_append hquery hqueryBody hother]
  simp

/-- The two queries differ in whether the group has been decoded. -/
theorem GroupAt.exists_lex (group : GroupAt query before key inner after)
    (plain : Unescaped query.toList)
    (encoded : other = before ++ key ++ "=" ++ Percent.encode ("(" ++ inner ++ ")") ++ after) :
    ∃ found rest,
      lex false (body query) = found ++ .value (.group inner ("(" ++ inner ++ ")") false) :: rest ∧
      lex false (body other) =
        found ++ .value (.group inner ("(" ++ inner ++ ")") true) :: rest := by
  have hkey : Unescaped key.toList := plain.of_subset (by intro c hc; simp [group.text, hc])
  have hinner : Unescaped inner.toList := plain.of_subset (by intro c hc; simp [group.text, hc])
  have hraw := lex_raw_group hkey hinner group.name group.balanced
  have hencoded := lex_encoded_group hkey group.name group.balanced
  have hends : after.toList = [] ∨ after.toList.head? = some '&' := by
    simpa using group.ends
  obtain ⟨front, found, hbody, hotherBody, hfront⟩ := group.exists_front encoded
  refine ⟨found, lex false (after.toList.drop 1), ?_, ?_⟩
  · rw [hbody, hfront, String.toList_append, lex_segment_append hends (by rw [hraw]; simp), hraw]
    rfl
  · rw [hotherBody, hfront, String.toList_append,
      lex_segment_append hends (by rw [hencoded]; simp), hencoded]
    rfl

theorem outcome_parse_encode_group (codes : OpCodes) (plain : Unescaped query.toList)
    (group : GroupAt query before key inner after)
    (encoded : other = before ++ key ++ "=" ++ Percent.encode ("(" ++ inner ++ ")") ++ after) :
    outcome (parse codes other) = outcome (parse codes query) := by
  have hequals : '=' ∈ body query := mem_body (by decide) (by simp [group.text])
  have hotherEquals : '=' ∈ body other := mem_body (by decide) (by simp [encoded])
  obtain ⟨found, rest, hlex, hotherLex⟩ := group.exists_lex plain encoded
  have hsame : (lex false (body other)).map Occurrence.asDecoded =
      (lex false (body query)).map Occurrence.asDecoded := by
    rw [hlex, hotherLex, List.map_append, List.map_append]
    rfl
  have hgroups := groupsAlike_lex codes (plain.of_subset (body_subset query)) false
  calc outcome (parse codes other)
      = outcome (interpret codes other (lex false (body other))) := by
        rw [parse, parseText_of_equals codes hotherEquals]
    _ = outcome (interpret codes query (lex false (body other))) := outcome_interpret _ _ _ _
    _ = outcome (interpret codes query (lex false (body query))) := by
        rw [interpret_congr query hsame hgroups]
    _ = outcome (parse codes query) := by
        rw [parse, parseText_of_equals codes hequals]

end GroupAt

/-- Encoding a query, or a group in it, leaves its meaning as it was. -/
theorem parse_encoded (codes : OpCodes) {query : String} (plain : Unescaped query.toList) :
    ('=' ∈ query.toList → query.toList.head? ≠ some '?' →
      outcome (parse codes (Percent.encode query)) = outcome (parse codes query)) ∧
    ∀ before key inner after, GroupAt query before key inner after →
      outcome (parse codes
          (before ++ key ++ "=" ++ Percent.encode ("(" ++ inner ++ ")") ++ after)) =
        outcome (parse codes query) :=
  ⟨outcome_parse_encode codes plain,
    fun _ _ _ _ group => outcome_parse_encode_group codes plain group rfl⟩

/-- Boxes of items, the group in parentheses under a capital key. -/
def boxes : String := "o=any&p=items&V=(o=eq&p=_&v=(x))&s=b"

theorem parse_encoded_boxes :
    Unescaped boxes.toList ∧ '=' ∈ boxes.toList ∧ boxes.toList.head? ≠ some '?' ∧
      GroupAt boxes "o=any&p=items&" "V" "o=eq&p=_&v=(x)" "&s=b" ∧
      outcome (parse {} (Percent.encode boxes)) = outcome (parse {} boxes) ∧
      outcome (parse {} "o=any&p=items&V=%28o%3Deq%26p%3D_%26v%3D%28x%29%29&s=b") =
        outcome (parse {} boxes) := by
  have plain : Unescaped boxes.toList := by
    constructor <;> decide
  have hequals : '=' ∈ boxes.toList := by
    decide
  have hmark : boxes.toList.head? ≠ some '?' := by
    decide
  have start : SegmentStart false (body boxes) "V=(o=eq&p=_&v=(x))&s=b".toList := by
    have hfirst : SegmentStart false (body boxes)
        ("o=any".toList ++ '&' :: ("p=items".toList ++ '&' :: "V=(o=eq&p=_&v=(x))&s=b".toList)) :=
      .first
    exact (hfirst.skip (by decide) (by decide)).skip (by decide) (by decide)
  have group : GroupAt boxes "o=any&p=items&" "V" "o=eq&p=_&v=(x)" "&s=b" :=
    ⟨by decide, start, by decide, by decide, .inr (by decide)⟩
  obtain ⟨hwhole, hgroup⟩ := parse_encoded {} plain
  exact ⟨plain, hequals, hmark, group, hwhole hequals hmark, hgroup _ _ _ _ group⟩

end QueryText

end RecordQuery

import RecordQuery.Proofs.QueryText.Reading
import RecordQuery.Proofs.QueryText.Segment

/-!
# Texts without escapes

Of a group that it finds in a query, reading notes whether it has been decoded (`asDecoded`). For a
text in which every character stands for itself that makes no difference: it is read the same
whether it counts as decoded or not.
-/

namespace RecordQuery

namespace QueryText

open Text

variable {decoded : Bool} {text : List Char} {codes : OpCodes}

/-- Every character stands for itself when the text is decoded. -/
def Unescaped (text : List Char) : Prop := '%' ∉ text ∧ '+' ∉ text

theorem Unescaped.of_subset {part : List Char} (h : Unescaped text) (hpart : part ⊆ text) :
    Unescaped part :=
  ⟨fun hmem => h.1 (hpart hmem), fun hmem => h.2 (hpart hmem)⟩

theorem segment_subset (text : List Char) : (cutChars '&' text).1 ⊆ text := by
  obtain ⟨tail, htail⟩ := cutChars_fst_append '&' text
  intro c hc
  rw [htail]
  exact List.mem_append_left _ hc

theorem Unescaped.of_segment {key value : List Char} (h : Unescaped text)
    (hsegment : (cutChars '&' text).1 = key ++ '=' :: value) : Unescaped key ∧ Unescaped value := by
  have hwhole : Unescaped (key ++ '=' :: value) := by
    rw [← hsegment]
    exact h.of_subset (segment_subset text)
  exact ⟨hwhole.of_subset (List.subset_append_left _ _), hwhole.of_subset (by simp)⟩

theorem Unescaped.decodeUnless_eq (h : Unescaped text) (decoded : Bool) :
    decodeUnless decoded text = String.ofList text := by
  cases decoded with
  | true => rfl
  | false =>
    rw [decodeUnless, if_neg Bool.false_ne_true]
    exact Percent.decode_plain (by simpa using h.1) (by simpa using h.2)

theorem eq_percent_of_toLower {c : Char} (h : c.toLower = '%') : c = '%' := by
  unfold Char.toLower at h
  split at h
  · next hupper =>
    have hval := congrArg (fun c => c.val.toNat) h
    simp only [Char.reduceVal, ge_iff_le, UInt32.le_iff_toNat_le, UInt32.reduceToNat,
      Char.toNat_val, UInt32.reduceSub, UInt32.toNat_add, Nat.reducePow] at hupper hval
    omega
  · exact h

theorem Unescaped.isFullyEncoded_eq (h : Unescaped text) : isFullyEncoded text = false := by
  rw [isFullyEncoded, Bool.and_eq_false_imp]
  intro _
  rw [Bool.eq_false_iff, ne_eq, contains_iff]
  intro hpart
  obtain ⟨c, hc, hlower⟩ := List.mem_map.1 (hpart.subset List.mem_cons_self)
  exact h.1 (eq_percent_of_toLower hlower ▸ hc)

def RawValue.asDecoded : RawValue → RawValue
  | .group inner whole _ => .group inner whole true
  | raw => raw

def Occurrence.asDecoded : Occurrence → Occurrence
  | .value raw => .value raw.asDecoded
  | other => other

theorem asDecoded_groupOf (value : String) : (groupOf value).asDecoded = groupOf value := by
  unfold groupOf
  split <;> rfl

theorem asDecoded_ofKey? (key value : String) :
    (Occurrence.ofKey? key value).map Occurrence.asDecoded = Occurrence.ofKey? key value := by
  cases h : Occurrence.ofKey? key value with
  | none => rfl
  | some occurrence =>
    cases occurrence with
    | value raw =>
      rw [← (ofKey?_eq_value h).2, Option.map_some, Occurrence.asDecoded, asDecoded_groupOf]
    | operation | property | sort | offset | count => rfl

theorem lexGroup_true (h : Unescaped text) :
    lexGroup true text = ((lexGroup false text).1.asDecoded, (lexGroup false text).2) := by
  unfold lexGroup
  cases hsplit : splitGroup? text with
  | none => rfl
  | some group =>
    obtain ⟨inner, rest⟩ := group
    have hwhole : Unescaped ('(' :: inner ++ [')']) := by
      apply h.of_subset
      rw [eq_of_splitGroup? hsplit, ← List.singleton_append (l := rest), ← List.append_assoc]
      exact List.subset_append_left _ _
    dsimp only
    rw [hwhole.decodeUnless_eq, hwhole.decodeUnless_eq]
    split <;> rfl

theorem lexStep_true (h : Unescaped text) :
    lexStep true text =
      ((lexStep false text).1.map Occurrence.asDecoded, (lexStep false text).2) := by
  unfold lexStep
  rcases hcut : cutChars '=' (cutChars '&' text).1 with ⟨key, _ | value⟩
  · rfl
  · obtain ⟨hkey, hvalue⟩ := h.of_segment (append_of_cutChars hcut)
    have hgroup := h.of_subset (List.drop_subset (key.length + 1) text)
    dsimp only
    rw [hkey.decodeUnless_eq, hkey.decodeUnless_eq, hvalue.decodeUnless_eq, hvalue.decodeUnless_eq,
      lexGroup_true hgroup]
    split
    · rfl
    · rw [asDecoded_ofKey?]

theorem lex_true (h : Unescaped text) :
    lex true text = (lex false text).map Occurrence.asDecoded := by
  fun_induction lex false text with
  | case1 => rw [lex_nil]; rfl
  | case2 text hne _ ih =>
    rw [lex_of_ne_nil true hne, lexStep_true h, ih (h.of_subset (lexStep_suffix false text).subset),
      List.map_append]
    cases (lexStep false text).1 <;> rfl

theorem filterMap_asDecoded {key : Occurrence → Option String}
    (h : ∀ raw, key (.value raw) = none) (found : List Occurrence) :
    (found.map Occurrence.asDecoded).filterMap key = found.filterMap key := by
  have hkey : key ∘ Occurrence.asDecoded = key := by
    funext occurrence
    cases occurrence with
    | value raw => exact (h raw.asDecoded).trans (h raw).symm
    | operation | property | sort | offset | count => rfl
  rw [List.filterMap_map, hkey]

theorem rawValues_asDecoded (found : List Occurrence) :
    rawValues (found.map Occurrence.asDecoded) = (rawValues found).map RawValue.asDecoded := by
  rw [rawValues, rawValues, List.filterMap_map, List.map_filterMap]
  refine congrArg (List.filterMap · found) (funext fun occurrence => ?_)
  cases occurrence <;> rfl

theorem assemble_asDecoded (query : String) (found : List Occurrence) (arguments : List Argument) :
    assemble codes query (found.map Occurrence.asDecoded) arguments =
      assemble codes query found arguments := by
  have hoperations : operationTokens (found.map Occurrence.asDecoded) = operationTokens found :=
    filterMap_asDecoded (fun _ => rfl) found
  have hproperties : propertyTokens (found.map Occurrence.asDecoded) = propertyTokens found :=
    filterMap_asDecoded (fun _ => rfl) found
  have hsorts : sortTokens (found.map Occurrence.asDecoded) = sortTokens found :=
    filterMap_asDecoded (fun _ => rfl) found
  have hoffsets : offsetTokens (found.map Occurrence.asDecoded) = offsetTokens found :=
    filterMap_asDecoded (fun _ => rfl) found
  have hcounts : countTokens (found.map Occurrence.asDecoded) = countTokens found :=
    filterMap_asDecoded (fun _ => rfl) found
  rw [assemble, assemble, hoperations, hproperties, hsorts, hoffsets, hcounts]

/-- Whether they have been decoded makes no difference to the groups. -/
def GroupsAlike (codes : OpCodes) (found : List Occurrence) : Prop :=
  ∀ inner whole d, .value (.group inner whole d) ∈ found →
    parseText codes inner true = parseText codes inner false

theorem interpret_asDecoded {found : List Occurrence} (query : String)
    (h : GroupsAlike codes found) :
    interpret codes query (found.map Occurrence.asDecoded) = interpret codes query found := by
  have harguments : ((rawValues found).map RawValue.asDecoded).map
      (RawValue.toArgument (parseText codes)) =
        (rawValues found).map (RawValue.toArgument (parseText codes)) := by
    rw [List.map_map]
    apply List.map_congr_left
    intro raw hraw
    cases raw with
    | literal | malformed => rfl
    | group inner whole d =>
      have hinner := h inner whole d (mem_rawValues.1 hraw)
      cases d with
      | true => rfl
      | false => exact congrArg (Argument.group whole) hinner
  rw [interpret, interpret, rawValues_asDecoded, harguments, assemble_asDecoded]

theorem mem_map_asDecoded {inner whole : String} {found : List Occurrence} :
    .value (.group inner whole true) ∈ found.map Occurrence.asDecoded ↔
      ∃ d, .value (.group inner whole d) ∈ found := by
  rw [List.mem_map]
  constructor
  · rintro ⟨occurrence, hmem, hdecoded⟩
    cases occurrence with
    | value raw =>
      cases raw with
      | group _ _ d =>
        obtain ⟨rfl, rfl, -⟩ := RawValue.group.inj (Occurrence.value.inj hdecoded)
        exact ⟨d, hmem⟩
      | literal | malformed => cases hdecoded
    | operation | property | sort | offset | count => cases hdecoded
  · rintro ⟨d, hmem⟩
    exact ⟨_, hmem, rfl⟩

/-- Queries that differ only in which of their groups have been decoded. -/
theorem interpret_congr {found other : List Occurrence} (query : String)
    (same : other.map Occurrence.asDecoded = found.map Occurrence.asDecoded)
    (h : GroupsAlike codes found) :
    interpret codes query other = interpret codes query found := by
  have hother : GroupsAlike codes other := by
    intro inner whole d hmem
    have hmarked := mem_map_asDecoded.2 ⟨d, hmem⟩
    rw [same] at hmarked
    obtain ⟨_, hfound⟩ := mem_map_asDecoded.1 hmarked
    exact h _ _ _ hfound
  rw [← interpret_asDecoded query hother, same, interpret_asDecoded query h]

/-- A group of a text without escapes stands in parentheses as it is. -/
theorem Unescaped.exists_group (h : Unescaped text) {inner whole : String} {d : Bool}
    (hfirst : (lexStep decoded text).1 = some (.value (.group inner whole d))) :
    ∃ key after, text = key ++ '=' :: ('(' :: inner.toList ++ ')' :: after) ∧
      sameName (String.ofList key) "v" = true ∧ Balanced inner.toList ∧
      (after = [] ∨ after.head? = some '&') := by
  rcases lexStep_cases decoded text with ⟨-, hstep⟩ | ⟨key, value, hsegment, -, hgroup, hstep⟩ |
    ⟨key, more, htext, -, -, hname, hstep⟩
  · rw [hstep] at hfirst
    cases hfirst
  · rw [hstep] at hfirst
    dsimp only at hfirst
    -- a value with a group in it starts with a parenthesis, and would not have been cut off
    obtain ⟨hname, hvalue⟩ := ofKey?_eq_value hfirst
    rw [(h.of_segment hsegment).2.decodeUnless_eq] at hvalue
    have hsplit := splitGroup?_of_groupOf hvalue
    rw [String.toList_ofList] at hsplit
    rw [eq_of_splitGroup? hsplit] at hgroup
    exact absurd rfl (hgroup hname)
  · rw [hstep] at hfirst
    have hgroup := Occurrence.value.inj (Option.some.inj hfirst)
    obtain ⟨after, hsplit, hends⟩ := splitGroup?_of_lexGroup hgroup
    obtain ⟨hbalanced, hmore⟩ := splitGroup?_eq_some_iff.1 hsplit
    rw [hmore] at htext
    have hkey : Unescaped key := by
      apply h.of_subset
      rw [htext]
      exact List.subset_append_left _ _
    rw [hkey.decodeUnless_eq] at hname
    exact ⟨key, after, htext, hname, hbalanced, hends⟩

theorem subset_of_mem_lex (h : Unescaped text) {inner whole : String} {d : Bool}
    (hmem : .value (.group inner whole d) ∈ lex decoded text) : inner.toList ⊆ text := by
  fun_induction lex decoded text with
  | case1 => cases hmem
  | case2 text hne _ ih =>
    rcases List.mem_append.1 hmem with hfirst | hrest
    · obtain ⟨key, after, htext, -⟩ := h.exists_group (Option.mem_toList.1 hfirst)
      rw [htext]
      intro c hc
      simp [hc]
    · have hsuffix := (lexStep_suffix decoded text).subset
      exact List.Subset.trans (ih (h.of_subset hsuffix) hrest) hsuffix

theorem body_subset (query : String) : body query ⊆ query.toList := by
  unfold body
  split
  · next h =>
    rw [h]
    exact List.subset_cons_self _ _
  · exact List.Subset.refl _

/-- A text without escapes is read the same whether it has been decoded or not. -/
theorem parseText_true (codes : OpCodes) {query : String} (h : Unescaped query.toList) :
    parseText codes query true = parseText codes query false := by
  induction hsize : query.utf8ByteSize using Nat.strong_induction_on generalizing query with
  | _ size ih =>
    have hbody := h.of_subset (body_subset query)
    have hfound : occurrences query true = (occurrences query false).map Occurrence.asDecoded := by
      rw [occurrences_of_not_isFullyEncoded hbody.isFullyEncoded_eq,
        occurrences_of_not_isFullyEncoded hbody.isFullyEncoded_eq, lex_true hbody]
    have hgroups : GroupsAlike codes (occurrences query false) := by
      intro inner whole d hmem
      have hsmaller := size_of_mem_rawValues (mem_rawValues.2 hmem)
      rw [occurrences_of_not_isFullyEncoded hbody.isFullyEncoded_eq] at hmem
      exact ih _ (by omega) (hbody.of_subset (subset_of_mem_lex hbody hmem)) rfl
    rw [parseText_eq_interpret, parseText_eq_interpret, hfound, interpret_asDecoded _ hgroups]

theorem groupsAlike_lex (codes : OpCodes) (h : Unescaped text) (decoded : Bool) :
    GroupsAlike codes (lex decoded text) := by
  intro inner whole d hmem
  exact parseText_true codes (h.of_subset (subset_of_mem_lex h hmem))

end QueryText

end RecordQuery

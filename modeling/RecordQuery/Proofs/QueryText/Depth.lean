import RecordQuery.Proofs.Outcome
import RecordQuery.QueryText.Parse

/-!
# The depth of queries

The text of a nested query is at least four bytes shorter than the text around it, however the two are
encoded. So reading ends: calls are nested no deeper than a quarter of the bytes of a text, nor are the
options that are read from it.
-/

namespace RecordQuery

mutual

def FilterValue.depth : FilterValue QueryOptions → Nat
  | .literal _ => 0
  | .nested query => query.depth + 1

def FilterOf.depth : FilterOf QueryOptions → Nat
  | ⟨_, value, _, _, _⟩ => value.depth

def filtersDepth : List (FilterOf QueryOptions) → Nat
  | [] => 0
  | filter :: filters => max filter.depth (filtersDepth filters)

/-- How deep queries are nested in the filters; options without nested queries have depth zero. -/
def QueryOptions.depth : QueryOptions → Nat
  | ⟨filters, _, _, _, _, _, _⟩ => filtersDepth filters

end

theorem filtersDepth_le_iff {filters : List Filter} {n : Nat} :
    filtersDepth filters ≤ n ↔ ∀ filter ∈ filters, filter.value.depth ≤ n := by
  induction filters with
  | nil => simp [filtersDepth]
  | cons filter filters ih =>
    rw [filtersDepth, Nat.max_le, ih, List.forall_mem_cons, FilterOf.depth]

theorem QueryOptions.depth_le_iff {options : QueryOptions} {n : Nat} :
    options.depth ≤ n ↔ ∀ filter ∈ options.filters, filter.value.depth ≤ n := by
  cases options
  rw [QueryOptions.depth]
  exact filtersDepth_le_iff

namespace QueryText

open Text

variable {codes : OpCodes} {query : String} {decoded : Bool} {options : QueryOptions}

theorem exists_readValue_of_readFilter {operation property : String} {argument : Argument}
    {filter : Filter} (h : readFilter codes query (operation, property, argument) = .ok filter) :
    ∃ operation, readValue query operation argument = .ok filter.value := by
  obtain ⟨⟨operation, connective⟩, -, h⟩ := bind_eq_ok_iff.1 h
  obtain ⟨⟨property, caseSensitive⟩, -, h⟩ := bind_eq_ok_iff.1 h
  obtain ⟨value, hvalue, h⟩ := bind_eq_ok_iff.1 h
  obtain rfl := Except.ok.inj h
  exact ⟨operation, hvalue⟩

/-- A nested query is what was read from a group. -/
theorem eq_group_of_readValue {operation : Operation} {argument : Argument} {nested : QueryOptions}
    (h : readValue query operation argument = .ok (.nested nested)) :
    ∃ literal, argument = .group literal (.ok nested) := by
  cases argument with
  | literal text =>
    rw [readValue] at h
    split at h <;> cases h
  | malformed fault => cases h
  | group literal read =>
    rw [readValue] at h
    split at h
    · obtain ⟨options, hread, hoptions⟩ := map_eq_ok_iff.1 h
      cases hoptions
      exact ⟨literal, by rw [hread]⟩
    · cases h

theorem exists_argument_of_assemble {found : List Occurrence} {arguments : List Argument}
    (h : assemble codes query found arguments = .ok options) {filter : Filter}
    (hfilter : filter ∈ options.filters) :
    ∃ argument ∈ arguments, ∃ operation, readValue query operation argument = .ok filter.value := by
  rw [assemble] at h
  dsimp only at h
  split at h
  · cases h
  · obtain ⟨filters, hfilters, h⟩ := bind_eq_ok_iff.1 h
    obtain ⟨sorts, -, h⟩ := bind_eq_ok_iff.1 h
    obtain ⟨page, -, h⟩ := bind_eq_ok_iff.1 h
    obtain rfl := Except.ok.inj h
    obtain ⟨⟨operation, property, argument⟩, hmem, hread⟩ := mem_of_mapM_eq_ok hfilters hfilter
    exact ⟨argument, (List.of_mem_zip (List.of_mem_zip hmem).2).2,
      exists_readValue_of_readFilter hread⟩

/-- Each nested query of what is read is read from a group of the text. -/
theorem exists_group_of_parseText (h : parseText codes query decoded = .ok options)
    {filter : Filter} (hfilter : filter ∈ options.filters) {nested : QueryOptions}
    (hvalue : filter.value = .nested nested) :
    ∃ inner whole d, .group inner whole d ∈ rawValues (occurrences query decoded) ∧
      parseText codes inner d = .ok nested := by
  rw [parseText_eq] at h
  split at h
  · obtain rfl := Except.ok.inj h
    cases hfilter
  · obtain ⟨argument, hargument, operation, hread⟩ := exists_argument_of_assemble h hfilter
    rw [hvalue] at hread
    obtain ⟨literal, rfl⟩ := eq_group_of_readValue hread
    obtain ⟨raw, hraw, hgroup⟩ := List.mem_map.1 hargument
    cases raw with
    | literal text => cases hgroup
    | malformed fault => cases hgroup
    | group inner whole d => exact ⟨inner, whole, d, hraw, (Argument.group.inj hgroup).2⟩

theorem depth_le_of_parseText (h : parseText codes query decoded = .ok options) :
    options.depth ≤ query.utf8ByteSize / 4 := by
  induction hsize : query.utf8ByteSize using Nat.strongRecOn
    generalizing query decoded options with
  | _ size ih =>
    rw [QueryOptions.depth_le_iff]
    intro filter hfilter
    cases hvalue : filter.value with
    | literal text =>
      rw [FilterValue.depth]
      exact Nat.zero_le _
    | nested nested =>
      obtain ⟨inner, whole, d, hgroup, hread⟩ := exists_group_of_parseText h hfilter hvalue
      have hsmaller := size_of_mem_rawValues hgroup
      have hnested := ih _ (by omega) hread rfl
      rw [FilterValue.depth]
      omega

def RawValue.toArgument? (read : String → Bool → Option (Except QueryError QueryOptions)) :
    RawValue → Option Argument
  | .literal text => some (.literal text)
  | .group inner whole decoded => (read inner decoded).map (.group whole)
  | .malformed fault => some (.malformed fault)

/-- Reading that may nest so many calls, its own among them; nothing if that does not suffice. -/
def parseWithin (codes : OpCodes) : Nat → String → Bool → Option (Except QueryError QueryOptions)
  | 0, _, _ => none
  | calls + 1, query, decoded =>
    if (trimChars (body query)).isEmpty then some (pure {})
    else
      let found := occurrences query decoded
      ((rawValues found).mapM (RawValue.toArgument? (parseWithin codes calls))).map
        (assemble codes query found)

theorem mapM_toArgument? {read : String → Bool → Option (Except QueryError QueryOptions)}
    {read' : String → Bool → Except QueryError QueryOptions} {raws : List RawValue}
    (h : ∀ inner whole d, .group inner whole d ∈ raws → read inner d = some (read' inner d)) :
    raws.mapM (RawValue.toArgument? read) = some (raws.map (RawValue.toArgument read')) := by
  induction raws with
  | nil => rfl
  | cons raw raws ih =>
    have hraw : raw.toArgument? read = some (raw.toArgument read') := by
      cases raw with
      | literal text => rfl
      | malformed fault => rfl
      | group inner whole d =>
        rw [RawValue.toArgument?, h inner whole d List.mem_cons_self]
        rfl
    have hraws := ih fun inner whole d hmem => h inner whole d (List.mem_cons_of_mem _ hmem)
    rw [List.mapM_cons, hraw, hraws]
    rfl

/-- One call for each four bytes, and one for what is left, suffice. -/
theorem parseWithin_eq {calls : Nat} (h : query.utf8ByteSize < 4 * calls) :
    parseWithin codes calls query decoded = some (parseText codes query decoded) := by
  induction calls generalizing query decoded with
  | zero => omega
  | succ calls ih =>
    rw [parseWithin, parseText_eq]
    split
    · rfl
    · have hgroups : ∀ inner whole d, .group inner whole d ∈ rawValues (occurrences query decoded) →
          parseWithin codes calls inner d = some (parseText codes inner d) := by
        intro inner whole d hgroup
        have hsmaller := size_of_mem_rawValues hgroup
        exact ih (by omega)
      dsimp only
      rw [mapM_toArgument? hgroups, Option.map_some]

/-- The text of a nested query is four bytes shorter at least than the text around it. So the calls of
a reading, and the options that it returns, are nested no deeper than a quarter of its bytes. -/
theorem parse_nesting (codes : OpCodes) :
    (∀ query decoded inner whole d,
      RawValue.group inner whole d ∈ rawValues (occurrences query decoded) →
        inner.utf8ByteSize + 4 ≤ query.utf8ByteSize) ∧
    (∀ query decoded, parseWithin codes (query.utf8ByteSize / 4 + 1) query decoded =
      some (parseText codes query decoded)) ∧
    ∀ query options, parse codes query = .ok options →
      4 * options.depth ≤ query.utf8ByteSize := by
  refine ⟨?_, ?_, ?_⟩
  · intro query decoded inner whole d hgroup
    exact size_of_mem_rawValues hgroup
  · intro query decoded
    exact parseWithin_eq (by omega)
  · intro query options h
    have := depth_le_of_parseText h
    omega

/-- A query in a query, encoded as a whole. -/
def encodedBoxes : String := "o%3Dany%26p%3DX%26v%3D%28o%3Dall%26p%3D_%26v%3D%28%29%29"

theorem parse_nesting_encodedBoxes :
    .group "o=all&p=_&v=()" "(o=all&p=_&v=())" true ∈
        rawValues (occurrences encodedBoxes false) ∧
      "o=all&p=_&v=()".utf8ByteSize + 4 ≤ encodedBoxes.utf8ByteSize ∧
      parseWithin {} 15 encodedBoxes false = some (parse {} encodedBoxes) := by
  obtain ⟨hshorter, hcalls, -⟩ := parse_nesting {}
  have hgroup : .group "o=all&p=_&v=()" "(o=all&p=_&v=())" true ∈
      rawValues (occurrences encodedBoxes false) := by decide +kernel
  exact ⟨hgroup, hshorter _ _ _ _ _ hgroup, hcalls encodedBoxes false⟩

end QueryText

end RecordQuery

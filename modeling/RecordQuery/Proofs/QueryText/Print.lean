import RecordQuery.Proofs.QueryText.Occurrence
import RecordQuery.Proofs.Text.Integer
import RecordQuery.QueryText.Parse

/-!
# Printing queries

The canonical text of a query: three segments for each filter, one for each sort option and two for
the page. Names that the caller chose and literals are encoded, a nested query is its own text in
parentheses. What is read from the text is the tokens of the query, in order.
-/

namespace RecordQuery

open QueryText Text

def segment (key value : String) : String := key ++ "=" ++ value

def caseModifier (caseSensitive : Bool) : String := if caseSensitive then ",cs" else ""

def FilterOf.operationToken (filter : Filter) : String :=
  filter.operation.name ++ "|" ++ filter.connective.name

def FilterOf.propertyToken (filter : Filter) : String :=
  filter.property ++ caseModifier filter.caseSensitive

namespace SortOption

def modifiers (sort : SortOption) : String :=
  "," ++ sort.direction.name ++ caseModifier sort.caseSensitive

def token (sort : SortOption) : String := sort.property ++ sort.modifiers

def print (sort : SortOption) : String :=
  segment "s" (Percent.encode sort.property ++ sort.modifiers)

end SortOption

def Page.print (page : Page) : List String :=
  [segment "offset" (toString page.offset.toInt), segment "count" (toString page.count.toInt)]

mutual

def FilterValue.print : FilterValue QueryOptions → String
  | .literal text => Percent.encode text
  | .nested query => "(" ++ query.print ++ ")"

def FilterOf.print : FilterOf QueryOptions → List String
  | ⟨property, value, operation, caseSensitive, connective⟩ =>
    [segment "o" (operation.name ++ "|" ++ connective.name),
      segment "p" (Percent.encode property ++ caseModifier caseSensitive),
      segment "v" value.print]

def printFilters : List (FilterOf QueryOptions) → List String
  | [] => []
  | filter :: filters => filter.print ++ printFilters filters

/-- The canonical text. Flags have no place in it. -/
def QueryOptions.print : QueryOptions → String
  | ⟨filters, sorts, page, _, _, _, _⟩ =>
    join '&' (printFilters filters ++ sorts.map SortOption.print ++ page.elim [] Page.print)

end

def QueryOptions.segments (options : QueryOptions) : List String :=
  options.filters.flatMap FilterOf.print ++ options.sorts.map SortOption.print ++
    options.page.elim [] Page.print

theorem FilterOf.print_eq (filter : Filter) :
    filter.print = [segment "o" filter.operationToken,
      segment "p" (Percent.encode filter.property ++ caseModifier filter.caseSensitive),
      segment "v" filter.value.print] := by
  rw [FilterOf.print.eq_def]
  rfl

theorem printFilters_eq_flatMap (filters : List Filter) :
    printFilters filters = filters.flatMap FilterOf.print := by
  induction filters with
  | nil => rfl
  | cons filter filters ih => rw [printFilters, ih, List.flatMap_cons]

theorem QueryOptions.print_eq_join (options : QueryOptions) :
    options.print = join '&' options.segments := by
  obtain ⟨filters, sorts, page, _, _, _, _⟩ := options
  rw [print, printFilters_eq_flatMap, segments]

/-- A character of the names, numbers and separators that a query text has outside of encoded
components. -/
def isPlain (c : Char) : Bool := c.isAlphanum || c == ',' || c == '|' || c == '-'

def PlainText (s : String) : Prop := s.toList.all isPlain = true

instance (s : String) : Decidable (PlainText s) :=
  inferInstanceAs (Decidable (s.toList.all isPlain = true))

namespace PlainText

theorem notMem {s : String} {c : Char} (h : PlainText s) (hc : isPlain c = false) :
    c ∉ s.toList := by
  intro hmem
  rw [List.all_eq_true.1 h c hmem] at hc
  cases hc

theorem append {s t : String} (hs : PlainText s) (ht : PlainText t) : PlainText (s ++ t) := by
  rw [PlainText, String.toList_append, List.all_append, hs, ht]
  rfl

end PlainText

theorem plainText_int (n : Int) : PlainText (toString n) := by
  apply List.all_eq_true.2
  intro c hc
  rcases of_mem_toString_int hc with rfl | hdigit
  · rfl
  · simp [isPlain, Char.isAlphanum, hdigit]

theorem plainText_caseModifier (caseSensitive : Bool) : PlainText (caseModifier caseSensitive) := by
  cases caseSensitive <;> decide

theorem FilterOf.plainText_operationToken (filter : Filter) : PlainText filter.operationToken := by
  refine .append (.append ?_ (by decide)) ?_
  · cases filter.operation <;> decide
  · cases filter.connective <;> decide

theorem SortOption.plainText_modifiers (sort : SortOption) : PlainText sort.modifiers := by
  refine .append (.append (by decide) ?_) (plainText_caseModifier _)
  cases sort.direction <;> decide

/-- Characters that stand in no component. -/
theorem notMem_component {c : Char} (hc : isPlain c = false)
    (hencoded : Percent.isUnreserved (UInt8.ofNat c.toNat) = false) (hpercent : c ≠ '%')
    (s : String) {t : String} (ht : PlainText t) : c ∉ (Percent.encode s ++ t).toList := by
  rw [String.toList_append, List.mem_append, not_or]
  exact ⟨Percent.notMem_encode hencoded hpercent s, ht.notMem hc⟩

theorem decode_component (s : String) {t : String} (ht : PlainText t) :
    Percent.decode (Percent.encode s ++ t) = s ++ t :=
  Percent.decode_encode_append s (ht.notMem rfl) (ht.notMem rfl)

theorem toList_segment (key value : String) :
    (segment key value).toList = key.toList ++ '=' :: value.toList := by
  simp [segment]

theorem lex_component {key : String} (hkey : PlainText key) (s : String) {t : String}
    (ht : PlainText t) :
    lex false (segment key (Percent.encode s ++ t)).toList =
      (Occurrence.ofKey? key (s ++ t)).toList := by
  have hname : decodeUnless false key.toList = key := by
    rw [decodeUnless, if_neg Bool.false_ne_true, String.ofList_toList,
      Percent.decode_plain (hkey.notMem rfl) (hkey.notMem rfl)]
  have hvalue : decodeUnless false (Percent.encode s ++ t).toList = s ++ t := by
    rw [decodeUnless, if_neg Bool.false_ne_true, String.ofList_toList, decode_component s ht]
  have hopen : (Percent.encode s ++ t).toList.head? ≠ some '(' := by
    intro hhead
    exact notMem_component rfl rfl (by decide) s ht (List.mem_of_head? hhead)
  rw [toList_segment, lex_pair (hkey.notMem rfl) (hkey.notMem rfl)
    (notMem_component rfl rfl (by decide) s ht) fun _ => hopen, hname, hvalue]

theorem lex_plain {key value : String} (hkey : PlainText key) (hvalue : PlainText value) :
    lex false (segment key value).toList = (Occurrence.ofKey? key value).toList := by
  have hempty : Percent.encode "" = "" := rfl
  have hlex := lex_component hkey "" hvalue
  rwa [hempty, String.empty_append] at hlex

/-- The value as it is read, before a nested query is. -/
def FilterValue.raw : FilterValue QueryOptions → RawValue
  | .literal text => groupOf text
  | .nested query => .group query.print (Percent.decode ("(" ++ query.print ++ ")")) false

def FilterOf.occurrences (filter : Filter) : List Occurrence :=
  [.operation filter.operationToken, .property filter.propertyToken, .value filter.value.raw]

def Page.occurrences (page : Page) : List Occurrence :=
  [.offset (toString page.offset.toInt), .count (toString page.count.toInt)]

def QueryOptions.occurrences (options : QueryOptions) : List Occurrence :=
  options.filters.flatMap FilterOf.occurrences ++
    options.sorts.map (fun sort => .sort sort.token) ++ options.page.elim [] Page.occurrences

theorem balanced_component (s : String) {t : String} (ht : PlainText t) :
    Balanced (Percent.encode s ++ t).toList :=
  .of_notMem (notMem_component rfl rfl (by decide) s ht) (notMem_component rfl rfl (by decide) s ht)

theorem balanced_plain {s : String} (hs : PlainText s) : Balanced s.toList :=
  .of_notMem (hs.notMem rfl) (hs.notMem rfl)

theorem balanced_segment {key value : String} (hkey : PlainText key)
    (hvalue : Balanced value.toList) : Balanced (segment key value).toList := by
  rw [toList_segment, ← List.singleton_append, ← List.append_assoc]
  exact ((balanced_plain hkey).append (by decide)).append hvalue

theorem balanced_join {segments : List String} (h : ∀ s ∈ segments, Balanced s.toList) :
    Balanced (join '&' segments).toList := by
  induction segments with
  | nil => exact Balanced.nil
  | cons s segments ih =>
    have hs := h s List.mem_cons_self
    cases segments with
    | nil => rwa [toList_join_singleton]
    | cons next rest =>
      have hrest : Balanced (join '&' (next :: rest)).toList := by
        apply ih
        intro other hother
        exact h other (List.mem_cons_of_mem s hother)
      rw [toList_join_cons_cons, ← List.singleton_append, ← List.append_assoc]
      exact (hs.append (by decide)).append hrest

theorem SortOption.balanced_print (sort : SortOption) : Balanced sort.print.toList :=
  balanced_segment (by decide) (balanced_component _ sort.plainText_modifiers)

theorem Page.balanced_print {page : Page} {s : String} (h : s ∈ page.print) :
    Balanced s.toList := by
  simp only [Page.print, List.mem_cons, List.not_mem_nil, or_false] at h
  rcases h with rfl | rfl
  all_goals exact balanced_segment (by decide) (balanced_plain (plainText_int _))

mutual

theorem FilterValue.balanced_print :
    ∀ value : FilterValue QueryOptions, Balanced value.print.toList
  | .literal text => by
    rw [FilterValue.print, ← String.append_empty (s := Percent.encode text)]
    exact balanced_component text (by decide)
  | .nested query => by
    rw [FilterValue.print, String.toList_append, String.toList_append]
    exact query.balanced_print.parenthesised

theorem FilterOf.balanced_print :
    ∀ (filter : FilterOf QueryOptions) (s : String), s ∈ filter.print → Balanced s.toList
  | ⟨property, value, operation, caseSensitive, connective⟩, s, h => by
    simp only [FilterOf.print, List.mem_cons, List.not_mem_nil, or_false] at h
    rcases h with rfl | rfl | rfl
    · exact balanced_segment (by decide) (balanced_plain (FilterOf.plainText_operationToken
        ⟨property, value, operation, caseSensitive, connective⟩))
    · exact balanced_segment (by decide)
        (balanced_component property (plainText_caseModifier caseSensitive))
    · exact balanced_segment (by decide) value.balanced_print

theorem balanced_printFilters :
    ∀ (filters : List (FilterOf QueryOptions)) (s : String), s ∈ printFilters filters →
      Balanced s.toList
  | [], _, h => nomatch h
  | filter :: filters, s, h => by
    rcases List.mem_append.1 h with h | h
    · exact filter.balanced_print s h
    · exact balanced_printFilters filters s h

theorem QueryOptions.balanced_print : ∀ options : QueryOptions, Balanced options.print.toList
  | ⟨filters, sorts, page, _, _, _, _⟩ => by
    rw [QueryOptions.print]
    apply balanced_join
    intro s hs
    rcases List.mem_append.1 hs with hs | hs
    · rcases List.mem_append.1 hs with hs | hs
      · exact balanced_printFilters filters s hs
      · obtain ⟨sort, -, rfl⟩ := List.mem_map.1 hs
        exact sort.balanced_print
    · cases page with
      | none => cases hs
      | some page => exact page.balanced_print hs

end

/-- A name that is read as it was printed: it is not cut at a comma, and no space is dropped from
it. -/
def PrintableName (name : String) : Prop := ',' ∉ name.toList ∧ ' ' ∉ name.toList

theorem withoutSpaces_of_notMem {s : String} (h : ' ' ∉ s.toList) : withoutSpaces s = s := by
  have hfilter : s.toList.filter (· ≠ ' ') = s.toList := by
    apply List.filter_eq_self.2
    intro c hc
    apply decide_eq_true
    rintro rfl
    exact h hc
  rw [withoutSpaces, hfilter, String.ofList_toList]

theorem withoutSpaces_plain {s : String} (h : PlainText s) : withoutSpaces s = s :=
  withoutSpaces_of_notMem (h.notMem rfl)

theorem PrintableName.withoutSpaces_append {name t : String} (h : PrintableName name)
    (ht : PlainText t) : withoutSpaces (name ++ t) = name ++ t := by
  refine withoutSpaces_of_notMem ?_
  rw [String.toList_append, List.mem_append, not_or]
  exact ⟨h.2, ht.notMem rfl⟩

theorem SortOption.lex_print {sort : SortOption} (h : PrintableName sort.property) :
    lex false sort.print.toList = [.sort sort.token] := by
  rw [print, lex_component (by decide) _ sort.plainText_modifiers]
  change [Occurrence.sort (withoutSpaces (sort.property ++ sort.modifiers))] = _
  rw [h.withoutSpaces_append sort.plainText_modifiers, token]

theorem FilterValue.lex_print (value : FilterValue QueryOptions) :
    lex false (segment "v" value.print).toList = [.value value.raw] := by
  cases value with
  | literal text =>
    have hlex := @lex_component "v" (by decide) text "" (by decide)
    rw [String.append_empty, String.append_empty] at hlex
    rw [print, hlex]
    rfl
  | nested query =>
    have htext : (segment "v" (print (.nested query))).toList =
        'v' :: '=' :: ('(' :: query.print.toList ++ [')']) := by
      rw [toList_segment, print, String.toList_append, String.toList_append]
      rfl
    have hwhole : String.ofList ('(' :: query.print.toList ++ [')']) =
        "(" ++ query.print ++ ")" := by
      rw [← String.toList_inj, String.toList_ofList, String.toList_append, String.toList_append]
      rfl
    rw [htext, lex_group query.balanced_print, String.ofList_toList, decodeUnless, hwhole]
    rfl

theorem FilterOf.lex_print {filter : Filter} (h : PrintableName filter.property) :
    filter.print.map (fun segment => lex false segment.toList) = filter.occurrences.map ([·]) := by
  have hoperation := filter.plainText_operationToken
  have hmodifier := plainText_caseModifier filter.caseSensitive
  simp only [print_eq, occurrences, List.map_cons, List.map_nil, FilterValue.lex_print]
  rw [lex_plain (by decide) hoperation, lex_component (by decide) filter.property hmodifier]
  change [[Occurrence.operation (withoutSpaces _)], [.property (withoutSpaces _)], _] = _
  rw [withoutSpaces_plain hoperation, h.withoutSpaces_append hmodifier, propertyToken]

theorem Page.lex_print (page : Page) :
    page.print.map (fun segment => lex false segment.toList) = page.occurrences.map ([·]) := by
  have hoffset := plainText_int page.offset.toInt
  have hcount := plainText_int page.count.toInt
  simp only [print, occurrences, List.map_cons, List.map_nil]
  rw [lex_plain (by decide) hoffset, lex_plain (by decide) hcount]
  change [[Occurrence.offset (withoutSpaces _)], [.count (withoutSpaces _)]] = _
  rw [withoutSpaces_plain hoffset, withoutSpaces_plain hcount]

/-- The segments of a query are read as its tokens. -/
theorem QueryOptions.lex_segments {options : QueryOptions}
    (names : ∀ filter ∈ options.filters, PrintableName filter.property)
    (sortNames : ∀ sort ∈ options.sorts, PrintableName sort.property) :
    options.segments.map (fun segment => lex false segment.toList) =
      options.occurrences.map ([·]) := by
  have hfilters : (options.filters.flatMap FilterOf.print).map
      (fun segment => lex false segment.toList) =
        (options.filters.flatMap FilterOf.occurrences).map ([·]) := by
    rw [List.map_flatMap, List.map_flatMap, List.flatMap_def, List.flatMap_def]
    apply congrArg List.flatten
    apply List.map_congr_left
    intro filter hfilter
    exact FilterOf.lex_print (names filter hfilter)
  have hsorts : (options.sorts.map SortOption.print).map (fun segment => lex false segment.toList) =
      (options.sorts.map fun sort => Occurrence.sort sort.token).map ([·]) := by
    rw [List.map_map, List.map_map]
    apply List.map_congr_left
    intro sort hsort
    exact SortOption.lex_print (sortNames sort hsort)
  rw [segments, occurrences, List.map_append, List.map_append, List.map_append, List.map_append,
    hfilters, hsorts]
  cases options.page with
  | none => rfl
  | some page => exact congrArg _ page.lex_print

theorem FilterValue.raw_ne_malformed (value : FilterValue QueryOptions) (fault : GroupFault) :
    value.raw ≠ .malformed fault := by
  cases value with
  | literal text =>
    rw [raw, groupOf]
    split <;> exact nofun
  | nested query => exact nofun

theorem QueryOptions.unbalanced_notMem_occurrences (options : QueryOptions) :
    .value (.malformed .unbalanced) ∉ options.occurrences := by
  intro h
  rw [occurrences, List.mem_append, List.mem_append] at h
  rcases h with (h | h) | h
  · obtain ⟨filter, -, h⟩ := List.mem_flatMap.1 h
    simp only [FilterOf.occurrences, List.mem_cons, reduceCtorEq, false_or, Occurrence.value.injEq,
      List.not_mem_nil, or_false] at h
    exact filter.value.raw_ne_malformed _ h.symm
  · obtain ⟨sort, -, h⟩ := List.mem_map.1 h
    cases h
  · cases hpage : options.page with
    | none => simp [hpage] at h
    | some page => simp [hpage, Page.occurrences] at h

theorem QueryOptions.lex_print {options : QueryOptions}
    (names : ∀ filter ∈ options.filters, PrintableName filter.property)
    (sortNames : ∀ sort ∈ options.sorts, PrintableName sort.property) :
    lex false options.print.toList = options.occurrences := by
  have hsegments := lex_segments names sortNames
  have hclosed : ∀ segment ∈ options.segments,
      .value (.malformed .unbalanced) ∉ lex false segment.toList := by
    intro segment hsegment hmem
    have hlex := List.mem_map_of_mem (f := fun segment => lex false segment.toList) hsegment
    rw [hsegments] at hlex
    obtain ⟨occurrence, hoccurrence, heq⟩ := List.mem_map.1 hlex
    rw [← heq, List.mem_singleton] at hmem
    exact options.unbalanced_notMem_occurrences (hmem ▸ hoccurrence)
  rw [print_eq_join, lex_join hclosed, List.flatMap_def, hsegments, ← List.flatMap_def]
  exact List.flatMap_singleton' options.occurrences

end RecordQuery

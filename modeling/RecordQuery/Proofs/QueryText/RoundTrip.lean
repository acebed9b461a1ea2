import RecordQuery.Proofs.Options
import RecordQuery.Proofs.Outcome
import RecordQuery.Proofs.QueryText.Print
import RecordQuery.Proofs.QueryText.Reading

/-!
# Reading printed queries

Reading the canonical text of a query gives back the query, at every depth and whatever its literals
are, with the codes of operations that the caller likes.
-/

namespace RecordQuery

open QueryText Text

variable {codes : OpCodes} {query : String}

theorem Operation.ofName?_name (operation : Operation) :
    ofName? operation.name = some operation := by
  cases operation <;> decide

/-- Canonical names win over all codes. -/
theorem Operation.resolve?_name (codes : OpCodes) (operation : Operation) :
    resolve? codes operation.name = some operation := by
  have hname : operation.name.isEmpty = false := by
    cases operation <;> rfl
  rw [resolve?, hname, ofName?_name]
  rfl

theorem Connective.ofName?_name (connective : Connective) :
    ofName? connective.name = some connective := by
  cases connective <;> decide

theorem readOperation_print (codes : OpCodes) (query : String) (filter : Filter) :
    readOperation codes query filter.operationToken =
      .ok (filter.operation, filter.connective) := by
  have hbar : '|' ∉ filter.operation.name.toList := by
    cases filter.operation <;> decide
  have hcut : cut '|' filter.operationToken =
      (filter.operation.name, some filter.connective.name) := cut_append hbar _
  rw [readOperation, hcut]
  dsimp only
  rw [Connective.ofName?_name]
  dsimp only
  rw [pure_bind, Operation.resolve?_name]
  rfl

theorem splitAll_caseModifier {name : String} (h : ',' ∉ name.toList) (caseSensitive : Bool) :
    splitAll ',' (name ++ caseModifier caseSensitive) =
      name :: if caseSensitive then ["cs"] else [] := by
  cases caseSensitive with
  | false => rw [caseModifier, if_neg Bool.false_ne_true, String.append_empty, splitAll_of_notMem h,
      if_neg Bool.false_ne_true]
  | true =>
    have hmodifier : name ++ caseModifier true = name ++ String.singleton ',' ++ "cs" := by
      rw [String.append_assoc]
      rfl
    rw [hmodifier, splitAll_append h, splitAll_of_notMem (by decide), if_pos rfl]

theorem readProperty_print (query : String) {name : String} (h : PrintableName name)
    (caseSensitive : Bool) :
    readProperty query (name ++ caseModifier caseSensitive) = .ok (name, caseSensitive) := by
  rw [readProperty, splitAll_caseModifier h.1]
  cases caseSensitive <;> rfl

/-- A literal in parentheses looks like a group, but other operations take it as it is. -/
theorem readValue_groupOf (query : String) {operation : Operation}
    (h : operation.isCollection = false)
    (read : String → Bool → Except QueryError QueryOptions) (text : String) :
    readValue query operation ((groupOf text).toArgument read) = .ok (.literal text) := by
  rw [groupOf]
  split
  · rw [RawValue.toArgument, readValue, h]
    rfl
  · rw [RawValue.toArgument, readValue, h]
    rfl

theorem readSort_print (query : String) {sort : SortOption} (h : PrintableName sort.property) :
    readSort query sort.token = .ok sort := by
  obtain ⟨property, direction, caseSensitive⟩ := sort
  have htoken : SortOption.token ⟨property, direction, caseSensitive⟩ =
      property ++ String.singleton ',' ++ (direction.name ++ caseModifier caseSensitive) := by
    rw [SortOption.token, SortOption.modifiers, String.append_assoc, String.append_assoc]
    rfl
  have hname : ',' ∉ direction.name.toList := by
    cases direction <;> decide
  have hdirection : readDirection query direction.name = .ok direction := by
    cases direction <;> rfl
  rw [readSort, htoken, splitAll_append h.1, splitAll_caseModifier hname]
  cases caseSensitive with
  | false =>
    dsimp only
    rw [if_neg Bool.false_ne_true]
    dsimp only
    rw [hdirection]
    rfl
  | true =>
    dsimp only
    rw [if_pos rfl]
    dsimp only
    rw [hdirection]
    rfl

theorem SortOption.token_ne_empty (sort : SortOption) : sort.token ≠ "" := by
  intro h
  have hcomma : ',' ∈ sort.token.toList := by
    simp [token, modifiers]
  rw [h] at hcomma
  cases hcomma

theorem readPage_print (query : String) {page : Option Page}
    (h : ∀ p ∈ page, p = { offset := p.offset, count := p.count }) :
    readPage query (page.elim [] fun p => [toString p.offset.toInt])
      (page.elim [] fun p => [toString p.count.toInt]) = .ok page := by
  cases page with
  | none => rfl
  | some page =>
    rw [h page rfl, Option.elim_some, Option.elim_some, readPage]
    dsimp only
    rw [readInt64?_toString, readInt64?_toString]
    rfl

theorem assemble_eq_ok {found : List Occurrence} {arguments : List Argument} {filters : List Filter}
    {sorts : List SortOption} {page : Option Page}
    (properties : (operationTokens found).length = (propertyTokens found).length)
    (values : (propertyTokens found).length = arguments.length)
    (readFilters : ((operationTokens found).zip ((propertyTokens found).zip arguments)).mapM
      (readFilter codes query) = .ok filters)
    (readSorts : ((sortTokens found).filter (· ≠ "")).mapM (readSort query) = .ok sorts)
    (readPages : readPage query (offsetTokens found) (countTokens found) = .ok page) :
    assemble codes query found arguments =
      .ok { filters, sorts, page, sourceText := some query } := by
  rw [assemble_of_counts properties values, readFilters, ok_bind, readSorts, ok_bind, readPages]
  rfl

namespace QueryOptions

variable (options : QueryOptions)

theorem filterMap_occurrences {α : Type} (key : Occurrence → Option α) :
    options.occurrences.filterMap key =
      options.filters.flatMap (fun filter => filter.occurrences.filterMap key) ++
        options.sorts.filterMap (fun sort => key (.sort sort.token)) ++
          options.page.elim [] (fun page => page.occurrences.filterMap key) := by
  rw [occurrences, List.filterMap_append, List.filterMap_append, List.filterMap_flatMap,
    List.filterMap_map]
  cases options.page <;> rfl

theorem operationTokens_occurrences :
    operationTokens options.occurrences = options.filters.map FilterOf.operationToken := by
  rw [operationTokens, filterMap_occurrences]
  cases options.page <;> simp [FilterOf.occurrences, Page.occurrences, List.map_eq_flatMap]

theorem propertyTokens_occurrences :
    propertyTokens options.occurrences = options.filters.map FilterOf.propertyToken := by
  rw [propertyTokens, filterMap_occurrences]
  cases options.page <;> simp [FilterOf.occurrences, Page.occurrences, List.map_eq_flatMap]

theorem rawValues_occurrences :
    rawValues options.occurrences = options.filters.map fun filter => filter.value.raw := by
  rw [rawValues, filterMap_occurrences]
  cases options.page <;> simp [FilterOf.occurrences, Page.occurrences, List.map_eq_flatMap]

theorem sortTokens_occurrences :
    sortTokens options.occurrences = options.sorts.map SortOption.token := by
  rw [sortTokens, filterMap_occurrences]
  cases options.page <;> simp [FilterOf.occurrences, Page.occurrences, List.filterMap_eq_map']

theorem filterMap_occurrences_page {key : Occurrence → Option String}
    (hfilter : ∀ filter : Filter, filter.occurrences.filterMap key = [])
    (hsort : ∀ token, key (.sort token) = none) :
    options.occurrences.filterMap key =
      options.page.elim [] fun page => page.occurrences.filterMap key := by
  rw [filterMap_occurrences, List.flatMap_eq_nil_iff.2 fun filter _ => hfilter filter,
    List.filterMap_eq_nil_iff.2 fun sort _ => hsort sort.token]
  rfl

theorem offsetTokens_occurrences :
    offsetTokens options.occurrences =
      options.page.elim [] fun page => [toString page.offset.toInt] :=
  options.filterMap_occurrences_page (fun _ => rfl) fun _ => rfl

theorem countTokens_occurrences :
    countTokens options.occurrences =
      options.page.elim [] fun page => [toString page.count.toInt] :=
  options.filterMap_occurrences_page (fun _ => rfl) fun _ => rfl

/-- The options that the canonical text keeps: flags are as by default, the page is as it was asked
for, operations on collections have queries and all others literals. -/
inductive Printable : QueryOptions → Prop
  | intro {filters : List Filter} {sorts : List SortOption} {page : Option Page}
    {source : Option String}
    (names : ∀ filter ∈ filters, PrintableName filter.property)
    (literals : ∀ filter ∈ filters, filter.operation.isCollection = false →
      ∃ text, filter.value = .literal text)
    (queries : ∀ filter ∈ filters, filter.operation.isCollection = true →
      ∃ query, filter.value = .nested query)
    (nested : ∀ filter ∈ filters, ∀ query, filter.value = .nested query → Printable query)
    (sortNames : ∀ sort ∈ sorts, PrintableName sort.property)
    (asked : ∀ p ∈ page, p = { offset := p.offset, count := p.count }) :
    Printable { filters, sorts, page, sourceText := source }

end QueryOptions

theorem readFilter_of_readValue {filter : Filter} {argument : Argument}
    {value : FilterValue QueryOptions} (name : PrintableName filter.property)
    (h : readValue query filter.operation argument = .ok value) :
    readFilter codes query (filter.operationToken, filter.propertyToken, argument) =
      .ok { filter with value } := by
  have hproperty : readProperty query filter.propertyToken =
      .ok (filter.property, filter.caseSensitive) := readProperty_print query name _
  simp only [readFilter, readOperation_print, ok_bind, hproperty, h]
  rfl

/-- A filter is read back if its nested query is. -/
theorem readFilter_print {filter : Filter} (query : String)
    (name : PrintableName filter.property)
    (literal : filter.operation.isCollection = false → ∃ text, filter.value = .literal text)
    (queries : filter.operation.isCollection = true →
      ∃ nested parsed, filter.value = .nested nested ∧
        parseText codes nested.print false = .ok parsed ∧
          parsed.withoutSource = nested.withoutSource) :
    ∃ read, readFilter codes query (filter.operationToken, filter.propertyToken,
        filter.value.raw.toArgument (parseText codes)) = .ok read ∧
      read.withoutSource = filter.withoutSource := by
  obtain ⟨property, value, operation, caseSensitive, connective⟩ := filter
  dsimp only at literal queries
  cases hcollection : operation.isCollection with
  | false =>
    obtain ⟨text, rfl⟩ := literal hcollection
    have hvalue := readValue_groupOf query hcollection (parseText codes) text
    exact ⟨_, readFilter_of_readValue name hvalue, rfl⟩
  | true =>
    obtain ⟨nested, parsed, rfl, hparsed, hsame⟩ := queries hcollection
    have hvalue : readValue query operation
        ((FilterValue.nested nested).raw.toArgument (parseText codes)) = .ok (.nested parsed) := by
      rw [FilterValue.raw, RawValue.toArgument, hparsed, readValue, hcollection]
      rfl
    refine ⟨_, readFilter_of_readValue name hvalue, ?_⟩
    rw [FilterOf.withoutSource, FilterOf.withoutSource, FilterValue.withoutSource,
      FilterValue.withoutSource, hsame]

theorem readFilters_print {filters : List Filter} (query : String)
    (names : ∀ filter ∈ filters, PrintableName filter.property)
    (literals : ∀ filter ∈ filters, filter.operation.isCollection = false →
      ∃ text, filter.value = .literal text)
    (queries : ∀ filter ∈ filters, filter.operation.isCollection = true →
      ∃ nested parsed, filter.value = .nested nested ∧
        parseText codes nested.print false = .ok parsed ∧
          parsed.withoutSource = nested.withoutSource) :
    ∃ read, ((filters.map FilterOf.operationToken).zip ((filters.map FilterOf.propertyToken).zip
        (filters.map fun filter => filter.value.raw.toArgument (parseText codes)))).mapM
          (readFilter codes query) = .ok read ∧
      read.map FilterOf.withoutSource = filters.map FilterOf.withoutSource := by
  rw [List.zip_map', List.zip_map', List.mapM_map]
  apply mapM_eq_ok_of_forall
  intro filter hfilter
  exact readFilter_print query (names filter hfilter) (literals filter hfilter)
    (queries filter hfilter)

theorem readSorts_print {sorts : List SortOption} (query : String)
    (names : ∀ sort ∈ sorts, PrintableName sort.property) :
    ((sorts.map SortOption.token).filter (· ≠ "")).mapM (readSort query) = .ok sorts := by
  have hkeep : (sorts.map SortOption.token).filter (· ≠ "") = sorts.map SortOption.token := by
    apply List.filter_eq_self.2
    intro token htoken
    apply decide_eq_true
    obtain ⟨sort, -, rfl⟩ := List.mem_map.1 htoken
    exact sort.token_ne_empty
  have hread := mapM_eq_ok_map (g := id) fun sort hsort => readSort_print query (names sort hsort)
  rw [List.map_id] at hread
  rw [hkeep, List.mapM_map]
  exact hread

namespace QueryOptions

/-- A text is read by its tokens if it is not blank and has an equals sign of its own. -/
theorem parseText_of_lex {text : String} {c : Char} {cs : List Char} (codes : OpCodes)
    (htext : text.toList = c :: cs) (hmark : c ≠ '?') (hequals : '=' ∈ cs) :
    parseText codes text false = assemble codes text (lex false text.toList)
      ((rawValues (lex false text.toList)).map (RawValue.toArgument (parseText codes))) := by
  have hbody : body text = text.toList := by
    apply body_of_head?
    rw [htext]
    exact fun h => hmark (Option.some.inj h)
  have hmem : '=' ∈ body text := by
    rw [hbody, htext]
    exact List.mem_cons_of_mem c hequals
  rw [parseText_of_equals codes hmem, interpret, hbody]

theorem segments_cases (options : QueryOptions) :
    options.filters = [] ∧ options.sorts = [] ∧ options.page = none ∨
      ∃ key value rest, options.segments = segment key value :: rest ∧
        (key = "o" ∨ key = "s" ∨ key = "offset") := by
  obtain ⟨filters, sorts, page, _, _, _, _⟩ := options
  rcases filters with _ | ⟨filter, filters⟩
  · rcases sorts with _ | ⟨sort, sorts⟩
    · rcases page with _ | page
      · exact .inl ⟨rfl, rfl, rfl⟩
      · exact .inr ⟨_, _, _, rfl, .inr (.inr rfl)⟩
    · exact .inr ⟨_, _, _, rfl, .inr (.inl rfl)⟩
  · right
    rw [segments, List.flatMap_cons, FilterOf.print_eq]
    exact ⟨_, _, _, rfl, .inl rfl⟩

/-- A canonical text is empty, or it starts with a key and has an equals sign. -/
theorem print_cases (options : QueryOptions) :
    options.filters = [] ∧ options.sorts = [] ∧ options.page = none ∨
      ∃ c cs, options.print.toList = c :: cs ∧ c ≠ '?' ∧ '=' ∈ cs := by
  rcases options.segments_cases with hempty | ⟨key, value, rest, hsegments, hkey⟩
  · exact .inl hempty
  · right
    obtain ⟨more, hmore⟩ := toList_join_cons '&' (segment key value) rest
    rw [print_eq_join, hsegments, hmore, toList_segment, List.append_assoc]
    rcases hkey with rfl | rfl | rfl
    all_goals exact ⟨_, _, rfl, by decide, by simp⟩

/-- A query that asks for something is read back once its filters are. -/
theorem parseText_of_readFilters {options : QueryOptions} {read : List Filter}
    (names : ∀ filter ∈ options.filters, PrintableName filter.property)
    (sortNames : ∀ sort ∈ options.sorts, PrintableName sort.property)
    (asked : ∀ p ∈ options.page, p = { offset := p.offset, count := p.count })
    (nonempty : ∃ c cs, options.print.toList = c :: cs ∧ c ≠ '?' ∧ '=' ∈ cs)
    (filters : ((options.filters.map FilterOf.operationToken).zip
      ((options.filters.map FilterOf.propertyToken).zip
        (options.filters.map fun filter => filter.value.raw.toArgument (parseText codes)))).mapM
          (readFilter codes options.print) = .ok read) :
    parseText codes options.print false =
      .ok ⟨read, options.sorts, options.page, false, false, false, some options.print⟩ := by
  obtain ⟨c, cs, htext, hmark, hequals⟩ := nonempty
  rw [parseText_of_lex codes htext hmark hequals, lex_print names sortNames, rawValues_occurrences,
    List.map_map]
  apply assemble_eq_ok
  · rw [operationTokens_occurrences, propertyTokens_occurrences, List.length_map, List.length_map]
  · rw [propertyTokens_occurrences, List.length_map, List.length_map]
  · rw [operationTokens_occurrences, propertyTokens_occurrences]
    exact filters
  · rw [sortTokens_occurrences]
    exact readSorts_print options.print sortNames
  · rw [offsetTokens_occurrences, countTokens_occurrences]
    exact readPage_print options.print asked

/-- Reading the canonical text of a query gives back the query. -/
theorem parse_print (codes : OpCodes) {options : QueryOptions} (h : options.Printable) :
    ∃ parsed, parse codes options.print = .ok parsed ∧
      parsed.withoutSource = options.withoutSource := by
  induction h with
  | @intro filters sorts page source names literals queries _ sortNames asked ih =>
    rcases print_cases { filters, sorts, page, sourceText := source } with
      ⟨hfilters, hsorts, hpage⟩ | nonempty
    · dsimp only at hfilters hsorts hpage
      subst hfilters hsorts hpage
      refine ⟨{}, ?_, rfl⟩
      rw [parse, parseText_eq]
      rfl
    · have hnested : ∀ filter ∈ filters, filter.operation.isCollection = true →
          ∃ nested parsed, filter.value = .nested nested ∧
            parseText codes nested.print false = .ok parsed ∧
              parsed.withoutSource = nested.withoutSource := by
        intro filter hfilter hcollection
        obtain ⟨nested, hnested⟩ := queries filter hfilter hcollection
        obtain ⟨parsed, hparsed, hsame⟩ := ih filter hfilter nested hnested
        exact ⟨nested, parsed, hnested, hparsed, hsame⟩
      obtain ⟨read, hread, hsame⟩ := readFilters_print _ names literals hnested
      refine ⟨_, parseText_of_readFilters names sortNames asked nonempty hread, ?_⟩
      rw [withoutSource, withoutSource, filtersWithoutSource_eq_map, filtersWithoutSource_eq_map,
        hsame]

/-- The literal of the first filter looks like a group; the second filter has a real one. -/
def awkward : QueryOptions where
  filters :=
    [{ property := "a+b", value := .literal "(o=1&v=50%2C)", operation := .equals },
      { property := "items", value := .nested { filters := [tested] }, operation := .any,
        connective := .xor }]
  sorts := [{ property := "", direction := .desc, caseSensitive := true }]
  page := some { offset := -3, count := 20 }
where
  tested : Filter :=
    { property := "_", value := .literal "x y,", operation := .contains, caseSensitive := true }

theorem printable_tested : Printable { filters := [awkward.tested] } := by
  refine .intro ?_ ?_ ?_ ?_ nofun nofun
  all_goals simp [awkward.tested, PrintableName, Operation.isCollection, Operation.code]

theorem printable_awkward : awkward.Printable := by
  refine .intro ?_ ?_ ?_ ?_ ?_ ?_
  · simp [PrintableName]
  · simp [Operation.isCollection, Operation.code]
  · simp [Operation.isCollection, Operation.code]
  · simp [printable_tested]
  · simp [PrintableName]
  · simp

theorem parse_print_awkward :
    ∃ parsed, parse [("Equals", .any)] awkward.print = .ok parsed ∧
      parsed.withoutSource = awkward.withoutSource :=
  parse_print _ printable_awkward

end QueryOptions

end RecordQuery

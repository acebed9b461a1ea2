import RecordQuery.Document.Options
import RecordQuery.Proofs.Document.Json

/-!
# Options read back from their JSON text

The document of query options holds all of them but the request of a page for the data set count.
It is read back as the options without these requests, however deep queries are nested. So is its
text, as long as the document is no deeper than the documents that are parsed.
-/

namespace RecordQuery

open Document

/-- The same page, which does not ask for the data set count. -/
def Page.uncounted (page : Page) : Page := { page with assignDataSetCount := false }

mutual

def FilterValue.uncounted : FilterValue QueryOptions → FilterValue QueryOptions
  | .literal text => .literal text
  | .nested query => .nested query.uncounted

def FilterOf.uncounted : FilterOf QueryOptions → FilterOf QueryOptions
  | ⟨property, value, operation, caseSensitive, connective⟩ =>
    ⟨property, value.uncounted, operation, caseSensitive, connective⟩

def filtersUncounted : List (FilterOf QueryOptions) → List (FilterOf QueryOptions)
  | [] => []
  | filter :: filters => filter.uncounted :: filtersUncounted filters

/-- The same options, no page of which asks for the data set count. -/
def QueryOptions.uncounted : QueryOptions → QueryOptions
  | ⟨filters, sorts, page, caseInsensitiveSource, ignorePredefinedOrders, nullIsString, source⟩ =>
    ⟨filtersUncounted filters, sorts, page.map Page.uncounted, caseInsensitiveSource,
      ignorePredefinedOrders, nullIsString, source⟩

end

theorem SortOption.isPlain_toDocument (sort : SortOption) : sort.toDocument.IsPlain := by
  refine .record ?_
  simp only [List.forall_mem_cons]
  exact ⟨.string _, .string _, .bool _, by simp⟩

theorem Page.isPlain_toDocument (page : Page) : page.toDocument.IsPlain := by
  have hint (n : Int64) : (Document.integer n.toInt).IsPlain := by
    refine .integer n.minValue_le_toInt ?_
    have hle := n.toInt_le
    have hmax : Int64.maxValue.toInt < UInt64.size := by decide
    omega
  have hnat (n : UInt64) : (Document.integer n.toNat).IsPlain := by
    refine .integer ?_ (Int.ofNat_lt.2 n.toNat_lt_size)
    have hmin : Int64.minValue.toInt ≤ 0 := by decide
    omega
  refine .record ?_
  simp only [List.forall_mem_cons]
  exact ⟨hint _, hint _, hnat _, by simp⟩

mutual

theorem FilterValue.isPlain_toDocument :
    ∀ value : FilterValue QueryOptions, value.toDocument.IsPlain
  | .literal text => by
    rw [FilterValue.toDocument]
    exact .string text
  | .nested query => by
    rw [FilterValue.toDocument]
    exact query.isPlain_toDocument

theorem FilterOf.isPlain_toDocument : ∀ filter : FilterOf QueryOptions, filter.toDocument.IsPlain
  | ⟨property, value, operation, caseSensitive, connective⟩ => by
    rw [FilterOf.toDocument]
    refine .record ?_
    simp only [List.forall_mem_cons]
    exact ⟨.string _, value.isPlain_toDocument, .string _, .bool _, .string _, by simp⟩

theorem isPlain_of_mem_filtersToDocuments :
    ∀ filters : List (FilterOf QueryOptions), ∀ d ∈ filtersToDocuments filters, d.IsPlain
  | [] => by simp [filtersToDocuments]
  | filter :: filters => by
    rw [filtersToDocuments, List.forall_mem_cons]
    exact ⟨filter.isPlain_toDocument, isPlain_of_mem_filtersToDocuments filters⟩

theorem QueryOptions.isPlain_toDocument : ∀ options : QueryOptions, options.toDocument.IsPlain
  | ⟨filters, sorts, page, _, _, _, source⟩ => by
    have hsorts : ∀ d ∈ sorts.map SortOption.toDocument, d.IsPlain :=
      List.forall_mem_map.2 fun sort _ => sort.isPlain_toDocument
    have hpage : (page.elim .null Page.toDocument).IsPlain := by
      cases page with
      | none => exact .null
      | some page => exact page.isPlain_toDocument
    have hsource : ∀ entry ∈ sourceTextEntry source, entry.2.IsPlain := by
      cases source with
      | none => simp [sourceTextEntry]
      | some text =>
        simp only [sourceTextEntry, List.forall_mem_cons]
        exact ⟨.string text, by simp⟩
    rw [QueryOptions.toDocument]
    refine .record ?_
    simp only [List.cons_append, List.nil_append, List.forall_mem_cons]
    exact ⟨.list (isPlain_of_mem_filtersToDocuments filters), .list hsorts, hpage, .bool _,
      .bool _, .bool _, hsource⟩

end

theorem Document.fields?_record {entries : List (String × Document)} {names : List String}
    (h : names.all (occursOnce entries) = true) :
    (Document.record entries).fields? names = some fun name => entries.lookup name := by
  rw [fields?, if_pos h]

theorem Document.lookup_cons_eq_ite (name key : String) (value : Document)
    (entries : List (String × Document)) :
    List.lookup name ((key, value) :: entries) =
      if name = key then some value else entries.lookup name := by
  by_cases h : name = key
  · rw [if_pos h, h, List.lookup_cons_self]
  · rw [if_neg h, List.lookup_cons, beq_eq_false_iff_ne.2 h]

theorem Document.defaulted?_eq_elim {α : Type} (field : String → Option Document) (name : String)
    (fallback : α) (read : Document → Option α) :
    defaulted? field name fallback read = (field name).elim (some fallback) read := by
  unfold defaulted?
  cases field name <;> rfl

theorem Operation.ofDocument?_name (operation : Operation) :
    Operation.ofDocument? (.string operation.name) = some operation := by
  cases operation <;> decide

theorem Connective.ofDocument?_name (connective : Connective) :
    Connective.ofDocument? (.string connective.name) = some connective := by
  cases connective <;> decide

theorem Direction.ofDocument?_caseName (direction : Direction) :
    Direction.ofDocument? (.string direction.caseName) = some direction := by
  cases direction <;> decide

theorem SortOption.ofDocument?_toDocument (sort : SortOption) :
    SortOption.ofDocument? sort.toDocument = some sort := by
  rw [SortOption.ofDocument?, SortOption.toDocument, Document.fields?_record rfl]
  simp only [required?, defaulted?_eq_elim, lookup_cons_eq_ite, String.reduceEq, reduceIte,
    Option.bind_eq_bind, Option.bind_some, Option.elim_some, string?, bool?,
    Direction.ofDocument?_caseName]

theorem mapM_ofDocument?_sorts (sorts : List SortOption) :
    (sorts.map SortOption.toDocument).mapM SortOption.ofDocument? = some sorts := by
  induction sorts with
  | nil => rfl
  | cons sort sorts ih =>
    rw [List.map_cons, List.mapM_cons, sort.ofDocument?_toDocument, ih]
    rfl

theorem Document.int64?_toInt (n : Int64) : (Document.integer n.toInt).int64? = some n :=
  Text.int64?_toInt n

theorem Document.uint64?_toNat (n : UInt64) : (Document.integer n.toNat).uint64? = some n := by
  rw [uint64?, if_pos (by omega), Int.toNat_natCast, Text.uint64?_toNat]

theorem Page.ofDocument?_toDocument (page : Page) :
    Page.ofDocument? page.toDocument = some page.uncounted := by
  rw [Page.ofDocument?, Page.toDocument, Document.fields?_record rfl]
  simp only [required?, defaulted?_eq_elim, lookup_cons_eq_ite, String.reduceEq, reduceIte,
    Option.bind_eq_bind, Option.bind_some, Option.elim_some, Document.int64?_toInt,
    Document.uint64?_toNat, Page.uncounted]

theorem optional?_page_toDocument (page : Option Page) :
    optional? Page.ofDocument? (page.elim .null Page.toDocument) =
      some (page.map Page.uncounted) := by
  cases page with
  | none => rfl
  | some page =>
    have hread := page.ofDocument?_toDocument
    rw [Page.toDocument] at hread
    simp only [Option.elim_some, Page.toDocument, optional?, hread, Option.map_some]

/-- A string is a literal, all else a nested query. -/
def FilterValue.ofDocument? : Document → Option (FilterValue QueryOptions)
  | .string text => some (.literal text)
  | document => (QueryOptions.ofDocument? document).map .nested

theorem Filter.ofDocument?_eq (document : Document) :
    Filter.ofDocument? document = (document.fields? filterFields).bind fun field => (do
      let value ← (field "value").bind FilterValue.ofDocument?
      some {
        property := ← required? field "property_name" string?
        value
        operation := ← required? field "operator" Operation.ofDocument?
        caseSensitive := ← defaulted? field "case_sensitive" false bool?
        connective := ← defaulted? field "logical_operator" .andAlso Connective.ofDocument? }) := by
  rw [Filter.ofDocument?]
  split
  · next hfields => simp only [hfields, Option.bind_none]
  · next field hfields =>
    split
    · next hvalue =>
      simp only [hfields, hvalue, Option.bind_some, Option.bind_none]
    · next text hvalue => simp only [hfields, hvalue, Option.bind_some, FilterValue.ofDocument?]
    · next nested hstring hvalue =>
      have hnested : FilterValue.ofDocument? nested =
          .nested <$> QueryOptions.ofDocument? nested := by
        unfold FilterValue.ofDocument?
        split
        · next text => exact (hstring text rfl).elim
        · rfl
      simp only [hfields, hvalue, hnested, Option.bind_some]

theorem QueryOptions.ofDocument?_eq (document : Document) :
    QueryOptions.ofDocument? document = (document.fields? optionsFields).bind fun field => (do
      some {
        filters := ← defaulted? field "filters" [] fun d =>
          d.list?.bind fun items => items.mapM Filter.ofDocument?
        sorts := ← defaulted? field "sort_options" [] fun d =>
          d.list?.bind fun items => items.mapM SortOption.ofDocument?
        page := ← defaulted? field "pagination" none (optional? Page.ofDocument?)
        caseInsensitiveSource := ← defaulted? field "uses_case_insensitive_source" false bool?
        ignorePredefinedOrders := ← defaulted? field "ignore_predefined_orders" false bool?
        nullIsString := ← defaulted? field "is_null_value_string" false bool?
        sourceText := ← defaulted? field "source_text" none (optional? string?) }) := by
  rw [QueryOptions.ofDocument?]
  split
  · next hfields => simp only [hfields, Option.bind_none]
  · next field hfields =>
    split
    · next hfilters =>
      simp only [hfields, defaulted?, hfilters, Option.bind_some]
    · next items hfilters =>
      have hitems : (items.attach.mapM fun item => Filter.ofDocument? item.1) =
          items.mapM Filter.ofDocument? := by
        rw [List.mapM_subtype (g := Filter.ofDocument?) (fun _ _ => rfl), List.unattach_attach]
      simp only [hfields, defaulted?, hfilters, Option.bind_some, list?]
      rw [hitems]
    · next document' hlist hfilters =>
      have hnone : document'.list? = none := by
        cases document' <;> first | rfl | exact (hlist _ rfl).elim
      simp only [hfields, defaulted?, hfilters, Option.bind_some, hnone, Option.bind_none]

mutual

theorem FilterValue.ofDocument?_toDocument :
    ∀ value : FilterValue QueryOptions,
      FilterValue.ofDocument? value.toDocument = some value.uncounted
  | .literal text => by
    rw [FilterValue.toDocument, FilterValue.ofDocument?, FilterValue.uncounted]
  | .nested query => by
    have hread := query.ofDocument?_toDocument
    have hrecord : ∃ entries, query.toDocument = .record entries := by
      cases query
      exact ⟨_, QueryOptions.toDocument.eq_1 ..⟩
    obtain ⟨entries, hentries⟩ := hrecord
    rw [FilterValue.toDocument, FilterValue.uncounted]
    rw [hentries] at hread ⊢
    rw [FilterValue.ofDocument?, hread, Option.map_some]
    intro text htext
    cases htext

theorem FilterOf.ofDocument?_toDocument :
    ∀ filter : Filter, Filter.ofDocument? filter.toDocument = some filter.uncounted
  | ⟨property, value, operation, caseSensitive, connective⟩ => by
    have hvalue := value.ofDocument?_toDocument
    rw [FilterOf.toDocument, FilterOf.uncounted, Filter.ofDocument?_eq,
      Document.fields?_record rfl]
    simp only [required?, defaulted?_eq_elim, lookup_cons_eq_ite, String.reduceEq, reduceIte,
      Option.bind_eq_bind, Option.bind_some, Option.elim_some, string?, bool?, hvalue,
      Operation.ofDocument?_name, Connective.ofDocument?_name]

theorem mapM_ofDocument?_filtersToDocuments :
    ∀ filters : List Filter, (filtersToDocuments filters).mapM Filter.ofDocument? =
      some (filtersUncounted filters)
  | [] => by simp [filtersToDocuments, filtersUncounted]
  | filter :: filters => by
    rw [filtersToDocuments, filtersUncounted, List.mapM_cons, filter.ofDocument?_toDocument,
      mapM_ofDocument?_filtersToDocuments filters]
    rfl

/-- A document of options is read back as the options but for the requests of pages. -/
theorem QueryOptions.ofDocument?_toDocument :
    ∀ options : QueryOptions,
      QueryOptions.ofDocument? options.toDocument = some options.uncounted
  | ⟨filters, sorts, page, caseInsensitiveSource, ignorePredefinedOrders, nullIsString, source⟩ =>
    by
    have hfilters := mapM_ofDocument?_filtersToDocuments filters
    have hsorts := mapM_ofDocument?_sorts sorts
    have hpage := optional?_page_toDocument page
    rw [QueryOptions.toDocument, QueryOptions.uncounted, QueryOptions.ofDocument?_eq]
    cases source with
    | none =>
      rw [Document.fields?_record rfl]
      simp only [sourceTextEntry, List.append_nil, defaulted?_eq_elim, lookup_cons_eq_ite,
        String.reduceEq, reduceIte, List.lookup_nil, Option.bind_eq_bind, Option.bind_some,
        Option.elim_some, Option.elim_none, list?, bool?, hfilters, hsorts, hpage]
    | some text =>
      have hsource : optional? string? (.string text) = some (some text) := rfl
      rw [Document.fields?_record rfl]
      simp only [sourceTextEntry, List.cons_append, List.nil_append, defaulted?_eq_elim,
        lookup_cons_eq_ite, String.reduceEq, reduceIte, Option.bind_eq_bind, Option.bind_some,
        Option.elim_some, list?, bool?, hfilters, hsorts, hpage, hsource]

end

/-- The text of query options, read back: nothing is lost but the requests of pages, if the document
is not too deep to be parsed. -/
theorem QueryOptions.parse?_render_toDocument (options : QueryOptions)
    (hdepth : options.toDocument.depth ≤ Json.maxDepth) :
    (Json.parse? (Json.render options.toDocument)).bind ofDocument? = some options.uncounted := by
  rw [Json.parse?_render options.isPlain_toDocument hdepth, Option.bind_some,
    options.ofDocument?_toDocument]

/-- A literal that looks like a document, in a query nested in another. -/
def awkwardOptions : QueryOptions where
  filters := [⟨"Parts", .nested {
    filters := [⟨"Name", .literal "\x7b\"filters\": []\x7d", .equals, true, .xor⟩,
      ⟨"Name", .literal "null", .notEqual, false, .orElse⟩]
    page := some ⟨-9223372036854775808, 9223372036854775807, 18446744073709551615, true⟩
    sourceText := some "" }, .any, false, .andAlso⟩]
  sorts := [⟨"Name", .desc, true⟩]
  page := some ⟨0, 10, 0, true⟩
  ignorePredefinedOrders := true

/-- Both pages of these options ask for the data set count, and neither does when read back. -/
theorem QueryOptions.parse?_render_awkwardOptions :
    awkwardOptions.toDocument.depth ≤ Json.maxDepth ∧
      (Json.parse? (Json.render awkwardOptions.toDocument)).bind ofDocument? =
        some awkwardOptions.uncounted ∧
      awkwardOptions.uncounted ≠ awkwardOptions := by
  have hdepth : awkwardOptions.toDocument.depth ≤ Json.maxDepth := by decide
  refine ⟨hdepth, awkwardOptions.parse?_render_toDocument hdepth, ?_⟩
  intro h
  have hpage := congrArg QueryOptions.page h
  exact absurd hpage (by decide)

end RecordQuery

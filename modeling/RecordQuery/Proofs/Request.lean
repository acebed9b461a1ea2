import RecordQuery.Proofs.QueryText.Reading
import RecordQuery.Proofs.Text.Percent
import RecordQuery.Settings

/-!
# Ways of a query text

A query text can travel as the query string, in a header or in a parameter of the query string,
where it is encoded. Each way a resolver that knows of it finds the text as it was sent, so the
options of a request do not depend on the way.
-/

namespace RecordQuery

open Text QueryText

variable {query : String} {location : QueryLocation} {request : Request}

/-- The request has the query text in the place that the location names. -/
inductive Carries (query : String) : QueryLocation → Request → Prop
  | queryString {headers : List (String × String)} : Carries query .queryString ⟨query, headers⟩
  /-- No header before the one with the text has its name, in any case of the letters. -/
  | header {name key queryString : String} {before after : List (String × String)}
    (earlier : ∀ entry ∈ before, sameName entry.1 name = false) (named : sameName key name = true) :
    Carries query (.header name) ⟨queryString, before ++ (key, query) :: after⟩
  /-- Behind a question mark, if there is one, come pairs of other names, then the one with the
  text, then any pairs. -/
  | parameter {name queryString : String} {before after : List String}
    {headers : List (String × String)} (whole : ∀ pair ∈ before, '&' ∉ pair.toList)
    (earlier : ∀ pair ∈ before, Percent.decode (cut '=' pair).1 ≠ name)
    (pairs : body queryString = (join '&'
      (before ++ (Percent.encode name ++ "=" ++ Percent.encode query) :: after)).toList) :
    Carries query (.parameter name) ⟨queryString, headers⟩

namespace Request

/-- A pair of the query string, decoded. -/
def readPair (pair : String) : String × String :=
  (Percent.decode (cut '=' pair).1, Percent.decode ((cut '=' pair).2.getD ""))

theorem parameters_eq (request : Request) :
    request.parameters = (splitAll '&' (String.ofList (body request.query))).map readPair := by
  by_cases hmark : request.query.toList.head? = some '?'
  · obtain ⟨cs, hcs⟩ := List.head?_eq_some_iff.1 hmark
    rw [body_of_mark hcs, parameters, hcs]
    rfl
  · rw [body_of_head? hmark, String.ofList_toList]
    unfold parameters
    split
    · next h => exact absurd (congrArg List.head? h) hmark
    · rfl

/-- Encoding leaves none of the characters at which a query string is cut. -/
theorem readPair_encode (name value : String) :
    readPair (Percent.encode name ++ "=" ++ Percent.encode value) = (name, value) := by
  have hequals : '=' ∉ (Percent.encode name).toList :=
    Percent.notMem_encode (by decide) (by decide) name
  have hcut : cut '=' (Percent.encode name ++ "=" ++ Percent.encode value) =
      (Percent.encode name, some (Percent.encode value)) := cut_append hequals _
  rw [readPair, hcut, Option.getD_some, Percent.decode_encode, Percent.decode_encode]

theorem ampersand_notMem_encode (name value : String) :
    '&' ∉ (Percent.encode name ++ "=" ++ Percent.encode value).toList := by
  have hencoded (s : String) : '&' ∉ (Percent.encode s).toList :=
    Percent.notMem_encode (by decide) (by decide) s
  simp [hencoded]

theorem header?_of_carries {name : String} (h : Carries query (.header name) request) :
    request.header? name = some query := by
  cases h with
  | @header name key queryString before after earlier named =>
    have hbefore : before.find? (fun entry => sameName entry.1 name) = none := by
      rw [List.find?_eq_none]
      intro entry hentry
      rw [earlier entry hentry]
      exact Bool.false_ne_true
    rw [header?, Text.lookup, List.find?_append, hbefore, Option.none_or]
    exact congrArg (Option.map Prod.snd) (List.find?_cons_of_pos named)

theorem parameter?_of_carries {name : String} (h : Carries query (.parameter name) request) :
    request.parameter? name = some query := by
  cases h with
  | @parameter name queryString before after headers whole earlier pairs =>
    obtain ⟨rest, hsplit⟩ :=
      splitAll_join_append whole (ampersand_notMem_encode name query) after
    have hbefore : (before.map readPair).lookup name = none := by
      rw [List.lookup_eq_none_iff]
      intro entry hentry
      obtain ⟨pair, hpair, rfl⟩ := List.mem_map.1 hentry
      rw [bne_iff_ne, readPair]
      dsimp only
      exact (earlier pair hpair).symm
    rw [parameter?, parameters_eq, pairs, String.ofList_toList, hsplit, List.map_append,
      List.lookup_append, hbefore, Option.none_or, List.map_cons, readPair_encode]
    exact List.lookup_cons_self

end Request

/-- A resolver finds the text that was sent. -/
theorem Resolver.locate_of_carries (h : Carries query location request) :
    locate location request = query := by
  cases location with
  | queryString =>
    cases h
    rfl
  | header name => rw [locate, Request.header?_of_carries h, Option.getD_some]
  | parameter name => rw [locate, Request.parameter?_of_carries h, Option.getD_some]

namespace Settings

/-- The settings for texts that travel a given way, without a decoder. -/
def readingFrom (settings : Settings) (location : QueryLocation) : Settings :=
  { settings with resolver := { location } }

theorem readOptions_of_carries (settings : Settings) (h : Carries query location request) :
    (settings.readingFrom location).readOptions request = (do
      let options ← parse settings.codes query
      pure { options with
        caseInsensitiveSource := settings.caseInsensitiveSource
        ignorePredefinedOrders := settings.ignorePredefinedOrders
        nullIsString := settings.nullIsString }) := by
  have hresolve : (settings.readingFrom location).resolver.resolve request = query :=
    Resolver.locate_of_carries h
  rw [readOptions, hresolve]
  rfl

/-- Whichever way a query text travels, its request is prepared in the same way, and it is this text
that is read. -/
theorem prepare_eq_prepare (settings : Settings) {location' : QueryLocation} {request' : Request}
    (h : Carries query location request) (h' : Carries query location' request') :
    (settings.readingFrom location).prepare request =
        (settings.readingFrom location').prepare request' ∧
      (settings.readingFrom location).resolver.resolve request = query := by
  refine ⟨?_, Resolver.locate_of_carries h⟩
  rw [prepare, prepare, readOptions_of_carries settings h, readOptions_of_carries settings h']
  rfl

/-- A text with an escape and a plus sign, in the second header of two and in the second parameter
of four behind a mark. -/
theorem prepare_eq_prepare_escaped :
    Carries "?o=eq&p=name&v=A%26b+c" (.header "x-query")
        ⟨"", [("Accept", "*/*"), ("X-Query", "?o=eq&p=name&v=A%26b+c"), ("x-query", "s=name")]⟩ ∧
      Carries "?o=eq&p=name&v=A%26b+c" (.parameter "d q")
        ⟨"?dq=1&d%20q=%3Fo%3Deq%26p%3Dname%26v%3DA%2526b%2Bc&&d+q=s", []⟩ ∧
      (readingFrom {} (.header "x-query")).prepare
          ⟨"", [("Accept", "*/*"), ("X-Query", "?o=eq&p=name&v=A%26b+c"), ("x-query", "s=name")]⟩ =
        (readingFrom {} (.parameter "d q")).prepare
          ⟨"?dq=1&d%20q=%3Fo%3Deq%26p%3Dname%26v%3DA%2526b%2Bc&&d+q=s", []⟩ := by
  have hheader : Carries "?o=eq&p=name&v=A%26b+c" (.header "x-query")
      ⟨"", [("Accept", "*/*"), ("X-Query", "?o=eq&p=name&v=A%26b+c"), ("x-query", "s=name")]⟩ :=
    @Carries.header _ "x-query" "X-Query" "" [("Accept", "*/*")] [("x-query", "s=name")]
      (by decide) (by decide)
  have hparameter : Carries "?o=eq&p=name&v=A%26b+c" (.parameter "d q")
      ⟨"?dq=1&d%20q=%3Fo%3Deq%26p%3Dname%26v%3DA%2526b%2Bc&&d+q=s", []⟩ :=
    @Carries.parameter _ "d q" _ ["dq=1"] ["", "d+q=s"] [] (by decide) (by decide) (by decide)
  exact ⟨hheader, hparameter, (prepare_eq_prepare {} hheader hparameter).1⟩

end Settings

end RecordQuery

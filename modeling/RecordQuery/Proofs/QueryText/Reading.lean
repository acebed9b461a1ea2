import RecordQuery.Proofs.Outcome
import RecordQuery.Proofs.Text.Cut
import RecordQuery.QueryText.Parse

/-!
# Readings apart from their text

The text of a query is kept with the options and named in failures, and has no other bearing on what
its occurrences ask for: `outcome` leaves it out. The texts of nested queries stay.
-/

namespace RecordQuery

/-- A failure without the text of the query that it is of. -/
def QueryError.withoutQuery : QueryError → QueryError
  | .invalidQuery fault _ => .invalidQuery fault ""
  | .tripletMismatch operations properties values _ =>
    .tripletMismatch operations properties values ""
  | .operationNotSupported operation _ => .operationNotSupported operation ""
  | .pipeline _ cause => .pipeline "" cause
  | .compile error => .compile error
  | .maximumResultSetExceeded count maximum => .maximumResultSetExceeded count maximum
  | .config description => .config description
  | .source description => .source description

namespace QueryText

open Text

variable {codes : OpCodes}

/-- The options that were read, or the failure, whatever text they come from. -/
def outcome (read : Except QueryError QueryOptions) : Except QueryError QueryOptions :=
  (read.mapError QueryError.withoutQuery).map fun options => { options with sourceText := none }

/-- The options that the occurrences of a query ask for. -/
def interpret (codes : OpCodes) (query : String) (found : List Occurrence) :
    Except QueryError QueryOptions :=
  assemble codes query found ((rawValues found).map (RawValue.toArgument (parseText codes)))

theorem parseText_eq_interpret (codes : OpCodes) (query : String) (decoded : Bool) :
    parseText codes query decoded =
      if (trimChars (body query)).isEmpty then pure {}
      else interpret codes query (occurrences query decoded) :=
  parseText_eq codes query decoded

theorem parseText_of_mem_body {query : String} {c : Char} (hmem : c ∈ body query)
    (hc : isBlank c = false) (decoded : Bool) :
    parseText codes query decoded = interpret codes query (occurrences query decoded) := by
  have hblank : (trimChars (body query)).isEmpty = false := by
    rw [List.isEmpty_eq_false_iff, ne_eq, trimChars_eq_nil_iff]
    intro h
    rw [h c hmem] at hc
    cases hc
  rw [parseText_eq_interpret, hblank, if_neg Bool.false_ne_true]

/-- Where the counts agree, the parts are read in order. -/
theorem assemble_of_counts {query : String} {found : List Occurrence} {arguments : List Argument}
    (properties : (operationTokens found).length = (propertyTokens found).length)
    (values : (propertyTokens found).length = arguments.length) :
    assemble codes query found arguments = (do
      let filters ← ((operationTokens found).zip ((propertyTokens found).zip arguments)).mapM
        (readFilter codes query)
      let sorts ← ((sortTokens found).filter (· ≠ "")).mapM (readSort query)
      let page ← readPage query (offsetTokens found) (countTokens found)
      pure { filters, sorts, page, sourceText := some query }) := by
  have hcounts : ¬((operationTokens found).length ≠ (propertyTokens found).length ∨
      (propertyTokens found).length ≠ arguments.length) := by
    rw [not_or]
    exact ⟨not_not_intro properties, not_not_intro values⟩
  rw [assemble]
  dsimp only
  rw [if_neg hcounts]

theorem body_of_mark {query : String} {cs : List Char} (h : query.toList = '?' :: cs) :
    body query = cs := by
  rw [body, h]
  rfl

theorem body_of_head? {query : String} (h : query.toList.head? ≠ some '?') :
    body query = query.toList := by
  unfold body
  split
  · next hmark =>
    rw [hmark] at h
    exact absurd rfl h
  · rfl

theorem eq_append_body (query : String) : ∃ mark, query.toList = mark ++ body query := by
  unfold body
  split
  · next h => exact ⟨['?'], h⟩
  · exact ⟨[], rfl⟩

theorem mem_body {query : String} {c : Char} (hmark : c ≠ '?') (h : c ∈ query.toList) :
    c ∈ body query := by
  unfold body
  split
  · next hquery =>
    rw [hquery] at h
    exact List.mem_of_ne_of_mem hmark h
  · exact h

/-- Whether a mark stands in front does not depend on what stands further behind. -/
theorem body_append {query other : String} {front part tail rest : List Char} {c : Char}
    (hquery : query.toList = front ++ c :: tail) (hbody : body query = part ++ c :: tail)
    (hother : other.toList = front ++ c :: rest) : body other = part ++ c :: rest := by
  by_cases hmark : query.toList.head? = some '?'
  · obtain ⟨cs, hcs⟩ := List.head?_eq_some_iff.1 hmark
    rw [body_of_mark hcs] at hbody
    have hjoined : front ++ c :: tail = '?' :: part ++ c :: tail := by
      rw [← hquery, hcs, hbody, List.cons_append]
    rw [List.append_cancel_right hjoined] at hother
    exact body_of_mark hother
  · rw [body_of_head? hmark, hquery] at hbody
    have hfront : front = part := List.append_cancel_right hbody
    have hhead : other.toList.head? = query.toList.head? := by
      rw [hquery, hother]
      cases front <;> rfl
    rw [body_of_head? (hhead ▸ hmark), hother, hfront]

theorem occurrences_of_not_isFullyEncoded {query : String}
    (h : isFullyEncoded (body query) = false) (decoded : Bool) :
    occurrences query decoded = lex decoded (body query) := by
  rw [occurrences, decodedBody, h, Bool.and_false]
  rfl

/-- An equals sign in the text itself says that it is not encoded as a whole. -/
theorem parseText_of_equals (codes : OpCodes) {query : String} (h : '=' ∈ body query) :
    parseText codes query false = interpret codes query (lex false (body query)) := by
  have hencoded : isFullyEncoded (body query) = false := by
    rw [isFullyEncoded, List.contains_iff_mem.2 h]
    rfl
  rw [parseText_of_mem_body h (by decide), occurrences_of_not_isFullyEncoded hencoded]

section Parts

variable (codes) (query other : String)

theorem mapError_readOperation (token : String) :
    (readOperation codes query token).mapError QueryError.withoutQuery =
      (readOperation codes other token).mapError QueryError.withoutQuery := by
  unfold readOperation
  obtain ⟨name, suffix⟩ := cut '|' token
  cases suffix with
  | none =>
    dsimp only
    cases Operation.resolve? codes name <;> rfl
  | some text =>
    dsimp only
    cases Connective.ofName? text with
    | none => rfl
    | some connective =>
      dsimp only
      cases Operation.resolve? codes name <;> rfl

theorem mapError_readProperty (token : String) :
    (readProperty query token).mapError QueryError.withoutQuery =
      (readProperty other token).mapError QueryError.withoutQuery := by
  unfold readProperty
  rcases splitAll ',' token with _ | ⟨name, _ | ⟨modifier, _ | ⟨next, rest⟩⟩⟩
  · rfl
  · rfl
  · dsimp only
    cases isCaseSensitiveModifier modifier <;> rfl
  · rfl

theorem mapError_readValue (operation : Operation) (argument : Argument) :
    (readValue query operation argument).mapError QueryError.withoutQuery =
      (readValue other operation argument).mapError QueryError.withoutQuery := by
  cases argument with
  | literal text =>
    unfold readValue
    cases operation.isCollection <;> rfl
  | group literal nested => rfl
  | malformed fault => rfl

theorem mapError_readFilter (input : String × String × Argument) :
    (readFilter codes query input).mapError QueryError.withoutQuery =
      (readFilter codes other input).mapError QueryError.withoutQuery := by
  obtain ⟨operationToken, propertyToken, argument⟩ := input
  rw [readFilter, readFilter, mapError_bind, mapError_bind,
    mapError_readOperation codes query other]
  refine congrArg (_ >>= ·) (funext fun ⟨operation, connective⟩ => ?_)
  dsimp only
  rw [mapError_bind, mapError_bind, mapError_readProperty query other]
  refine congrArg (_ >>= ·) (funext fun ⟨property, caseSensitive⟩ => ?_)
  dsimp only
  rw [mapError_bind, mapError_bind, mapError_readValue query other]

theorem mapError_readSort (token : String) :
    (readSort query token).mapError QueryError.withoutQuery =
      (readSort other token).mapError QueryError.withoutQuery := by
  have hdirection (text : String) : (readDirection query text).mapError QueryError.withoutQuery =
      (readDirection other text).mapError QueryError.withoutQuery := by
    unfold readDirection
    cases Direction.ofName? text <;> rfl
  unfold readSort
  rcases splitAll ',' token with _ | ⟨name, _ | ⟨direction, _ | ⟨modifier, _ | ⟨next, rest⟩⟩⟩⟩
  · rfl
  · rfl
  · dsimp only
    rw [mapError_bind, mapError_bind, hdirection]
  · dsimp only
    rw [mapError_bind, mapError_bind, hdirection]
    refine congrArg (_ >>= ·) (funext fun direction => ?_)
    cases isCaseSensitiveModifier modifier <;> rfl
  · rfl

theorem mapError_readPage (offsets counts : List String) :
    (readPage query offsets counts).mapError QueryError.withoutQuery =
      (readPage other offsets counts).mapError QueryError.withoutQuery := by
  unfold readPage
  by_cases hlength : offsets.length ≠ counts.length
  · rw [if_pos hlength, if_pos hlength]
  · rw [if_neg hlength, if_neg hlength]
    rcases offsets with _ | ⟨offset, offsets⟩
    · rfl
    · rcases counts with _ | ⟨count, counts⟩
      · rfl
      · dsimp only
        cases readInt64? offset <;> cases readInt64? count <;> rfl

end Parts

theorem outcome_bind {α : Type} (read : Except QueryError α)
    (f : α → Except QueryError QueryOptions) :
    outcome (read >>= f) = read.mapError QueryError.withoutQuery >>= fun a => outcome (f a) := by
  cases read <;> rfl

/-- The text of a query has no bearing on the outcome. -/
theorem outcome_interpret (codes : OpCodes) (query other : String) (found : List Occurrence) :
    outcome (interpret codes query found) = outcome (interpret codes other found) := by
  unfold interpret assemble
  dsimp only
  split
  · rfl
  · simp only [outcome_bind, mapError_mapM, mapError_readFilter codes query other,
      mapError_readSort query other, mapError_readPage query other]
    rfl

end QueryText

end RecordQuery

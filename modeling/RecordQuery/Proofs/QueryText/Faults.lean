import RecordQuery.Proofs.QueryText.Reading

/-!
# Faults of a query text

A query whose operations, properties and values cannot be matched up fails for that reason, whatever
else is wrong with it. `faults` lists all that is wrong with the filters, the sort options and the
page of any other query, in the order in which they are read: the query fails by the first of its
faults, and is read if it has none. A nested query is a fault of the filter around it if it fails.
-/

namespace RecordQuery.QueryText

open Text

variable {codes : OpCodes} {query : String}

/-- What follows the bar is no connective. -/
def connectiveFaults (query token : String) : List QueryError :=
  match (cut '|' token).2 with
  | none => []
  | some text =>
    if (Connective.ofName? text).isSome then [] else [.invalidQuery (.connective text) query]

/-- What stands in front of the bar is no operation. -/
def operationFaults (codes : OpCodes) (query token : String) : List QueryError :=
  if (Operation.resolve? codes (cut '|' token).1).isSome then []
  else [.operationNotSupported (cut '|' token).1 query]

/-- Something other than one modifier `cs` follows the name. -/
def propertyFaults (query token : String) : List QueryError :=
  match splitAll ',' token with
  | [] => []
  | name :: modifiers =>
    if modifiers.length ≤ 1 ∧ modifiers.all isCaseSensitiveModifier then []
    else [.invalidQuery (.filterModifier name (join ',' modifiers)) query]

def valueFaults (codes : OpCodes) (query : String) (operation : Operation) :
    RawValue → List QueryError
  | .literal _ =>
    if operation.isCollection then [.invalidQuery (.literalForNested operation) query] else []
  | .group inner _ decoded =>
    if operation.isCollection then (failure? (parseText codes inner decoded)).toList else []
  | .malformed fault => [.invalidQuery (.group fault) query]

/-- The value is judged by the operation, if there is one. -/
def filterFaults (codes : OpCodes) (query : String) :
    String × String × RawValue → List QueryError
  | (operation, property, raw) =>
    connectiveFaults query operation ++ operationFaults codes query operation ++
      (propertyFaults query property ++
        (Operation.resolve? codes (cut '|' operation).1).elim []
          (valueFaults codes query · raw))

def directionFaults (query text : String) : List QueryError :=
  if (Direction.ofName? text).isSome then [] else [.invalidQuery (.direction text) query]

def sortFaults (query token : String) : List QueryError :=
  match splitAll ',' token with
  | [_] => []
  | [_, direction] => directionFaults query direction
  | [property, direction, modifier] =>
    directionFaults query direction ++
      if isCaseSensitiveModifier modifier then []
      else [.invalidQuery (.sortModifier property modifier) query]
  | _ => [.invalidQuery (.sortParts token) query]

/-- There are as many offsets as counts, and the first of each are not both numbers. -/
def pageFaults (query : String) (offsets counts : List String) : List QueryError :=
  if offsets.length = counts.length ∧
      (offsets.take 1 ++ counts.take 1).any fun token => (readInt64? token).isNone then
    [.invalidQuery .page query]
  else []

/-- All that is wrong with the filters, then with the sort options, then with the page. -/
def faults (codes : OpCodes) (query : String) (found : List Occurrence) : List QueryError :=
  ((operationTokens found).zip ((propertyTokens found).zip (rawValues found))).flatMap
      (filterFaults codes query) ++
    (((sortTokens found).filter (· ≠ "")).flatMap (sortFaults query) ++
      pageFaults query (offsetTokens found) (countTokens found))

/-- What follows the bar of an operation, if there is a bar. -/
def readConnective (query : String) : Option String → Except QueryError Connective
  | none => pure .andAlso
  | some text =>
    match Connective.ofName? text with
    | some connective => pure connective
    | none => throw (.invalidQuery (.connective text) query)

def readName (codes : OpCodes) (query name : String) : Except QueryError Operation :=
  match Operation.resolve? codes name with
  | some operation => pure operation
  | none => throw (.operationNotSupported name query)

theorem readOperation_eq (codes : OpCodes) (query token : String) :
    readOperation codes query token = (do
      let connective ← readConnective query (cut '|' token).2
      let operation ← readName codes query (cut '|' token).1
      pure (operation, connective)) := by
  unfold readOperation readConnective readName
  obtain ⟨name, suffix⟩ := cut '|' token
  cases suffix with
  | none =>
    dsimp only
    cases Operation.resolve? codes name <;> rfl
  | some text =>
    dsimp only
    cases Connective.ofName? text with
    | none => rfl
    | some connective =>
      dsimp only
      cases Operation.resolve? codes name <;> rfl

theorem resolve?_of_readName {name : String} {operation : Operation}
    (h : readName codes query name = .ok operation) :
    Operation.resolve? codes name = some operation := by
  unfold readName at h
  split at h
  · next found hfound => rw [hfound, Except.ok.inj h]
  · cases h

theorem resolve?_of_readOperation {token : String} {operation : Operation} {connective : Connective}
    (h : readOperation codes query token = .ok (operation, connective)) :
    Operation.resolve? codes (cut '|' token).1 = some operation := by
  rw [readOperation_eq] at h
  obtain ⟨_, -, h⟩ := bind_eq_ok_iff.1 h
  obtain ⟨found, hfound, h⟩ := bind_eq_ok_iff.1 h
  rw [resolve?_of_readName hfound, (Prod.mk.inj (Except.ok.inj h)).1]

theorem failure?_readOperation (token : String) :
    failure? (readOperation codes query token) =
      (connectiveFaults query token ++ operationFaults codes query token).head? := by
  rw [readOperation_eq]
  apply failure?_bind
  · unfold readConnective connectiveFaults
    cases (cut '|' token).2 with
    | none => rfl
    | some text =>
      dsimp only
      cases Connective.ofName? text <;> rfl
  · intro connective _
    unfold readName operationFaults
    cases Operation.resolve? codes (cut '|' token).1 <;> rfl

theorem failure?_readProperty (token : String) :
    failure? (readProperty query token) = (propertyFaults query token).head? := by
  unfold readProperty propertyFaults
  rcases splitAll ',' token with _ | ⟨name, _ | ⟨modifier, _ | ⟨next, rest⟩⟩⟩
  · rfl
  · rfl
  · have hjoin : join ',' [modifier] = modifier := String.toList_injective (by simp)
    have hmodifier : ([modifier].length ≤ 1 ∧ [modifier].all isCaseSensitiveModifier) ↔
        isCaseSensitiveModifier modifier = true := by simp
    simp only [hjoin, hmodifier]
    cases isCaseSensitiveModifier modifier <;> rfl
  · rfl

theorem failure?_readValue (operation : Operation) (raw : RawValue) :
    failure? (readValue query operation (raw.toArgument (parseText codes))) =
      (valueFaults codes query operation raw).head? := by
  cases raw with
  | literal text =>
    unfold valueFaults RawValue.toArgument readValue
    cases operation.isCollection <;> rfl
  | group inner literal decoded =>
    unfold valueFaults RawValue.toArgument readValue
    dsimp only
    cases operation.isCollection with
    | true => rw [if_pos rfl, if_pos rfl, failure?_map, Option.head?_toList]
    | false => rfl
  | malformed fault => rfl

theorem failure?_readFilter (operation property : String) (raw : RawValue) :
    failure? (readFilter codes query (operation, property, raw.toArgument (parseText codes))) =
      (filterFaults codes query (operation, property, raw)).head? := by
  refine failure?_bind (failure?_readOperation operation) fun ⟨op, connective⟩ hop => ?_
  refine failure?_bind (failure?_readProperty property) fun ⟨name, caseSensitive⟩ _ => ?_
  -- the value is read for the operation that was found, so its faults are listed for that one
  rw [resolve?_of_readOperation hop, Option.elim_some, ← failure?_readValue]
  exact failure?_map _ _

theorem failure?_readDirection (text : String) :
    failure? (readDirection query text) = (directionFaults query text).head? := by
  unfold readDirection directionFaults
  cases Direction.ofName? text <;> rfl

theorem failure?_readSort (token : String) :
    failure? (readSort query token) = (sortFaults query token).head? := by
  unfold readSort sortFaults
  rcases splitAll ',' token with _ | ⟨name, _ | ⟨direction, _ | ⟨modifier, _ | ⟨next, rest⟩⟩⟩⟩
  · rfl
  · rfl
  · dsimp only
    rw [← failure?_readDirection]
    exact failure?_map _ _
  · refine failure?_bind (failure?_readDirection direction) fun _ _ => ?_
    cases isCaseSensitiveModifier modifier <;> rfl
  · rfl

theorem failure?_readPage (offsets counts : List String) :
    failure? (readPage query offsets counts) = (pageFaults query offsets counts).head? := by
  unfold readPage pageFaults
  by_cases hlength : offsets.length = counts.length
  · rw [if_neg (not_not_intro hlength)]
    rcases offsets with _ | ⟨offset, offsets⟩
    · obtain rfl := List.length_eq_zero_iff.1 hlength.symm
      rfl
    rcases counts with _ | ⟨count, counts⟩
    · cases hlength
    · simp only [hlength, List.take_succ_cons, List.take_zero, List.cons_append, List.nil_append,
        List.any_cons, List.any_nil, Bool.or_false, true_and]
      cases readInt64? offset <;> cases readInt64? count <;> rfl
  · rw [if_pos hlength, if_neg (mt And.left hlength)]
    rfl

/-- There are as many operations as properties, and as many properties as values. -/
def MatchedUp (found : List Occurrence) : Prop :=
  (operationTokens found).length = (propertyTokens found).length ∧
    (propertyTokens found).length = (rawValues found).length

instance (found : List Occurrence) : Decidable (MatchedUp found) :=
  inferInstanceAs (Decidable (_ ∧ _))

theorem interpret_of_not_matchedUp {found : List Occurrence} (h : ¬ MatchedUp found) :
    interpret codes query found = .error (.tripletMismatch (operationTokens found).length
      (propertyTokens found).length (rawValues found).length query) := by
  rw [interpret, assemble, List.length_map]
  dsimp only
  rw [if_pos (not_and_or.1 h)]
  rfl

theorem failure?_interpret {found : List Occurrence} (h : MatchedUp found) :
    failure? (interpret codes query found) = (faults codes query found).head? := by
  rw [interpret, assemble_of_counts h.1 (by rw [h.2, List.length_map]), List.zip_map_right,
    List.zip_map_right, List.mapM_map]
  refine failure?_bind (failure?_mapM ?_ _) fun filters _ => ?_
  · rintro ⟨operation, property, raw⟩
    exact failure?_readFilter operation property raw
  refine failure?_bind (failure?_mapM failure?_readSort _) fun sorts _ => ?_
  rw [← failure?_readPage]
  exact failure?_map _ _

/-- Where the tokens of a query do not match up, it fails with their numbers; otherwise it fails by
the first of its faults. -/
theorem parse_eq_error_iff (codes : OpCodes) {query : String}
    (text : ∃ c ∈ body query, isBlank c = false) :
    (¬ MatchedUp (occurrences query false) →
      parse codes query = .error (.tripletMismatch
        (operationTokens (occurrences query false)).length
        (propertyTokens (occurrences query false)).length
        (rawValues (occurrences query false)).length query)) ∧
    (MatchedUp (occurrences query false) → ∀ e, parse codes query = .error e ↔
      (faults codes query (occurrences query false)).head? = some e) := by
  obtain ⟨c, hmem, hc⟩ := text
  rw [parse, parseText_of_mem_body hmem hc]
  refine ⟨interpret_of_not_matchedUp, ?_⟩
  intro matched e
  rw [← failure?_interpret matched, failure?_eq_some_iff]

/-- Two properties to one operation, which is unknown; a modifier is unknown and a group is open. -/
def unmatched : String := "?o=zz|maybe&p=name&p=age,xs&v=(a&s=name,up"

/-- The nested query has an unknown operation. The filter behind it has an unknown connective too, the
sort option an unknown direction, and the count is no number. -/
def faulty : String :=
  "o=any&p=scores&v=(o=zz&p=_&v=1)&o=yy|maybe&p=age,xs&v=1&s=name,up&offset=1&count=x"

theorem parse_unmatched_faulty :
    parse {} unmatched = .error (.tripletMismatch 1 2 1 unmatched) ∧
      parse {} faulty = .error (.operationNotSupported "zz" "o=zz&p=_&v=1") := by
  have hunmatched : occurrences unmatched false =
      [.operation "zz|maybe", .property "name", .property "age,xs",
        .value (.malformed .unbalanced)] := by
    decide +kernel
  have hfaulty : occurrences faulty false = [.operation "any", .property "scores",
      .value (.group "o=zz&p=_&v=1" "(o=zz&p=_&v=1)" false), .operation "yy|maybe",
      .property "age,xs", .value (.literal "1"), .sort "name,up", .offset "1", .count "x"] := by
    decide +kernel
  constructor
  · have fails := (@parse_eq_error_iff {} unmatched ⟨'o', by decide, by decide⟩).1
    rw [hunmatched] at fails
    exact fails (by decide)
  · have first := (@parse_eq_error_iff {} faulty ⟨'o', by decide, by decide⟩).2
    rw [hfaulty] at first
    refine (first ⟨rfl, rfl⟩ _).2 ?_
    decide +kernel

end RecordQuery.QueryText

import RecordQuery.Proofs.Alike
import RecordQuery.Proofs.Caseless.Options
import RecordQuery.Proofs.Text.Ascii
import RecordQuery.QueryText.Parse

/-!
# Parts of a query in any case

Operations, connectives, directions and modifiers are named in any case, and properties keep theirs.
So parts that differ in case only ask for the same, up to the case of names, or fail for the same
kind of reason.
-/

namespace RecordQuery

open Text

/-- No two codes are equal up to ASCII case. -/
def OpCodes.Distinct (codes : OpCodes) : Prop :=
  codes.Pairwise fun entry other => sameName entry.1 other.1 = false

instance (codes : OpCodes) : Decidable codes.Distinct :=
  inferInstanceAs (Decidable (codes.Pairwise fun entry other => sameName entry.1 other.1 = false))

theorem OpCodes.distinct_builtin : OpCodes.Distinct builtin := by decide

/-- Where codes are distinct, a code as written is the only one in any case. -/
theorem OpCodes.find?_eq_lookup {codes : OpCodes} (h : codes.Distinct) (token : String) :
    codes.find? token = Text.lookup codes token := by
  rw [OpCodes.find?]
  cases hexact : codes.lookup token with
  | none => rfl
  | some op =>
    obtain ⟨before, after, hcodes, -⟩ := List.lookup_eq_some_iff.1 hexact
    have hbefore : before.find? (fun entry => sameName entry.1 token) = none := by
      rw [List.find?_eq_none]
      intro entry hentry
      rw [hcodes, OpCodes.Distinct, List.pairwise_append] at h
      simp [h.2.2 entry hentry (token, op) List.mem_cons_self]
    rw [Option.some_or, Text.lookup, hcodes, List.find?_append, hbefore]
    simp

variable {token other : String} (h : token.toLower = other.toLower)

include h

theorem OpCodes.find?_congr {codes : OpCodes} (distinct : codes.Distinct) :
    codes.find? token = codes.find? other := by
  rw [find?_eq_lookup distinct, find?_eq_lookup distinct, Text.lookup, Text.lookup]
  simp only [sameName_congr_right h]

theorem Operation.resolve?_congr {codes : OpCodes} (distinct : codes.Distinct) :
    Operation.resolve? codes token = Operation.resolve? codes other := by
  have hempty : token.isEmpty = other.isEmpty := by
    rw [Bool.eq_iff_iff, String.isEmpty_iff, String.isEmpty_iff, ← toLower_eq_empty_iff, h,
      toLower_eq_empty_iff]
  have hname : ofName? token = ofName? other := by
    simp only [ofName?, sameName_congr_right h]
  rw [resolve?, resolve?, hempty, hname, OpCodes.find?_congr h distinct,
    OpCodes.find?_congr h OpCodes.distinct_builtin]

namespace QueryText

omit h in
theorem cut_congr (sep : Char) (hsep : sep.isAlpha = false) {token other : String}
    (h : token.toLower = other.toLower) :
    (cut sep token).1.toLower = (cut sep other).1.toLower ∧
      (cut sep token).2.map String.toLower = (cut sep other).2.map String.toLower := by
  have hcut := cut_toLower hsep token
  rw [h, cut_toLower hsep] at hcut
  exact ⟨(congrArg Prod.fst hcut).symm, (congrArg Prod.snd hcut).symm⟩

omit h in
theorem splitAll_congr (sep : Char) (hsep : sep.isAlpha = false) {token other : String}
    (h : token.toLower = other.toLower) :
    (splitAll sep token).map String.toLower = (splitAll sep other).map String.toLower := by
  rw [← splitAll_toLower hsep, h, splitAll_toLower hsep]

variable (query otherQuery : String)

theorem alike_readOperation {codes : OpCodes} (distinct : codes.Distinct) :
    Alike QueryError.kind
      (fun found found' => found = found' ∧
        Operation.resolve? codes (cut '|' token).1 = some found.1)
      (readOperation codes query token) (readOperation codes otherQuery other) := by
  obtain ⟨hname, hsuffix⟩ := cut_congr '|' (by decide) h
  unfold readOperation
  generalize cut '|' token = part at hname hsuffix ⊢
  generalize cut '|' other = part' at hname hsuffix ⊢
  obtain ⟨name, suffix⟩ := part
  obtain ⟨name', suffix'⟩ := part'
  have hresolve := Operation.resolve?_congr hname distinct
  cases suffix with
  | none =>
    obtain rfl : suffix' = none := Option.map_eq_none_iff.1 hsuffix.symm
    dsimp only
    rw [← hresolve]
    cases Operation.resolve? codes name with
    | none => exact .error rfl
    | some operation => exact .ok ⟨rfl, rfl⟩
  | some text =>
    obtain ⟨text', rfl, htext⟩ := Option.map_eq_some_iff.1 hsuffix.symm
    have hconnective : Connective.ofName? text = Connective.ofName? text' := by
      simp only [Connective.ofName?, sameName_congr_right htext.symm]
    dsimp only
    rw [hconnective, ← hresolve]
    cases Connective.ofName? text' with
    | none => exact .error rfl
    | some connective =>
      cases Operation.resolve? codes name with
      | none => exact .error rfl
      | some operation => exact .ok ⟨rfl, rfl⟩

theorem alike_readProperty :
    Alike QueryError.kind (fun p p' => p.1.toLower = p'.1.toLower ∧ p.2 = p'.2)
      (readProperty query token) (readProperty otherQuery other) := by
  have hparts := splitAll_congr ',' (by decide) h
  unfold readProperty
  generalize splitAll ',' token = parts at hparts
  generalize splitAll ',' other = parts' at hparts
  rcases parts with _ | ⟨name, _ | ⟨modifier, _ | ⟨next, rest⟩⟩⟩ <;>
    rcases parts' with _ | ⟨name', _ | ⟨modifier', _ | ⟨next', rest'⟩⟩⟩ <;>
    simp only [List.map_nil, List.map_cons, List.cons.injEq, reduceCtorEq, and_false]
      at hparts
  · exact .ok ⟨h, rfl⟩
  · exact .ok ⟨hparts.1, rfl⟩
  · have hmodifier : isCaseSensitiveModifier modifier = isCaseSensitiveModifier modifier' :=
      sameName_congr_left hparts.2.1 "cs"
    dsimp only
    rw [hmodifier]
    exact .ite (fun _ => .ok ⟨hparts.1, rfl⟩) fun _ => .error rfl
  · exact .error rfl

theorem alike_readDirection :
    Alike QueryError.kind Eq (readDirection query token) (readDirection otherQuery other) := by
  have hdirection : Direction.ofName? token = Direction.ofName? other := by
    rw [Direction.ofName?, Direction.ofName?, sameName_congr_left h, sameName_congr_left h]
  unfold readDirection
  rw [hdirection]
  cases Direction.ofName? other with
  | none => exact .error rfl
  | some direction => exact .ok rfl

theorem alike_readSort :
    Alike QueryError.kind (fun sort sort' => sort.caseless = sort'.caseless)
      (readSort query token) (readSort otherQuery other) := by
  have hparts := splitAll_congr ',' (by decide) h
  unfold readSort
  generalize splitAll ',' token = parts at hparts
  generalize splitAll ',' other = parts' at hparts
  rcases parts with _ | ⟨name, _ | ⟨direction, _ | ⟨modifier, _ | ⟨next, rest⟩⟩⟩⟩ <;>
    rcases parts' with _ | ⟨name', _ | ⟨direction', _ | ⟨modifier', _ | ⟨next', rest'⟩⟩⟩⟩ <;>
    simp only [List.map_nil, List.map_cons, List.cons.injEq, reduceCtorEq, and_false]
      at hparts
  · exact .error rfl
  · refine .ok ?_
    simp only [SortOption.caseless, hparts.1]
  · refine (alike_readDirection hparts.2.1 query otherQuery).bind ?_
    rintro direction _ rfl
    refine .ok ?_
    simp only [SortOption.caseless, hparts.1]
  · have hmodifier : isCaseSensitiveModifier modifier = isCaseSensitiveModifier modifier' :=
      sameName_congr_left hparts.2.2.1 "cs"
    refine (alike_readDirection hparts.2.1 query otherQuery).bind ?_
    rintro direction _ rfl
    rw [hmodifier]
    refine .ite (fun _ => .ok ?_) fun _ => .error rfl
    simp only [SortOption.caseless, hparts.1]
  · exact .error rfl

omit h in
theorem alike_readPage {offsets offsets' counts counts' : List String}
    (hoffsets : offsets.map String.toLower = offsets'.map String.toLower)
    (hcounts : counts.map String.toLower = counts'.map String.toLower) :
    Alike QueryError.kind Eq (readPage query offsets counts)
      (readPage otherQuery offsets' counts') := by
  have hread {token other : String} (h : token.toLower = other.toLower) :
      readInt64? token = readInt64? other := by
    rw [← readInt64?_toLower, h, readInt64?_toLower]
  have hlengths : offsets.length = offsets'.length ∧ counts.length = counts'.length := by
    have hoffsetLengths := congrArg List.length hoffsets
    have hcountLengths := congrArg List.length hcounts
    simpa using And.intro hoffsetLengths hcountLengths
  unfold readPage
  rw [hlengths.1, hlengths.2]
  refine .ite (fun _ => .ok rfl) fun _ => ?_
  rcases offsets with _ | ⟨offset, offsets⟩ <;> rcases offsets' with _ | ⟨offset', offsets'⟩ <;>
    simp only [List.map_nil, List.map_cons, List.cons.injEq, reduceCtorEq] at hoffsets
  · exact .ok rfl
  rcases counts with _ | ⟨count, counts⟩ <;> rcases counts' with _ | ⟨count', counts'⟩ <;>
    simp only [List.map_nil, List.map_cons, List.cons.injEq, reduceCtorEq] at hcounts
  · exact .ok rfl
  dsimp only
  rw [hread hoffsets.1, hread hcounts.1]
  cases readInt64? offset' with
  | none => exact .error rfl
  | some n =>
    cases readInt64? count' with
    | none => exact .error rfl
    | some m => exact .ok rfl

omit h

/-- The operation of a token takes a query for its value. -/
def takesQuery (codes : OpCodes) (token : String) : Bool :=
  (Operation.resolve? codes (cut '|' token).1).any Operation.isCollection

/-- Readings that differ at most in the case of names, or in what a failure quotes. -/
abbrev AlikeReadings : Except QueryError QueryOptions → Except QueryError QueryOptions → Prop :=
  Alike QueryError.kind fun options others => options.caseless = others.caseless

/-- Values of one operation are the same, or alike if they are to be read as queries. -/
inductive ArgumentsAlike (codes : OpCodes) (token : String) : Argument → Argument → Prop
  | same (argument : Argument) : ArgumentsAlike codes token argument argument
  | group {literal literal' : String} {nested nested' : Except QueryError QueryOptions}
    (takes : takesQuery codes token = true) (h : AlikeReadings nested nested') :
    ArgumentsAlike codes token (.group literal nested) (.group literal' nested')

theorem ArgumentsAlike.readValue {codes : OpCodes} {token : String} {argument argument' : Argument}
    {operation : Operation} (h : ArgumentsAlike codes token argument argument')
    (hoperation : Operation.resolve? codes (cut '|' token).1 = some operation) :
    Alike QueryError.kind (fun value value' => value.caseless = value'.caseless)
      (readValue query operation argument) (readValue otherQuery operation argument') := by
  have hnested {nested nested' : Except QueryError QueryOptions}
      (h : AlikeReadings nested nested') :
      Alike QueryError.kind (fun value value' => value.caseless = value'.caseless)
        (FilterValue.nested <$> nested) (FilterValue.nested <$> nested') := by
    cases h with
    | ok h => exact .ok (by rw [FilterValue.caseless, FilterValue.caseless, h])
    | error h => exact .error h
  cases h with
  | same =>
    cases argument with
    | literal text => exact .ite (fun _ => .error rfl) fun _ => .ok rfl
    | group literal nested =>
      have hself : AlikeReadings nested nested := by
        refine Alike.refl ?_ nested
        intro options
        rfl
      exact .ite (fun _ => hnested hself) fun _ => .ok rfl
    | malformed fault => exact .error rfl
  | group takes h =>
    have hcollection : operation.isCollection = true := by
      simpa [takesQuery, hoperation] using takes
    rw [QueryText.readValue, QueryText.readValue, if_pos hcollection, if_pos hcollection]
    exact hnested h

/-- The parts of filters that are alike. -/
def PartsAlike (codes : OpCodes) (input input' : String × String × Argument) : Prop :=
  input.1.toLower = input'.1.toLower ∧ input.2.1.toLower = input'.2.1.toLower ∧
    ArgumentsAlike codes input.1 input.2.2 input'.2.2

theorem PartsAlike.readFilter {codes : OpCodes} (distinct : codes.Distinct)
    {input input' : String × String × Argument} (h : PartsAlike codes input input') :
    Alike QueryError.kind
      (fun filter filter' => FilterOf.caseless filter = FilterOf.caseless filter')
      (readFilter codes query input) (readFilter codes otherQuery input') := by
  obtain ⟨operationToken, propertyToken, argument⟩ := input
  obtain ⟨operationToken', propertyToken', argument'⟩ := input'
  obtain ⟨hoperation, hproperty, hargument⟩ := h
  refine (alike_readOperation hoperation query otherQuery distinct).bind ?_
  rintro ⟨operation, connective⟩ _ ⟨rfl, hresolve⟩
  refine (alike_readProperty hproperty query otherQuery).bind ?_
  rintro ⟨property, caseSensitive⟩ ⟨property', _⟩ ⟨hname, rfl⟩
  refine (hargument.readValue query otherQuery hresolve).bind ?_
  intro value value' hvalue
  refine .ok ?_
  dsimp only at hname
  rw [FilterOf.caseless, FilterOf.caseless, hname, hvalue]

end QueryText

end RecordQuery

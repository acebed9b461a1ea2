import RecordQuery.Predicate.Compile
import RecordQuery.Proofs.Conformance

/-!
# Typing of predicates

A predicate is typed if its paths lead through the declared types and its constants, texts and
quantifiers are of the kinds that the paths end in. Filters compile to typed predicates only, and a
typed predicate on a value of its type reads, at every node, what the node can test or nothing: a
comparison fails for lack of a value or for NaN, never for a value of another kind.
-/

namespace RecordQuery

variable {schema : Schema} {root : FieldType} {rules : TextRules}

theorem FieldType.kind_of_element? {type element : FieldType} (h : type.element? = some element) :
    type.kind = .list := by
  rw [← kind_present]
  unfold element? at h
  split at h
  · next hlist => rw [hlist, kind]
  · cases h

theorem FieldType.kind_of_isString {type : FieldType} (h : type.isString = true) :
    type.kind = .string := by
  rw [← kind_present, beq_iff_eq.1 h, kind]

namespace Constant

def kind (constant : Constant) : Kind := constant.toValue.kind

@[simp] theorem kind_folded (fold : Bool) (constant : Constant) :
    (constant.folded fold).kind = constant.kind := by
  cases constant <;> rfl

theorem kind_scalar (constant : Constant) : constant.kind ≠ .record ∧ constant.kind ≠ .list := by
  cases constant <;> exact ⟨nofun, nofun⟩

theorem kind_of_ofLiteral? {type : FieldType} {literal : String} {constant : Constant}
    (h : ofLiteral? type literal = some constant) : constant.kind = type.kind := by
  unfold ofLiteral? at h
  cases type with
  | string =>
    obtain rfl := Option.some.inj h
    rfl
  | int | uint | float | bool | timestamp | enum =>
    obtain ⟨_, _, rfl⟩ := Option.map_eq_some_iff.1 h
    rfl
  | record | list | optional => cases h

theorem kind_of_coerce {nullIsString : Bool} {type : FieldType} {property literal : String}
    {constant : Constant} (h : coerce nullIsString type property literal = .ok constant) :
    constant = .null ∨ constant.kind = type.kind := by
  unfold coerce at h
  split at h
  · split at h
    · exact .inl (Except.ok.inj h).symm
    · cases h
  · split at h
    · next hliteral =>
      obtain rfl := Except.ok.inj h
      rw [← FieldType.kind_present]
      exact .inr (kind_of_ofLiteral? hliteral)
    · cases h

theorem folded_eq_null {fold : Bool} {constant : Constant} :
    constant.folded fold = .null ↔ constant = .null := by
  cases constant <;> simp [folded]

theorem fits_folded_of_coerce {nullIsString : Bool} {type : FieldType} {property literal : String}
    {constant : Constant} (fold : Bool)
    (h : coerce nullIsString type property literal = .ok constant) :
    constant.folded fold = .null ∨ (constant.folded fold).kind = type.kind := by
  rw [folded_eq_null, kind_folded]
  exact kind_of_coerce h

end Constant

namespace Predicate

inductive Typed (schema : Schema) : FieldType → Predicate → Prop
  | comparison {root : FieldType} {member : MemberPath} {op : Comparison} {constant : Constant}
    {fold : Bool} (path : member.From schema root)
    (fits : constant = .null ∨ constant.kind = member.type.kind) :
    Typed schema root (.comparison member op constant fold)
  | textTest {root : FieldType} {member : MemberPath} {test : TextTest} {argument : String}
    {fold : Bool} (path : member.From schema root) (fits : member.type.kind = .string) :
    Typed schema root (.textTest member test argument fold)
  | quantified {root element : FieldType} {member : MemberPath} {quantifier : Quantifier}
    {body : Predicate} (path : member.From schema root)
    (fits : member.type.element? = some element) (typed : Typed schema element body) :
    Typed schema root (.quantified member quantifier body)
  | binary {root : FieldType} {op : Connective} {left right : Predicate}
    (typedLeft : Typed schema root left) (typedRight : Typed schema root right) :
    Typed schema root (.binary op left right)
  | not {root : FieldType} {body : Predicate} (typed : Typed schema root body) :
    Typed schema root (.not body)

end Predicate

theorem typed_of_compileComparison {member : MemberPath} {property literal : String} {fold : Bool}
    {op : Comparison} {predicate : Predicate} (path : member.From schema root)
    (h : compileComparison rules member property fold op literal = .ok predicate) :
    predicate.Typed schema root := by
  obtain ⟨constant, hconstant, h⟩ := bind_eq_ok_iff.1 h
  obtain rfl := Except.ok.inj h
  exact .comparison path (Constant.fits_folded_of_coerce fold hconstant)

theorem typed_of_compileMembership {member : MemberPath} {property literal : String} {fold : Bool}
    {predicate : Predicate} (path : member.From schema root)
    (h : compileMembership rules member property fold literal = .ok predicate) :
    predicate.Typed schema root := by
  unfold compileMembership at h
  dsimp only at h
  split at h
  · exact typed_of_compileComparison path h
  · obtain ⟨first, hfirst, h⟩ := bind_eq_ok_iff.1 h
    refine foldlM_induction h (typed_of_compileComparison path hfirst) ?_
    intro part _ group next hgroup hnext
    obtain ⟨equals, hequals, hnext⟩ := bind_eq_ok_iff.1 hnext
    obtain rfl := Except.ok.inj hnext
    exact .binary hgroup (typed_of_compileComparison path hequals)

theorem typed_excluding {member : MemberPath} {group : Predicate} (path : member.From schema root)
    (h : group.Typed schema root) : (excluding member group).Typed schema root := by
  unfold excluding
  split
  · exact .binary (.comparison path (.inl rfl)) (.not h)
  · exact .not h

theorem typed_of_compileScalar {member : MemberPath} {property literal : String}
    {operation : Operation} {caseSensitive : Bool} {predicate : Predicate}
    (path : member.From schema root)
    (h : compileScalar rules member property operation caseSensitive literal = .ok predicate) :
    predicate.Typed schema root := by
  unfold compileScalar at h
  dsimp only at h
  split at h
  · cases h
  split at h
  · exact typed_of_compileMembership path h
  split at h
  · obtain ⟨group, hgroup, rfl⟩ := map_eq_ok_iff.1 h
    exact typed_excluding path (typed_of_compileMembership path hgroup)
  split at h
  · split at h
    · next hstring =>
      obtain rfl := Except.ok.inj h
      exact .textTest path (FieldType.kind_of_isString hstring)
    · cases h
  · split at h
    · cases h
    · exact typed_of_compileComparison path h
  · cases h

/-- A filter that compiles tests one value with a literal, or the items of a list with the first
filter of a query. -/
theorem Filter.compile_eq_ok {filter : Filter} {predicate : Predicate}
    (h : Filter.compile schema rules root filter = .ok predicate) :
    ∃ member, MemberPath.resolve schema root filter.property = .ok member ∧
      ((∃ literal, filter.value = .literal literal ∧ filter.operation.isCollection = false ∧
          compileScalar rules member filter.property filter.operation filter.caseSensitive literal =
            .ok predicate) ∨
        ∃ (query : QueryOptions) (first : Filter) (rest : List Filter) (element : FieldType)
          (body : Predicate), filter.value = .nested query ∧
          query.filters = first :: rest ∧ filter.operation.isCollection = true ∧
          member.type.element? = some element ∧
          Filter.compile schema rules element first = .ok body ∧
          predicate = .quantified member filter.operation.quantifier body) := by
  obtain ⟨property, value, operation, caseSensitive, connective⟩ := filter
  rw [Filter.compile] at h
  obtain ⟨member, hmember, h⟩ := bind_eq_ok_iff.1 h
  refine ⟨member, hmember, ?_⟩
  split at h
  · next hcollection =>
    right
    split at h
    · cases h
    · next element helement =>
      rcases value with _ | ⟨_ | ⟨first, rest⟩, _⟩
      · cases h
      · cases h
      · obtain ⟨body, hbody, h⟩ := bind_eq_ok_iff.1 h
        exact ⟨_, first, rest, element, body, rfl, rfl, hcollection, helement, hbody,
          (Except.ok.inj h).symm⟩
  · next hcollection =>
    left
    cases value with
    | literal literal => exact ⟨literal, rfl, Bool.eq_false_iff.2 hcollection, h⟩
    | nested => cases h

theorem Filter.typed_of_compile {filter : Filter} {predicate : Predicate}
    (h : Filter.compile schema rules root filter = .ok predicate) :
    predicate.Typed schema root := by
  induction root, filter using Filter.compile.induct generalizing predicate with
  | case1 root property value operation caseSensitive connective ih =>
    obtain ⟨member, hmember, h⟩ := Filter.compile_eq_ok h
    have path := MemberPath.from_of_resolve hmember
    rcases h with ⟨literal, -, -, hscalar⟩ |
      ⟨query, first, rest, element, body, hvalue, hfilters, -, helement, hbody, rfl⟩
    · exact typed_of_compileScalar path hscalar
    · obtain ⟨filters, _, _, _, _, _, _⟩ := query
      dsimp only at hvalue hfilters
      subst hvalue hfilters
      exact .quantified path helement (ih element hbody)

theorem typed_of_compileFilters {filters : List Filter} {predicate : Predicate}
    (h : compileFilters schema rules root filters = .ok (some predicate)) :
    predicate.Typed schema root := by
  cases filters with
  | nil => cases h
  | cons first rest =>
    obtain ⟨start, hstart, h⟩ := bind_eq_ok_iff.1 h
    obtain ⟨folded, hfolded, h⟩ := bind_eq_ok_iff.1 h
    obtain rfl := Option.some.inj (Except.ok.inj h)
    refine foldlM_induction hfolded (Filter.typed_of_compile hstart) ?_
    intro filter _ before next hbefore hnext
    obtain ⟨right, hright, hnext⟩ := bind_eq_ok_iff.1 hnext
    obtain rfl := Except.ok.inj hnext
    exact .binary hbefore (Filter.typed_of_compile hright)

namespace Predicate

/-- Evaluating the first predicate at the first value evaluates the second at the second. Parts that
a connective or a quantifier may skip are counted in. -/
inductive Visits : Predicate → Value → Predicate → Value → Prop
  | self {node : Predicate} {v : Value} : Visits node v node v
  | left {op : Connective} {left right node : Predicate} {v w : Value}
    (h : Visits left v node w) : Visits (.binary op left right) v node w
  | right {op : Connective} {left right node : Predicate} {v w : Value}
    (h : Visits right v node w) : Visits (.binary op left right) v node w
  | not {body node : Predicate} {v w : Value} (h : Visits body v node w) :
    Visits (.not body) v node w
  | item {member : MemberPath} {quantifier : Quantifier} {body node : Predicate} {v w item : Value}
    {items : List Value} (read : member.read v = some (.list items)) (mem : item ∈ items)
    (h : Visits body item node w) : Visits (.quantified member quantifier body) v node w

/-- The node finds no value, or one of the constructor that it tests. -/
def ReadsItsKind : Predicate → Value → Prop
  | comparison member _ constant _, v => ∀ w, member.read v = some w →
    w = .null ∨ constant = .null ∨ w.kind = constant.toValue.kind ∧
      (w.compare? false constant.toValue = none ↔
        w.isNaN = true ∨ constant.toValue.isNaN = true)
  | textTest member _ _ _, v => ∀ w, member.read v = some w → w = .null ∨ ∃ s, w = .string s
  | quantified member _ _, v => ∀ w, member.read v = some w → w = .null ∨ ∃ items, w = .list items
  | _, _ => True

theorem Typed.readsItsKind {predicate : Predicate} {v : Value} (h : predicate.Typed schema root)
    (conforms : Conforms schema root v) : predicate.ReadsItsKind v := by
  cases h with
  | @comparison _ member _ constant _ path fits =>
    intro w hread
    rcases path.kind_of_read conforms hread with hnull | hkind
    · exact .inl hnull
    rcases fits with hnull | hconstant
    · exact .inr (.inl hnull)
    have hsame : w.kind = constant.toValue.kind := hkind.trans hconstant.symm
    have hscalar := constant.kind_scalar
    rw [Constant.kind, ← hsame] at hscalar
    exact .inr (.inr ⟨hsame, Value.compare?_eq_none_iff hsame hscalar⟩)
  | textTest path fits =>
    intro w hread
    rw [← Value.kind_eq_string, ← fits]
    exact path.kind_of_read conforms hread
  | quantified path fits _ =>
    intro w hread
    rw [← Value.kind_eq_list, ← FieldType.kind_of_element? fits]
    exact path.kind_of_read conforms hread
  | binary | not => trivial

/-- Every node is typed for the value it is evaluated at. -/
theorem Typed.of_visits {predicate node : Predicate} {v w : Value}
    (h : predicate.Typed schema root) (conforms : Conforms schema root v)
    (visits : predicate.Visits v node w) :
    ∃ type, node.Typed schema type ∧ Conforms schema type w := by
  induction visits generalizing root with
  | self => exact ⟨root, h, conforms⟩
  | left _ ih =>
    cases h with
    | binary typedLeft _ => exact ih typedLeft conforms
  | right _ ih =>
    cases h with
    | binary _ typedRight => exact ih typedRight conforms
  | not _ ih =>
    cases h with
    | not typed => exact ih typed conforms
  | item hread hitem _ ih =>
    cases h with
    | quantified path fits typed =>
      rcases path.conforms_of_read conforms hread with hnull | hlist
      · cases hnull
      · exact ih typed (hlist.item fits _ hitem)

/-- No node of compiled filters meets a value of another kind than it tests. -/
theorem readsItsKind_of_compileFilters {filters : List Filter} {predicate node : Predicate}
    {v w : Value} (compiled : compileFilters schema rules root filters = .ok (some predicate))
    (conforms : Conforms schema root v) (visits : predicate.Visits v node w) :
    node.ReadsItsKind w := by
  obtain ⟨type, typed, hw⟩ := (typed_of_compileFilters compiled).of_visits conforms visits
  exact typed.readsItsKind hw

/-- Asking a player for a score of 18 compares each score with a number. -/
theorem readsItsKind_score :
    (comparison ⟨[], .int, false⟩ .eq (.number (.int 18)) false).ReadsItsKind
      (.number (.int 7)) := by
  have compiled : compileFilters .players {} (.record "Player")
      [{ property := "scores", operation := .any,
         value := .nested { filters :=
          [{ property := "_", value := .literal "18", operation := .equals }] } }] =
      .ok (some (.quantified ⟨["scores"], .list .int, false⟩ .any
        (.comparison ⟨[], .int, false⟩ .eq (.number (.int 18)) false))) := by
    rw [compileFilters, Filter.compile.eq_def]
    simp only [Filter.compile]
    rfl
  have visits : Visits (.quantified ⟨["scores"], .list .int, false⟩ .any
      (.comparison ⟨[], .int, false⟩ .eq (.number (.int 18)) false)) captain
        (.comparison ⟨[], .int, false⟩ .eq (.number (.int 18)) false) (.number (.int 7)) :=
    .item rfl List.mem_cons_self .self
  exact readsItsKind_of_compileFilters compiled conforms_captain visits

end Predicate

end RecordQuery

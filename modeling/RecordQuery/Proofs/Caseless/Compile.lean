import RecordQuery.Proofs.Caseless.Options
import RecordQuery.Proofs.Alike
import RecordQuery.Proofs.Text.Ascii
import RecordQuery.Proofs.Source.Failure
import RecordQuery.Proofs.Source.Paged

/-!
# Names in lower case, compiled

Members are found whatever the case of their names. So options and their caseless form compile to
predicates and keys that read the same members, or fail for the same kind of reason.
-/

namespace RecordQuery

open Text

variable {schema : Schema} {root : FieldType} {options others : QueryOptions}

theorem lookup_toLower {α : Type} (entries : List (String × α)) (name : String) :
    lookup entries name.toLower = lookup entries name := by
  simp only [lookup, sameName_congr_right (toLower_toLower name)]

theorem Value.member_toLower (v : Value) (name : String) :
    v.member name.toLower = v.member name := by
  cases v with
  | record members => simp only [Value.member, lookup_toLower]
  | _ => rfl

theorem FieldType.member?_toLower (type : FieldType) (name : String) :
    type.member? schema name.toLower = type.member? schema name := by
  simp only [FieldType.member?, Schema.member?, lookup_toLower]

namespace MemberPath

def caseless (path : MemberPath) : MemberPath :=
  { path with segments := path.segments.map String.toLower }

@[simp] theorem caseless_type (path : MemberPath) : path.caseless.type = path.type := rfl

@[simp] theorem caseless_nullable (path : MemberPath) :
    path.caseless.nullable = path.nullable := rfl

theorem caseless_caseless (path : MemberPath) : path.caseless.caseless = path.caseless := by
  simp [caseless, toLower_toLower]

theorem readSegments_map_toLower (names : List String) (v : Value) :
    readSegments (names.map String.toLower) v = readSegments names v := by
  induction names generalizing v with
  | nil => rfl
  | cons name names ih =>
    cases names with
    | nil => simp only [List.map_cons, List.map_nil, readSegments, Value.member_toLower]
    | cons next names =>
      rw [List.map_cons] at ih
      simp only [List.map_cons, readSegments, Value.member_toLower, ih]

@[simp] theorem read_caseless (path : MemberPath) (v : Value) :
    path.caseless.read v = path.read v :=
  readSegments_map_toLower path.segments v

/-- The whole path is named in failures only. -/
theorem alike_follow (path other : String) (current : FieldType) (names : List String) :
    Alike CompileError.kind Eq (follow schema path current names)
      (follow schema other current (names.map String.toLower)) := by
  induction names generalizing current with
  | nil => exact .ok rfl
  | cons name names ih =>
    simp only [List.map_cons, follow, FieldType.member?_toLower]
    cases current.member? schema name with
    | none => exact .error rfl
    | some next =>
      refine (ih next).bind ?_
      rintro end' _ rfl
      exact .ok rfl

theorem trim_toLower (s : String) : trim s.toLower = (trim s).toLower := by
  rw [trim, trim, toList_toLower, trimChars_map_toLower, toLower_ofList]

theorem alike_resolve (schema : Schema) (root : FieldType) (property : String) :
    Alike CompileError.kind (fun path other => path.caseless = other)
      (resolve schema root property) (resolve schema root property.toLower) := by
  have hself : (trim property).toLower = "_" ↔ trim property = "_" :=
    toLower_eq_iff_of_not_isAlpha (by simp)
  unfold resolve
  rw [trim_toLower]
  dsimp only
  by_cases hempty : trim property = ""
  · rw [if_pos hempty, if_pos (toLower_eq_empty_iff.2 hempty)]
    exact .error rfl
  rw [if_neg hempty, if_neg (mt toLower_eq_empty_iff.1 hempty)]
  by_cases hunderscore : trim property = "_"
  · rw [if_pos hunderscore, if_pos (hself.2 hunderscore)]
    exact .ok rfl
  rw [if_neg hunderscore, if_neg (mt hself.1 hunderscore), splitAll_toLower (by decide)]
  refine (alike_follow _ _ _ _).bind ?_
  rintro ⟨type, nullable⟩ _ rfl
  refine .ok ?_
  dsimp only [caseless]

end MemberPath

namespace Predicate

def caseless : Predicate → Predicate
  | comparison member op constant fold => comparison member.caseless op constant fold
  | textTest member test argument fold => textTest member.caseless test argument fold
  | quantified member quantifier body => quantified member.caseless quantifier body.caseless
  | binary op left right => binary op left.caseless right.caseless
  | not body => not body.caseless

theorem evaluate_caseless (predicate : Predicate) (v : Value) :
    predicate.caseless.evaluate v = predicate.evaluate v := by
  induction predicate generalizing v with
  | comparison member op constant fold => simp only [caseless, evaluate, MemberPath.read_caseless]
  | textTest member test argument fold => simp only [caseless, evaluate, MemberPath.read_caseless]
  | quantified member quantifier body ih =>
    simp only [caseless, evaluate, MemberPath.read_caseless, ih]
  | binary op left right hleft hright => simp only [caseless, evaluate, hleft, hright]
  | not body ih => simp only [caseless, evaluate, ih]

theorem caseless_caseless (predicate : Predicate) :
    predicate.caseless.caseless = predicate.caseless := by
  induction predicate with
  | comparison | textTest => simp only [caseless, MemberPath.caseless_caseless]
  | quantified member quantifier body ih => simp only [caseless, MemberPath.caseless_caseless, ih]
  | binary op left right hleft hright => simp only [caseless, hleft, hright]
  | not body ih => simp only [caseless, ih]

end Predicate

theorem Constant.alike_coerce (nullIsString : Bool) (type : FieldType)
    (property other literal : String) :
    Alike CompileError.kind Eq (coerce nullIsString type property literal)
      (coerce nullIsString type other literal) := by
  unfold coerce
  by_cases hnull : isNullLiteral nullIsString type literal = true
  · rw [if_pos hnull, if_pos hnull]
    cases type.isOptional with
    | true => exact .ok rfl
    | false => exact .error rfl
  · rw [if_neg hnull, if_neg hnull]
    cases ofLiteral? type.present literal with
    | none => exact .error rfl
    | some constant => exact .ok rfl

variable {rules : TextRules}

/-- The result is the same but for the case of names. -/
abbrev AlikeCaseless : Except CompileError Predicate → Except CompileError Predicate → Prop :=
  Alike CompileError.kind fun predicate other => predicate.caseless = other

section Scalar

variable (member : MemberPath) (property other : String) (fold : Bool)

theorem alike_compileComparison (op : Comparison) (literal : String) :
    AlikeCaseless (compileComparison rules member property fold op literal)
      (compileComparison rules member.caseless other fold op literal) := by
  refine (Constant.alike_coerce _ _ _ _ _).bind ?_
  rintro constant _ rfl
  exact .ok rfl

theorem alike_compileMembership (literal : String) :
    AlikeCaseless (compileMembership rules member property fold literal)
      (compileMembership rules member.caseless other fold literal) := by
  unfold compileMembership
  cases splitAll ',' literal with
  | nil => exact alike_compileComparison ..
  | cons first rest =>
    refine (alike_compileComparison ..).bind ?_
    intro group otherGroup hgroup
    refine Alike.foldlM (List.forall₂_same.2 fun _ _ => rfl) ?_ hgroup
    rintro group _ part _ rfl rfl
    refine (alike_compileComparison ..).bind ?_
    rintro predicate _ rfl
    exact .ok rfl

theorem excluding_caseless (member : MemberPath) (group : Predicate) :
    (excluding member group).caseless = excluding member.caseless group.caseless := by
  unfold excluding
  rw [MemberPath.caseless_nullable]
  cases member.nullable <;> rfl

theorem alike_compileScalar (operation : Operation) (caseSensitive : Bool) (literal : String) :
    AlikeCaseless (compileScalar rules member property operation caseSensitive literal)
      (compileScalar rules member.caseless other operation caseSensitive literal) := by
  simp only [compileScalar, MemberPath.caseless_type]
  refine .ite (fun _ => .error rfl) fun _ => ?_
  refine .ite (fun _ => alike_compileMembership ..) fun _ => ?_
  refine .ite (fun _ => ?_) fun _ => ?_
  · refine (alike_compileMembership ..).bind (f := fun group => .ok (excluding member group)) ?_
    rintro group _ rfl
    exact .ok (excluding_caseless member group)
  cases TextTest.ofOperation? operation with
  | some test => exact .ite (fun _ => .ok rfl) fun _ => .error rfl
  | none =>
    cases Comparison.ofOperation? operation with
    | none => exact .error rfl
    | some op => exact .ite (fun _ => .error rfl) fun _ => alike_compileComparison ..

end Scalar

theorem Filter.alike_compile (filter : Filter) :
    AlikeCaseless (Filter.compile schema rules root filter)
      (Filter.compile schema rules root filter.caseless) := by
  induction root, filter using Filter.compile.induct with
  | case1 root property value operation caseSensitive connective ih =>
    rw [FilterOf.caseless, Filter.compile, Filter.compile]
    refine (MemberPath.alike_resolve schema root property).bind ?_
    rintro member _ rfl
    refine .ite (fun _ => ?_) fun _ => ?_
    · rw [MemberPath.caseless_type]
      cases member.type.element? with
      | none => exact .error rfl
      | some element =>
        rcases value with _ | ⟨_ | ⟨first, rest⟩, _⟩
        · exact .error rfl
        · exact .error rfl
        · refine (ih element).bind ?_
          rintro body _ rfl
          exact .ok rfl
    · cases value with
      | literal literal => exact alike_compileScalar ..
      | nested query => exact .error rfl

theorem alike_compileFilters (filters : List Filter) :
    Alike CompileError.kind (fun predicate other => predicate.map Predicate.caseless = other)
      (compileFilters schema rules root filters)
      (compileFilters schema rules root (filters.map FilterOf.caseless)) := by
  cases filters with
  | nil => exact .ok rfl
  | cons first rest =>
    rw [List.map_cons, compileFilters, compileFilters]
    refine (Filter.alike_compile first).bind ?_
    intro start other hstart
    have hfilters : List.Forall₂ (fun filter other => FilterOf.caseless filter = other) rest
        (rest.map FilterOf.caseless) :=
      List.forall₂_map_right_iff.2 (List.forall₂_same.2 fun _ _ => rfl)
    refine Alike.bind (R := fun predicate other => Predicate.caseless predicate = other)
      (Alike.foldlM hfilters ?_ hstart) ?_
    · rintro before _ filter _ rfl rfl
      refine (Filter.alike_compile filter).bind ?_
      rintro predicate _ rfl
      cases filter
      exact .ok rfl
    · rintro predicate _ rfl
      exact .ok rfl

namespace SortKey

def caseless (key : SortKey) : SortKey := { key with member := key.member.caseless }

theorem caseless_caseless (key : SortKey) : key.caseless.caseless = key.caseless := by
  simp only [caseless, MemberPath.caseless_caseless]

theorem alike_compile (caseInsensitiveSource : Bool) (sort : SortOption) :
    Alike CompileError.kind (fun key other => key.caseless = other)
      (compile schema root caseInsensitiveSource sort)
      (compile schema root caseInsensitiveSource sort.caseless) := by
  refine (MemberPath.alike_resolve schema root sort.property).bind ?_
  rintro member _ rfl
  rw [MemberPath.caseless_type]
  exact .ite (fun _ => .ok rfl) fun _ => .error rfl

theorem compare_caseless (key : SortKey) (v w : Value) :
    key.caseless.compare v w = key.compare v w := by
  simp only [compare, value, caseless, MemberPath.read_caseless]

theorem compareBy_map_caseless (keys : List SortKey) (v w : Value) :
    compareBy (keys.map caseless) v w = compareBy keys v w := by
  induction keys with
  | nil => rfl
  | cons key keys ih => rw [List.map_cons, compareBy_cons, compare_caseless, ih, compareBy_cons]

end SortKey

def Stage.caseless : Stage → Stage
  | filter predicate => filter predicate.caseless
  | orderPrimary key => orderPrimary key.caseless
  | orderSecondary key => orderSecondary key.caseless
  | skip n => skip n
  | take n => take n

namespace Plan

variable {Row : Type} {view : Row → Value}

/-- The same rows, to be sorted by the same keys in lower case. -/
def Progress.caseless (progress : Progress Row) : Progress Row :=
  { progress with keys := progress.keys.map SortKey.caseless }

theorem Progress.sorted_caseless (progress : Progress Row) :
    progress.caseless.sorted view = progress.sorted view := by
  simp only [Progress.sorted, Progress.caseless, sortRows, SortKey.compareBy_map_caseless]

theorem Progress.step_caseless (progress : Progress Row) (stage : Stage) :
    progress.caseless.step view stage.caseless = (progress.step view stage).caseless := by
  cases stage with
  | filter predicate =>
    simp only [step, Stage.caseless, settle, sorted_caseless, Predicate.evaluate_caseless]
    rfl
  | orderPrimary key =>
    simp only [step, Stage.caseless, sorted_caseless]
    rfl
  | orderSecondary key => simp [step, Stage.caseless, caseless]
  | skip n =>
    simp only [step, Stage.caseless, settle, sorted_caseless]
    rfl
  | take n =>
    simp only [step, Stage.caseless, settle, sorted_caseless]
    rfl

theorem run_map_caseless (plan : Plan) (rows : List Row) :
    run view (plan.map Stage.caseless) rows = run view plan rows := by
  have hfold (progress : Progress Row) :
      (plan.map Stage.caseless).foldl (Progress.step view) progress.caseless =
        (plan.foldl (Progress.step view) progress).caseless := by
    induction plan generalizing progress with
    | nil => rfl
    | cons stage plan ih =>
      rw [List.map_cons, List.foldl_cons, List.foldl_cons, Progress.step_caseless, ih]
  have hstart : (plan.map Stage.caseless).foldl (Progress.step view) { rows } =
      (plan.foldl (Progress.step view) { rows }).caseless := hfold { rows }
  rw [run, run, hstart, Progress.sorted_caseless]

theorem lastOrderIndex?_map_caseless (plan : Plan) :
    lastOrderIndex? (plan.map Stage.caseless) = plan.lastOrderIndex? := by
  have hkept (stage : Stage) : stage.caseless.isOrder = stage.isOrder := by
    cases stage <;> rfl
  induction plan with
  | nil => rfl
  | cons stage plan ih => rw [List.map_cons, lastOrderIndex?, ih, hkept, lastOrderIndex?]

theorem map_spliceOrder (plan : Plan) (keys : List SortKey) (ignoreExisting : Bool) :
    (plan.spliceOrder keys ignoreExisting).map Stage.caseless =
      spliceOrder (plan.map Stage.caseless) (keys.map SortKey.caseless) ignoreExisting := by
  have hfresh : (freshOrder keys).map Stage.caseless = freshOrder (keys.map SortKey.caseless) := by
    cases keys with
    | nil => rfl
    | cons key keys => simp [freshOrder, Stage.caseless]
  unfold spliceOrder
  rw [lastOrderIndex?_map_caseless]
  split
  · simp [List.map_take, List.map_drop, Stage.caseless]
  · rw [List.map_append, hfresh]

end Plan

theorem Source.alike_compile (source : Source) (options : QueryOptions) :
    Alike CompileError.kind
      (fun plan other => plan.map Stage.caseless = other.map Stage.caseless)
      (source.compile schema options) (source.compile schema options.caseless) := by
  obtain ⟨filters, sorts, page, caseInsensitiveSource, ignorePredefinedOrders, nullIsString, _⟩ :=
    options
  rw [QueryOptions.caseless, filtersCaseless_eq_map]
  refine (alike_compileFilters filters).bind ?_
  rintro predicate _ rfl
  have hsorts : List.Forall₂ (fun sort other => SortOption.caseless sort = other) sorts
      (sorts.map SortOption.caseless) :=
    List.forall₂_map_right_iff.2 (List.forall₂_same.2 fun _ _ => rfl)
  refine Alike.bind (Alike.mapM (R := fun key other => SortKey.caseless key = other) hsorts ?_) ?_
  · rintro sort _ rfl
    exact SortKey.alike_compile caseInsensitiveSource sort
  · intro keys others hkeys
    have hothers : keys.map SortKey.caseless = others := by
      rw [← List.forall₂_eq_eq_eq]
      exact List.forall₂_map_left_iff.2 hkeys
    have hfilters : ((predicate.map Predicate.caseless).toList.map Stage.filter).map
        Stage.caseless = (predicate.toList.map Stage.filter).map Stage.caseless := by
      cases predicate with
      | none => rfl
      | some predicate => simp [Stage.caseless, Predicate.caseless_caseless]
    have hkeysTwice : others.map SortKey.caseless = keys.map SortKey.caseless := by
      simp [← hothers, SortKey.caseless_caseless]
    refine .ok ?_
    rw [List.map_append, List.map_append, Plan.map_spliceOrder, Plan.map_spliceOrder, hfilters,
      hkeysTwice]

/-- What a source holds has no bearing on failures. -/
theorem Source.compile_eq_error_congr {source other : Source}
    (element : other.element = source.element) {cause : CompileError} :
    other.compile schema options = .error cause ↔ source.compile schema options = .error cause := by
  rw [compile_eq_error_iff, compile_eq_error_iff, element]

namespace Query

variable {Row : Type}

/-- The rows that options leave of a source, or the failure to apply them. -/
def answer (schema : Schema) (query : Query Row) (options : QueryOptions) :
    Except QueryError (List Row) :=
  match query.apply schema options with
  | .ok applied _ => .ok applied.toList
  | .error e _ => .error e

theorem answer_eq (query : Query Row) (options : QueryOptions) :
    query.answer schema options =
      match query.source.compile schema options with
      | .error cause => .error (.pipeline options.queryText (.compile cause))
      | .ok plan => .ok ((plan ++ options.page.elim [] Page.stages).run query.view query.rows) := by
  rw [answer, apply_eq, Source.applySteps]
  cases query.source.compile schema options with
  | error cause => rfl
  | ok plan =>
    dsimp only
    cases options.page with
    | none => simp [toList]
    | some page =>
      dsimp only [Source.dataSetCount]
      cases page.assignDataSetCount <;> rfl

theorem answer_of_error {query : Query Row} {cause : CompileError}
    (h : query.source.compile schema options = .error cause) :
    ∃ e, query.answer schema options = .error e ∧ e.kind = .pipeline (.compile cause.kind) :=
  ⟨_, by rw [answer_eq, h], rfl⟩

theorem answer_of_ok {query : Query Row} {plan : Plan}
    (h : query.source.compile schema options = .ok plan) :
    query.answer schema options =
      .ok ((plan ++ options.page.elim [] Page.stages).run query.view query.rows) := by
  rw [answer_eq, h]

end Query

/-- Options do the same to all sources of a type: both fail to compile for one kind of reason, or
they leave the same rows of each source. -/
def SameAnswers (schema : Schema) (element : FieldType) (options others : QueryOptions) : Prop :=
  (∃ kind, ∀ (Row : Type) (query : Query Row), query.element = element →
    (∃ e, query.answer schema options = .error e ∧ e.kind = .pipeline (.compile kind)) ∧
      ∃ e, query.answer schema others = .error e ∧ e.kind = .pipeline (.compile kind)) ∨
  ∀ (Row : Type) (query : Query Row), query.element = element →
    ∃ rows, query.answer schema options = .ok rows ∧ query.answer schema others = .ok rows

section SameAnswers

variable (h : options.caseless = others.caseless)

include h

theorem Source.alike_compile_of_caseless (source : Source) :
    Alike CompileError.kind
      (fun plan other => plan.map Stage.caseless = other.map Stage.caseless)
      (source.compile schema options) (source.compile schema others) := by
  have hothers := @Source.alike_compile schema source others
  rw [← h] at hothers
  refine ((source.alike_compile options).join hothers).mono ?_
  rintro plan other ⟨_, hplan, hother⟩
  exact hplan.trans hother.symm

theorem page_eq_of_caseless : options.page = others.page := by
  cases options
  cases others
  simp only [QueryOptions.caseless, QueryOptions.mk.injEq] at h
  exact h.2.2.1

/-- Options that are the same but for the case of names do the same to every source. -/
theorem sameAnswers_of_caseless (schema : Schema) (element : FieldType) :
    SameAnswers schema element options others := by
  -- failures depend on the type of a source only, so any source of the type tells
  let source : Source := { element, plan := [], count := fun _ => .ok 0 }
  cases hsource : source.compile schema options with
  | error cause =>
    left
    refine ⟨cause.kind, ?_⟩
    intro Row query helement
    have hquery : query.source.compile schema options = .error cause :=
      (@Source.compile_eq_error_congr schema options source query.source helement cause).2 hsource
    have halike := @Source.alike_compile_of_caseless schema _ _ h query.source
    rw [hquery] at halike
    obtain ⟨other, hother, hkind⟩ := halike.error_left
    exact ⟨Query.answer_of_error hquery, hkind ▸ Query.answer_of_error hother⟩
  | ok plan =>
    right
    intro Row query helement
    cases hquery : query.source.compile schema options with
    | error cause =>
      have hfails : source.compile schema options = .error cause :=
        (@Source.compile_eq_error_congr schema options source query.source helement cause).1 hquery
      cases hsource.symm.trans hfails
    | ok plan =>
      have halike := @Source.alike_compile_of_caseless schema _ _ h query.source
      rw [hquery] at halike
      obtain ⟨other, hother, hplans⟩ := halike.ok_left
      refine ⟨_, Query.answer_of_ok hquery, ?_⟩
      rw [Query.answer_of_ok hother, page_eq_of_caseless h, ← Plan.run_map_caseless,
        List.map_append, ← hplans, ← List.map_append, Plan.run_map_caseless]

end SameAnswers

end RecordQuery

import RecordQuery.Predicate.Compile
import RecordQuery.Proofs.Conformance

/-!
# Filters joined

Filters compile together if each of them does alone, and fail by the first that does not. Together
they are read from the left: each filter is joined to the whole before it by its own connective, so
the connective of the first joins nothing. Connectives that may skip their right side mean what the
others mean.
-/

namespace RecordQuery

variable {schema : Schema} {root : FieldType} {rules : TextRules} {v : Value}

namespace Connective

/-- What a connective says of two conditions. -/
def Joins : Connective → Prop → Prop → Prop
  | andAlso, p, q | and, p, q => p ∧ q
  | orElse, p, q | or, p, q => p ∨ q
  | xor, p, q => ¬(p ↔ q)

theorem combine_iff (op : Connective) (left : Bool) (right : Unit → Bool) :
    op.combine left right = true ↔ op.Joins (left = true) (right () = true) := by
  rw [combine_eq_apply]
  cases op with
  | andAlso | and => exact Bool.and_eq_true_iff
  | orElse | or => exact Bool.or_eq_true_iff
  | xor =>
    rw [Joins, ← Bool.eq_iff_iff]
    exact bne_iff_ne

end Connective

/-- It compiles, to a predicate that holds of the value. -/
def HoldsAt (v : Value) (compiled : Except CompileError Predicate) : Prop :=
  ∃ predicate, compiled = .ok predicate ∧ predicate.evaluate v = true

theorem holdsAt_ok {predicate : Predicate} :
    HoldsAt v (.ok predicate) ↔ predicate.evaluate v = true := by
  constructor
  · rintro ⟨other, hother, holds⟩
    obtain rfl := Except.ok.inj hother
    exact holds
  · intro holds
    exact ⟨predicate, rfl, holds⟩

/-- A step joins one more condition to those before it. -/
theorem evaluate_binary_iff {op : Connective} {left right : Predicate} :
    (Predicate.binary op left right).evaluate v = true ↔
      op.Joins (left.evaluate v = true) (HoldsAt v (.ok right)) := by
  rw [Predicate.evaluate, Connective.combine_iff, holdsAt_ok]

/-- Joining the items of a list one by one means to fold what they say from the left. -/
theorem evaluate_foldlM_binary {α : Type} {compile : α → Except CompileError Predicate}
    {op : α → Connective} {items : List α} {start joined : Predicate}
    (h : items.foldlM (fun whole item => do pure (.binary (op item) whole (← compile item))) start =
      .ok joined) :
    joined.evaluate v = true ↔
      items.foldl (fun holds item => (op item).Joins holds (HoldsAt v (compile item)))
        (start.evaluate v = true) := by
  -- the whole before the items is any predicate: each step replaces it by one that is joined
  induction items generalizing start with
  | nil =>
    obtain rfl := Except.ok.inj h
    exact Iff.rfl
  | cons item items ih =>
    rw [List.foldlM_cons] at h
    obtain ⟨next, hnext, hrest⟩ := bind_eq_ok_iff.1 h
    obtain ⟨predicate, hpredicate, hnext⟩ := bind_eq_ok_iff.1 hnext
    obtain rfl := Except.ok.inj hnext
    rw [List.foldl_cons, hpredicate, ← propext evaluate_binary_iff]
    exact ih hrest

/-- The first filter is joined to nothing. -/
theorem compileFilters_cons (first : Filter) (rest : List Filter) :
    compileFilters schema rules root (first :: rest) =
      some <$> (first.compile schema rules root >>= fun start => rest.foldlM (fun whole filter => do
        pure (.binary filter.connective whole (← filter.compile schema rules root))) start) := by
  rw [compileFilters, map_eq_pure_bind, bind_assoc]

theorem compileFilters_eq_error_iff {filters : List Filter} {cause : CompileError} :
    compileFilters schema rules root filters = .error cause ↔
      FirstFails (Filter.compile schema rules root) filters cause := by
  cases filters with
  | nil =>
    constructor
    · intro h
      cases h
    · exact fun h => absurd h not_firstFails_nil
  | cons first rest =>
    rw [compileFilters_cons, map_eq_error_iff]
    exact bind_foldlM_eq_error_iff

theorem exists_compileFilters_iff {filters : List Filter} :
    (∃ predicate, compileFilters schema rules root filters = .ok predicate) ↔
      ∀ filter ∈ filters, ∃ predicate, Filter.compile schema rules root filter = .ok predicate := by
  rw [exists_ok_iff, ← not_exists_firstFails_iff]
  simp only [compileFilters_eq_error_iff]

/-- Filters fail by the first of them that does not compile alone. If they all do, a value satisfies
them if it satisfies the first, as changed by each of the others in turn. -/
theorem evaluate_compileFilters_iff (schema : Schema) (rules : TextRules) (root : FieldType)
    (first : Filter) (rest : List Filter) :
    (∀ cause, compileFilters schema rules root (first :: rest) = .error cause ↔
      FirstFails (Filter.compile schema rules root) (first :: rest) cause) ∧
    ((∃ predicate, compileFilters schema rules root (first :: rest) = .ok (some predicate)) ↔
      ∀ filter ∈ first :: rest, ∃ alone, filter.compile schema rules root = .ok alone) ∧
    ∀ predicate v, compileFilters schema rules root (first :: rest) = .ok (some predicate) →
      (predicate.evaluate v = true ↔
        rest.foldl (fun holds filter =>
            filter.connective.Joins holds (HoldsAt v (filter.compile schema rules root)))
          (HoldsAt v (first.compile schema rules root))) := by
  refine ⟨fun cause => compileFilters_eq_error_iff, ?_, ?_⟩
  · rw [← exists_compileFilters_iff]
    constructor
    · rintro ⟨predicate, compiled⟩
      exact ⟨some predicate, compiled⟩
    · rintro ⟨_, compiled⟩
      rw [compileFilters_cons] at compiled
      obtain ⟨predicate, hpredicate, -⟩ := map_eq_ok_iff.1 compiled
      exact ⟨predicate, compileFilters_cons first rest ▸ map_eq_ok_iff.2 ⟨_, hpredicate, rfl⟩⟩
  · intro predicate v compiled
    rw [compileFilters_cons] at compiled
    obtain ⟨joined, hjoined, hsome⟩ := map_eq_ok_iff.1 compiled
    obtain ⟨start, hstart, hrest⟩ := bind_eq_ok_iff.1 hjoined
    rw [← Option.some.inj hsome, hstart, propext holdsAt_ok]
    exact evaluate_foldlM_binary hrest

def called (name : String) (connective : Connective) : Filter where
  property := "name"
  value := .literal name
  operation := .equals
  caseSensitive := true
  connective := connective

/-- Ada is called Ada or else Bo, but not Cy as well: the last connective binds no closer. -/
theorem evaluate_compileFilters_called :
    ∃ predicate, compileFilters .players {} (.record "Player")
        [called "Ada" .xor, called "Bo" .orElse, called "Cy" .andAlso] = .ok (some predicate) ∧
      predicate.evaluate captain = false := by
  obtain ⟨-, compile_iff, evaluate_iff⟩ := evaluate_compileFilters_iff .players {}
    (.record "Player") (called "Ada" .xor) [called "Bo" .orElse, called "Cy" .andAlso]
  have hcy : (called "Cy" .andAlso).compile .players {} (.record "Player") =
      .ok (.comparison ⟨["name"], .string, false⟩ .eq (.string "Cy") false) := by
    rw [called, Filter.compile.eq_def]
    rfl
  obtain ⟨predicate, compiled⟩ := compile_iff.2 <| by
    simp only [List.forall_mem_cons]
    refine ⟨?_, ?_, ⟨_, hcy⟩, List.forall_mem_nil _⟩
    · rw [called, Filter.compile.eq_def]
      exact ⟨_, rfl⟩
    · rw [called, Filter.compile.eq_def]
      exact ⟨_, rfl⟩
  refine ⟨predicate, compiled, Bool.eq_false_iff.2 ?_⟩
  intro holds
  obtain ⟨-, namedCy⟩ := (evaluate_iff predicate captain compiled).1 holds
  rw [hcy, holdsAt_ok] at namedCy
  exact absurd namedCy (by decide)

end RecordQuery

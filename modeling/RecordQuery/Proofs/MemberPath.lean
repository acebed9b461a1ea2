import RecordQuery.Proofs.Predicate.Absence

/-!
# What a path reads

Reading stops at the first missing record and finds nothing then; where all records are there, a path
that is not marked nullable reads a value of its type. Both go by the records behind the one at hand.
If that one is missing itself, the mark does not tell, and a path of one name reads a missing value
from it.
-/

namespace RecordQuery

variable {schema : Schema} {root : FieldType} {v : Value} {name : String} {names : List String}

namespace Value

/-- A record that the names lead through is missing: the value they start from, or one before the
last name. -/
inductive MissingBefore : List String → Value → Prop
  | here {name : String} {names : List String} : MissingBefore (name :: names) .null
  | further {name : String} {names : List String} {v : Value}
    (h : MissingBefore names (v.member name)) : MissingBefore (name :: names) v

theorem not_missingBefore_nil : ¬ MissingBefore [] v := nofun

theorem missingBefore_cons :
    MissingBefore (name :: names) v ↔ v = .null ∨ MissingBefore names (v.member name) := by
  constructor
  · rintro (_ | h)
    · exact .inl rfl
    · exact .inr h
  · rintro (rfl | h)
    · exact .here
    · exact .further h

end Value

/-- Only records have members. -/
theorem Conforms.isRecord_of_member? {type next : FieldType} (h : Conforms schema type v)
    (present : v ≠ .null) (hnext : type.member? schema name = some next) : v.isRecord = true := by
  have hpresent := h.of_present.resolve_left present
  unfold FieldType.member? at hnext
  generalize type.present = present at hnext hpresent
  cases hpresent with
  | record => rfl
  | _ => cases hnext

namespace MemberPath

/-- Reading stops at a missing record, unless it is the one that the last name starts from. -/
theorem readSegments_eq_none_iff {type : FieldType} (along : root.along? schema names = some type)
    (conforms : Conforms schema root v) :
    readSegments names v = none ↔ v.MissingBefore names ∧ ¬ (v = .null ∧ names.length = 1) := by
  induction names generalizing root v with
  | nil => exact iff_of_false nofun fun h => Value.not_missingBefore_nil h.1
  | cons name names ih =>
    obtain ⟨next, hnext, along⟩ := Option.bind_eq_some_iff.1 along
    rw [Value.missingBefore_cons]
    cases names with
    | nil =>
      refine iff_of_false nofun ?_
      rintro ⟨hnull | hbefore, hone⟩
      · exact hone ⟨hnull, rfl⟩
      · exact Value.not_missingBefore_nil hbefore
    | cons second names =>
      rw [readSegments_cons_cons]
      have hlong : ¬ (v = .null ∧ (name :: second :: names).length = 1) := by simp
      by_cases present : v = .null
      · subst present
        exact iff_of_true rfl ⟨.inl rfl, hlong⟩
      have hmember := conforms.member_of_member? present hnext
      split
      · next hrecord =>
        have hthere : v.member name ≠ .null := by
          intro hnull
          rw [hnull] at hrecord
          cases hrecord
        rw [ih along hmember]
        simp [present, hthere]
      · next hrecord =>
        obtain ⟨after, hafter, -⟩ := Option.bind_eq_some_iff.1 along
        have hmissing : v.member name = .null := by
          by_contra hthere
          exact hrecord (hmember.isRecord_of_member? hthere hafter)
        rw [hmissing]
        exact iff_of_true rfl ⟨.inr .here, hlong⟩

theorem exists_read_iff {path : MemberPath} :
    (∃ w, path.read v = some w ∧ w ≠ .null) ↔ ¬ v.MissingAlong path.segments := by
  rw [← readSegments_getD_eq_null_iff, ← read]
  cases path.read v <;> simp

/-- A path that is not nullable reads a value of its type exactly where it starts from one. A path
reads nothing exactly where a record on it is missing, apart from a single name of a missing record:
that reads a missing value. -/
theorem read_of_resolve {property : String} {path : MemberPath}
    (resolved : resolve schema root property = .ok path) (conforms : Conforms schema root v) :
    (path.nullable = false →
      ((∃ w, path.read v = some w ∧ w ≠ .null ∧ Conforms schema path.type w) ↔ v ≠ .null)) ∧
    (path.read v = none ↔
      v.MissingBefore path.segments ∧ ¬ (v = .null ∧ path.segments.length = 1)) ∧
    (v = .null ∧ path.segments.length = 1 → path.read v = some .null) := by
  have from_root := from_of_resolve resolved
  refine ⟨?_, ?_, ?_⟩
  · intro required
    constructor
    · rintro ⟨w, hread, hw, -⟩ rfl
      exact exists_read_iff.1 ⟨w, hread, hw⟩ .here
    · intro present
      have there : ¬ v.MissingAlong path.segments := by
        intro missing
        exact present (eq_null_of_resolve resolved required conforms missing)
      obtain ⟨w, hread, hw⟩ := exists_read_iff.2 there
      exact ⟨w, hread, hw, (from_root.conforms_of_read conforms hread).resolve_left hw⟩
  · exact readSegments_eq_none_iff from_root conforms
  · rintro ⟨rfl, hone⟩
    obtain ⟨name, hname⟩ := List.length_eq_one_iff.1 hone
    rw [read, hname]
    rfl

/-- The captain has scores but no captain, whose name is not read. -/
theorem read_captain :
    (∃ w, (MemberPath.mk ["scores"] (.list .int) false).read captain = some w ∧ w ≠ .null ∧
      Conforms .players (.list .int) w) ∧
    (MemberPath.mk ["captain", "name"] .string true).read captain = none := by
  have hscores : resolve .players (.record "Player") "scores" =
      .ok ⟨["scores"], .list .int, false⟩ := rfl
  have hname : resolve .players (.record "Player") "captain.name" =
      .ok ⟨["captain", "name"], .string, true⟩ := rfl
  have missing : captain.MissingBefore ["captain", "name"] := .further .here
  obtain ⟨hvalue, -⟩ := read_of_resolve hscores conforms_captain
  obtain ⟨-, hnothing, -⟩ := read_of_resolve hname conforms_captain
  exact ⟨(hvalue rfl).2 nofun, hnothing.2 ⟨missing, nofun⟩⟩

/-- A missing player always has a name, says the mark, and it reads as a missing value. -/
theorem read_name_null :
    ∃ path, resolve .players (.optional (.record "Player")) "name" = .ok path ∧
      path.nullable = false ∧ Conforms .players (.optional (.record "Player")) .null ∧
      Value.null.MissingBefore path.segments ∧ path.read .null = some .null :=
  ⟨⟨["name"], .string, false⟩, rfl, rfl, .absent, .here, rfl⟩

end MemberPath

end RecordQuery

import RecordQuery.Proofs.Declaration.Members
import RecordQuery.Proofs.Text.Ascii
import RecordQuery.Proofs.Text.Cut

/-!
# Members reached by their names

The name of a member is also that of a constant, so that it is not empty and has no blanks. As a path
it leads to the member unless it is `_`, which stands for the record itself, or has a dot: a path is
cut at its dots, but a declaration may put one into a name.
-/

namespace RecordQuery

open Text

/-- Blanks are kept in the name of a constant. -/
theorem mem_constantChars_of_isBlank {c : Char} {cs : List Char} (h : c ∈ cs)
    (hblank : isBlank c = true) (afterLower : Bool) : c ∈ constantChars afterLower cs := by
  induction cs generalizing afterLower with
  | nil => cases h
  | cons d cs ih =>
    rw [constantChars]
    rcases List.mem_cons.1 h with rfl | h
    · split
      · cases afterLower <;> simp
      · split
        · next hc => rcases hc with rfl | rfl | rfl <;> cases hblank
        · have hletter : c.isAlpha = false := by
            rw [Bool.eq_false_iff]
            intro hletter
            exact Bool.noConfusion (hblank.symm.trans (isBlank_of_isAlpha hletter))
          rw [toUpper_of_not_isAlpha hletter]
          exact List.mem_cons_self
    · split
      · exact List.mem_append_right _ (ih h false)
      · split
        · exact List.mem_cons_of_mem _ (ih h false)
        · exact List.mem_cons_of_mem _ (ih h _)

namespace Member

/-- The name of the constant is not empty and has no blanks, as that of every identifier. -/
def HasConstant (member : Member) : Prop :=
  member.constantName ≠ "" ∧ member.constantName.toList.any isBlank = false

instance (member : Member) : Decidable member.HasConstant :=
  inferInstanceAs (Decidable (_ ∧ _))

variable {member : Member}

theorem HasConstant.trim_name (h : member.HasConstant) : trim member.name = member.name := by
  have hblank : ∀ c ∈ member.name.toList, isBlank c = false := by
    intro c hc
    rw [Bool.eq_false_iff]
    intro hblank
    have hconstant : c ∈ member.constantName.toList := by
      rw [constantName, String.toList_ofList]
      exact mem_constantChars_of_isBlank hc hblank false
    exact List.any_eq_false.1 h.2 c hconstant hblank
  rw [← String.toList_inj, toList_trim, trimChars_of_forall hblank]

theorem HasConstant.name_ne_empty (h : member.HasConstant) : member.name ≠ "" := by
  intro hname
  apply h.1
  rw [constantName, hname]
  rfl

end Member

namespace MemberPath

variable {schema : Schema} {root : FieldType}

/-- A name without dots is one step from the root. -/
theorem resolve_of_notMem {name : String} {type : FieldType} (htrim : trim name = name)
    (hempty : name ≠ "") (hself : name ≠ "_") (hdot : '.' ∉ name.toList)
    (hmember : root.member? schema name = some type) :
    resolve schema root name = .ok ⟨[name], type, type.isOptional⟩ := by
  have hfollow : follow schema name root [name] = .ok (type, type.isOptional) := by
    rw [follow, hmember]
    change Except.ok (type, type.isOptional || false) = _
    rw [Bool.or_false]
  rw [resolve, htrim, if_neg hempty, if_neg hself, splitAll_of_notMem hdot]
  dsimp only
  rw [hfollow]
  rfl

end MemberPath

/-- The name of the member leads to its type, and from every record to its value. -/
def Member.Reached (schema : Schema) (root : FieldType) (members : List Member) (member : Member) :
    Prop :=
  ∃ path, MemberPath.resolve schema root member.name = .ok path ∧ path.type = member.field.type ∧
    ∀ valueOf, path.read (toRecord members valueOf) = some (valueOf member.field.identifier)

namespace Declaration

variable {schema : Schema} {declaration : Declaration} {recordType : RecordType}
  {members : List Member} {member : Member}

theorem member?_of_mem (hmembers : declaration.members = .ok members)
    (hrecord : declaration.recordType = .ok recordType)
    (hschema : schema.find? declaration.name = some recordType) (hmember : member ∈ members) :
    (FieldType.record declaration.name).member? schema member.name = some member.field.type := by
  obtain rfl := Except.ok.inj ((recordType_eq hmembers).symm.trans hrecord)
  change (schema.find? declaration.name).bind _ = _
  rw [hschema, Option.bind_some, Member.lookup_types,
    (distinct_of_members hmembers).select?_name hmember, Option.map_some]

/-- Of the members of a record, those are reached by their names whose names have no dot and are not
`_`. -/
theorem reached_iff (hmembers : declaration.members = .ok members)
    (hrecord : declaration.recordType = .ok recordType)
    (hschema : schema.find? declaration.name = some recordType)
    (hconstants : ∀ member ∈ members, member.HasConstant) :
    ∀ member ∈ members, member.Reached schema (.record declaration.name) members ↔
      '.' ∉ member.name.toList ∧ member.name ≠ "_" := by
  intro member hmember
  have hconstant := hconstants member hmember
  have hselect := (distinct_of_members hmembers).select?_name hmember
  constructor
  · rintro ⟨path, hresolve, -, hread⟩
    -- where every member is missing, only a path of one name reads a missing value
    have hmissing := hread fun _ => .null
    rcases MemberPath.resolve_cases hresolve with ⟨-, rfl⟩ | ⟨hself, hsegments, -⟩
    · cases hmissing
    · rw [hconstant.trim_name] at hself hsegments
      refine ⟨?_, hself⟩
      intro hdot
      obtain ⟨first, second, rest, hsplit⟩ := splitAll_of_mem hdot
      have hfirst : (Member.toRecord members fun _ => .null).member first = .null := by
        rw [Member.member_toRecord]
        cases Member.select? members first <;> rfl
      rw [MemberPath.read, hsegments, hsplit, MemberPath.readSegments_cons_cons, hfirst] at hmissing
      cases hmissing
  · rintro ⟨hdot, hself⟩
    have hresolve := MemberPath.resolve_of_notMem hconstant.trim_name hconstant.name_ne_empty hself
      hdot (member?_of_mem hmembers hrecord hschema hmember)
    refine ⟨_, hresolve, rfl, ?_⟩
    intro valueOf
    change some ((Member.toRecord members valueOf).member member.name) = _
    rw [Member.member_toRecord, hselect]
    rfl

/-- The label and the type of a parcel are reached, its weight is not. -/
theorem reached_parcel :
    parcel.members = .ok parcelMembers ∧ parcel.recordType = .ok parcelType ∧
      (Schema.mk [parcelType]).find? parcel.name = some parcelType ∧
      (∀ member ∈ parcelMembers, member.HasConstant) ∧
      ∀ member ∈ parcelMembers,
        member.Reached ⟨[parcelType]⟩ (.record parcel.name) parcelMembers ↔
          member.name ≠ "gross.weight" := by
  have hmembers : parcel.members = .ok parcelMembers := rfl
  have hrecord : parcel.recordType = .ok parcelType := rfl
  have hschema : (Schema.mk [parcelType]).find? parcel.name = some parcelType := rfl
  have hconstants : ∀ member ∈ parcelMembers, member.HasConstant := by decide +kernel
  refine ⟨hmembers, hrecord, hschema, hconstants, ?_⟩
  intro member hmember
  rw [reached_iff hmembers hrecord hschema hconstants member hmember]
  revert member
  decide

/-- There is a constant for the weight of a parcel, but what it holds leads nowhere. -/
theorem not_reached_grossWeight :
    parcel.members = .ok parcelMembers ∧ parcel.recordType = .ok parcelType ∧
      ∃ member ∈ parcelMembers, member.constantName = "GROSS_WEIGHT" ∧
        MemberPath.resolve ⟨[parcelType]⟩ (.record parcel.name) member.name =
          .error (.unknownMember "gross.weight" (.record "Parcel")) ∧
        ¬ member.Reached ⟨[parcelType]⟩ (.record parcel.name) parcelMembers := by
  refine ⟨rfl, rfl, _, .tail _ (.tail _ (.head _)), by decide +kernel, rfl, ?_⟩
  rintro ⟨path, hresolve, -⟩
  cases hresolve

end Declaration

end RecordQuery

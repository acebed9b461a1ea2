import Mathlib.Data.List.Pairwise
import RecordQuery.Proofs.Conformance

/-!
# Members by name

The members of a record are its visible fields, in their order, as long as no two of their names are
the same ignoring ASCII case. A name then selects one member at most. Its type and its value are
looked up in separate tables, but both are made from the members, so that they are those of one field.
-/

namespace RecordQuery

open Text

namespace Field

def WellFormed (field : Field) : Prop :=
  ∃ naming, Naming.ofAttributes field.attributes = .ok naming

instance (field : Field) : Decidable field.WellFormed :=
  match h : Naming.ofAttributes field.attributes with
  | .ok naming => .isTrue ⟨naming, h⟩
  | .error _ => .isFalse fun ⟨_, hnaming⟩ => nomatch h.symm.trans hnaming

/-- The member that a field becomes, unless its attributes hide it. -/
def member? (field : Field) : Option Member :=
  match Naming.ofAttributes field.attributes with
  | .ok naming => if naming.hidden then none else some ⟨field.queryName naming, field⟩
  | .error _ => none

theorem member?_of_hidden {field : Field} {naming : Naming}
    (h : Naming.ofAttributes field.attributes = .ok naming) (hidden : naming.hidden = true) :
    field.member? = none := by
  rw [member?, h]
  exact if_pos hidden

theorem member?_of_shown {field : Field} {naming : Naming}
    (h : Naming.ofAttributes field.attributes = .ok naming) (shown : naming.hidden = false) :
    field.member? = some ⟨field.queryName naming, field⟩ := by
  rw [member?, h]
  exact if_neg (Bool.eq_false_iff.1 shown)

end Field

namespace Member

/-- No two members have the same name. -/
def Distinct (members : List Member) : Prop :=
  members.Pairwise fun a b => sameName a.name b.name = false

instance (members : List Member) : Decidable (Distinct members) :=
  inferInstanceAs (Decidable (members.Pairwise _))

variable {kept members : List Member} {member : Member} {field : Field} {fields : List Field}
  {naming : Naming} {name : String}

theorem distinct_append_singleton :
    Distinct (kept ++ [member]) ↔
      Distinct kept ∧ (kept.any fun other => sameName other.name member.name) = false := by
  rw [Distinct, List.pairwise_append, ← Distinct, List.any_eq_false]
  simp

theorem ofFields_of_hidden (h : Naming.ofAttributes field.attributes = .ok naming)
    (hidden : naming.hidden = true) :
    ofFields kept (field :: fields) = ofFields kept fields := by
  rw [ofFields, h, ok_bind]
  exact if_pos hidden

theorem ofFields_of_shown (h : Naming.ofAttributes field.attributes = .ok naming)
    (shown : naming.hidden = false) :
    ofFields kept (field :: fields) =
      if kept.any fun other => sameName other.name (field.queryName naming) then
        .error (.duplicateMember (field.queryName naming))
      else ofFields (kept ++ [⟨field.queryName naming, field⟩]) fields := by
  rw [ofFields, h, ok_bind]
  exact if_neg (Bool.eq_false_iff.1 shown)

/-- The members kept so far stay distinct, or the next one is refused. -/
theorem ofFields_eq_ok_iff (distinct : Distinct kept)
    (wellFormed : ∀ field ∈ fields, field.WellFormed) :
    ofFields kept fields = .ok members ↔
      members = kept ++ fields.filterMap Field.member? ∧
        Distinct (kept ++ fields.filterMap Field.member?) := by
  induction fields generalizing kept with
  | nil =>
    rw [ofFields, List.filterMap_nil, List.append_nil]
    constructor
    · intro h
      exact ⟨(Except.ok.inj h).symm, distinct⟩
    · rintro ⟨rfl, -⟩
      rfl
  | cons field fields ih =>
    obtain ⟨⟨naming, hnaming⟩, hrest⟩ := List.forall_mem_cons.1 wellFormed
    cases hhidden : naming.hidden with
    | true =>
      rw [ofFields_of_hidden hnaming hhidden,
        List.filterMap_cons_none (Field.member?_of_hidden hnaming hhidden)]
      exact ih distinct hrest
    | false =>
      rw [ofFields_of_shown hnaming hhidden,
        List.filterMap_cons_some (Field.member?_of_shown hnaming hhidden)]
      split
      · next hused =>
        -- a name used before is used before in the whole list of members too
        refine iff_of_false nofun ?_
        rintro ⟨-, hdistinct⟩
        rw [Distinct, List.append_cons, List.pairwise_append] at hdistinct
        have hfresh := (distinct_append_singleton.1 hdistinct.1).2
        exact Bool.noConfusion (hused.symm.trans hfresh)
      · next hfresh =>
        have hdistinct : Distinct (kept ++ [⟨field.queryName naming, field⟩]) :=
          distinct_append_singleton.2 ⟨distinct, Bool.eq_false_iff.2 hfresh⟩
        have hmembers := ih hdistinct hrest
        rwa [List.append_assoc, List.singleton_append] at hmembers

/-- Attributes that are not well-formed are refused. -/
theorem wellFormed_of_ofFields (h : ofFields kept fields = .ok members) :
    ∀ field ∈ fields, field.WellFormed := by
  induction fields generalizing kept with
  | nil => exact List.forall_mem_nil _
  | cons field fields ih =>
    rw [ofFields] at h
    cases hnaming : Naming.ofAttributes field.attributes with
    | error error =>
      rw [hnaming] at h
      cases h
    | ok naming =>
      rw [hnaming, ok_bind] at h
      refine List.forall_mem_cons.2 ⟨⟨naming, hnaming⟩, ?_⟩
      split at h
      · exact ih h
      · dsimp only at h
        split at h
        · cases h
        · exact ih h

/-- The member that a name selects, if one has that name. -/
def select? (members : List Member) (name : String) : Option Member :=
  members.find? fun member => sameName member.name name

theorem lookup_types (members : List Member) (name : String) :
    lookup (members.map fun member => (member.name, member.field.type)) name =
      (select? members name).map fun member => member.field.type := by
  rw [lookup_map]
  rfl

theorem member_toRecord (members : List Member) (valueOf : String → Value) (name : String) :
    (toRecord members valueOf).member name =
      ((select? members name).map fun member => valueOf member.field.identifier).getD .null := by
  rw [toRecord, Value.member, lookup_map]
  rfl

theorem select?_eq_none_iff :
    select? members name = none ↔ ∀ member ∈ members, sameName member.name name = false := by
  rw [select?, List.find?_eq_none]
  simp only [Bool.not_eq_true]

theorem mem_of_select? (h : select? members name = some member) :
    member ∈ members ∧ sameName member.name name = true := by
  rw [select?] at h
  exact ⟨List.mem_of_find?_eq_some h, by simpa using List.find?_some h⟩

/-- A name selects one of distinct members at most. -/
theorem Distinct.eq_of_sameName (h : Distinct members) {other : Member} (hmember : member ∈ members)
    (hother : other ∈ members) (hname : sameName member.name name = true)
    (hsame : sameName other.name name = true) : other = member := by
  by_contra hne
  have hsymm : Std.Symm fun a b : Member => sameName a.name b.name = false :=
    ⟨fun a b hab => (sameName_comm b.name a.name).trans hab⟩
  have hapart : sameName other.name member.name = false :=
    List.Pairwise.forall h hother hmember hne
  rw [sameName_congr hsame, sameName_comm, hname] at hapart
  exact Bool.noConfusion hapart

theorem Distinct.select?_eq_some_iff (h : Distinct members) :
    select? members name = some member ↔ member ∈ members ∧ sameName member.name name = true := by
  refine ⟨mem_of_select?, ?_⟩
  rintro ⟨hmember, hname⟩
  cases hselect : select? members name with
  | none =>
    rw [select?_eq_none_iff.1 hselect member hmember] at hname
    exact Bool.noConfusion hname
  | some other =>
    obtain ⟨hother, hsame⟩ := mem_of_select? hselect
    rw [h.eq_of_sameName hmember hother hname hsame]

theorem Distinct.select?_name (h : Distinct members) (hmember : member ∈ members) :
    select? members member.name = some member :=
  h.select?_eq_some_iff.2 ⟨hmember, sameName_refl _⟩

end Member

namespace Declaration

variable {declaration : Declaration} {fields : List Field} {members : List Member}

theorem members_eq_ok_iff (hshape : declaration.shape = .record fields)
    (wellFormed : ∀ field ∈ fields, field.WellFormed) :
    declaration.members = .ok members ↔
      members = fields.filterMap Field.member? ∧ Member.Distinct (fields.filterMap Field.member?) := by
  rw [Declaration.members, hshape]
  exact Member.ofFields_eq_ok_iff List.Pairwise.nil wellFormed

theorem distinct_of_members (h : declaration.members = .ok members) : Member.Distinct members := by
  cases hshape : declaration.shape with
  | record fields =>
    have wellFormed : ∀ field ∈ fields, field.WellFormed := by
      rw [Declaration.members, hshape] at h
      exact Member.wellFormed_of_ofFields h
    obtain ⟨rfl, distinct⟩ := (members_eq_ok_iff hshape wellFormed).1 h
    exact distinct
  | _ =>
    rw [Declaration.members, hshape] at h
    cases h

theorem recordType_eq (h : declaration.members = .ok members) :
    declaration.recordType =
      .ok ⟨declaration.name, members.map fun member => (member.name, member.field.type)⟩ := by
  rw [recordType, h]
  rfl

def parcelFields : List Field := [
  { identifier := "label", type := .string },
  { identifier := "r#type", type := .int },
  { identifier := "secret", type := .string, attributes := [[.word "skip"]] },
  { identifier := "weight", type := .optional .float,
    attributes := [[.assignment "rename" (some "gross.weight")]] }]

def parcel : Declaration := ⟨"Parcel", false, .record parcelFields⟩

def parcelMembers : List Member := parcelFields.filterMap Field.member?

def parcelType : RecordType :=
  ⟨"Parcel", [("label", .string), ("type", .int), ("gross.weight", .optional .float)]⟩

end Declaration

end RecordQuery

import Mathlib.Data.List.Nodup
import RecordQuery.Declaration
import RecordQuery.Proofs.Predicate.Folding
import RecordQuery.Proofs.Text.Ascii

/-!
# Variants by name

A variant is known by the name that its attributes give it, else by its identifier. A literal spelled
like that name, in any case of its letters, denotes the discriminant of the variant, and a filter for
the literal holds of that variant only. Not every name can be spelled so: the literal `null` never
denotes a variant, and blanks around a literal do not count.
-/

namespace RecordQuery

open Text

variable {schema : Schema} {root : FieldType} {rules : TextRules} {member : MemberPath}
  {literal : String} {row : Value}

/-- The name that queries are meant to use. -/
def Variant.queryName (variant : Variant) (naming : Naming) : String :=
  naming.rename.getD (String.ofList (withoutKeywordMark variant.identifier.toList))

theorem Variant.queryName_eq {variant : Variant} {naming : Naming}
    (unmarked : naming.rename = none →
      withoutKeywordMark variant.identifier.toList = variant.identifier.toList) :
    variant.queryName naming = naming.rename.getD variant.identifier := by
  unfold queryName
  cases hrename : naming.rename with
  | none => rw [unmarked hrename, String.ofList_toList]
  | some name => rfl

namespace NamedVariant

variable {variants : List NamedVariant} {variant : NamedVariant}

theorem mem_table {name : String} {discriminant : Int64} :
    (name, discriminant) ∈ table variants ↔
      ∃ variant ∈ variants, variant.hidden = false ∧ variant.name = name ∧
        variant.discriminant = discriminant := by
  simp [table, and_assoc]

/-- A variant of the list is named as its declaration says. -/
theorem naming_of_mem_zip {next : Int64} {sources : List Variant} {source : Variant}
    (h : ofVariants next sources = .ok variants) (hmem : (source, variant) ∈ sources.zip variants) :
    ∃ naming, Naming.ofAttributes source.attributes = .ok naming ∧
      variant.name = naming.rename.getD source.identifier ∧ variant.hidden = naming.hidden := by
  induction sources generalizing next variants with
  | nil => cases hmem
  | cons first sources ih =>
    rw [ofVariants] at h
    split at h
    · cases h
    · obtain ⟨naming, hnaming, h⟩ := bind_eq_ok_iff.1 h
      obtain ⟨rest, hrest, h⟩ := bind_eq_ok_iff.1 h
      obtain rfl := Except.ok.inj h
      rw [List.zip_cons_cons, List.mem_cons] at hmem
      rcases hmem with heq | hmem
      · obtain ⟨rfl, rfl⟩ := Prod.mk.inj heq
        exact ⟨naming, hnaming, rfl, rfl⟩
      · exact ih hrest hmem

/-- A visible variant is found by its name if no other visible one has that name. -/
theorem lookup_table {name : String} (hmem : variant ∈ variants) (shown : variant.hidden = false)
    (hname : sameName variant.name name = true)
    (alone : ∀ other ∈ variants, other.hidden = false → sameName other.name variant.name = true →
      other = variant) : lookup (table variants) name = some variant.discriminant := by
  refine lookup_eq_some_of_mem (mem_table.2 ⟨variant, hmem, shown, rfl, rfl⟩) hname ?_
  rintro ⟨otherName, discriminant⟩ hentry hother
  obtain ⟨other, hmemOther, hshown, rfl, rfl⟩ := mem_table.1 hentry
  rw [sameName_comm] at hname
  have hsame : sameName other.name variant.name = true := by
    rw [sameName_comm, ← sameName_congr hname, sameName_comm]
    exact hother
  rw [alone other hmemOther hshown hsame]

end NamedVariant

theorem Constant.coerce_enum {type : FieldType} {name : String} {names : List (String × Int64)}
    {nullIsString : Bool} {property : String} {discriminant : Int64}
    (htype : type.present = .enum name names) (nonnull : literal ≠ "null")
    (hlookup : lookup names (trim literal) = some discriminant) :
    coerce nullIsString type property literal = .ok (.enum discriminant) := by
  have hliteral : isNullLiteral nullIsString type literal = false := by simp [isNullLiteral, nonnull]
  rw [coerce, hliteral, htype]
  simp [ofLiteral?, readVariant?, hlookup, pure, Except.pure]

theorem Predicate.evaluate_eq_enum_iff {discriminant : Int64} {fold : Bool} :
    (comparison member .eq (.enum discriminant) fold).evaluate row = true ↔
      member.read row = some (.enum discriminant) := by
  rw [evaluate]
  cases member.read row with
  | none => simp
  | some w =>
    rw [Option.any_some, Option.some.injEq]
    cases w with
    | enum other =>
      have hcompare : compare other.toInt discriminant.toInt = .eq ↔ other = discriminant := by
        rw [Int.compare_eq_eq, Int64.toInt_inj]
      rw [Value.enum.injEq, ← hcompare]
      simp only [Comparison.holdsOf, Constant.toValue, Value.compare?, Option.any_some]
      cases compare other.toInt discriminant.toInt <;> simp [Comparison.holds]
    | _ => simp [Comparison.holdsOf, Constant.toValue, Value.compare?]

theorem Filter.compile_equals_enum {filter : Filter} {name : String}
    {names : List (String × Int64)} {discriminant : Int64} (hop : filter.operation = .equals)
    (hvalue : filter.value = .literal literal)
    (resolved : MemberPath.resolve schema root filter.property = .ok member)
    (htype : member.type.present = .enum name names) (nonnull : literal ≠ "null")
    (hlookup : lookup names (trim literal) = some discriminant) :
    filter.compile schema rules root =
      .ok (.comparison member .eq (.enum discriminant) false) := by
  have scalar : member.type.isCompound = false := by rw [FieldType.isCompound, htype]
  have other : member.type.isString = false := by rw [FieldType.isString, htype]; rfl
  have hscalar := @compileScalar_of_comparison rules member filter.property literal
    filter.caseSensitive .eq scalar (absurd · Bool.false_ne_true)
  rw [compile_literal hvalue (hop ▸ rfl) resolved, hop]
  rw [other, Bool.false_and, compileComparison, Constant.coerce_enum htype nonnull hlookup] at hscalar
  exact hscalar

namespace Declaration

variable {declaration : Declaration}

theorem enumType_eq {variants : List NamedVariant} (h : declaration.variants = .ok variants) :
    declaration.enumType = .ok (.enum declaration.name (NamedVariant.table variants)) := by
  rw [enumType, h]
  rfl

theorem ofVariants_of_variants {sources : List Variant} {variants : List NamedVariant}
    (hshape : declaration.shape = .enumeration sources)
    (h : declaration.variants = .ok variants) : NamedVariant.ofVariants 0 sources = .ok variants := by
  rw [Declaration.variants, hshape] at h
  cases sources with
  | nil => cases h
  | cons first rest =>
    dsimp only at h
    split at h
    · cases h
    · exact h

/-- A visible variant is selected by its name in any case, if that name has neither a keyword mark nor
blanks around it and no other visible variant has it, and the literal is not `null`. -/
theorem evaluate_equals_variant {sources : List Variant} {variants : List NamedVariant}
    {source : Variant} {variant : NamedVariant} {naming : Naming}
    (hshape : declaration.shape = .enumeration sources) (declared : declaration.variants = .ok variants)
    (hvariant : (source, variant) ∈ sources.zip variants)
    (hnaming : Naming.ofAttributes source.attributes = .ok naming) (shown : naming.hidden = false)
    (unmarked : naming.rename = none →
      withoutKeywordMark source.identifier.toList = source.identifier.toList)
    (unpadded : trim (source.queryName naming) = source.queryName naming)
    (alone : ∀ other ∈ variants, other.hidden = false →
      sameName other.name (source.queryName naming) = true → other = variant)
    (named : sameName literal (source.queryName naming) = true) (nonnull : literal ≠ "null") :
    ∃ enumType, declaration.enumType = .ok enumType ∧
      (∀ (type : FieldType) (nullIsString : Bool) (property : String), type.present = enumType →
        Constant.coerce nullIsString type property literal = .ok (.enum variant.discriminant)) ∧
      ∀ (schema : Schema) (root : FieldType) (rules : TextRules) (filter : Filter)
        (member : MemberPath), filter.operation = .equals → filter.value = .literal literal →
        MemberPath.resolve schema root filter.property = .ok member →
        member.type.present = enumType →
        ∃ predicate, filter.compile schema rules root = .ok predicate ∧
          (∀ row, predicate.evaluate row = true ↔
            member.read row = some (.enum variant.discriminant)) ∧
          ((variants.map NamedVariant.discriminant).Nodup → ∀ row, ∀ other ∈ variants,
            member.read row = some (.enum other.discriminant) →
            (predicate.evaluate row = true ↔ other = variant)) := by
  have hmem : variant ∈ variants := (List.of_mem_zip hvariant).2
  obtain ⟨_, hsame, hname, hhidden⟩ :=
    NamedVariant.naming_of_mem_zip (ofVariants_of_variants hshape declared) hvariant
  obtain rfl := Except.ok.inj (hsame.symm.trans hnaming)
  rw [← Variant.queryName_eq unmarked] at hname
  rw [← hname] at unpadded alone named
  -- the literal is looked up without its blanks; a name without any is spelled by no blanks either
  have htrim : sameName variant.name (trim literal) = true := by
    rw [← unpadded, sameName_comm]
    exact sameName_trim named
  have hlookup := NamedVariant.lookup_table hmem (hhidden.trans shown) htrim alone
  refine ⟨_, enumType_eq declared, ?_, ?_⟩
  · intro type nullIsString property htype
    exact Constant.coerce_enum htype nonnull hlookup
  · intro schema root rules filter member hop hvalue resolved htype
    refine ⟨_, Filter.compile_equals_enum hop hvalue resolved htype nonnull hlookup, ?_, ?_⟩
    · intro row
      exact Predicate.evaluate_eq_enum_iff
    · intro distinct row other hother hread
      rw [Predicate.evaluate_eq_enum_iff, hread, Option.some.injEq, Value.enum.injEq]
      constructor
      · exact List.inj_on_of_nodup_map distinct hother hmem
      · rintro rfl
        rfl

/-- The roles of players. -/
def role : Declaration where
  name := "Role"
  shape := .enumeration [
    { identifier := "Keeper", discriminant := some 10,
      attributes := [[.assignment "rename" (some "goalkeeper")]] },
    { identifier := "Coach", attributes := [[.word "skip"]] },
    { identifier := "Null" },
    { identifier := "Bench", attributes := [[.assignment "rename" (some " bench")]] }]

def roleType : FieldType :=
  .enum "Role" [("goalkeeper", 10), ("Null", 12), (" bench", 13)]

def keepers : Filter where
  property := "_"
  value := .literal "GoalKeeper"
  operation := .equals

/-- Keepers are selected by the name of their role; coaches are not. -/
theorem evaluate_keepers :
    ∃ predicate, keepers.compile .players {} (.optional roleType) = .ok predicate ∧
      predicate.evaluate (.enum 10) = true ∧ predicate.evaluate (.enum 11) = false := by
  obtain ⟨_, htype, -, hfilter⟩ := @evaluate_equals_variant "GoalKeeper" role _ _ _
    ⟨"goalkeeper", "Keeper", 10, false⟩ ⟨false, some "goalkeeper"⟩ rfl rfl List.mem_cons_self rfl rfl
    nofun (by decide) (by decide) (by decide) (by decide)
  obtain rfl := Except.ok.inj htype
  obtain ⟨predicate, compiled, hmatches, -⟩ := hfilter .players (.optional roleType) {} keepers
    ⟨[], .optional roleType, true⟩ rfl rfl rfl rfl
  refine ⟨predicate, compiled, (hmatches _).2 rfl, ?_⟩
  rw [Bool.eq_false_iff, ne_eq, hmatches]
  exact nofun

/-- Some visible variants are not selected by their names: the literal `null` is refused, and a name
that begins with a blank is not found. -/
theorem not_coerce_role :
    ∃ sources variants, role.shape = .enumeration sources ∧ role.variants = .ok variants ∧
      role.enumType = .ok roleType ∧
      ∀ literal ∈ ["null", " bench"], ∃ source variant naming,
        (source, variant) ∈ sources.zip variants ∧
        Naming.ofAttributes source.attributes = .ok naming ∧ naming.hidden = false ∧
        sameName literal (source.queryName naming) = true ∧
        Constant.coerce false roleType "role" literal ≠ .ok (.enum variant.discriminant) := by
  refine ⟨_, _, rfl, rfl, rfl, ?_⟩
  simp only [List.forall_mem_cons]
  refine ⟨?_, ?_, List.forall_mem_nil _⟩
  · exact ⟨_, _, {}, .tail _ (.tail _ (.head _)), rfl, rfl, by decide, by decide⟩
  · exact ⟨_, _, ⟨false, some " bench"⟩, .tail _ (.tail _ (.tail _ (.head _))), rfl, rfl,
      by decide, by decide⟩

end Declaration

end RecordQuery

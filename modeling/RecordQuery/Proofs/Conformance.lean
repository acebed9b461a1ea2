import RecordQuery.Declaration
import RecordQuery.MemberPath
import RecordQuery.Proofs.Outcome
import RecordQuery.Proofs.Value.Order

/-!
# Values of a declared type

`Conforms schema type v` says that `v` is a value of the type: records have a value of its declared
type for every member and nothing else, and only options may be missing. What a path reads from such
a value is missing or a value of the type that the path leads to.
-/

namespace RecordQuery

inductive Conforms (schema : Schema) : FieldType → Value → Prop
  | string {s : String} : Conforms schema .string (.string s)
  | int {n : Int64} : Conforms schema .int (.number (.int n))
  | uint {n : UInt64} : Conforms schema .uint (.number (.uint n))
  | float {x : Binary64} : Conforms schema .float (.number (.float x))
  | bool {b : Bool} : Conforms schema .bool (.bool b)
  | timestamp {t : Timestamp} : Conforms schema .timestamp (.timestamp t)
  | enum {name : String} {variants : List (String × Int64)} {d : Int64} :
    Conforms schema (.enum name variants) (.enum d)
  | record {name : String} {members : List (String × Value)}
    (declared : ∀ member type, schema.member? name member = some type →
      Conforms schema type ((Value.record members).member member))
    (others : ∀ member, schema.member? name member = none →
      (Value.record members).member member = .null) :
    Conforms schema (.record name) (.record members)
  | list {element : FieldType} {items : List Value}
    (all : ∀ item ∈ items, Conforms schema element item) :
    Conforms schema (.list element) (.list items)
  | absent {inner : FieldType} : Conforms schema (.optional inner) .null
  | present {inner : FieldType} {v : Value} (h : Conforms schema inner v) :
    Conforms schema (.optional inner) v

namespace FieldType

/-- The kind of the values of a type that are not missing. -/
def kind : FieldType → Kind
  | string => .string
  | int => .number .int
  | uint => .number .uint
  | float => .number .float
  | bool => .bool
  | timestamp => .timestamp
  | enum _ _ => .enum
  | record _ => .record
  | list _ => .list
  | optional inner => inner.kind

@[simp] theorem kind_present (type : FieldType) : type.present.kind = type.kind := by
  induction type <;> simp_all [present, kind]

/-- The type that the names lead to. -/
def along? (schema : Schema) : FieldType → List String → Option FieldType
  | type, [] => some type
  | type, name :: names => (type.member? schema name).bind fun next => next.along? schema names

end FieldType

variable {schema : Schema} {root type : FieldType} {v : Value}

namespace Conforms

theorem kind_eq (h : Conforms schema type v) : v = .null ∨ v.kind = type.kind := by
  induction h with
  | absent => exact .inl rfl
  | present _ ih => exact ih
  | _ => exact .inr rfl

theorem of_present (h : Conforms schema type v) : v = .null ∨ Conforms schema type.present v := by
  induction h with
  | absent => exact .inl rfl
  | present _ ih => exact ih
  | record declared others => exact .inr (.record declared others)
  | list all => exact .inr (.list all)
  | _ => exact .inr (by constructor)

theorem item {element : FieldType} {items : List Value} (h : Conforms schema type (.list items))
    (helement : type.element? = some element) : ∀ item ∈ items, Conforms schema element item := by
  unfold FieldType.element? at helement
  rcases h.of_present with hnull | hpresent
  · cases hnull
  · generalize type.present = present at helement hpresent
    cases hpresent with
    | list all => exact Option.some.inj helement ▸ all
    | present _ => cases helement

theorem member (h : Conforms schema type v) (name : String) :
    v.member name = .null ∨
      ∃ next, type.member? schema name = some next ∧ Conforms schema next (v.member name) := by
  rcases h.of_present with rfl | hpresent
  · exact .inl rfl
  · have hoption := FieldType.isOptional_present type
    unfold FieldType.member?
    generalize type.present = present at hoption hpresent
    cases hpresent with
    | @record recordName _ declared others =>
      cases hmember : schema.member? recordName name with
      | none => exact .inl (others name hmember)
      | some next => exact .inr ⟨next, hmember, declared name next hmember⟩
    | absent | present _ => cases hoption
    | _ => exact .inl rfl

end Conforms

namespace MemberPath

theorem readSegments_cons_cons (name next : String) (names : List String) (v : Value) :
    readSegments (name :: next :: names) v =
      if (v.member name).isRecord then readSegments (next :: names) (v.member name) else none := rfl

theorem conforms_of_readSegments {names : List String} {w : Value} (h : Conforms schema root v)
    (hread : readSegments names v = some w) :
    w = .null ∨ ∃ type, root.along? schema names = some type ∧ Conforms schema type w := by
  induction names generalizing root v with
  | nil => exact .inr ⟨root, rfl, Option.some.inj hread ▸ h⟩
  | cons name names ih =>
    rcases h.member name with hnull | ⟨next, hnext, hmember⟩
    · cases names with
      | nil => exact .inl (Option.some.inj hread ▸ hnull)
      | cons => simp [readSegments_cons_cons, hnull, Value.isRecord] at hread
    · rw [FieldType.along?, hnext, Option.bind_some]
      cases names with
      | nil => exact ih hmember hread
      | cons =>
        rw [readSegments_cons_cons] at hread
        split at hread
        · exact ih hmember hread
        · cases hread

/-- A property is the element itself or followed along the names between its dots. -/
theorem resolve_cases {property : String} {path : MemberPath}
    (h : resolve schema root property = .ok path) :
    (Text.trim property = "_" ∧ path = ⟨[], root, root.isOptional⟩) ∨
      (Text.trim property ≠ "_" ∧ path.segments = Text.splitAll '.' (Text.trim property) ∧
        follow schema (Text.trim property) root path.segments = .ok (path.type, path.nullable)) := by
  unfold resolve at h
  dsimp only at h
  split at h
  · cases h
  split at h
  · next hself =>
    obtain rfl := Except.ok.inj h
    exact .inl ⟨hself, rfl⟩
  · next hself =>
    generalize Text.splitAll '.' (Text.trim property) = segments at h ⊢
    obtain ⟨⟨type, nullable⟩, hfollow, h⟩ := bind_eq_ok_iff.1 h
    obtain rfl := Except.ok.inj h
    exact .inr ⟨hself, rfl, hfollow⟩

theorem along?_of_follow {path : String} {names : List String} {nullable : Bool}
    (h : follow schema path root names = .ok (type, nullable)) :
    root.along? schema names = some type := by
  induction names generalizing root nullable with
  | nil =>
    obtain ⟨rfl, -⟩ := Prod.mk.inj (Except.ok.inj h)
    rfl
  | cons name names ih =>
    rw [follow] at h
    rw [FieldType.along?]
    cases hnext : root.member? schema name with
    | none =>
      rw [hnext] at h
      cases h
    | some next =>
      rw [hnext] at h
      obtain ⟨⟨rest, _⟩, hrest, h⟩ := bind_eq_ok_iff.1 h
      obtain ⟨rfl, -⟩ := Prod.mk.inj (Except.ok.inj h)
      exact ih hrest

/-- The path leads from the root to its type. -/
def From (schema : Schema) (root : FieldType) (path : MemberPath) : Prop :=
  root.along? schema path.segments = some path.type

theorem from_of_resolve {property : String} {path : MemberPath}
    (h : resolve schema root property = .ok path) : path.From schema root := by
  rcases resolve_cases h with ⟨-, rfl⟩ | ⟨-, -, hfollow⟩
  · rfl
  · exact along?_of_follow hfollow

/-- What a path reads is missing or of the type of the path. -/
theorem From.conforms_of_read {path : MemberPath} {w : Value} (hpath : path.From schema root)
    (h : Conforms schema root v) (hread : path.read v = some w) :
    w = .null ∨ Conforms schema path.type w := by
  rcases conforms_of_readSegments h hread with hnull | ⟨type, htype, hw⟩
  · exact .inl hnull
  · rw [hpath] at htype
    exact .inr (Option.some.inj htype ▸ hw)

theorem From.kind_of_read {path : MemberPath} {w : Value} (hpath : path.From schema root)
    (h : Conforms schema root v) (hread : path.read v = some w) :
    w = .null ∨ w.kind = path.type.kind := by
  rcases hpath.conforms_of_read h hread with hnull | hw
  · exact .inl hnull
  · exact hw.kind_eq

end MemberPath

theorem lookup_map {α β : Type} (f : α → String × β) (entries : List α) (name : String) :
    Text.lookup (entries.map f) name =
      (entries.find? fun entry => Text.sameName (f entry).1 name).map fun entry => (f entry).2 := by
  rw [Text.lookup, List.find?_map, Option.map_map]
  rfl

/-- A record that has the members of its type, each with a value of its type, conforms. -/
theorem conforms_record_of_members {name : String} {members : List (String × FieldType × Value)}
    (hfind : schema.find? name =
      some ⟨name, members.map fun (member, type, _) => (member, type)⟩)
    (hvalues : ∀ member ∈ members, Conforms schema member.2.1 member.2.2) :
    Conforms schema (.record name) (.record (members.map fun (member, _, v) => (member, v))) := by
  have hmember (member : String) : schema.member? name member =
      (members.find? fun entry => Text.sameName entry.1 member).map (·.2.1) := by
    rw [Schema.member?, hfind, Option.bind_some, lookup_map]
  have hvalue (member : String) :
      (Value.record (members.map fun (member, _, v) => (member, v))).member member =
        ((members.find? fun entry => Text.sameName entry.1 member).map (·.2.2)).getD .null := by
    rw [Value.member, lookup_map]
  apply Conforms.record
  · intro member type hdeclared
    obtain ⟨entry, hfound, rfl⟩ := Option.map_eq_some_iff.1 (hmember member ▸ hdeclared)
    rw [hvalue, hfound]
    exact hvalues entry (List.mem_of_find?_eq_some hfound)
  · intro member hother
    have hfound := Option.map_eq_none_iff.1 (hmember member ▸ hother)
    rw [hvalue, hfound]
    rfl

/-- The record of a declaration conforms to its type if its fields do. -/
theorem conforms_toRecord {declaration : Declaration} {members : List Member}
    {recordType : RecordType} {valueOf : String → Value}
    (hmembers : declaration.members = .ok members) (htype : declaration.recordType = .ok recordType)
    (hfind : schema.find? declaration.name = some recordType)
    (hvalues : ∀ member ∈ members,
      Conforms schema member.field.type (valueOf member.field.identifier)) :
    Conforms schema (.record declaration.name) (Member.toRecord members valueOf) := by
  rw [Declaration.recordType, hmembers] at htype
  obtain rfl := Except.ok.inj htype
  have hrecord : Member.toRecord members valueOf =
      .record ((members.map fun member =>
        (member.name, member.field.type, valueOf member.field.identifier)).map
          fun (name, _, v) => (name, v)) := by
    rw [List.map_map]
    rfl
  rw [hrecord]
  apply conforms_record_of_members
  · rw [hfind, List.map_map]
    rfl
  · intro entry hentry
    obtain ⟨member, hmember, rfl⟩ := List.mem_map.1 hentry
    exact hvalues member hmember

/-- Players with a name, perhaps an age, scores and perhaps another player as captain. -/
def Schema.players : Schema where
  records := [⟨"Player", [("name", .string), ("age", .optional .int), ("scores", .list .int),
    ("captain", .optional (.record "Player"))]⟩]

def player (name : String) (age : Option Int64) (scores : List Int64) (captain : Value) : Value :=
  .record [("name", .string name), ("age", age.elim .null fun n => .number (.int n)),
    ("scores", .list (scores.map fun n => .number (.int n))), ("captain", captain)]

theorem conforms_player (name : String) (age : Option Int64) (scores : List Int64) {captain : Value}
    (h : Conforms .players (.optional (.record "Player")) captain) :
    Conforms .players (.record "Player") (player name age scores captain) := by
  refine @conforms_record_of_members .players "Player" [("name", .string, .string name),
    ("age", .optional .int, age.elim .null fun n => .number (.int n)),
    ("scores", .list .int, .list (scores.map fun n => .number (.int n))),
    ("captain", .optional (.record "Player"), captain)] rfl ?_
  simp only [List.forall_mem_cons]
  refine ⟨.string, ?_, .list ?_, h, List.forall_mem_nil _⟩
  · cases age with
    | none => exact .absent
    | some n => exact .present .int
  · intro item hitem
    obtain ⟨n, -, rfl⟩ := List.mem_map.1 hitem
    exact .int

def captain : Value := player "Ada" (some 36) [7, 18] .null

def squad : List Value :=
  [player "Bo" (some 17) [] captain, captain, player "cy" none [18] captain,
    player "Di" (some 29) [4] .null]

theorem conforms_captain : Conforms .players (.record "Player") captain :=
  conforms_player "Ada" (some 36) [7, 18] .absent

theorem conforms_squad : ∀ row ∈ squad, Conforms .players (.record "Player") row := by
  simp only [squad, List.forall_mem_cons]
  exact ⟨conforms_player _ _ _ (.present conforms_captain), conforms_captain,
    conforms_player _ _ _ (.present conforms_captain), conforms_player _ _ _ .absent,
    List.forall_mem_nil _⟩

end RecordQuery

import RecordQuery.Value.Order

/-!
# The order of values of one kind

Exchanging two values reverses their order, whatever they are. Among the values of one kind and the
missing ones, NaN left out, the order is also transitive. Values of different kinds do not compare:
they would tie with everything.
-/

namespace RecordQuery

open Std

instance : TransCmp collateIgnoreCase :=
  inferInstanceAs (TransCmp (compareOn letterKey))

instance : TransCmp collate :=
  inferInstanceAs (TransCmp
    (compareLex (compareOn letterKey) (compareLex (compareOn caseKey) (compareOn String.toList))))

inductive NumberKind
  | int | uint | float
deriving DecidableEq

/-- The constructor of a value, with the variant of a number. -/
inductive Kind
  | string | number (variant : NumberKind) | timestamp | enum | bool | record | list | null
deriving DecidableEq

namespace Number

def kind : Number → NumberKind
  | int _ => .int
  | uint _ => .uint
  | float _ => .float

/-- Numbers of one variant compare as their ranks do. -/
def rank : Number → Int
  | int n => n.toInt
  | uint n => n.toNat
  | float x => x.rank

theorem compare?_of_kind {m n : Number} (h : m.kind = n.kind) :
    m.compare? n = if m.isNaN || n.isNaN then none else some (compare m.rank n.rank) := by
  cases m <;> cases n <;> simp only [kind, reduceCtorEq] at h <;> rfl

theorem compare?_swap (m n : Number) : n.compare? m = (m.compare? n).map Ordering.swap := by
  have float_swap (x y : Binary64) :
      Binary64.compare? y x = (Binary64.compare? x y).map Ordering.swap := by
    unfold Binary64.compare?
    rw [Bool.or_comm, OrientedOrd.eq_swap (a := y.rank)]
    split <;> rfl
  unfold compare?
  cases m.integer? with
  | none => cases n.integer? <;> exact float_swap _ _
  | some i =>
    cases n.integer? with
    | none => exact float_swap _ _
    | some j => exact congrArg some OrientedOrd.eq_swap

end Number

namespace Value

def kind : Value → Kind
  | string _ => .string
  | number n => .number n.kind
  | timestamp _ => .timestamp
  | enum _ => .enum
  | bool _ => .bool
  | record _ => .record
  | list _ => .list
  | null => .null

def isNaN : Value → Bool
  | number n => n.isNaN
  | _ => false

theorem kind_eq_string {v : Value} : v.kind = .string ↔ ∃ s, v = string s := by
  cases v <;> simp [kind]

theorem kind_eq_list {v : Value} : v.kind = .list ↔ ∃ items, v = list items := by
  cases v <;> simp [kind]

theorem compare?_swap (ignoreCase : Bool) (v w : Value) :
    w.compare? ignoreCase v = (v.compare? ignoreCase w).map Ordering.swap := by
  cases v <;> cases w
  case string.string s t =>
    cases ignoreCase
    · exact congrArg some (@OrientedCmp.eq_swap _ collate _ t s)
    · exact congrArg some (@OrientedCmp.eq_swap _ collateIgnoreCase _ t s)
  case number.number m n => exact Number.compare?_swap m n
  case timestamp.timestamp => exact congrArg some OrientedOrd.eq_swap
  case enum.enum => exact congrArg some OrientedOrd.eq_swap
  case bool.bool => exact congrArg some OrientedOrd.eq_swap
  all_goals rfl

/-- Values that do not compare tie. -/
def order (ignoreCase : Bool) (v w : Value) : Ordering := (v.compare? ignoreCase w).getD .eq

instance (ignoreCase : Bool) : OrientedCmp (order ignoreCase) where
  eq_swap {v w} := by
    rw [order, order, compare?_swap ignoreCase w v]
    cases w.compare? ignoreCase v <;> rfl

theorem compare?_eq_none_iff {ignoreCase : Bool} {v w : Value} (h : v.kind = w.kind)
    (scalar : v.kind ≠ .record ∧ v.kind ≠ .list) :
    v.compare? ignoreCase w = none ↔ v.isNaN = true ∨ w.isNaN = true := by
  cases v <;> cases w <;> simp only [kind, Kind.number.injEq, reduceCtorEq] at h
  case number.number m n =>
    simp only [compare?, isNaN, Number.compare?_of_kind h]
    cases m.isNaN <;> cases n.isNaN <;> simp
  case record.record => exact absurd rfl scalar.1
  case list.list => exact absurd rfl scalar.2
  all_goals simp [compare?, isNaN]

theorem isLE_order_null (ignoreCase : Bool) (v : Value) : (v.order ignoreCase null).isLE := by
  cases v <;> rfl

theorem eq_null_of_isLE_order {ignoreCase : Bool} {v : Value}
    (h : (null.order ignoreCase v).isLE) : v = null := by
  cases v with
  | null => rfl
  | _ => cases h

theorem isLE_order_trans_of_kind {ignoreCase : Bool} {u v w : Value} (huv : u.kind = v.kind)
    (hvw : v.kind = w.kind) (hu : u.isNaN = false) (hv : v.isNaN = false) (hw : w.isNaN = false) :
    (u.order ignoreCase v).isLE → (v.order ignoreCase w).isLE → (u.order ignoreCase w).isLE := by
  cases u <;> cases v <;> simp only [kind, Kind.number.injEq, reduceCtorEq] at huv <;>
    cases w <;> simp only [kind, Kind.number.injEq, reduceCtorEq] at hvw
  case string.string.string r s t =>
    cases ignoreCase
    · exact @TransCmp.isLE_trans _ collate _ r s t
    · exact @TransCmp.isLE_trans _ collateIgnoreCase _ r s t
  case number.number.number l m n =>
    simp only [isNaN] at hu hv hw
    simp only [order, compare?, Number.compare?_of_kind huv, Number.compare?_of_kind hvw,
      Number.compare?_of_kind (huv.trans hvw), hu, hv, hw]
    exact TransOrd.isLE_trans
  case timestamp.timestamp.timestamp => exact TransOrd.isLE_trans (α := Int)
  case enum.enum.enum => exact TransOrd.isLE_trans (α := Int)
  case bool.bool.bool => exact TransOrd.isLE_trans (α := Bool)
  all_goals exact fun _ _ => rfl

/-- A value that is missing or of the kind, and no NaN. -/
def Fits (kind : Kind) (v : Value) : Prop := v = null ∨ v.kind = kind ∧ v.isNaN = false

theorem isLE_order_trans {ignoreCase : Bool} {kind : Kind} {u v w : Value} (hu : u.Fits kind)
    (hv : v.Fits kind) (hw : w.Fits kind) (huv : (u.order ignoreCase v).isLE)
    (hvw : (v.order ignoreCase w).isLE) : (u.order ignoreCase w).isLE := by
  rcases hw with rfl | ⟨hwk, hwn⟩
  · exact isLE_order_null ignoreCase u
  rcases hv with rfl | ⟨hvk, hvn⟩
  · obtain rfl := eq_null_of_isLE_order hvw
    exact isLE_order_null ignoreCase u
  rcases hu with rfl | ⟨huk, hun⟩
  · obtain rfl := eq_null_of_isLE_order huv
    exact hvw
  exact isLE_order_trans_of_kind (huk.trans hvk.symm) (hvk.trans hwk.symm) hun hvn hwn huv hvw

end Value

end RecordQuery

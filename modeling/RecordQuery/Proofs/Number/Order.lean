import RecordQuery.Proofs.Number.Rounding
import RecordQuery.Proofs.Value.Order

/-!
# The order of numbers of all kinds

Rounding keeps integers in order, so that the exact comparison of two integers never contradicts the
rounded ones beside floating-point numbers: what comes before stays before. Equality is coarser. Two
integers may round to one floating-point number and both equal it, though not each other.
-/

namespace RecordQuery.Number

variable {a b c : Number} {m n : Int}

theorem toFloat_of_integer? (h : a.integer? = some n) : a.toFloat = .ofInt n := by
  cases a with
  | int | uint =>
    obtain rfl := Option.some.inj h
    rfl
  | float => cases h

theorem isNaN_toFloat (a : Number) : a.toFloat.isNaN = a.isNaN := by
  cases a with
  | int | uint => exact Binary64.isNaN_ofInt _
  | float => rfl

theorem compare?_of_integers (ha : a.integer? = some m) (hb : b.integer? = some n) :
    a.compare? b = some (compare m n) := by
  rw [compare?, ha, hb]

theorem compare?_of_rounded (rounded : a.integer? = none ∨ b.integer? = none)
    (ha : a.isNaN = false) (hb : b.isNaN = false) :
    a.compare? b = some (compare a.toFloat.rank b.toFloat.rank) := by
  have hfloats : a.compare? b = Binary64.compare? a.toFloat b.toFloat := by
    rcases rounded with h | h
    · rw [compare?, h]
    · cases hm : a.integer? <;> rw [compare?, hm, h]
  rw [hfloats, Binary64.compare?_eq_some_iff, isNaN_toFloat, isNaN_toFloat]
  exact ⟨ha, hb, rfl⟩

theorem exists_compare? (ha : a.isNaN = false) (hb : b.isNaN = false) :
    ∃ o, a.compare? b = some o := by
  cases hm : a.integer? with
  | none => exact ⟨_, compare?_of_rounded (.inl hm) ha hb⟩
  | some m =>
    cases hn : b.integer? with
    | none => exact ⟨_, compare?_of_rounded (.inr hn) ha hb⟩
    | some n => exact ⟨_, compare?_of_integers hm hn⟩

/-- What comes before is not rounded to what comes after. -/
theorem rank_le_of_compare?_lt (ha : a.isNaN = false) (hb : b.isNaN = false)
    (h : a.compare? b = some .lt) : a.toFloat.rank ≤ b.toFloat.rank := by
  by_cases rounded : a.integer? = none ∨ b.integer? = none
  · rw [compare?_of_rounded rounded ha hb] at h
    exact (Int.compare_eq_lt.1 (Option.some.inj h)).le
  · rw [not_or, ← ne_eq, ← ne_eq, Option.ne_none_iff_exists', Option.ne_none_iff_exists'] at rounded
    obtain ⟨⟨m, hm⟩, n, hn⟩ := rounded
    rw [compare?_of_integers hm hn] at h
    rw [toFloat_of_integer? hm, toFloat_of_integer? hn]
    exact Binary64.rank_ofInt_mono (Int.compare_eq_lt.1 (Option.some.inj h)).le

theorem rank_lt_of_compare?_lt (ha : a.isNaN = false) (hb : b.isNaN = false)
    (rounded : a.integer? = none ∨ b.integer? = none) (h : a.compare? b = some .lt) :
    a.toFloat.rank < b.toFloat.rank := by
  rw [compare?_of_rounded rounded ha hb] at h
  exact Int.compare_eq_lt.1 (Option.some.inj h)

theorem rank_eq_of_compare?_eq (ha : a.isNaN = false) (hb : b.isNaN = false)
    (h : a.compare? b = some .eq) : a.toFloat.rank = b.toFloat.rank := by
  by_cases rounded : a.integer? = none ∨ b.integer? = none
  · rw [compare?_of_rounded rounded ha hb] at h
    exact Int.compare_eq_eq.1 (Option.some.inj h)
  · rw [not_or, ← ne_eq, ← ne_eq, Option.ne_none_iff_exists', Option.ne_none_iff_exists'] at rounded
    obtain ⟨⟨m, hm⟩, n, hn⟩ := rounded
    rw [compare?_of_integers hm hn] at h
    obtain rfl := Int.compare_eq_eq.1 (Option.some.inj h)
    rw [toFloat_of_integer? hm, toFloat_of_integer? hn]

theorem compare?_lt_trans (ha : a.isNaN = false) (hb : b.isNaN = false) (hc : c.isNaN = false)
    (hab : a.compare? b = some .lt) (hbc : b.compare? c = some .lt) : a.compare? c = some .lt := by
  have habRank := rank_le_of_compare?_lt ha hb hab
  have hbcRank := rank_le_of_compare?_lt hb hc hbc
  cases hm : a.integer? with
  | none =>
    have hstrict := rank_lt_of_compare?_lt ha hb (.inl hm) hab
    rw [compare?_of_rounded (.inl hm) ha hc, Int.compare_eq_lt.2 (hstrict.trans_le hbcRank)]
  | some m =>
    cases hn : c.integer? with
    | none =>
      have hstrict := rank_lt_of_compare?_lt hb hc (.inr hn) hbc
      rw [compare?_of_rounded (.inr hn) ha hc, Int.compare_eq_lt.2 (habRank.trans_lt hstrict)]
    | some n =>
      rw [compare?_of_integers hm hn, Option.some.injEq, Int.compare_eq_lt]
      cases hl : b.integer? with
      | none =>
        -- between the two integers lies a number they are rounded to different sides of
        have hstrict := rank_lt_of_compare?_lt ha hb (.inr hl) hab
        by_contra hle
        have hmono := Binary64.rank_ofInt_mono (Int.not_lt.1 hle)
        rw [← toFloat_of_integer? hm, ← toFloat_of_integer? hn] at hmono
        exact absurd (hstrict.trans_le hbcRank) hmono.not_gt
      | some l =>
        rw [compare?_of_integers hm hl, Option.some.injEq, Int.compare_eq_lt] at hab
        rw [compare?_of_integers hl hn, Option.some.injEq, Int.compare_eq_lt] at hbc
        exact hab.trans hbc

/-- If both are integers, they are the same one. -/
def SameInteger (a b : Number) : Prop :=
  ∀ m n, a.integer? = some m → b.integer? = some n → m = n

/-- If it is an integer, rounding leaves it as it is. -/
def KeptByRounding (a : Number) : Prop := ∀ n, a.integer? = some n → n.natAbs ≤ 2 ^ 53

theorem compare?_eq_trans_iff (ha : a.isNaN = false) (hb : b.isNaN = false) (hc : c.isNaN = false)
    (hab : a.compare? b = some .eq) (hbc : b.compare? c = some .eq) :
    a.compare? c = some .eq ↔ a.SameInteger c := by
  have hrank := (rank_eq_of_compare?_eq ha hb hab).trans (rank_eq_of_compare?_eq hb hc hbc)
  constructor
  · intro h m n hm hn
    rw [compare?_of_integers hm hn] at h
    exact Int.compare_eq_eq.1 (Option.some.inj h)
  · intro same
    cases hm : a.integer? with
    | none => rw [compare?_of_rounded (.inl hm) ha hc, Int.compare_eq_eq.2 hrank]
    | some m =>
      cases hn : c.integer? with
      | none => rw [compare?_of_rounded (.inr hn) ha hc, Int.compare_eq_eq.2 hrank]
      | some n => rw [compare?_of_integers hm hn, Int.compare_eq_eq.2 (same m n hm hn)]

theorem sameInteger_of_compare?_eq (ha : a.isNaN = false) (hb : b.isNaN = false)
    (hc : c.isNaN = false) (hab : a.compare? b = some .eq) (hbc : b.compare? c = some .eq)
    (kept : b.integer?.isSome = true ∨ a.KeptByRounding ∧ c.KeptByRounding) : a.SameInteger c := by
  intro m n hm hn
  rcases kept with hinteger | ⟨hakept, hckept⟩
  · obtain ⟨l, hl⟩ := Option.isSome_iff_exists.1 hinteger
    rw [compare?_of_integers hm hl, Option.some.injEq, Int.compare_eq_eq] at hab
    rw [compare?_of_integers hl hn, Option.some.injEq, Int.compare_eq_eq] at hbc
    exact hab.trans hbc
  · have hrank := (rank_eq_of_compare?_eq ha hb hab).trans (rank_eq_of_compare?_eq hb hc hbc)
    rw [toFloat_of_integer? hm, toFloat_of_integer? hn] at hrank
    rcases Int.lt_trichotomy m n with h | h | h
    · exact absurd hrank (Binary64.rank_ofInt_lt h (hakept m hm) (hckept n hn)).ne
    · exact h
    · exact absurd hrank (Binary64.rank_ofInt_lt h (hckept n hn) (hakept m hm)).ne'

/-- Numbers of all kinds are ordered coherently, but for one thing: a floating-point number may equal
two different integers, one of them beyond `2 ^ 53`. -/
theorem compare?_coherent (ha : a.isNaN = false) (hb : b.isNaN = false) (hc : c.isNaN = false) :
    (∃ o, a.compare? b = some o) ∧
    b.compare? a = (a.compare? b).map Ordering.swap ∧
    (a.compare? b = some .lt → b.compare? c = some .lt → a.compare? c = some .lt) ∧
    (a.compare? b = some .eq → b.compare? c = some .eq →
      (a.compare? c = some .eq ↔ a.SameInteger c) ∧
      (b.integer?.isSome = true ∨ a.KeptByRounding ∧ c.KeptByRounding →
        a.compare? c = some .eq)) := by
  refine ⟨exists_compare? ha hb, compare?_swap a b, compare?_lt_trans ha hb hc, ?_⟩
  intro hab hbc
  have hequal := compare?_eq_trans_iff ha hb hc hab hbc
  refine ⟨hequal, ?_⟩
  intro kept
  exact hequal.2 (sameInteger_of_compare?_eq ha hb hc hab hbc kept)

/-- A half lies between two integers of different kinds. -/
theorem compare?_half :
    let half := Number.float (.ofRatio false 1 2)
    (Number.int (-1)).compare? half = some .lt ∧ half.compare? (.uint 1) = some .lt ∧
      (Number.int (-1)).compare? (.uint 1) = some .lt := by
  intro half
  have hbelow : (Number.int (-1)).compare? half = some .lt := by decide
  have habove : half.compare? (.uint 1) = some .lt := by decide
  obtain ⟨-, -, htrans, -⟩ := @compare?_coherent (.int (-1)) half (.uint 1) rfl rfl rfl
  exact ⟨hbelow, habove, htrans hbelow habove⟩

/-- The number `2 ^ 53` equals the integer of that value and the next one. -/
theorem compare?_two_pow_53 :
    let next := Number.int 9007199254740993
    let power := Number.float (.ofInt 9007199254740992)
    let same := Number.uint 9007199254740992
    next.isNaN = false ∧ power.isNaN = false ∧ same.isNaN = false ∧
      next.compare? power = some .eq ∧ power.compare? same = some .eq ∧
      next.compare? same = some .gt := by
  decide

end RecordQuery.Number

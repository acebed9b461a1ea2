import RecordQuery.PagePolicy
import RecordQuery.Proofs.Outcome
import RecordQuery.Proofs.Source.Paged

/-!
# Pages under a policy

A policy grants a count between one and its ceiling, and a page shows no more rows than the count it
was granted. The ceiling can be lifted in one way only: a count is lowered to a maximum below one,
and a page takes a count below one for no limit at all.
-/

namespace RecordQuery

variable {Row : Type} {schema : Schema} {policy : PagePolicy} {options after : QueryOptions}
  {page : Page}

theorem Page.length_slice_le (limited : 0 < page.count.toInt) (rows : List Row) :
    ((page.slice rows).length : Int) ≤ page.count.toInt := by
  rw [slice, if_pos limited]
  calc ((List.take page.count.toInt.toNat (rows.drop (max page.offset.toInt 0).toNat)).length : Int)
      ≤ page.count.toInt.toNat := Int.ofNat_le.2 (List.length_take_le _ _)
    _ = page.count.toInt := Int.toNat_of_nonneg (Int.le_of_lt limited)

/-- Where options with a page compile, they apply, and show no more rows than the page counts. -/
theorem Query.length_toList_apply_le {query : Query Row} {plan : Plan} (page : Page)
    (paged : options.page = some page) (limited : 0 < page.count.toInt)
    (compiled : query.source.compile schema options = .ok plan) :
    ∃ applied written, query.apply schema options = .ok applied written ∧
      (applied.toList.length : Int) ≤ page.count.toInt := by
  refine ⟨_, _, apply_paged paged compiled, ?_⟩
  rw [toList, Plan.run_append_page]
  exact page.length_slice_le limited _

namespace PagePolicy

/-- The largest count that is to be granted. A page has one row at least. -/
def ceiling (policy : PagePolicy) : Int := max policy.maxCount.toInt 1

/-- The count asked for is lowered to a maximum below one. -/
def LiftsLimit (policy : PagePolicy) (asked : Int64) : Prop :=
  policy.exceeding = .clamp ∧ policy.maxCount.toInt < 1 ∧ policy.maxCount < asked

instance (policy : PagePolicy) (asked : Int64) : Decidable (policy.LiftsLimit asked) :=
  inferInstanceAs (Decidable (_ ∧ _ ∧ _))

theorem grant_cases {count granted : Int64} (h : policy.grant count = .ok granted) :
    (policy.maxCount < count ∧ policy.exceeding = .clamp ∧ granted = policy.maxCount) ∨
      (¬ policy.maxCount < count ∧ count ≤ 0 ∧ granted = 1) ∨
      (¬ policy.maxCount < count ∧ ¬ count ≤ 0 ∧ granted = count) := by
  unfold grant at h
  split at h
  · next exceeds =>
    split at h
    · next clamps => exact .inl ⟨exceeds, clamps, (Except.ok.inj h).symm⟩
    · cases h
  · next within =>
    split at h
    · next below => exact .inr (.inl ⟨within, below, (Except.ok.inj h).symm⟩)
    · next positive => exact .inr (.inr ⟨within, positive, (Except.ok.inj h).symm⟩)

/-- A granted count is between one and the ceiling, unless the limit is lifted. -/
theorem grant_bounds_iff {count granted : Int64} (h : policy.grant count = .ok granted) :
    (1 ≤ granted.toInt ∧ granted.toInt ≤ policy.ceiling) ↔ ¬ policy.LiftsLimit count := by
  unfold ceiling LiftsLimit
  have hone : (1 : Int64).toInt = 1 := rfl
  rcases grant_cases h with ⟨exceeds, clamps, rfl⟩ | ⟨within, -, rfl⟩ | ⟨within, positive, rfl⟩
  · simp only [clamps, exceeds, true_and, and_true]
    omega
  · simp only [within, and_false, not_false_eq_true, iff_true, hone]
    omega
  · simp only [within, and_false, not_false_eq_true, iff_true]
    rw [Int64.lt_iff_toInt_lt] at within
    rw [Int64.le_iff_toInt_le] at positive
    have hzero : (0 : Int64).toInt = 0 := rfl
    omega

theorem grantOffset_nonneg (offset : Int64) : 0 ≤ (grantOffset offset).toInt := by
  have hzero : (0 : Int64).toInt = 0 := rfl
  unfold grantOffset
  split
  · exact Int.le_of_eq hzero.symm
  · next hnonneg =>
    rw [Int64.lt_iff_toInt_lt] at hnonneg
    omega

/-- The page that is left of one for which a count was granted. -/
def granted (policy : PagePolicy) (page : Page) (count : Int64) : Page :=
  { page with
    assignDataSetCount := policy.includeDataSetCount
    count
    offset := grantOffset page.offset }

theorem enforce_eq_ok_iff (paged : options.page = some page) :
    policy.enforce options = .ok () after ↔
      ∃ count, policy.grant page.count = .ok count ∧
        after = { options with page := some (policy.granted page count) } := by
  unfold enforce
  rw [paged]
  dsimp only
  cases policy.grant page.count with
  | error refusal => simp
  | ok count => simp [granted, eq_comm]

/-- Options that pass a policy ask for at least one row and at most the ceiling, unless the limit is
lifted. Then that is also what they show, of any rows and behind any plan. -/
theorem enforce_bounds_iff (paged : options.page = some page)
    (h : policy.enforce options = .ok () after) :
    ∃ limited, after.page = some limited ∧ 0 ≤ limited.offset.toInt ∧
      ((1 ≤ limited.count.toInt ∧ limited.count.toInt ≤ policy.ceiling) ↔
        ¬ policy.LiftsLimit page.count) ∧
      (¬ policy.LiftsLimit page.count →
        ∀ {Row : Type} {schema : Schema} {query : Query Row} {plan : Plan},
          query.source.compile schema after = .ok plan →
            ∃ applied written, query.apply schema after = .ok applied written ∧
              (applied.toList.length : Int) ≤ policy.ceiling) := by
  obtain ⟨count, hgrant, rfl⟩ := (enforce_eq_ok_iff paged).1 h
  have hbounds := grant_bounds_iff hgrant
  refine ⟨_, rfl, grantOffset_nonneg _, hbounds, ?_⟩
  intro keeps Row schema query plan compiled
  obtain ⟨hpositive, hceiling⟩ := hbounds.2 keeps
  obtain ⟨applied, written, happly, hlength⟩ :=
    Query.length_toList_apply_le (policy.granted page count) rfl hpositive compiled
  exact ⟨applied, written, happly, Int.le_trans hlength hceiling⟩

/-- More players than there are, from before the first. -/
def farPage : QueryOptions where
  page := some { offset := -3, count := 500 }

def squadQuery : Query Value where
  element := .record "Player"
  view := id
  rows := squad

theorem enforce_farPage :
    ∃ after limited, enforce { maxCount := 2 } farPage = .ok () after ∧
      after.page = some limited ∧ 0 ≤ limited.offset.toInt ∧
      (1 ≤ limited.count.toInt ∧ limited.count.toInt ≤ 2) ∧
      ∃ applied written, squadQuery.apply .players after = .ok applied written ∧
        (applied.toList.length : Int) ≤ 2 := by
  have henforce : enforce { maxCount := 2 } farPage = .ok () _ := rfl
  have keeps : ¬ LiftsLimit { maxCount := 2 } 500 := by decide
  obtain ⟨limited, hpage, hoffset, hbounds, hrows⟩ := enforce_bounds_iff rfl henforce
  exact ⟨_, limited, henforce, hpage, hoffset, hbounds.2 keeps,
    @hrows keeps Value .players squadQuery [] rfl⟩

/-- A maximum of zero shows all four players. -/
theorem enforce_farPage_zero :
    ∃ after limited applied written, enforce { maxCount := 0 } farPage = .ok () after ∧
      after.page = some limited ∧ ¬ 1 ≤ limited.count.toInt ∧
      squadQuery.apply .players after = .ok applied written ∧
      ¬ (applied.toList.length : Int) ≤ ceiling { maxCount := 0 } :=
  ⟨_, _, _, _, rfl, rfl, by decide, rfl, by decide⟩

end PagePolicy

end RecordQuery

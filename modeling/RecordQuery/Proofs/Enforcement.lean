import RecordQuery.Proofs.PagePolicy

/-!
# Enforcing a policy again

The counts from one to the maximum are granted as they are, and no others. So what a policy leaves
of a page it leaves again exactly if the maximum has room for a row. A page that it has added itself
comes back as a request for no row, which is not granted as it is. A policy that refuses a page has
set its flag by then, and nothing else.
-/

namespace RecordQuery.PagePolicy

variable {policy : PagePolicy} {options after : QueryOptions} {page : Page} {count granted : Int64}
  {refusal : QueryError}

theorem grantOffset_grantOffset (offset : Int64) :
    grantOffset (grantOffset offset) = grantOffset offset := by
  by_cases hneg : offset < 0
  · rw [grantOffset, grantOffset, if_pos hneg]
    rfl
  · rw [grantOffset, grantOffset, if_neg hneg, if_neg hneg]

theorem granted_granted (policy : PagePolicy) (page : Page) (count granted : Int64) :
    policy.granted (policy.granted page count) granted = policy.granted page granted := by
  simp only [PagePolicy.granted, grantOffset_grantOffset]

theorem granted_counting (counts : policy.includeDataSetCount = true) (count : Int64) :
    policy.granted { assignDataSetCount := true } count =
      { count, assignDataSetCount := true } := by
  rw [PagePolicy.granted, counts]
  rfl

theorem grant_of_within (within : count.toInt ≤ policy.maxCount.toInt) :
    policy.grant count = .ok (if count ≤ 0 then 1 else count) := by
  have hwithin : ¬ policy.maxCount < count := by
    rw [Int64.lt_iff_toInt_lt]
    omega
  rw [grant, if_neg hwithin]
  split <;> rfl

theorem grant_of_exceeds (clamps : policy.exceeding = .clamp)
    (exceeds : policy.maxCount < count) : policy.grant count = .ok policy.maxCount := by
  rw [grant, if_pos exceeds, clamps]
  rfl

theorem grant_eq_error_iff :
    policy.grant count = .error refusal ↔ policy.exceeding = .reject ∧ policy.maxCount < count ∧
      refusal = .maximumResultSetExceeded count policy.maxCount := by
  unfold grant
  by_cases exceeds : policy.maxCount < count
  · rw [if_pos exceeds]
    cases policy.exceeding with
    | clamp => simp [pure, Except.pure]
    | reject => simp [exceeds, throw, throwThe, MonadExceptOf.throw, eq_comm]
  · rw [if_neg exceeds]
    split <;> simp [exceeds, pure, Except.pure]

theorem grant_eq_self_iff :
    policy.grant count = .ok count ↔
      1 ≤ count.toInt ∧ count.toInt ≤ policy.maxCount.toInt := by
  have hzero : (0 : Int64).toInt = 0 := rfl
  constructor
  · intro h
    rcases grant_cases h with ⟨exceeds, -, hcount⟩ | ⟨-, below, hcount⟩ | ⟨within, positive, -⟩
    · rw [hcount] at exceeds
      exact absurd exceeds Int64.lt_irrefl
    · rw [hcount] at below
      exact absurd below (by decide)
    · rw [Int64.lt_iff_toInt_lt] at within
      rw [Int64.le_iff_toInt_le] at positive
      omega
  · rintro ⟨hone, hwithin⟩
    have hpositive : ¬ count ≤ 0 := by
      rw [Int64.le_iff_toInt_le]
      omega
    rw [grant_of_within hwithin, if_neg hpositive]

/-- What was granted is granted again as it is exactly if there is room for a row. -/
theorem grant_again_iff (h : policy.grant count = .ok granted) :
    policy.grant granted = .ok granted ↔ 1 ≤ policy.maxCount.toInt := by
  rw [grant_eq_self_iff]
  constructor
  · rintro ⟨hone, hwithin⟩
    omega
  · intro room
    have keeps : ¬ policy.LiftsLimit count := fun lifts => by
      have := lifts.2.1
      omega
    obtain ⟨hone, hceiling⟩ := (grant_bounds_iff h).2 keeps
    rw [ceiling, Int.max_eq_left room] at hceiling
    exact ⟨hone, hceiling⟩

/-- Without room for a row, a policy that rejects refuses the one row that it has granted. -/
theorem grant_again_of_reject (rejects : policy.exceeding = .reject)
    (noRoom : policy.maxCount.toInt < 1) (h : policy.grant count = .ok granted) :
    policy.grant granted = .error (.maximumResultSetExceeded 1 policy.maxCount) := by
  have keeps : ¬ policy.LiftsLimit count := fun lifts => by
    cases rejects.symm.trans lifts.1
  obtain ⟨hone, hceiling⟩ := (grant_bounds_iff h).2 keeps
  rw [ceiling, Int.max_eq_right (Int.le_of_lt noRoom)] at hceiling
  obtain rfl : granted = 1 := Int64.toInt_inj.1 (Int.le_antisymm hceiling hone)
  apply grant_eq_error_iff.2
  exact ⟨rejects, Int64.lt_iff_toInt_lt.2 noRoom, rfl⟩

theorem enforce_eq_error_iff :
    policy.enforce options = .error refusal after ↔
      ∃ page, options.page = some page ∧ policy.grant page.count = .error refusal ∧
        after = { options with
          page := some { page with assignDataSetCount := policy.includeDataSetCount } } := by
  unfold enforce
  cases options.page with
  | none => simp
  | some page =>
    dsimp only
    cases hgrant : policy.grant page.count with
    | error refused => simp [hgrant, eq_comm]
    | ok count => simp [hgrant]

theorem enforce_granted_iff :
    policy.enforce { options with page := some (policy.granted page count) } =
        .ok () { options with page := some (policy.granted page count) } ↔
      policy.grant count = .ok count := by
  rw [enforce_eq_ok_iff rfl]
  constructor
  · rintro ⟨again, hgrant, hafter⟩
    have hpage := Option.some.inj (congrArg QueryOptions.page hafter)
    rw [granted_granted] at hpage
    obtain rfl : count = again := congrArg Page.count hpage
    exact hgrant
  · intro hgrant
    refine ⟨count, hgrant, ?_⟩
    rw [granted_granted]

theorem enforce_again_of_some (paged : options.page = some page)
    (h : policy.enforce options = .ok () after) :
    policy.enforce after = .ok () after ↔ 1 ≤ policy.maxCount.toInt := by
  obtain ⟨count, hgrant, rfl⟩ := (enforce_eq_ok_iff paged).1 h
  rw [enforce_granted_iff, grant_again_iff hgrant]

theorem enforce_again_of_reject (paged : options.page = some page)
    (rejects : policy.exceeding = .reject) (noRoom : policy.maxCount.toInt < 1)
    (h : policy.enforce options = .ok () after) :
    policy.enforce after = .error (.maximumResultSetExceeded 1 policy.maxCount) after := by
  obtain ⟨count, hgrant, rfl⟩ := (enforce_eq_ok_iff paged).1 h
  apply enforce_eq_error_iff.2
  exact ⟨_, rfl, grant_again_of_reject rejects noRoom hgrant, rfl⟩

theorem enforce_of_none (unpaged : options.page = none) :
    policy.enforce options = .ok () (if policy.includeDataSetCount then
      { options with page := some { assignDataSetCount := true } } else options) := by
  rw [enforce, unpaged]

theorem enforce_eq_added (unpaged : options.page = none)
    (counts : policy.includeDataSetCount = true) (h : policy.enforce options = .ok () after) :
    after = { options with page := some { assignDataSetCount := true } } := by
  rw [enforce_of_none unpaged, if_pos counts] at h
  exact (EStateM.Result.ok.inj h).2.symm

theorem enforce_added_iff (counts : policy.includeDataSetCount = true) :
    policy.enforce { options with page := some { assignDataSetCount := true } } = .ok () after ↔
      ∃ count, policy.grant 0 = .ok count ∧
        after = { options with page := some { count, assignDataSetCount := true } } := by
  rw [enforce_eq_ok_iff rfl]
  simp only [granted_counting counts]

/-- What becomes of a page that was added when it comes back as a request. -/
theorem enforce_added (counts : policy.includeDataSetCount = true) :
    (0 ≤ policy.maxCount.toInt →
      policy.enforce { options with page := some { assignDataSetCount := true } } =
        .ok () { options with page := some { count := 1, assignDataSetCount := true } }) ∧
    (policy.maxCount.toInt < 0 → policy.exceeding = .clamp →
      policy.enforce { options with page := some { assignDataSetCount := true } } =
        .ok () { options with
          page := some { count := policy.maxCount, assignDataSetCount := true } }) ∧
    (policy.maxCount.toInt < 0 → policy.exceeding = .reject →
      policy.enforce { options with page := some { assignDataSetCount := true } } =
        .error (.maximumResultSetExceeded 0 policy.maxCount)
          { options with page := some { assignDataSetCount := true } }) := by
  have exceeds (negative : policy.maxCount.toInt < 0) : policy.maxCount < 0 :=
    Int64.lt_iff_toInt_lt.2 negative
  refine ⟨?_, ?_, ?_⟩
  · intro within
    apply (enforce_added_iff counts).2
    exact ⟨1, grant_of_within within, rfl⟩
  · intro negative clamps
    apply (enforce_added_iff counts).2
    exact ⟨_, grant_of_exceeds clamps (exceeds negative), rfl⟩
  · intro negative rejects
    apply enforce_eq_error_iff.2
    refine ⟨_, rfl, grant_eq_error_iff.2 ⟨rejects, exceeds negative, rfl⟩, ?_⟩
    rw [counts]

theorem enforce_again_of_none (unpaged : options.page = none)
    (h : policy.enforce options = .ok () after) :
    policy.enforce after = .ok () after ↔ policy.includeDataSetCount = false := by
  cases counts : policy.includeDataSetCount with
  | false =>
    rw [enforce_of_none unpaged, counts] at h
    obtain rfl : options = after := (EStateM.Result.ok.inj h).2
    apply iff_of_true _ rfl
    rw [enforce_of_none unpaged, counts]
    rfl
  | true =>
    obtain rfl := enforce_eq_added unpaged counts h
    apply iff_of_false _ (by simp)
    rw [enforce_added_iff counts]
    -- The count stays at zero only if zero is granted as it is.
    rintro ⟨count, hgrant, hafter⟩
    obtain rfl : 0 = count :=
      congrArg Page.count (Option.some.inj (congrArg QueryOptions.page hafter))
    exact absurd (grant_eq_self_iff.1 hgrant).1 (by decide)

/-- With room for a row, a policy settles what it has left. -/
theorem exists_settled (room : 1 ≤ policy.maxCount.toInt)
    (h : policy.enforce options = .ok () after) :
    ∃ settled, policy.enforce after = .ok () settled ∧
      policy.enforce settled = .ok () settled := by
  cases hpage : options.page with
  | some page =>
    have hagain := (enforce_again_of_some hpage h).2 room
    exact ⟨after, hagain, hagain⟩
  | none =>
    cases counts : policy.includeDataSetCount with
    | false =>
      have hagain := (enforce_again_of_none hpage h).2 counts
      exact ⟨after, hagain, hagain⟩
    | true =>
      -- The page that was added is granted one row, and that is granted again.
      obtain rfl := enforce_eq_added hpage counts h
      have hgranted := (@enforce_added policy options counts).1 (by omega)
      exact ⟨_, hgranted, (enforce_again_of_some rfl hgranted).2 room⟩

/-- Enforcing a policy again changes nothing exactly if there was a page and there is room for a
row, or there was no page and none was added. A page that was added comes back as a request for no
row. A policy without room that rejects refuses the one row that it has granted. With room for a row
nothing changes from the second time on. -/
theorem enforce_enforce_iff (h : policy.enforce options = .ok () after) :
    (policy.enforce after = .ok () after ↔
      (options.page = none → policy.includeDataSetCount = false) ∧
        (options.page ≠ none → 1 ≤ policy.maxCount.toInt)) ∧
    (options.page = none → policy.includeDataSetCount = true →
      after = { options with page := some { assignDataSetCount := true } } ∧
      (0 ≤ policy.maxCount.toInt → policy.enforce after =
        .ok () { options with page := some { count := 1, assignDataSetCount := true } }) ∧
      (policy.maxCount.toInt < 0 → policy.exceeding = .clamp → policy.enforce after =
        .ok () { options with
          page := some { count := policy.maxCount, assignDataSetCount := true } }) ∧
      (policy.maxCount.toInt < 0 → policy.exceeding = .reject → policy.enforce after =
        .error (.maximumResultSetExceeded 0 policy.maxCount) after)) ∧
    (options.page ≠ none → policy.exceeding = .reject → policy.maxCount.toInt < 1 →
      policy.enforce after = .error (.maximumResultSetExceeded 1 policy.maxCount) after) ∧
    (1 ≤ policy.maxCount.toInt →
      ∃ settled, policy.enforce after = .ok () settled ∧
        policy.enforce settled = .ok () settled) := by
  refine ⟨?_, ?_, ?_, fun room => exists_settled room h⟩
  · cases hpage : options.page with
    | none =>
      rw [enforce_again_of_none hpage h]
      simp
    | some page =>
      rw [enforce_again_of_some hpage h]
      simp
  · intro unpaged counts
    obtain rfl := enforce_eq_added unpaged counts h
    exact ⟨rfl, enforce_added counts⟩
  · intro paged rejects noRoom
    obtain ⟨page, hpage⟩ := Option.ne_none_iff_exists'.1 paged
    exact enforce_again_of_reject hpage rejects noRoom h

theorem enforce_farPage_again :
    (∃ after, enforce { maxCount := 2 } farPage = .ok () after ∧
      enforce { maxCount := 2 } after = .ok () after) ∧
    ∃ after, enforce { maxCount := -5, exceeding := .reject } {} = .ok () after ∧
      enforce { maxCount := -5, exceeding := .reject } after =
        .error (.maximumResultSetExceeded 0 (-5)) after := by
  constructor
  · have henforce : enforce { maxCount := 2 } farPage = .ok () _ := rfl
    obtain ⟨hagain, -⟩ := enforce_enforce_iff henforce
    refine ⟨_, henforce, hagain.2 ⟨?_, fun _ => by decide⟩⟩
    intro unpaged
    cases unpaged
  · have henforce : enforce { maxCount := -5, exceeding := .reject } {} = .ok () _ := rfl
    obtain ⟨-, hadded, -⟩ := enforce_enforce_iff henforce
    obtain ⟨-, -, -, hrefused⟩ := hadded rfl rfl
    exact ⟨_, henforce, hrefused (by decide) rfl⟩

/-- Without a page, the second time makes a request of the count. Without room, it refuses. -/
theorem not_enforce_again :
    (∃ after again, enforce {} {} = .ok () after ∧ enforce {} after = .ok () again ∧
      again.page ≠ after.page) ∧
    ∃ after refused, enforce { maxCount := 0, exceeding := .reject } { page := some {} } =
        .ok () after ∧
      enforce { maxCount := 0, exceeding := .reject } after =
        .error (.maximumResultSetExceeded 1 0) refused :=
  ⟨⟨_, _, rfl, rfl, by decide⟩, _, _, rfl, rfl⟩

/-- The flag of a page does not count when a policy is enforced. -/
theorem enforce_flagged (paged : options.page = some page) (flag : Bool) :
    policy.enforce { options with page := some { page with assignDataSetCount := flag } } =
      policy.enforce options := by
  simp only [enforce, paged]

/-- A policy refuses a page only for its count, which exceeds the maximum. Of the options, it has
set the flag of that page, and a policy enforced next does not see that. -/
theorem enforce_refused (h : policy.enforce options = .error refusal after) :
    ∃ page, options.page = some page ∧ policy.exceeding = .reject ∧
      policy.maxCount < page.count ∧
      refusal = .maximumResultSetExceeded page.count policy.maxCount ∧
      after = { options with
        page := some { page with assignDataSetCount := policy.includeDataSetCount } } ∧
      (after = options ↔ page.assignDataSetCount = policy.includeDataSetCount) ∧
      ∀ other : PagePolicy, other.enforce after = other.enforce options := by
  obtain ⟨page, hpage, hgrant, rfl⟩ := enforce_eq_error_iff.1 h
  obtain ⟨rejects, exceeds, hrefusal⟩ := grant_eq_error_iff.1 hgrant
  refine ⟨page, hpage, rejects, exceeds, hrefusal, rfl, ?_, ?_⟩
  · constructor
    · intro hsame
      have hflagged := (congrArg QueryOptions.page hsame).trans hpage
      exact (congrArg Page.assignDataSetCount (Option.some.inj hflagged)).symm
    · intro hflag
      cases options
      cases hpage
      rw [← hflag]
  · intro other
    apply enforce_flagged hpage

theorem enforce_farPage_refused :
    ∃ refusal after, enforce { maxCount := 10, exceeding := .reject } farPage =
        .error refusal after ∧
      refusal = .maximumResultSetExceeded 500 10 ∧
      ∀ other : PagePolicy, other.enforce after = other.enforce farPage := by
  have henforce : enforce { maxCount := 10, exceeding := .reject } farPage = .error _ _ := rfl
  obtain ⟨page, hpage, -, -, hrefusal, -, -, hretry⟩ := enforce_refused henforce
  obtain rfl := Option.some.inj hpage
  exact ⟨_, _, henforce, hrefusal, hretry⟩

/-- A page is refused that now assigns its data set count. -/
theorem enforce_farPage_flagged :
    ∃ refusal after, enforce { maxCount := 10, exceeding := .reject } farPage =
        .error refusal after ∧
      after.page.map Page.assignDataSetCount ≠ farPage.page.map Page.assignDataSetCount :=
  ⟨_, _, rfl, by decide⟩

end RecordQuery.PagePolicy

/-!
# Steps that can fail

A sequence of steps succeeds when each of them does: these take such a result apart. Where it fails,
it is by the first step that does (`FirstFails`).
-/

namespace RecordQuery

variable {ε α β : Type}

@[simp] theorem ok_bind (a : α) (f : α → Except ε β) : (Except.ok a >>= f) = f a := rfl

@[simp] theorem error_bind (e : ε) (f : α → Except ε β) :
    (Except.error e >>= f) = .error e := rfl

theorem bind_eq_ok_iff {x : Except ε α} {f : α → Except ε β} {b : β} :
    (x >>= f) = .ok b ↔ ∃ a, x = .ok a ∧ f a = .ok b := by
  cases x <;> simp

theorem bind_eq_error_iff {x : Except ε α} {f : α → Except ε β} {e : ε} :
    (x >>= f) = .error e ↔ x = .error e ∨ ∃ a, x = .ok a ∧ f a = .error e := by
  cases x <;> simp

theorem exists_ok_iff {x : Except ε α} : (∃ a, x = .ok a) ↔ ¬ ∃ e, x = .error e := by
  cases x <;> simp

theorem map_eq_ok_iff {x : Except ε α} {f : α → β} {b : β} :
    f <$> x = .ok b ↔ ∃ a, x = .ok a ∧ f a = b := by
  cases x with
  | error e =>
    constructor
    · intro h
      cases h
    · rintro ⟨_, h, -⟩
      cases h
  | ok a =>
    constructor
    · intro h
      exact ⟨a, rfl, Except.ok.inj h⟩
    · rintro ⟨_, h, rfl⟩
      rw [Except.ok.inj h]
      rfl

theorem map_eq_error_iff {x : Except ε α} {f : α → β} {e : ε} :
    f <$> x = .error e ↔ x = .error e := by
  cases x <;> simp [Functor.map, Except.map]

/-- What every step keeps holds at the end of a successful fold. -/
theorem foldlM_induction {P : β → Prop} {f : β → α → Except ε β} {items : List α} {b b' : β}
    (h : items.foldlM f b = .ok b') (start : P b)
    (step : ∀ item ∈ items, ∀ b b', P b → f b item = .ok b' → P b') : P b' := by
  induction items generalizing b with
  | nil => exact Except.ok.inj h ▸ start
  | cons item items ih =>
    rw [List.foldlM_cons] at h
    obtain ⟨next, hnext, hrest⟩ := bind_eq_ok_iff.1 h
    apply ih hrest (step item List.mem_cons_self b next start hnext)
    intro other hother
    exact step other (List.mem_cons_of_mem item hother)

/-- Reading every item succeeds with a list that looks like the items, if each reading does. -/
theorem mapM_eq_ok_of_forall {γ : Type} {f : α → Except ε β} {g : β → γ} {k : α → γ}
    {items : List α} (h : ∀ item ∈ items, ∃ b, f item = .ok b ∧ g b = k item) :
    ∃ bs, items.mapM f = .ok bs ∧ bs.map g = items.map k := by
  induction items with
  | nil => exact ⟨[], rfl, rfl⟩
  | cons item items ih =>
    obtain ⟨b, hb, hgb⟩ := h item List.mem_cons_self
    obtain ⟨bs, hbs, hgbs⟩ := ih fun other hother => h other (List.mem_cons_of_mem item hother)
    refine ⟨b :: bs, ?_, ?_⟩
    · rw [List.mapM_cons, hb, hbs]
      rfl
    · rw [List.map_cons, List.map_cons, hgb, hgbs]

theorem mapM_eq_ok_map {f : α → Except ε β} {g : α → β} {items : List α}
    (h : ∀ item ∈ items, f item = .ok (g item)) : items.mapM f = .ok (items.map g) := by
  obtain ⟨bs, hbs, hsame⟩ := mapM_eq_ok_of_forall (g := id) (k := g)
    fun item hitem => ⟨g item, h item hitem, rfl⟩
  rw [List.map_id] at hsame
  rw [hbs, hsame]

theorem eq_nil_of_mapM_eq_ok_nil {f : α → Except ε β} {items : List α}
    (h : items.mapM f = .ok []) : items = [] := by
  cases items with
  | nil => rfl
  | cons item items =>
    rw [List.mapM_cons] at h
    obtain ⟨b, -, h⟩ := bind_eq_ok_iff.1 h
    obtain ⟨bs, -, h⟩ := bind_eq_ok_iff.1 h
    cases Except.ok.inj h

theorem mem_of_mapM_eq_ok {f : α → Except ε β} {items : List α} {bs : List β}
    (h : items.mapM f = .ok bs) {b : β} (hb : b ∈ bs) : ∃ item ∈ items, f item = .ok b := by
  induction items generalizing bs with
  | nil =>
    obtain rfl := Except.ok.inj h
    cases hb
  | cons item items ih =>
    rw [List.mapM_cons] at h
    obtain ⟨first, hfirst, h⟩ := bind_eq_ok_iff.1 h
    obtain ⟨rest, hrest, h⟩ := bind_eq_ok_iff.1 h
    obtain rfl := Except.ok.inj h
    rcases List.mem_cons.1 hb with rfl | hb
    · exact ⟨item, List.mem_cons_self, hfirst⟩
    · obtain ⟨other, hother, hread⟩ := ih hrest hb
      exact ⟨other, List.mem_cons_of_mem _ hother, hread⟩

/-- A step fails on an item and on none before it. -/
def FirstFails (f : α → Except ε β) (items : List α) (e : ε) : Prop :=
  ∃ before item after, items = before ++ item :: after ∧
    (∀ earlier ∈ before, ∃ b, f earlier = .ok b) ∧ f item = .error e

theorem not_firstFails_nil {f : α → Except ε β} {e : ε} : ¬ FirstFails f [] e := by
  rintro ⟨before, item, after, h, -⟩
  cases before <;> cases h

theorem firstFails_cons_iff {f : α → Except ε β} {item : α} {items : List α} {e : ε} :
    FirstFails f (item :: items) e ↔
      f item = .error e ∨ (∃ b, f item = .ok b) ∧ FirstFails f items e := by
  constructor
  · rintro ⟨_ | ⟨first, before⟩, failing, after, h, earlier, hfails⟩
    · obtain ⟨rfl, rfl⟩ := List.cons.inj h
      exact .inl hfails
    · obtain ⟨rfl, rfl⟩ := List.cons.inj h
      obtain ⟨hfirst, hbefore⟩ := List.forall_mem_cons.1 earlier
      exact .inr ⟨hfirst, before, failing, after, rfl, hbefore, hfails⟩
  · rintro (hfails | ⟨hitem, before, failing, after, rfl, earlier, hfails⟩)
    · exact ⟨[], item, items, rfl, nofun, hfails⟩
    · exact ⟨item :: before, failing, after, rfl, List.forall_mem_cons.2 ⟨hitem, earlier⟩, hfails⟩

theorem not_exists_firstFails_iff {f : α → Except ε β} {items : List α} :
    (¬ ∃ e, FirstFails f items e) ↔ ∀ item ∈ items, ∃ b, f item = .ok b := by
  induction items with
  | nil => simp [not_firstFails_nil]
  | cons item items ih =>
    rw [List.forall_mem_cons, ← ih]
    simp only [firstFails_cons_iff]
    cases f item <;> simp

theorem mapM_eq_error_iff {f : α → Except ε β} {items : List α} {e : ε} :
    items.mapM f = .error e ↔ FirstFails f items e := by
  induction items with
  | nil =>
    constructor
    · intro h
      cases h
    · exact fun h => absurd h not_firstFails_nil
  | cons item items ih =>
    rw [List.mapM_cons, firstFails_cons_iff, ← ih]
    cases hitem : f item with
    | error e' => simp
    | ok b => cases hitems : items.mapM f <;> simp [pure, Except.pure]

/-- What a fold puts together does not matter for its failures. -/
theorem foldlM_eq_error_iff {γ : Type} {f : α → Except ε β} {put : γ → α → β → γ} {items : List α}
    {start : γ} {e : ε} :
    items.foldlM (fun whole item => do pure (put whole item (← f item))) start = .error e ↔
      FirstFails f items e := by
  induction items generalizing start with
  | nil =>
    constructor
    · intro h
      cases h
    · exact fun h => absurd h not_firstFails_nil
  | cons item items ih =>
    rw [List.foldlM_cons, firstFails_cons_iff]
    cases hitem : f item with
    | error e' => simp
    | ok b =>
      have hnext := @ih (put start item b)
      simpa [pure, Except.pure] using hnext

/-- A fold that starts from the first item fails as a fold over all of them. -/
theorem bind_foldlM_eq_error_iff {f : α → Except ε β} {put : β → α → β → β} {first : α}
    {rest : List α} {e : ε} :
    (f first >>= fun start =>
        rest.foldlM (fun whole item => do pure (put whole item (← f item))) start) = .error e ↔
      FirstFails f (first :: rest) e := by
  rw [bind_eq_error_iff, firstFails_cons_iff]
  simp only [foldlM_eq_error_iff, exists_and_right]

/-- Why it failed, if it did. -/
def failure? : Except ε α → Option ε
  | .ok _ => none
  | .error e => some e

theorem failure?_eq_some_iff {x : Except ε α} {e : ε} : failure? x = some e ↔ x = .error e := by
  cases x <;> simp [failure?]

theorem failure?_map (x : Except ε α) (f : α → β) : failure? (f <$> x) = failure? x := by
  cases x <;> rfl

/-- If the failures of a step and of those after it come first in two lists, then the failure of
them all comes first in the lists together. -/
theorem failure?_bind {x : Except ε α} {f : α → Except ε β} {es es' : List ε}
    (hx : failure? x = es.head?) (hf : ∀ a, x = .ok a → failure? (f a) = es'.head?) :
    failure? (x >>= f) = (es ++ es').head? := by
  rw [List.head?_append, ← hx]
  cases x with
  | error e => rfl
  | ok a => exact hf a rfl

theorem failure?_mapM {f : α → Except ε β} {errors : α → List ε}
    (h : ∀ item, failure? (f item) = (errors item).head?) (items : List α) :
    failure? (items.mapM f) = (items.flatMap errors).head? := by
  induction items with
  | nil => rfl
  | cons item items ih =>
    rw [List.mapM_cons, List.flatMap_cons]
    refine failure?_bind (h item) fun b _ => ?_
    rw [← ih]
    exact failure?_map (items.mapM f) (b :: ·)

theorem mapError_bind {ε' : Type} (g : ε → ε') (x : Except ε α) (f : α → Except ε β) :
    (x >>= f).mapError g = x.mapError g >>= fun a => (f a).mapError g := by
  cases x <;> rfl

theorem mapError_mapM {ε' : Type} (g : ε → ε') (f : α → Except ε β) (items : List α) :
    (items.mapM f).mapError g = items.mapM fun item => (f item).mapError g := by
  induction items with
  | nil => rfl
  | cons item items ih =>
    rw [List.mapM_cons, List.mapM_cons, mapError_bind]
    refine congrArg (Except.mapError g (f item) >>= ·) (funext fun b => ?_)
    rw [mapError_bind, ih]
    rfl

end RecordQuery

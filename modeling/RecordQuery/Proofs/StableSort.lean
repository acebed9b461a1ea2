/-!
# Stable sorting

`StablySorts cmp rows sorted` says what a stable sort yields and not how: the same rows, in order,
those that compare equal in their old order. There is at most one such list, so whatever keeps the
three properties can be exchanged with sorting. The order need be transitive on the rows at hand
only.
-/

namespace RecordQuery

open Std

variable {α β : Type}

structure StablySorts (cmp : α → α → Ordering) (rows sorted : List α) : Prop where
  perm : sorted.Perm rows
  ordered : sorted.Pairwise fun a b => (cmp a b).isLE
  ties : ∀ a ∈ rows, sorted.filter (cmp a · == .eq) = rows.filter (cmp a · == .eq)

/-- The comparison is a total preorder on the rows. -/
def Orders (cmp : α → α → Ordering) (rows : List α) : Prop :=
  TransCmp fun a b : { row // row ∈ rows } => cmp a.1 b.1

variable {cmp fine coarse : α → α → Ordering} {rows sorted : List α}

theorem Orders.mono {part : List α} (h : Orders cmp rows) (sub : ∀ a ∈ part, a ∈ rows) :
    Orders cmp part where
  eq_swap {a b} := @h.eq_swap ⟨a, sub a a.2⟩ ⟨b, sub b b.2⟩
  isLE_trans {a b c} := @h.isLE_trans ⟨a, sub a a.2⟩ ⟨b, sub b b.2⟩ ⟨c, sub c c.2⟩

/-- The heads of both lists are least, so they tie, and of a tie both lists show the same row
first. -/
theorem head_eq_of_ordered [OrientedCmp cmp] {a b : α} {s t : List α}
    (perm : (a :: s).Perm (b :: t))
    (hs : (a :: s).Pairwise fun a b => (cmp a b).isLE)
    (ht : (b :: t).Pairwise fun a b => (cmp a b).isLE)
    (ties : (a :: s).filter (cmp a · == .eq) = (b :: t).filter (cmp a · == .eq)) : a = b := by
  have hab : cmp a b = .eq := by
    rcases List.mem_cons.1 (perm.mem_iff.2 List.mem_cons_self) with rfl | hb
    · exact ReflCmp.compare_self
    rcases List.mem_cons.1 (perm.mem_iff.1 List.mem_cons_self) with rfl | ha
    · exact ReflCmp.compare_self
    exact OrientedCmp.isLE_antisymm (List.rel_of_pairwise_cons hs hb)
      (List.rel_of_pairwise_cons ht ha)
  have haa : cmp a a = .eq := ReflCmp.compare_self
  simp only [List.filter_cons, haa, hab, beq_self_eq_true, if_true] at ties
  exact (List.cons.inj ties).1

theorem eq_of_ordered_of_ties [OrientedCmp cmp] {s t : List α} (perm : s.Perm t)
    (hs : s.Pairwise fun a b => (cmp a b).isLE) (ht : t.Pairwise fun a b => (cmp a b).isLE)
    (ties : ∀ a ∈ s, s.filter (cmp a · == .eq) = t.filter (cmp a · == .eq)) : s = t := by
  induction s generalizing t with
  | nil => exact perm.nil_eq
  | cons a s ih =>
    cases t with
    | nil => exact absurd perm.eq_nil (List.cons_ne_nil a s)
    | cons b t =>
      obtain rfl := head_eq_of_ordered perm hs ht (ties a List.mem_cons_self)
      have htail : s = t := by
        apply ih perm.cons_inv hs.of_cons ht.of_cons
        intro c hc
        have tie := ties c (List.mem_cons_of_mem a hc)
        by_cases hca : cmp c a = .eq
        · simpa [List.filter_cons, hca] using tie
        · simpa [List.filter_cons, hca] using tie
      rw [htail]

theorem StablySorts.unique [OrientedCmp cmp] {other : List α} (h : StablySorts cmp rows sorted)
    (h' : StablySorts cmp rows other) : sorted = other := by
  apply eq_of_ordered_of_ties (h.perm.trans h'.perm.symm) h.ordered h'.ordered
  intro a ha
  have hrow : a ∈ rows := h.perm.mem_iff.1 ha
  rw [h.ties a hrow, h'.ties a hrow]

namespace StablySorts

theorem map {f : β → α} {rows sorted : List β}
    (h : StablySorts (fun a b => cmp (f a) (f b)) rows sorted) :
    StablySorts cmp (rows.map f) (sorted.map f) where
  perm := h.perm.map f
  ordered := List.pairwise_map.2 h.ordered
  ties := by
    intro a ha
    obtain ⟨b, hb, rfl⟩ := List.mem_map.1 ha
    rw [List.filter_map, List.filter_map]
    exact congrArg (List.map f) (h.ties b hb)

/-- Rows that are left out leave the order of the others alone. -/
theorem filter (h : StablySorts cmp rows sorted) (p : α → Bool) :
    StablySorts cmp (rows.filter p) (sorted.filter p) where
  perm := h.perm.filter p
  ordered := h.ordered.filter p
  ties := by
    intro a ha
    have hswap (s : List α) : (s.filter p).filter (cmp a · == .eq) =
        (s.filter (cmp a · == .eq)).filter p := by
      simp only [List.filter_filter, Bool.and_comm]
    rw [hswap, hswap, h.ties a (List.mem_filter.1 ha).1]

/-- Sorting by a finer order forgets that the rows were sorted by a coarser one before. -/
theorem refine {middle : List α} (finer : ∀ a b, fine a b = .eq → coarse a b = .eq)
    (h : StablySorts coarse rows middle) (h' : StablySorts fine middle sorted) :
    StablySorts fine rows sorted where
  perm := h'.perm.trans h.perm
  ordered := h'.ordered
  ties := by
    intro a ha
    have hsub (s : List α) : s.filter (fine a · == .eq) =
        (s.filter (coarse a · == .eq)).filter (fine a · == .eq) := by
      rw [List.filter_filter]
      apply List.filter_congr
      intro b _
      cases hb : fine a b == .eq with
      | false => rfl
      | true => simp [finer a b (by simpa using hb)]
    rw [h'.ties a (h.perm.mem_iff.2 ha), hsub middle, h.ties a ha, ← hsub rows]

end StablySorts

theorem stablySorts_mergeSort_of_transCmp [TransCmp cmp] (rows : List α) :
    StablySorts cmp rows (rows.mergeSort fun a b => (cmp a b).isLE) := by
  have htrans (a b c : α) : (cmp a b).isLE → (cmp b c).isLE → (cmp a c).isLE :=
    TransCmp.isLE_trans
  have htotal (a b : α) : ((cmp a b).isLE || (cmp b a).isLE) = true := by
    rw [@OrientedCmp.eq_swap _ cmp _ b a]
    cases cmp a b <;> rfl
  have hperm := List.mergeSort_perm rows fun a b => (cmp a b).isLE
  refine ⟨hperm, List.pairwise_mergeSort htrans htotal rows, ?_⟩
  intro a _
  -- The rows of a tie are in order as they stand, so they are a sublist of the sorted rows.
  have htie : (rows.filter (cmp a · == .eq)).Pairwise fun b c => (cmp b c).isLE := by
    have htrivial : (rows.filter (cmp a · == .eq)).Pairwise fun _ _ => True :=
      List.pairwise_of_forall fun _ _ => trivial
    apply htrivial.imp_of_mem
    intro b c hb hc _
    have hab : cmp a b = .eq := by simpa using (List.mem_filter.1 hb).2
    have hac : cmp a c = .eq := by simpa using (List.mem_filter.1 hc).2
    rw [TransCmp.eq_trans (OrientedCmp.eq_symm hab) hac]
    rfl
  have hsub := (List.sublist_mergeSort htrans htotal htie List.filter_sublist).filter
    (cmp a · == .eq)
  rw [List.filter_filter] at hsub
  simp only [Bool.and_self] at hsub
  exact (hsub.eq_of_length (hperm.filter _).length_eq.symm).symm

theorem Orders.stablySorts_mergeSort (h : Orders cmp rows) :
    StablySorts cmp rows (rows.mergeSort fun a b => (cmp a b).isLE) := by
  have hrows : StablySorts cmp (rows.attach.map Subtype.val) _ :=
    (@stablySorts_mergeSort_of_transCmp _ _ h rows.attach).map
  rwa [List.map_mergeSort (s := fun a b => (cmp a b).isLE) fun _ _ _ _ => rfl,
    List.attach_map_subtype_val] at hrows

end RecordQuery

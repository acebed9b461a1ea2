import Mathlib.Data.List.Forall2
import Mathlib.Data.List.Perm.Basic
import RecordQuery.Proofs.StableSort

/-!
# Two orders of the same rows

Two lists of the same rows, both in order, show at every position rows that compare equal: only ties
can be arranged in more than one way.
-/

namespace RecordQuery

open Std

variable {α : Type} {cmp : α → α → Ordering}

/-- Behind rows that tie with it a row may as well stand in front of them. -/
theorem forall₂_cons_of_ties [TransCmp cmp] {a e : α} {s front back : List α}
    (h : List.Forall₂ (fun a b => cmp a b = .eq) s (front ++ back)) (head : cmp e a = .eq)
    (ties : ∀ c ∈ front, cmp a c = .eq) :
    List.Forall₂ (fun a b => cmp a b = .eq) (e :: s) (front ++ a :: back) := by
  induction front generalizing e s with
  | nil => exact .cons head h
  | cons c front ih =>
    cases h with
    | @cons d _ s _ hdc h =>
      have hac : cmp a c = .eq := ties c List.mem_cons_self
      have hda : cmp d a = .eq := TransCmp.eq_trans hdc (OrientedCmp.eq_symm hac)
      refine .cons (TransCmp.eq_trans head hac) (ih h hda ?_)
      intro b hb
      exact ties b (List.mem_cons_of_mem c hb)

theorem forall₂_eq_of_perm_of_transCmp [TransCmp cmp] {s t : List α} (perm : s.Perm t)
    (hs : s.Pairwise fun a b => (cmp a b).isLE) (ht : t.Pairwise fun a b => (cmp a b).isLE) :
    List.Forall₂ (fun a b => cmp a b = .eq) s t := by
  induction s generalizing t with
  | nil => exact perm.nil_eq ▸ .nil
  | cons a s ih =>
    -- The rows before `a` in `t` are not after it there and not before it here.
    obtain ⟨front, back, rfl⟩ := List.append_of_mem (perm.mem_iff.1 List.mem_cons_self)
    have hrest : s.Perm (front ++ back) := (perm.trans List.perm_middle).cons_inv
    have hordered : (front ++ back).Pairwise fun a b => (cmp a b).isLE :=
      ht.sublist (List.Sublist.append_left (List.sublist_cons_self a back) front)
    refine forall₂_cons_of_ties (ih hrest hs.of_cons hordered) ReflCmp.compare_self ?_
    intro c hc
    have hac : (cmp a c).isLE :=
      List.rel_of_pairwise_cons hs (hrest.mem_iff.2 (List.mem_append_left back hc))
    have hca : (cmp c a).isLE := (List.pairwise_append.1 ht).2.2 c hc a List.mem_cons_self
    exact OrientedCmp.isLE_antisymm hac hca

theorem Orders.forall₂_eq_of_perm {s t : List α} (h : Orders cmp s) (perm : s.Perm t)
    (hs : s.Pairwise fun a b => (cmp a b).isLE) (ht : t.Pairwise fun a b => (cmp a b).isLE) :
    List.Forall₂ (fun a b => cmp a b = .eq) s t := by
  have hmem : ∀ b ∈ t, b ∈ s := fun b hb => perm.mem_iff.2 hb
  have hvals : (s.attach.map Subtype.val).Perm ((t.attachWith (· ∈ s) hmem).map Subtype.val) := by
    rwa [List.attach_map_subtype_val, List.attachWith_map_subtype_val]
  rw [← s.attach_map_subtype_val] at hs ⊢
  rw [← List.attachWith_map_subtype_val hmem] at ht ⊢
  have hties := @forall₂_eq_of_perm_of_transCmp _ _ h s.attach (t.attachWith (· ∈ s) hmem)
    ((List.map_perm_map_iff Subtype.val_injective).1 hvals) (List.pairwise_map.1 hs)
    (List.pairwise_map.1 ht)
  exact List.forall₂_map_left_iff.2 (List.forall₂_map_right_iff.2 hties)

end RecordQuery

import RecordQuery.Proofs.Value.Order

/-!
# Collation as an order

Collation is a total order on texts: its three comparisons go by a key each, and the last key is the
text itself. Ignoring case is the first comparison alone, a total preorder. It ties texts with the
same lowered letters, and collation only decides these ties.
-/

namespace RecordQuery

open Std

theorem collateIgnoreCase_eq_iff {a b : String} :
    collateIgnoreCase a b = .eq ↔ letterKey a = letterKey b :=
  compare_eq_iff_eq

instance : LawfulEqCmp collate where
  eq_of_compare {a b} h := by
    obtain ⟨-, hrest⟩ := Ordering.then_eq_eq.1 h
    obtain ⟨-, htexts⟩ := Ordering.then_eq_eq.1 hrest
    exact String.toList_inj.1 (compare_eq_iff_eq.1 htexts)

theorem collate_eq_iff {a b : String} : collate a b = .eq ↔ a = b :=
  LawfulEqCmp.compare_eq_iff_eq

/-- Collation orders all texts totally, along the preorder that ignores case. -/
theorem collate_total_order (a b c : String) :
    (collate b a = (collate a b).swap ∧
      (collate a b = .eq ↔ a = b) ∧
      (collate a b = .lt → collate b c = .lt → collate a c = .lt) ∧
      ((collate a b).isLE → (collate b c).isLE → (collate a c).isLE)) ∧
    (collateIgnoreCase a b ≠ .eq → collate a b = collateIgnoreCase a b) ∧
    collateIgnoreCase a a = .eq ∧
      collateIgnoreCase b a = (collateIgnoreCase a b).swap ∧
      (collateIgnoreCase a b = .eq ↔ letterKey a = letterKey b) ∧
      ((collateIgnoreCase a b).isLE → (collateIgnoreCase b c).isLE →
        (collateIgnoreCase a c).isLE) := by
  refine ⟨⟨?_, ?_, ?_, ?_⟩, ?_, ?_, ?_, ?_, ?_⟩
  · exact OrientedCmp.eq_swap
  · exact collate_eq_iff
  · exact TransCmp.lt_trans
  · exact TransCmp.isLE_trans
  · exact collate_of_collateIgnoreCase_ne
  · exact ReflCmp.compare_self
  · exact OrientedCmp.eq_swap
  · exact collateIgnoreCase_eq_iff
  · exact TransCmp.isLE_trans

/-- A dotted capital I has the two letters of an i and its dot. Case puts it behind them, but not
behind the next letter. -/
theorem collate_dotted :
    collateIgnoreCase "i\u0307" "İ" = .eq ∧ collate "i\u0307" "İ" = .lt ∧
      collateIgnoreCase "İ" "J" = .lt ∧ collate "İ" "J" = .lt ∧ collate "i\u0307" "J" = .lt := by
  have htie : collateIgnoreCase "i\u0307" "İ" = .eq := by decide +kernel
  have hcase : collate "i\u0307" "İ" = .lt := by decide +kernel
  have hletter : collateIgnoreCase "İ" "J" = .lt := by decide +kernel
  obtain ⟨⟨-, -, htrans, -⟩, -⟩ := collate_total_order "i\u0307" "İ" "J"
  obtain ⟨-, hrefines, -⟩ := collate_total_order "İ" "J" "J"
  have hnext : collate "İ" "J" = .lt := (hrefines (hletter ▸ nofun)).trans hletter
  exact ⟨htie, hcase, hletter, hnext, htrans hcase hnext⟩

end RecordQuery

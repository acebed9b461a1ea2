import Mathlib.Data.List.Forall2

/-!
# Results that are alike

Two steps that can fail are alike if both succeed, with values that are related, or both fail for
reasons of one kind. Sequences of steps that are alike are alike.
-/

namespace RecordQuery

variable {ε κ α β γ δ : Type}

/-- Both succeed, with values that are related, or both fail, for reasons of one kind. -/
inductive Alike (kind : ε → κ) (R : α → β → Prop) : Except ε α → Except ε β → Prop
  | ok {a : α} {b : β} (h : R a b) : Alike kind R (.ok a) (.ok b)
  | error {e e' : ε} (h : kind e = kind e') : Alike kind R (.error e) (.error e')

namespace Alike

variable {kind : ε → κ} {R : α → β → Prop} {x : Except ε α} {y : Except ε β}

theorem ok_left {a : α} (h : Alike kind R (.ok a) y) : ∃ b, y = .ok b ∧ R a b := by
  cases h with
  | ok h => exact ⟨_, rfl, h⟩

theorem error_left {e : ε} (h : Alike kind R (.error e) y) :
    ∃ e', y = .error e' ∧ kind e = kind e' := by
  cases h with
  | error h => exact ⟨_, rfl, h⟩

theorem bind {S : γ → δ → Prop} {f : α → Except ε γ} {g : β → Except ε δ} (h : Alike kind R x y)
    (hfg : ∀ a b, R a b → Alike kind S (f a) (g b)) : Alike kind S (x >>= f) (y >>= g) := by
  cases h with
  | ok h => exact hfg _ _ h
  | error h => exact .error h

theorem ite {c : Prop} [Decidable c] {x' : Except ε α} {y' : Except ε β} (h : c → Alike kind R x y)
    (h' : ¬ c → Alike kind R x' y') :
    Alike kind R (if c then x else x') (if c then y else y') := by
  by_cases hc : c
  · rw [if_pos hc, if_pos hc]
    exact h hc
  · rw [if_neg hc, if_neg hc]
    exact h' hc

theorem refl {R : α → α → Prop} (hR : ∀ a, R a a) (x : Except ε α) : Alike kind R x x := by
  cases x with
  | ok a => exact .ok (hR a)
  | error e => exact .error rfl

theorem mono {S : α → β → Prop} (h : Alike kind R x y) (hRS : ∀ a b, R a b → S a b) :
    Alike kind S x y := by
  cases h with
  | ok h => exact .ok (hRS _ _ h)
  | error h => exact .error h

/-- Two results that are like a third are alike. -/
theorem join {S : γ → β → Prop} {z : Except ε γ} (h : Alike kind R x y) (h' : Alike kind S z y) :
    Alike kind (fun a c => ∃ b, R a b ∧ S c b) x z := by
  cases h with
  | ok h =>
    cases h' with
    | ok h' => exact .ok ⟨_, h, h'⟩
  | error h =>
    cases h' with
    | error h' => exact .error (h.trans h'.symm)

theorem mapM {S : γ → δ → Prop} {f : γ → Except ε α} {g : δ → Except ε β} {items : List γ}
    {others : List δ} (hitems : List.Forall₂ S items others)
    (hfg : ∀ c d, S c d → Alike kind R (f c) (g d)) :
    Alike kind (List.Forall₂ R) (items.mapM f) (others.mapM g) := by
  induction hitems with
  | nil => exact .ok .nil
  | cons hfirst _ ih =>
    rw [List.mapM_cons, List.mapM_cons]
    refine (hfg _ _ hfirst).bind fun a b hab => ?_
    exact ih.bind fun as bs hrest => .ok (.cons hab hrest)

theorem foldlM {S : γ → δ → Prop} {f : α → γ → Except ε α} {g : β → δ → Except ε β}
    {items : List γ} {others : List δ} (hitems : List.Forall₂ S items others)
    (hfg : ∀ a b c d, R a b → S c d → Alike kind R (f a c) (g b d)) {a : α} {b : β} (h : R a b) :
    Alike kind R (items.foldlM f a) (others.foldlM g b) := by
  induction hitems generalizing a b with
  | nil => exact .ok h
  | cons hfirst _ ih =>
    rw [List.foldlM_cons, List.foldlM_cons]
    exact (hfg _ _ _ _ h hfirst).bind fun _ _ hnext => ih hnext

end Alike

end RecordQuery

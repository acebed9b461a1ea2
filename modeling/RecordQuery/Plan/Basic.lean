import RecordQuery.Predicate.Basic
import RecordQuery.SortKey

/-!
# Plans

The stages a source applies to its elements, in order. New sort keys are spliced in behind the last
ordering stage, so that the orders already there keep precedence, or start a fresh ordering at the
end.
-/

namespace RecordQuery

inductive Stage
  | filter (predicate : Predicate)
  /-- Starts a new ordering. -/
  | orderPrimary (key : SortKey)
  /-- Breaks the ties of the ordering before it. -/
  | orderSecondary (key : SortKey)
  | skip (n : Nat)
  | take (n : Nat)
deriving DecidableEq

namespace Stage

def isOrder : Stage → Bool
  | orderPrimary _ | orderSecondary _ => true
  | _ => false

def text : Stage → String
  | filter predicate => s!"Where({predicate.text})"
  | orderPrimary key => s!"OrderBy({key.text})"
  | orderSecondary key => s!"ThenBy({key.text})"
  | skip n => s!"Skip({n})"
  | take n => s!"Take({n})"

end Stage

abbrev Plan := List Stage

namespace Plan

def text (plan : Plan) : String := " | ".intercalate (plan.map Stage.text)

def lastOrderIndex? : Plan → Option Nat
  | [] => none
  | stage :: plan =>
    match lastOrderIndex? plan with
    | some i => some (i + 1)
    | none => if stage.isOrder then some 0 else none

theorem lastOrderIndex?_eq_none_iff {plan : Plan} :
    lastOrderIndex? plan = none ↔ ∀ stage ∈ plan, stage.isOrder = false := by
  induction plan with
  | nil => simp [lastOrderIndex?]
  | cons stage plan ih =>
    rw [lastOrderIndex?]
    cases h : lastOrderIndex? plan with
    | some i => simp_all
    | none => cases hs : stage.isOrder <;> simp_all

def freshOrder : List SortKey → Plan
  | [] => []
  | primary :: secondaries => .orderPrimary primary :: secondaries.map .orderSecondary

def spliceOrder (plan : Plan) (keys : List SortKey) (ignoreExisting : Bool) : Plan :=
  match if ignoreExisting then none else plan.lastOrderIndex? with
  | some i => plan.take (i + 1) ++ keys.map .orderSecondary ++ plan.drop (i + 1)
  | none => plan ++ freshOrder keys

@[simp] theorem spliceOrder_nil (plan : Plan) (ignoreExisting : Bool) :
    plan.spliceOrder [] ignoreExisting = plan := by
  unfold spliceOrder
  split <;> simp [freshOrder]

end Plan

end RecordQuery

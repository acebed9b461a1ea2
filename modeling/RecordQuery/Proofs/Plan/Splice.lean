import Mathlib.Data.List.DropRight
import RecordQuery.Proofs.Plan.Sorting
import RecordQuery.Proofs.Plan.Stages
import RecordQuery.Proofs.Ties

/-!
# New keys behind an existing ordering

Keys spliced into a plan come into force after its last ordering, so old and new run differ in one
sort: by the keys in force, or by these and the new ones. Filters keep the rows of both runs the
same, and as both are in the order of the old keys, rows at the same position tie under them. From
the first window on the runs may show different rows, but the ties and the finer order stay.
-/

namespace RecordQuery

open Std

variable {Row : Type} {view : Row → Value} {schema : Schema} {element : FieldType}
  {keys more : List SortKey} {rows : List Row}

namespace Stage

def isFilter : Stage → Bool
  | filter _ => true
  | _ => false

def isWindow : Stage → Bool
  | skip _ | take _ => true
  | _ => false

/-- The keys in force after a stage. -/
def activeKeys (keys : List SortKey) : Stage → List SortKey
  | orderPrimary key => [key]
  | orderSecondary key => keys ++ [key]
  | _ => keys

theorem activeKeys_of_not_isOrder {stage : Stage} (h : stage.isOrder = false)
    (keys : List SortKey) : stage.activeKeys keys = keys := by
  cases stage with
  | filter predicate | skip n | take n => rfl
  | orderPrimary key | orderSecondary key => cases h

end Stage

namespace Plan

/-- The keys of the ordering in force at the end: those since the last primary ordering. -/
def activeKeys (plan : Plan) : List SortKey := plan.foldl Stage.activeKeys []

/-- The stages behind the last ordering. -/
def afterOrder (plan : Plan) : Plan := plan.rtakeWhile fun stage => !stage.isOrder

/-- No filter follows a skip or a take. -/
def WindowsLast (stages : Plan) : Prop :=
  stages.Pairwise fun first later => first.isWindow = true → later.isFilter = false

theorem isOrder_of_mem_afterOrder {plan : Plan} {stage : Stage} (h : stage ∈ plan.afterOrder) :
    stage.isOrder = false := by
  simpa using List.mem_rtakeWhile_imp h

theorem eq_append_afterOrder {plan : Plan} (ordered : ∃ stage ∈ plan, stage.isOrder = true) :
    ∃ front order, order.isOrder = true ∧ plan = front ++ [order] ++ plan.afterOrder := by
  have hsplit : plan.rdropWhile (fun stage => !stage.isOrder) ++ plan.afterOrder = plan :=
    List.rdropWhile_append_rtakeWhile
  rcases List.eq_nil_or_concat (plan.rdropWhile fun stage => !stage.isOrder) with
    hnil | ⟨front, order, hconcat⟩
  · obtain ⟨stage, hstage, horder⟩ := ordered
    rw [hnil, List.nil_append] at hsplit
    rw [← hsplit] at hstage
    rw [isOrder_of_mem_afterOrder hstage] at horder
    cases horder
  · refine ⟨front, order, ?_, ?_⟩
    · have hlast := List.rdropWhile_last_not (fun stage => !stage.isOrder) plan (by simp [hconcat])
      simpa [hconcat] using hlast
    · rw [← List.concat_eq_append, ← hconcat, hsplit]

theorem lastOrderIndex?_append {front stages : Plan} {order : Stage} (horder : order.isOrder = true)
    (select : ∀ stage ∈ stages, stage.isOrder = false) :
    lastOrderIndex? (front ++ order :: stages) = some front.length := by
  induction front with
  | nil =>
    rw [List.nil_append, lastOrderIndex?, lastOrderIndex?_eq_none_iff.2 select]
    simp [horder]
  | cons stage front ih =>
    rw [List.cons_append, lastOrderIndex?, ih]
    rfl

theorem spliceOrder_append {front stages : Plan} {order : Stage} (horder : order.isOrder = true)
    (select : ∀ stage ∈ stages, stage.isOrder = false) (keys : List SortKey) :
    spliceOrder (front ++ [order] ++ stages) keys false =
      front ++ [order] ++ keys.map Stage.orderSecondary ++ stages := by
  have hindex : lastOrderIndex? (front ++ [order] ++ stages) = some front.length := by
    rw [← List.append_cons, lastOrderIndex?_append horder select]
  have hlength : front.length + 1 = List.length (front ++ [order]) := by simp
  simp only [spliceOrder, hindex, Bool.false_eq_true, if_false, hlength]
  rw [List.take_left, List.drop_left]

theorem keys_foldl (plan : Plan) (progress : Progress Row) :
    (plan.foldl (Progress.step view) progress).keys = plan.foldl Stage.activeKeys progress.keys := by
  induction plan generalizing progress with
  | nil => rfl
  | cons stage plan ih =>
    rw [List.foldl_cons, List.foldl_cons, ih]
    cases stage <;> rfl

theorem activeKeys_append {stages : Plan} (select : ∀ stage ∈ stages, stage.isOrder = false)
    (plan : Plan) : activeKeys (plan ++ stages) = activeKeys plan := by
  rw [activeKeys, List.foldl_append]
  induction stages with
  | nil => rfl
  | cons stage stages ih =>
    obtain ⟨hstage, hlater⟩ := List.forall_mem_cons.1 select
    rw [List.foldl_cons, Stage.activeKeys_of_not_isOrder hstage]
    exact ih hlater

/-- Two arrangements of the same rows: in the order of some keys, and of these and more. -/
structure Refines (view : Row → Value) (keys more : List SortKey) (old new : List Row) : Prop where
  perm : old.Perm new
  ordered : old.Pairwise fun a b => (rowOrder view keys a b).isLE
  refined : new.Pairwise fun a b => (rowOrder view (keys ++ more) a b).isLE

/-- As many rows on both sides, which tie under some keys position by position. The new ones are in
the order of these keys and more. -/
structure Ties (view : Row → Value) (keys more : List SortKey) (old new : List Row) : Prop where
  ties : List.Forall₂ (fun a b => rowOrder view keys a b = .eq) old new
  refined : new.Pairwise fun a b => (rowOrder view (keys ++ more) a b).isLE

theorem isLE_rowOrder_of_append {a b : Row} (h : (rowOrder view (keys ++ more) a b).isLE) :
    (rowOrder view keys a b).isLE := by
  rw [rowOrder, SortKey.compareBy_append] at h
  exact Ordering.isLE_left_of_isLE_then h

variable {old new : List Row}

theorem refines_sortRows (h : Orders (rowOrder view keys) rows)
    (h' : Orders (rowOrder view (keys ++ more)) rows) :
    Refines view keys more (sortRows view keys rows) (sortRows view (keys ++ more) rows) where
  perm := (sortRows_perm view keys rows).trans (sortRows_perm view (keys ++ more) rows).symm
  ordered := (stablySorts_sortRows h).ordered
  refined := (stablySorts_sortRows h').ordered

theorem Refines.filter (h : Refines view keys more old new) (p : Row → Bool) :
    Refines view keys more (old.filter p) (new.filter p) where
  perm := h.perm.filter p
  ordered := h.ordered.filter p
  refined := h.refined.filter p

theorem Refines.ties (h : Refines view keys more old new)
    (orders : Orders (rowOrder view keys) old) : Ties view keys more old new where
  ties := by
    apply orders.forall₂_eq_of_perm h.perm h.ordered
    exact h.refined.imp isLE_rowOrder_of_append
  refined := h.refined

theorem Ties.window (h : Ties view keys more old new) {stage : Stage}
    (window : stage.isWindow = true) :
    Ties view keys more (stage.select view old) (stage.select view new) := by
  cases stage with
  | skip n => exact ⟨List.forall₂_drop n h.ties, h.refined.drop⟩
  | take n => exact ⟨List.forall₂_take n h.ties, h.refined.take⟩
  | filter predicate | orderPrimary key | orderSecondary key => cases window

theorem Ties.foldl (h : Ties view keys more old new) {stages : Plan}
    (windows : ∀ stage ∈ stages, stage.isWindow = true) :
    Ties view keys more (stages.foldl (Stage.select view) old)
      (stages.foldl (Stage.select view) new) := by
  induction stages generalizing old new with
  | nil => exact h
  | cons stage stages ih =>
    obtain ⟨hstage, hlater⟩ := List.forall_mem_cons.1 windows
    exact ih (h.window hstage) hlater

/-- Up to the first window both runs have the same rows, so they can be compared there. -/
theorem Refines.foldl (h : Refines view keys more old new)
    (orders : Orders (rowOrder view keys) old) {stages : Plan}
    (select : ∀ stage ∈ stages, stage.isOrder = false) (last : WindowsLast stages) :
    Ties view keys more (stages.foldl (Stage.select view) old)
      (stages.foldl (Stage.select view) new) := by
  induction stages generalizing old new with
  | nil => exact h.ties orders
  | cons stage stages ih =>
    obtain ⟨hstage, hlater⟩ := List.forall_mem_cons.1 select
    cases stage with
    | filter predicate =>
      exact ih (h.filter _) (orders.mono fun row hrow => (List.mem_filter.1 hrow).1) hlater last.of_cons
    | skip n | take n =>
      apply (h.ties orders).foldl
      intro later hmem
      rcases List.mem_cons.1 hmem with rfl | hmem
      · rfl
      · have hfilter := List.rel_of_pairwise_cons last hmem rfl
        have horder := hlater later hmem
        cases later with
        | skip n | take n => rfl
        | filter predicate => cases hfilter
        | orderPrimary key | orderSecondary key => cases horder
    | orderPrimary key | orderSecondary key => cases hstage

/-- Right behind an ordering its rows are still to be sorted by the keys in force. -/
theorem run_order_secondaries {front stages : Plan} {order : Stage} (horder : order.isOrder = true)
    (more : List SortKey) (select : ∀ stage ∈ stages, stage.isOrder = false) (rows : List Row) :
    run view (front ++ [order] ++ more.map Stage.orderSecondary ++ stages) rows =
      stages.foldl (Stage.select view) (sortRows view (activeKeys (front ++ [order]) ++ more)
        ((front ++ [order]).foldl (Progress.step view) { rows }).rows) := by
  have hpending : ((front ++ [order]).foldl (Progress.step view) { rows }).pending = true := by
    rw [List.foldl_append]
    cases order with
    | orderPrimary key | orderSecondary key => rfl
    | filter predicate | skip n | take n => cases horder
  rw [run_append select, run, List.foldl_append, foldl_orderSecondary, keys_foldl, hpending]
  rfl

/-- Existing orderings keep precedence over keys that are spliced in: the new result has as many rows
as the old one, at every position rows that tie under the keys in force, and it is in the order of
these keys and then the new ones. -/
theorem run_spliceOrder {plan : Plan}
    (conforms : ∀ row ∈ rows, Conforms schema element (view row))
    (ordered : ∃ stage ∈ plan, stage.isOrder = true) (last : WindowsLast plan.afterOrder)
    (numbers : NumbersOnly view (plan.activeKeys ++ more) rows) :
    (run view (plan.spliceOrder more false) rows).length = (run view plan rows).length ∧
      List.Forall₂ (fun old new => rowOrder view plan.activeKeys old new = .eq)
        (run view plan rows) (run view (plan.spliceOrder more false) rows) ∧
      (run view (plan.spliceOrder more false) rows).Pairwise fun a b =>
        (rowOrder view (plan.activeKeys ++ more) a b).isLE := by
  obtain ⟨front, order, horder, hplan⟩ := eq_append_afterOrder ordered
  have hselect : ∀ stage ∈ plan.afterOrder, stage.isOrder = false :=
    fun _ => isOrder_of_mem_afterOrder
  generalize plan.afterOrder = stages at hplan last hselect
  subst hplan
  rw [activeKeys_append hselect] at numbers ⊢
  have hold := @run_order_secondaries Row view front stages order horder [] hselect rows
  have hnew := @run_order_secondaries Row view front stages order horder more hselect rows
  rw [List.map_nil, List.append_nil, List.append_nil] at hold
  rw [spliceOrder_append horder hselect, hold, hnew]
  generalize activeKeys (front ++ [order]) = keys at numbers ⊢
  have hrows : ∀ row ∈ ((front ++ [order]).foldl (Progress.step view) { rows }).rows, row ∈ rows :=
    fun _ hrow => (Progress.foldl_subperm (front ++ [order]) { rows }).subset hrow
  generalize ((front ++ [order]).foldl (Progress.step view) { rows }).rows = due at hrows ⊢
  have orders : Orders (rowOrder view keys) due := by
    apply (orders_rowOrder conforms _).mono hrows
    intro key hkey
    exact numbers key (List.mem_append_left more hkey)
  have refined : Orders (rowOrder view (keys ++ more)) due :=
    (orders_rowOrder conforms numbers).mono hrows
  have hties := (refines_sortRows orders refined).foldl
    (orders.mono fun row hrow => mem_sortRows.1 hrow) hselect last
  exact ⟨hties.ties.length_eq.symm, hties.ties, hties.refined⟩

/-- The three players last by name, from the oldest to the youngest; of those with a captain all but
the first. -/
def oldestLed : Plan :=
  [.orderPrimary ⟨⟨["name"], .string, false⟩, .desc, true⟩, .take 3,
    .orderPrimary ⟨⟨["age"], .optional .int, true⟩, .desc, false⟩,
    .filter (.comparison ⟨["captain"], .optional (.record "Player"), true⟩ .ne .null false), .skip 1]

theorem run_spliceOrder_oldestLed :
    (run id (oldestLed.spliceOrder [⟨⟨["name"], .string, false⟩, .asc, true⟩] false) squad).length =
        (run id oldestLed squad).length ∧
      List.Forall₂ (fun old new => rowOrder id oldestLed.activeKeys old new = .eq)
        (run id oldestLed squad)
        (run id (oldestLed.spliceOrder [⟨⟨["name"], .string, false⟩, .asc, true⟩] false) squad) ∧
      (run id (oldestLed.spliceOrder [⟨⟨["name"], .string, false⟩, .asc, true⟩] false)
        squad).Pairwise fun a b =>
          (rowOrder id (oldestLed.activeKeys ++ [⟨⟨["name"], .string, false⟩, .asc, true⟩])
            a b).isLE := by
  refine run_spliceOrder conforms_squad ?_ ?_ ?_
  · exact ⟨_, List.mem_cons_self, rfl⟩
  · unfold WindowsLast
    decide
  · unfold NumbersOnly
    decide

end Plan

end RecordQuery

import RecordQuery.Error

/-!
# Page policies

Limits on the pages that requests may ask for. The options are state and keep what was written
before a refusal.
-/

namespace RecordQuery

inductive Exceeding
  /-- The count is lowered to the maximum. -/
  | clamp
  | reject
deriving DecidableEq, Repr

structure PagePolicy where
  maxCount : Int64 := 100
  /-- Pages are to report how many elements there are before paging. -/
  includeDataSetCount : Bool := true
  exceeding : Exceeding := .clamp
deriving DecidableEq

namespace PagePolicy

/-- The count that a policy grants, if any. -/
def grant (policy : PagePolicy) (count : Int64) : Except QueryError Int64 :=
  if policy.maxCount < count then
    match policy.exceeding with
    | .clamp => pure policy.maxCount
    | .reject => throw (.maximumResultSetExceeded count policy.maxCount)
  else if count ≤ 0 then pure 1
  else pure count

def grantOffset (offset : Int64) : Int64 := if offset < 0 then 0 else offset

/-- Without a page, one that only counts is added if the policy wants counts. -/
def enforce (policy : PagePolicy) : EStateM QueryError QueryOptions Unit := fun options =>
  match options.page with
  | none =>
    .ok () (if policy.includeDataSetCount then
      { options with page := some { assignDataSetCount := true } } else options)
  | some page =>
    let page := { page with assignDataSetCount := policy.includeDataSetCount }
    match policy.grant page.count with
    | .error refusal => .error refusal { options with page := some page }
    | .ok count =>
      .ok () { options with page := some { page with count, offset := grantOffset page.offset } }

end PagePolicy

end RecordQuery

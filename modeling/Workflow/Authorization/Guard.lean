import Workflow.Authorization.Evaluation

/-!
# Guards of queries

A query does not fail for want of permissions: rows that the subject may not see are left out. The
`Guard` of a query says for whom and by which checks.
-/

namespace Workflow

/-- For whom, and by which alternative checks, the rows of a query are filtered. -/
structure Guard where
  /-- Whether rows are filtered at all. -/
  enforced : Bool
  /-- The user for whom they are filtered; without one all rows are shown. -/
  user : Option String
  /-- The user's groups. -/
  groups : List String
  /-- The alternative checks, each bound to the row through its column. -/
  checks : List Check
  deriving DecidableEq, Repr

namespace Guard

/-- The guard that shows every row. -/
def none : Guard := ⟨false, .none, [], []⟩

instance : Inhabited Guard := ⟨none⟩

/-- Whether the guard shows a row. -/
def shows (g : Guard) (grants : List Grant) (row : Columns) : Bool :=
  if g.enforced then
    match g.user with
    | some user => satisfiesAny grants ⟨user, g.groups⟩ (g.checks.map (·.bindTo row))
    | .none => true
  else true

end Guard

end Workflow

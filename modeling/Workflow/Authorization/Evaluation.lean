import Workflow.Authorization.Check
import Workflow.Subject

/-!
# Deciding checks from grants

Grants decide a check in three steps. Only the grants that are about the resource and apply to the
subject count. If there is none, the check itself says what the answer is. Otherwise some grant that
gives the permission must have a broader `Scope` than the broadest of the grants that deny it.

* `Grant.decides`: the grants that count.
* `Check.isSatisfied`: the decision for one check.
* `satisfiesAny`: the decision for alternatives.
-/

namespace Workflow

/-- How much of a kind of resource a grant covers. -/
inductive Scope where
  /-- One resource. -/
  | one
  /-- All resources of the kind. -/
  | all
  deriving DecidableEq, Repr

namespace Scope

/-- Whether the first scope covers less than the second. -/
def narrower : Scope → Scope → Bool
  | one, all => true
  | _, _ => false

instance : Max Scope := ⟨fun a b => if a.narrower b then b else a⟩

end Scope

namespace Grant

/-- How much the grant covers. -/
def scope (g : Grant) : Scope := if g.isAny then .all else .one

/-- Whether the grant applies to a subject: it is for everybody, names the user or every user, or
names one of the groups. -/
def appliesTo (g : Grant) (s : Subject) : Bool :=
  match g.kind with
  | .everybody => true
  | .give | .deny =>
    g.user = some s.user || g.user = some anyId || g.group.any s.isMemberOf

/-- Whether the grant is about the resource of a check. -/
def covers (g : Grant) (c : Check) : Bool :=
  g.resource = c.resource && (g.isAny || c.resourceId = some g.resourceId)

/-- Whether the grant counts when a check is decided for a subject. -/
def decides (g : Grant) (s : Subject) (c : Check) : Bool := g.covers c && g.appliesTo s

/-- Whether the grant takes rights away. -/
def isDeny (g : Grant) : Bool := g.kind.isDeny

end Grant

/-- The decision of a check for a subject. -/
def Check.isSatisfied (c : Check) (grants : List Grant) (s : Subject) : Bool :=
  let deciding := grants.filter (·.decides s c)
  if deciding.isEmpty then c.unmatched.getD false
  else
    let carrying := deciding.filter (·.carries c.permission)
    let broadestDenial := ((carrying.filter (·.isDeny)).map (·.scope)).max?
    carrying.any fun g => !g.isDeny && broadestDenial.all (·.narrower g.scope)

/-- The decision for alternative checks. -/
def satisfiesAny (grants : List Grant) (s : Subject) (checks : List Check) : Bool :=
  checks.any (·.isSatisfied grants s)

end Workflow

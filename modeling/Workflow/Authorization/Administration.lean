import Workflow.Action
import Workflow.Store.Grants

/-!
# Administration of grants

Grants are resources themselves: to make, change, delete or see one takes a permission on it.
Deleting a grant also deletes the grants that are about it.
-/

namespace Workflow.Administration

/-- A grant that is not stored yet. -/
def newGrant (kind : GrantKind) (resource : Resource) : Action Grant := do
  Action.authorize (·.require .create .authorization none)
  return Grant.new (← Action.fresh) kind resource

/-- Fail if the shape of a grant is wrong. -/
def requireSound (g : Grant) : Except Error Unit :=
  match g.fault? with
  | some fault => .error (.invalid (.grant fault))
  | none => .ok ()

/-- Store a grant, in place of the one with its id if there is one. -/
def saveGrant (g : Grant) : Action Grant := do
  Action.decided (requireSound g)
  let known ← Action.consult fun _ s => .ok (s.grants.contains g.id)
  if known then
    Action.authorize (·.require .update .authorization (some g.id))
    Action.modify (·.replaceGrant g)
  else
    Action.authorize (·.require .create .authorization none)
    Action.modify (·.addGrant g)
  return g

/-- Delete the grants about a resource that is deleted, and count them. Where permissions are not
enforced, the grants stay. -/
def deleteGrantsOn (resource : Resource) (resourceId : Option String) : Action Nat := do
  let id ← match resourceId with
    | some id => pure id
    | none => Action.fail (.invalid .noResourceId)
  if (← Action.context).enforced then
    Action.change fun s => .ok (s.countGrantsOn resource id, s.eraseGrantsOn resource id)
  else return 0

/-- Delete a grant and the grants about it. -/
def deleteGrant (id : String) : Action Unit := do
  let g ← Action.consult fun _ s => Store.row s.grants .grant id
  Action.authorize (·.require .delete .authorization (some g.id))
  Action.update (·.eraseGrant g.id)
  discard (deleteGrantsOn .authorization (some g.id))

/-- A query that shows only grants that the subject may see. -/
def guarded (a : Authority) (q : GrantQuery) : GrantQuery :=
  { q with guard := a.guardBy .read .authorization Column.id }

/-- The grants that meet a query and that the subject may see. -/
def selectGrants (q : GrantQuery) : Action (List Grant) :=
  Action.consult fun c s => .ok (s.selectGrants (guarded (c.authority s) q))

/-- The grants that are about a resource or about all resources of its kind, whoever asks. -/
def grantsOnOrAny (s : Store) (resource : Resource) (resourceId : String) : List Grant :=
  s.selectGrants { resource := some resource, resourceId := some resourceId, includeAny := true }

end Workflow.Administration

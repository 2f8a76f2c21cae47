import Workflow.Store

/-!
# Grants in the store

A grant is added under an id of its own, replaced, or deleted together with the grants that are
about it.
-/

namespace Workflow

/-- Whether a grant is about exactly this resource. -/
def Grant.isOn (g : Grant) (resource : Resource) (resourceId : String) : Bool :=
  g.resource = resource && g.resourceId = resourceId

namespace Store

/-- Add a grant under an id that is not taken. -/
def addGrant (s : Store) (g : Grant) : Except Error Store :=
  if s.grants.contains g.id then .error (.storage (.duplicateGrant g.id))
  else .ok (s.putGrant g)

/-- Put a grant in place of the stored one with its id. -/
def replaceGrant (s : Store) (g : Grant) : Except Error Store :=
  if s.grants.contains g.id then .ok (s.putGrant g)
  else .error (.missing (.row .grant g.id))

/-- Delete a grant. -/
def eraseGrant (s : Store) (id : String) : Store := { s with grants := s.grants.erase id }

/-- Delete the grants about a resource. -/
def eraseGrantsOn (s : Store) (resource : Resource) (resourceId : String) : Store :=
  { s with grants := s.grants.filter fun g => !g.isOn resource resourceId }

/-- How many grants are about a resource. -/
def countGrantsOn (s : Store) (resource : Resource) (resourceId : String) : Nat :=
  s.grants.rows.countP (·.isOn resource resourceId)

end Store

end Workflow

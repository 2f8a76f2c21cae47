/-!
# Subjects

The user, with groups, on whose behalf a command runs.
-/

namespace Workflow

/-- A user and the groups the user belongs to. -/
structure Subject where
  /-- The id of the user. -/
  user : String
  /-- The ids of the user's groups. -/
  groups : List String
  deriving DecidableEq, Repr

/-- Whether the subject belongs to a group. -/
def Subject.isMemberOf (s : Subject) (group : String) : Bool := s.groups.contains group

end Workflow

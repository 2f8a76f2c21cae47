import Workflow.Permission
import Workflow.Resource

/-!
# Grants

A `Grant` gives or denies permissions on one resource, or on all of a kind, to a user, to a group
or to everybody. `Grant.fault?` says what is wrong with the shape of a grant, if anything is.
-/

namespace Workflow

/-- How a grant bears on a decision. -/
inductive GrantKind where
  /-- Gives permissions to everybody. -/
  | everybody
  /-- Gives permissions to one user or group. -/
  | give
  /-- Denies permissions to one user or group. -/
  | deny
  deriving DecidableEq, Repr

namespace GrantKind

/-- The number under which a kind is stored. -/
def number : GrantKind → Nat
  | everybody => 0
  | give => 1
  | deny => 2

/-- Whether grants of the kind take rights away. -/
def isDeny (k : GrantKind) : Bool := k = deny

end GrantKind

/-- Permissions given or denied on a resource. -/
structure Grant where
  /-- The id of the grant. -/
  id : String
  /-- Whether the grant gives or denies, and whether to everybody. -/
  kind : GrantKind
  /-- The user it is about. -/
  user : Option String
  /-- The group it is about. -/
  group : Option String
  /-- The kind of resource it is about. -/
  resource : Resource
  /-- The resource it is about; `anyId` for all of the kind. -/
  resourceId : String
  /-- What it gives or denies. -/
  permissions : PermissionSet
  deriving DecidableEq, Repr

namespace Grant

/-- A grant on all resources of a kind that carries nothing yet. -/
def new (id : String) (kind : GrantKind) (resource : Resource) : Grant where
  id := id
  kind := kind
  user := if kind = .everybody then some anyId else none
  group := none
  resource := resource
  resourceId := anyId
  permissions := ∅

/-- The grant with one more permission. -/
def addPermission (g : Grant) (p : Permission) : Grant :=
  { g with permissions := g.permissions.insert p }

/-- The grant without a permission. -/
def removePermission (g : Grant) (p : Permission) : Grant :=
  { g with permissions := g.permissions.erase p }

/-- Whether the grant carries a permission. -/
def carries (g : Grant) (p : Permission) : Bool := g.permissions.contains p

/-- Whether the grant is about all resources of its kind. -/
def isAny (g : Grant) : Bool := g.resourceId = anyId

/-- What can be wrong with the shape of a grant. -/
inductive Fault where
  /-- A grant to everybody names a user other than `anyId`, or none. -/
  | everybodyWithUser (user : Option String)
  /-- A grant to everybody names a group. -/
  | everybodyWithGroup
  /-- Neither a user nor a group is named. -/
  | noSubject
  /-- Both a user and a group are named. -/
  | twoSubjects
  /-- The resource id is empty. -/
  | emptyResourceId
  deriving DecidableEq, Repr

/-- The first fault in the shape of a grant: the subject is looked at before the resource id. -/
def fault? (g : Grant) : Option Fault :=
  let ofSubject : Option Fault :=
    match g.kind with
    | .everybody =>
      if g.user ≠ some anyId then some (.everybodyWithUser g.user)
      else if g.group.isSome then some .everybodyWithGroup
      else none
    | .give | .deny =>
      match g.user, g.group with
      | none, none => some .noSubject
      | some _, some _ => some .twoSubjects
      | _, _ => none
  match ofSubject with
  | some f => some f
  | none => if g.resourceId = "" then some .emptyResourceId else none

end Grant

end Workflow

import Workflow.Authorization.Guard
import Workflow.Record

/-!
# Records of subjects, grants and checks
-/

namespace Workflow

/-! ## Names -/

/-- The permission of a name. -/
def Permission.ofValueName? (v : Value) : Option Permission := v.asCase? values name

/-- The kind of resource of a name. -/
def Resource.ofValue? (v : Value) : Option Resource := v.asCase? values name

namespace GrantKind

/-- Every kind, in order of number. -/
def values : List GrantKind := [everybody, give, deny]

/-- The name of a kind in records. -/
def name : GrantKind → String
  | everybody => "Global"
  | give => "Grant"
  | deny => "Deny"

/-- The kind of a name. -/
def ofValue? (v : Value) : Option GrantKind := v.asCase? values name

end GrantKind

/-! ## Sets of permissions -/

/-- The number of a set of permissions. -/
def PermissionSet.toValue (s : PermissionSet) : Value := .integer s.value

/-- The set of permissions of a number. -/
def PermissionSet.ofValue? (v : Value) : Option PermissionSet := v.asInt32?.map ofValue

/-! ## Subjects -/

namespace Subject

/-- The record of a subject. -/
def toValue (s : Subject) : Value :=
  .object [("user_id", .text s.user), ("group_ids", .ofTexts s.groups)]

/-- The subject of a record. -/
def ofValue? (v : Value) : Option Subject := do
  match ← v.parts? ["user_id", "group_ids"] with
  | [user, groups] =>
    return ⟨← part Value.asText? user, ← part (Value.asList? Value.asText?) groups⟩
  | _ => none

end Subject

/-! ## Grants -/

namespace Grant

/-- The record of a grant. -/
def toValue (g : Grant) : Value :=
  .object [
    ("id", .text g.id),
    ("authorization_type", .text g.kind.name),
    ("user_id", .ofText? g.user),
    ("group_id", .ofText? g.group),
    ("resource", .text g.resource.name),
    ("resource_id", .text g.resourceId),
    ("permissions", g.permissions.toValue)]

/-- The grant of a record. -/
def ofValue? (v : Value) : Option Grant := do
  match ← v.parts? ["id", "authorization_type", "user_id", "group_id", "resource", "resource_id",
      "permissions"] with
  | [id, kind, user, group, resource, resourceId, permissions] =>
    return {
      id := ← part Value.asText? id
      kind := ← part GrantKind.ofValue? kind
      user := ← optionalPart Value.asText? user
      group := ← optionalPart Value.asText? group
      resource := ← part Resource.ofValue? resource
      resourceId := ← part Value.asText? resourceId
      permissions := ← part PermissionSet.ofValue? permissions }
  | _ => none

end Grant

/-! ## Checks and guards -/

namespace Check

/-- The record of a check. -/
def toValue (c : Check) : Value :=
  .object [
    ("permission", .text c.permission.name),
    ("resource", .text c.resource.name),
    ("resource_id", .ofText? c.resourceId),
    ("resource_id_query_param", .ofText? c.column),
    ("no_match_default", .ofOption .bool c.unmatched)]

/-- The check of a record. -/
def ofValue? (v : Value) : Option Check := do
  match ← v.parts? ["permission", "resource", "resource_id", "resource_id_query_param",
      "no_match_default"] with
  | [permission, resource, resourceId, column, unmatched] =>
    return {
      permission := ← part Permission.ofValueName? permission
      resource := ← part Resource.ofValue? resource
      resourceId := ← optionalPart Value.asText? resourceId
      column := ← optionalPart Value.asText? column
      unmatched := ← optionalPart Value.asBool? unmatched }
  | _ => none

end Check

/-- The record of a guard. -/
def Guard.toValue (g : Guard) : Value :=
  .object [
    ("enabled", .bool g.enforced),
    ("user", .ofText? g.user),
    ("groups", .ofTexts g.groups),
    ("checks", .list (g.checks.map (·.toValue)))]

end Workflow

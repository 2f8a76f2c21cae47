import Workflow.Proofs.Authorization.Visibility

/-!
# What a subject holds

What a subject may do can be said of the store alone: by its grants the subject *holds* a permission
on a resource or not. Where permissions are enforced, a command that requires something of a subject
goes on exactly if the subject holds it.

* `Store.Holds`: a permission on one resource, or on all of a kind.
* `Store.MayUpdateInstance`, `Store.MayStart`: what it takes to act on instances.
* `Context.Binds`: permissions are enforced, for this subject. `Binds.requireUpdateInstance` and its
  siblings are the requirements in these terms.
-/

namespace Workflow

namespace Store

/-- By the grants of the store the subject has a permission on a resource; without an id, on all
resources of the kind. -/
def Holds (s : Store) (u : Subject) (permission : Permission) (resource : Resource)
    (id : Option String) : Prop :=
  (Check.new permission resource id).isSatisfied s.grants.rows u = true

instance (s : Store) (u : Subject) (permission : Permission) (resource : Resource)
    (id : Option String) : Decidable (s.Holds u permission resource id) :=
  inferInstanceAs (Decidable (_ = true))

/-- The subject may change this process instance, or all instances of its process. -/
def MayUpdateInstance (s : Store) (u : Subject) (instanceId definitionKey : String) : Prop :=
  s.Holds u .update .processInstance (some instanceId) ∨
    s.Holds u .updateInstances .processDefinition (some definitionKey)

instance (s : Store) (u : Subject) (instanceId definitionKey : String) :
    Decidable (s.MayUpdateInstance u instanceId definitionKey) :=
  inferInstanceAs (Decidable (_ ∨ _))

/-- The subject may create process instances, and instances of this process. -/
def MayStart (s : Store) (u : Subject) (definitionKey : String) : Prop :=
  s.Holds u .create .processInstance none ∧
    s.Holds u .createInstances .processDefinition (some definitionKey)

instance (s : Store) (u : Subject) (definitionKey : String) :
    Decidable (s.MayStart u definitionKey) :=
  inferInstanceAs (Decidable (_ ∧ _))

end Store

/-- Work in this context is bound to the permissions of a subject. -/
structure Context.Binds (c : Context) (u : Subject) : Prop where
  enforced : c.enforced = true
  subject : c.subject = some u

/-- Where permissions are enforced, what is asked for on somebody's behalf is bound to theirs. -/
theorem Engine.binds_contextFor {e : Engine} (h : e.settings.enforced = true) (u : Subject) :
    (e.contextFor (some u)).Binds u := ⟨h, rfl⟩

namespace Context.Binds

variable {c : Context} {u : Subject} (h : c.Binds u) {s : Store}
include h

theorem permits {permission : Permission} {resource : Resource} {id : Option String} :
    (c.authority s).permits permission resource id = true ↔ s.Holds u permission resource id := by
  have hbound : (c.authority s).bound? = some u := by
    simp [Authority.bound?, authority, h.enforced, h.subject]
  simp only [Authority.permits, Authority.permitsAny, hbound, satisfiesAny, List.any_cons,
    List.any_nil, Bool.or_false]
  rfl

theorem require {permission : Permission} {resource : Resource} {id : Option String} :
    (c.authority s).require permission resource id = .ok () ↔ s.Holds u permission resource id := by
  rw [Authority.require_eq_ok, h.permits]

theorem requireUpdateInstance {instanceId definitionKey : String} :
    (c.authority s).requireUpdateInstance instanceId definitionKey = .ok () ↔
      s.MayUpdateInstance u instanceId definitionKey := by
  rw [Authority.requireUpdateInstance, Authority.requireInstance_eq_ok, h.permits, h.permits]
  rfl

theorem requireUpdateInstances {definitionKey : String} :
    (c.authority s).requireUpdateInstances definitionKey = .ok () ↔
      s.Holds u .updateInstances .processDefinition (some definitionKey) :=
  h.require

theorem requireUpdateDefinition {definitionKey : String} :
    (c.authority s).requireUpdateDefinition definitionKey = .ok () ↔
      s.Holds u .update .processDefinition (some definitionKey) :=
  h.require

theorem requireStart {definitionKey : String} :
    (c.authority s).requireStart definitionKey = .ok () ↔ s.MayStart u definitionKey := by
  rw [Authority.requireStart, bind_eq_ok, Store.MayStart, ← h.require, ← h.require]
  exact ⟨fun ⟨_, hcreate, hstart⟩ => ⟨hcreate, hstart⟩, fun ⟨hcreate, hstart⟩ =>
    ⟨(), hcreate, hstart⟩⟩

end Context.Binds

end Workflow

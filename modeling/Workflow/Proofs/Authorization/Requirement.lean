import Workflow.Proofs.Authorization.Free

/-!
# Asking and requiring

Whether one of several checks is satisfied can be asked, and it can be required, so that work ends
where none is. The requirement that is not met is denied to the subject, in the words of the last
check. The two agree on every list of checks but one: without any check the answer is no, if there
is somebody who needs a permission, and yet nothing is required of them.

* `bound?_eq_some_iff`: who needs permissions.
* `requireAny_of_refused`: the denial.
* `permitsAny_nil`, `requireAny_nil`: the list without a check.
* `required_as_asked`: how requiring goes with asking, whatever the grants and the checks.
-/

namespace Workflow.Authority

variable {a : Authority} {checks : List Check} {s : Subject}

/-- The subject needs permissions where they are enforced. -/
theorem bound?_eq_some_iff : a.bound? = some s ↔ a.enforced = true ∧ a.subject = some s := by
  simp [bound?]

/-- Only somebody who needs permissions is refused. -/
theorem exists_bound_of_refused (h : a.permitsAny checks = false) : ∃ s, a.bound? = some s := by
  cases hbound : a.bound? with
  | some s => exact ⟨s, rfl⟩
  | none => simp [permitsAny, hbound] at h

/-- **What is refused is denied**, in the words of the last check. -/
theorem requireAny_of_refused {last : Check} (hlast : checks.getLast? = some last)
    (hbound : a.bound? = some s) (hrefused : a.permitsAny checks = false) :
    a.requireAny checks =
      .error (.denied ⟨s.user, last.permission, last.resource, last.resourceId⟩) := by
  simp [requireAny, hbound, hrefused, hlast]

/-- No check at all is never satisfied. -/
theorem permitsAny_nil : a.permitsAny [] = true ↔ a.bound? = none := by
  cases hbound : a.bound? with
  | none => simp [permitsAny, hbound]
  | some s => simp [permitsAny, hbound, satisfiesAny]

/-- Without any check nothing is required. -/
theorem requireAny_nil : a.requireAny [] = .ok () := by
  cases hbound : a.bound? with
  | none => exact requireAny_of_free hbound []
  | some s => simp [requireAny, hbound]

/-- How requiring one of several checks goes with asking for it. -/
structure RequiresAsAsked (a : Authority) (checks : List Check) : Prop where
  /-- Where there is a check, the requirement is met exactly if the answer is yes. -/
  met : checks ≠ [] → (a.requireAny checks = .ok () ↔ a.permitsAny checks = true)
  /-- If the answer is no, permissions are enforced for a subject, and the subject is denied what
  the last check is for. -/
  denied : ∀ last, checks.getLast? = some last → a.permitsAny checks = false →
    ∃ s, a.enforced = true ∧ a.subject = some s ∧ a.requireAny checks =
      .error (.denied ⟨s.user, last.permission, last.resource, last.resourceId⟩)
  /-- Where there is no check, the requirement is met, but the answer is yes only if nobody needs a
  permission. -/
  nothing : checks = [] → a.requireAny checks = .ok () ∧
    (a.permitsAny checks = true ↔ a.enforced = false ∨ a.subject = none)

/-- **Requiring goes with asking**, whatever the grants and the checks, except that without a check
nothing is required. -/
theorem required_as_asked (a : Authority) (checks : List Check) : a.RequiresAsAsked checks where
  met := requireAny_eq_ok
  denied last hlast hrefused := by
    obtain ⟨s, hbound⟩ := exists_bound_of_refused hrefused
    obtain ⟨henforced, hsubject⟩ := bound?_eq_some_iff.1 hbound
    exact ⟨s, henforced, hsubject, requireAny_of_refused hlast hbound hrefused⟩
  nothing := by
    rintro rfl
    refine ⟨requireAny_nil, permitsAny_nil.trans ?_⟩
    cases henforced : a.enforced <;> simp [bound?, henforced]

/-- Of somebody without any grant nothing is required where there is no check, although asking gives
no. -/
theorem no_check_refused_and_not_required :
    let a : Authority := ⟨true, some ⟨"john", []⟩, []⟩
    a.permitsAny [] = false ∧ a.requireAny [] = .ok () :=
  ⟨rfl, rfl⟩

/-- Without any grant both alternatives are refused, and the denial is about the second. -/
example :
    let a : Authority := ⟨true, some ⟨"john", []⟩, []⟩
    a.requireAny [.new .read .task (some "t"), .new .readTasks .processDefinition (some "order")] =
      .error (.denied ⟨"john", .readTasks, .processDefinition, some "order"⟩) := by
  rfl

end Workflow.Authority

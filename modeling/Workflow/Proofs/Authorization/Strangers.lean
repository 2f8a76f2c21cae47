import Workflow.Authorization.Administration
import Workflow.Proofs.Authorization.Rule
import Workflow.Search

/-!
# Strangers

A stranger is a subject to whom no grant applies: there is none for everybody, and none names the
user, every user or a group of the user's. Where permissions are enforced, a stranger has none: no
check is satisfied, for the checks that commands make never answer yes by themselves.

* `Grant.Ignores`: a grant does not apply to a subject, for it is about others.
* `Authority.IsPowerless`: permissions are enforced and every grant ignores the subject.
* `IsPowerless.requireAny` and its siblings: what commands need is refused.
* `IsPowerless.shows_guardOr`: what queries find is hidden.
-/

namespace Workflow

/-- The grant does not apply to the subject: it is not for everybody and names neither the user,
nor every user, nor one of the groups. -/
def Grant.Ignores (g : Grant) (s : Subject) : Prop :=
  g.kind ≠ .everybody ∧ g.user ≠ some s.user ∧ g.user ≠ some anyId ∧
    ∀ group ∈ g.group, group ∉ s.groups

theorem Grant.Ignores.not_isFor {g : Grant} {s : Subject} (h : g.Ignores s) : ¬ g.IsFor s := by
  obtain ⟨hkind, huser, hany, hgroup⟩ := h
  rintro (he | he | he | ⟨group, hmember, he⟩)
  · exact hkind he
  · exact huser he
  · exact hany he
  · exact hgroup group he hmember

/-! ## Decisions -/

/-- Where all grants are about others a check answers yes only if it says so itself. -/
theorem Check.isSatisfied_of_ignores {c : Check} {grants : List Grant} {s : Subject}
    (hc : c.unmatched ≠ some true) (h : ∀ g ∈ grants, g.Ignores s) :
    c.isSatisfied grants s = false := by
  rw [isSatisfied_of_irrelevant fun g hg hrelevant => (h g hg).not_isFor hrelevant.subject]
  cases hu : c.unmatched with
  | none => rfl
  | some b => cases b <;> simp_all

theorem satisfiesAny_of_ignores {grants : List Grant} {s : Subject} {checks : List Check}
    (hc : ∀ c ∈ checks, c.unmatched ≠ some true) (h : ∀ g ∈ grants, g.Ignores s) :
    satisfiesAny grants s checks = false := by
  refine List.any_eq_false.2 fun c hmem => ?_
  simp [Check.isSatisfied_of_ignores (hc c hmem) h]

namespace Authority

/-- Permissions are enforced, for a subject whom every grant ignores. -/
structure IsPowerless (a : Authority) (u : Subject) : Prop where
  enforced : a.enforced = true
  subject : a.subject = some u
  ignores : ∀ g ∈ a.grants, g.Ignores u

namespace IsPowerless

variable {a : Authority} {u : Subject}

theorem bound? (h : a.IsPowerless u) : a.bound? = some u := by
  simp [Authority.bound?, h.enforced, h.subject]

/-- Alternatives are refused, unless there is nothing to choose from. -/
theorem requireAny (h : a.IsPowerless u) {checks : List Check} (hne : checks ≠ [])
    (hc : ∀ c ∈ checks, c.unmatched ≠ some true) : a.requireAny checks ≠ .ok () := by
  have hdenied : a.permitsAny checks = false := by
    simp [permitsAny, h.bound?, satisfiesAny_of_ignores hc h.ignores]
  obtain ⟨c, hlast⟩ : ∃ c, checks.getLast? = some c := ⟨_, List.getLast?_eq_some_getLast hne⟩
  simp [Authority.requireAny, h.bound?, hdenied, hlast]

theorem require (h : a.IsPowerless u) (permission : Permission) (resource : Resource)
    (resourceId : Option String) : a.require permission resource resourceId ≠ .ok () :=
  h.requireAny (by simp) (by simp [Check.new])

theorem requireStart (h : a.IsPowerless u) (definitionKey : String) :
    a.requireStart definitionKey ≠ .ok () := by
  intro hok
  rw [Authority.requireStart] at hok
  cases hfirst : a.require .create .processInstance none with
  | ok _ => exact h.require _ _ _ hfirst
  | error e =>
    rw [hfirst] at hok
    cases hok

theorem requireUpdateInstance (h : a.IsPowerless u) (instanceId definitionKey : String) :
    a.requireUpdateInstance instanceId definitionKey ≠ .ok () :=
  h.requireAny (by simp) (by simp [Check.new])

theorem requireUpdateInstances (h : a.IsPowerless u) (definitionKey : String) :
    a.requireUpdateInstances definitionKey ≠ .ok () := h.require _ _ _

theorem requireUpdateDefinition (h : a.IsPowerless u) (definitionKey : String) :
    a.requireUpdateDefinition definitionKey ≠ .ok () := h.require _ _ _

/-- Only a task of a case is not refused. -/
theorem requireUpdateTask (h : a.IsPowerless u) {t : Task} (hok : a.requireUpdateTask t = .ok ()) :
    t.caseExecutionId.isSome ∧ t.executionId = none := by
  rw [Authority.requireUpdateTask, requireTask] at hok
  split at hok
  · split at hok
    · exact absurd hok (h.requireAny (by simp) (by simp [Check.new]))
    · exact absurd hok (h.requireAny (by simp) (by simp [Check.new]))
  · rename_i hexecution
    split at hok
    · exact absurd hok (h.require _ _ _)
    · rename_i hcase
      exact ⟨by simpa [Option.isSome_iff_ne_none] using hcase, by simpa using hexecution⟩

/-! ## Queries -/

/-- No guard for the subject shows a row, whatever permissions it asks for. -/
theorem shows (h : a.IsPowerless u) {checks : List Check}
    (hc : ∀ c ∈ checks, c.unmatched ≠ some true) (row : Columns) :
    Guard.shows ⟨true, some u.user, u.groups, checks⟩ a.grants row = false := by
  simp only [Guard.shows, if_true]
  refine satisfiesAny_of_ignores (fun c hmem => ?_) h.ignores
  obtain ⟨d, hd, rfl⟩ := List.mem_map.1 hmem
  exact hc d hd

theorem shows_guardBy (h : a.IsPowerless u) (permission : Permission) (resource : Resource)
    (column : String) (row : Columns) :
    (a.guardBy permission resource column).shows a.grants row = false := by
  rw [guardBy, h.bound?]
  exact h.shows (by simp [Check.ofColumn]) row

theorem shows_guardOr (h : a.IsPowerless u) (resource : Resource) (column : String)
    (onDefinition : Permission) (row : Columns) :
    (a.guardOr resource column onDefinition).shows a.grants row = false := by
  rw [guardOr, alsoGuard, guardBy, h.bound?]
  exact h.shows (by simp [Check.ofColumn]) row

end IsPowerless

end Authority

/-! ## Strangers of a store -/

/-- No grant of the store applies to the subject. -/
def Store.IsStranger (s : Store) (u : Subject) : Prop := ∀ g ∈ s.grants.rows, g.Ignores u

theorem Store.IsStranger.isPowerless {s : Store} {u : Subject} (h : s.IsStranger u) {c : Context}
    (henforced : c.enforced = true) (hsubject : c.subject = some u) :
    (c.authority s).IsPowerless u := ⟨henforced, hsubject, h⟩

end Workflow

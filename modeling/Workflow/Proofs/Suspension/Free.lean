import Workflow.Proofs.Authorization.Free
import Workflow.Proofs.Suspension.Decision

/-!
# Requests that nobody has to be permitted to make

In a free context a request that names its resources well is refused only if something is missing,
and what is missing can be told from the store. Who asks, which grants there are and what the audit
log says play no part.

* `OnlyMissing`: a decision fails only because something is missing.
* `Request.isGone`: something that a request needs is not there.
* `Request.onlyMissing_admission`, `Request.isOk_admission_of_free`: when a request is admitted.
* `Request.admission_eq_of_free`: all free contexts admit the same requests.
-/

namespace Workflow

/-! ## Decisions that fail for something missing -/

/-- What is decided fails only because something is missing. -/
def OnlyMissing {α : Type} (x : Except Error α) : Prop := ∀ e, x = .error e → e.isMissing

namespace OnlyMissing

variable {α β : Type}

theorem ok (a : α) : OnlyMissing (.ok a) := FailsOnly.ok a

theorem missing (what : Missing) : OnlyMissing (.error (.missing what) : Except Error α) :=
  FailsOnly.error rfl

theorem bind {x : Except Error α} {f : α → Except Error β} (hx : OnlyMissing x)
    (hf : ∀ a, OnlyMissing (f a)) : OnlyMissing (x >>= f) := FailsOnly.bind hx hf

theorem row (t : Table α) (kind : RowKind) (id : String) : OnlyMissing (Store.row t kind id) := by
  unfold Store.row
  split
  · exact .ok _
  · exact .missing _

theorem requireAny {c : Context} (h : c.IsFree) (s : Store) (checks : List Check) :
    OnlyMissing ((c.authority s).requireAny checks) := by
  rw [Authority.requireAny_of_free (h.bound? s)]
  exact .ok ()

end OnlyMissing

namespace Suspension.Request

variable {r : Request} {selector : RowSelector} {c : Context} {s : Store}

theorem onlyMissing_require (hfree : c.IsFree) (s : Store) :
    OnlyMissing (r.require selector c s) := by
  have hgranted := OnlyMissing.requireAny hfree s
  unfold require
  cases r.target with
  | job => exact .ok ()
  | processDefinition =>
    have hall (key : String) : OnlyMissing (do
        (c.authority s).requireUpdateDefinition key
        if r.dependents then (c.authority s).requireUpdateInstances key else .ok ()) := by
      refine .bind (hgranted _) fun _ => ?_
      split
      · exact hgranted _
      · exact .ok ()
    cases selector with
    | processDefinitionKey key => exact hall key
    | _ => exact .bind (.bind (.row _ _ _) fun _ => .ok _) hall
  | processInstance =>
    cases selector with
    | processDefinitionKey key => exact hgranted _
    | _ => exact .bind (.row _ _ _) fun _ => hgranted _
  | jobDefinition =>
    cases selector with
    | processDefinitionKey key => exact hgranted _
    | _ => exact .bind (.row _ _ _) fun _ => hgranted _

theorem onlyMissing_before (s : Store) : OnlyMissing (r.before selector s) := by
  unfold before
  split
  · split
    · exact .ok _
    · exact .missing _
  · exact .ok _

/-- A request that names its resources well is refused nobody, unless something is missing. -/
theorem onlyMissing_admission (hfree : c.IsFree) (hselector : r.normalized.selector = .ok selector)
    (s : Store) : OnlyMissing (r.admission c s) := by
  unfold admission
  rw [hselector]
  refine .bind (.ok _) fun selector => .bind (onlyMissing_require hfree s) fun _ => ?_
  split
  · exact onlyMissing_before s
  · exact .ok _

/-! ## What is gone -/

/-- Something that has to be there for a request is not: the resource that is named by its own id,
or the process definition by whose id resources other than jobs are named. -/
def isGone (r : Request) (s : Store) : Bool :=
  match r.chosen? with
  | some (.id v) => (s.state? r.target v).isNone
  | some (.processDefinitionId v) => r.target ≠ .job && (s.definitions.get? v).isNone
  | _ => false

section

variable (hfree : c.IsFree)
include hfree

theorem require_id_of_free {v : String} (h : (s.state? r.target v).isSome) :
    r.require (.id v) c s = .ok () := by
  have hbound := hfree.bound? s
  obtain ⟨state, hstate⟩ := Option.isSome_iff_exists.1 h
  unfold require
  cases ht : r.target with
  | processDefinition =>
    rw [ht] at hstate
    obtain ⟨d, hd, -⟩ := Option.map_eq_some_iff.1 hstate
    simp only [RowSelector.value, Store.row_eq_ok.2 hd, Except.map, bind, Except.bind,
      Authority.requireUpdateDefinition_of_free hbound,
      Authority.requireUpdateInstances_of_free hbound, ite_self]
  | processInstance =>
    rw [ht] at hstate
    obtain ⟨e, he, -⟩ := Option.map_eq_some_iff.1 hstate
    obtain ⟨he, -⟩ := Option.filter_eq_some_iff.1 he
    exact bind_eq_ok.2
      ⟨e, Store.row_eq_ok.2 he, Authority.requireUpdateInstance_of_free hbound _ _⟩
  | jobDefinition =>
    rw [ht] at hstate
    obtain ⟨d, hd, -⟩ := Option.map_eq_some_iff.1 hstate
    exact bind_eq_ok.2
      ⟨d, Store.row_eq_ok.2 hd, Authority.requireUpdateDefinition_of_free hbound _⟩
  | job => rfl

theorem require_key_of_free (s : Store) (key : String) :
    r.require (.processDefinitionKey key) c s = .ok () := by
  have hinstances := Authority.requireUpdateInstances_of_free (hfree.bound? s) key
  have hdefinition := Authority.requireUpdateDefinition_of_free (hfree.bound? s) key
  unfold require
  cases r.target with
  | processDefinition => simp only [bind, Except.bind, hdefinition, hinstances, ite_self]
  | processInstance => exact hinstances
  | jobDefinition => exact hdefinition
  | job => rfl

theorem require_eq_of_free {c' : Context} (hfree' : c'.IsFree) (s : Store) (grants : Table Grant)
    (log : List LogEntry) :
    r.require selector c' { s with grants := grants, log := log } = r.require selector c s := by
  have hbound := hfree.bound? s
  have hbound' := hfree'.bound? { s with grants := grants, log := log }
  unfold require
  cases r.target <;> cases selector <;>
    simp only [Context.requireUpdateInstance, Context.requireUpdateInstances,
      Context.requireUpdateDefinition, Authority.requireUpdateInstance_of_free hbound,
      Authority.requireUpdateInstance_of_free hbound',
      Authority.requireUpdateInstances_of_free hbound,
      Authority.requireUpdateInstances_of_free hbound',
      Authority.requireUpdateDefinition_of_free hbound,
      Authority.requireUpdateDefinition_of_free hbound']

/-- **Free contexts admit the same requests**, whatever the grants and the audit log are. -/
theorem admission_eq_of_free {c' : Context} (hfree' : c'.IsFree) (s : Store)
    (grants : Table Grant) (log : List LogEntry) :
    r.admission c' { s with grants := grants, log := log } = r.admission c s := by
  simp only [admission, require_eq_of_free hfree hfree' s grants log]
  rfl

end

end Suspension.Request

end Workflow

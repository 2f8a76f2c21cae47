import Workflow.Authorization.Evaluation
import Workflow.Proofs.PermissionSet

/-!
# The rule by which grants decide

A check is decided by the grants that are relevant to it: those about its resource, or about all of
the kind, that are for the subject. If there is none, the check answers for itself. Otherwise some
relevant grant has to give the permission, and no relevant grant may deny it that covers as much.

* `Grant.IsRelevant`, `Grant.Gives`, `Grant.Denies` and `Grant.CoversAsMuch` are the words of the
  rule, `Check.IsGiven` is the rule itself. None of them is computed from a list of grants.
* `all_narrower_max?`: what is broader than the broadest denial is broader than every denial.
* `isSatisfied_of_irrelevant`, `isSatisfied_iff_isGiven`: the decision by the rule.
* `isSatisfied_congr_relevant`: only which grants are relevant matters, not how they are listed.
* `grants_decide_by_rule`: the rule for every list of grants, every subject and every check.
-/

namespace Workflow

/-! ## The words of the rule -/

namespace Grant

/-- The grant is for the subject: it is for everybody, or names the user, every user or one of the
groups. -/
def IsFor (g : Grant) (s : Subject) : Prop :=
  g.kind = .everybody ∨ g.user = some s.user ∨ g.user = some anyId ∨
    ∃ group ∈ s.groups, g.group = some group

/-- The grant is about the resource of the check or about all of its kind, and for the subject. -/
structure IsRelevant (g : Grant) (s : Subject) (c : Check) : Prop where
  resource : g.resource = c.resource
  id : g.resourceId = anyId ∨ c.resourceId = some g.resourceId
  subject : g.IsFor s

/-- All bits of the permission are set in the grant. -/
def HasBits (g : Grant) (p : Permission) : Prop :=
  ∀ i, p.bits.getLsbD i = true → g.permissions.bits.getLsbD i = true

/-- The grant is one that gives, and it has the permission. -/
def Gives (g : Grant) (p : Permission) : Prop := g.kind ≠ .deny ∧ g.HasBits p

/-- The grant is one that denies, and it has the permission. -/
def Denies (g : Grant) (p : Permission) : Prop := g.kind = .deny ∧ g.HasBits p

/-- The scope of the first grant is equal to that of the second or broader: all resources of a kind
are more than one. -/
def CoversAsMuch (d g : Grant) : Prop := d.resourceId = anyId ∨ g.resourceId ≠ anyId

end Grant

/-- Some relevant grant gives the permission, and no relevant grant denies it that covers as
much. -/
def Check.IsGiven (c : Check) (grants : List Grant) (s : Subject) : Prop :=
  ∃ g ∈ grants, g.IsRelevant s c ∧ g.Gives c.permission ∧
    ∀ d ∈ grants, d.IsRelevant s c → d.Denies c.permission → ¬ d.CoversAsMuch g

/-! ## The tests of the decision -/

namespace Scope

theorem narrower_max (a b c : Scope) :
    (max a b).narrower c = (a.narrower c && b.narrower c) := by
  cases a <;> cases b <;> cases c <;> rfl

theorem narrower_foldl_max (a c : Scope) (rest : List Scope) :
    (rest.foldl max a).narrower c = (a.narrower c && rest.all (·.narrower c)) := by
  induction rest generalizing a with
  | nil => simp
  | cons b rest ih => rw [List.foldl_cons, ih, narrower_max, List.all_cons, Bool.and_assoc]

/-- The broadest of some scopes is narrower than another if all of them are. -/
theorem all_narrower_max? (scopes : List Scope) (c : Scope) :
    scopes.max?.all (·.narrower c) = scopes.all (·.narrower c) := by
  cases scopes with
  | nil => rfl
  | cons a rest => rw [List.max?_cons', Option.all_some, narrower_foldl_max, List.all_cons]

end Scope

namespace Grant

variable {g d : Grant} {s : Subject} {c : Check} {p : Permission}

theorem appliesTo_iff : g.appliesTo s = true ↔ g.IsFor s := by
  have hgroup : g.group.any s.isMemberOf = true ↔ ∃ group ∈ s.groups, g.group = some group := by
    cases g.group with
    | none => simp
    | some group => simp [Subject.isMemberOf]
  unfold appliesTo IsFor
  cases g.kind with
  | everybody => simp
  | give => simp [hgroup, or_assoc]
  | deny => simp [hgroup, or_assoc]

theorem decides_iff : g.decides s c = true ↔ g.IsRelevant s c := by
  have hcovers : g.covers c = true ↔
      g.resource = c.resource ∧ (g.resourceId = anyId ∨ c.resourceId = some g.resourceId) := by
    simp [covers, isAny]
  rw [decides, Bool.and_eq_true, hcovers, appliesTo_iff]
  exact ⟨fun ⟨⟨hresource, hid⟩, hfor⟩ => ⟨hresource, hid, hfor⟩,
    fun h => ⟨⟨h.resource, h.id⟩, h.subject⟩⟩

theorem carries_iff : g.carries p = true ↔ g.HasBits p := PermissionSet.contains_iff

theorem isDeny_iff : g.isDeny = true ↔ g.kind = .deny := by
  simp [isDeny, GrantKind.isDeny]

theorem narrower_iff : d.scope.narrower g.scope = true ↔ ¬ d.CoversAsMuch g := by
  unfold scope isAny CoversAsMuch
  by_cases hd : d.resourceId = anyId <;> by_cases hg : g.resourceId = anyId <;>
    simp [hd, hg, Scope.narrower]

end Grant

/-! ## The decision by the rule -/

namespace Check

variable {c : Check} {grants grants' : List Grant} {s : Subject}

/-- Without a relevant grant the check answers for itself, and no if it has no answer. -/
theorem isSatisfied_of_irrelevant (h : ∀ g ∈ grants, ¬ g.IsRelevant s c) :
    c.isSatisfied grants s = c.unmatched.getD false := by
  have hnone : grants.filter (·.decides s c) = [] := by
    refine List.filter_eq_nil_iff.2 fun g hg => ?_
    rw [Grant.decides_iff]
    exact h g hg
  simp [isSatisfied, hnone]

/-- **With a relevant grant the rule decides.** -/
theorem isSatisfied_iff_isGiven (h : ∃ g ∈ grants, g.IsRelevant s c) :
    c.isSatisfied grants s = true ↔ c.IsGiven grants s := by
  have hsome : (grants.filter (·.decides s c)).isEmpty = false := by
    obtain ⟨g, hg, hrelevant⟩ := h
    have hmem : g ∈ grants.filter (·.decides s c) :=
      List.mem_filter.2 ⟨hg, Grant.decides_iff.2 hrelevant⟩
    simpa [List.isEmpty_eq_false_iff] using List.ne_nil_of_mem hmem
  have hcarrying (g : Grant) :
      g ∈ (grants.filter (·.decides s c)).filter (·.carries c.permission) ↔
        g ∈ grants ∧ g.IsRelevant s c ∧ g.HasBits c.permission := by
    rw [List.mem_filter, List.mem_filter, Grant.decides_iff, Grant.carries_iff, and_assoc]
  simp only [isSatisfied, hsome, Bool.false_eq_true, if_false, Scope.all_narrower_max?,
    List.all_map, Function.comp_apply, List.any_eq_true, List.all_eq_true, Bool.and_eq_true,
    List.mem_filter (p := Grant.isDeny), hcarrying, Grant.isDeny_iff, Grant.narrower_iff,
    Bool.not_eq_true', Bool.eq_false_iff, ne_eq]
  constructor
  · rintro ⟨g, ⟨hg, hrelevant, hbits⟩, hgives, hdenied⟩
    refine ⟨g, hg, hrelevant, ⟨hgives, hbits⟩, fun d hd hrelevant' ⟨hdeny, hbits'⟩ => ?_⟩
    exact hdenied d ⟨⟨hd, hrelevant', hbits'⟩, hdeny⟩
  · rintro ⟨g, hg, hrelevant, ⟨hgives, hbits⟩, hdenied⟩
    refine ⟨g, ⟨hg, hrelevant, hbits⟩, hgives, fun d ⟨⟨hd, hrelevant', hbits'⟩, hdeny⟩ => ?_⟩
    exact hdenied d hd hrelevant' ⟨hdeny, hbits'⟩

/-- The rule looks at relevant grants only, and not at how often or where they are listed. -/
theorem isGiven_congr_relevant (h : ∀ g, g.IsRelevant s c → (g ∈ grants ↔ g ∈ grants')) :
    c.IsGiven grants s ↔ c.IsGiven grants' s := by
  have himp {a b : List Grant} (hab : ∀ g, g.IsRelevant s c → (g ∈ a ↔ g ∈ b)) :
      c.IsGiven a s → c.IsGiven b s := by
    rintro ⟨g, hg, hrelevant, hgives, hdenied⟩
    refine ⟨g, (hab g hrelevant).1 hg, hrelevant, hgives, fun d hd hrelevant' => ?_⟩
    exact hdenied d ((hab d hrelevant').2 hd) hrelevant'
  exact ⟨himp h, himp fun g hg => (h g hg).symm⟩

/-- Lists with the same relevant grants decide alike. -/
theorem isSatisfied_congr_relevant (h : ∀ g, g.IsRelevant s c → (g ∈ grants ↔ g ∈ grants')) :
    c.isSatisfied grants s = c.isSatisfied grants' s := by
  by_cases hsome : ∃ g ∈ grants, g.IsRelevant s c
  · have hsome' : ∃ g ∈ grants', g.IsRelevant s c := by
      obtain ⟨g, hg, hrelevant⟩ := hsome
      exact ⟨g, (h g hrelevant).1 hg, hrelevant⟩
    rw [Bool.eq_iff_iff, isSatisfied_iff_isGiven hsome, isSatisfied_iff_isGiven hsome']
    exact isGiven_congr_relevant h
  · have hnone (g : Grant) (hg : g ∈ grants) : ¬ g.IsRelevant s c := fun hr => hsome ⟨g, hg, hr⟩
    rw [isSatisfied_of_irrelevant hnone, isSatisfied_of_irrelevant]
    exact fun g hg hr => hnone g ((h g hr).2 hg) hr

end Check

/-! ## Decisions for every list of grants -/

/-- How some grants decide checks for a subject. -/
structure DecidesByRule (grants : List Grant) (s : Subject) : Prop where
  /-- A check for which no grant is relevant answers for itself, and no if it has no answer. -/
  unmatched : ∀ c : Check, (∀ g ∈ grants, ¬ g.IsRelevant s c) →
    c.isSatisfied grants s = c.unmatched.getD false
  /-- Any other check is satisfied if its permission is given and not denied as broadly. -/
  matched : ∀ c : Check, (∃ g ∈ grants, g.IsRelevant s c) →
    (c.isSatisfied grants s = true ↔ c.IsGiven grants s)
  /-- Grants in another order, more often or with irrelevant ones among them decide alike. -/
  relevantOnly : ∀ (c : Check) (others : List Grant),
    (∀ g, g.IsRelevant s c → (g ∈ grants ↔ g ∈ others)) →
      c.isSatisfied grants s = c.isSatisfied others s
  /-- Of alternative checks one has to be satisfied. -/
  alternatives : ∀ checks : List Check,
    satisfiesAny grants s checks = true ↔ ∃ c ∈ checks, c.isSatisfied grants s = true

/-- **Grants decide by the rule**, whatever they are and for whomever they decide. -/
theorem grants_decide_by_rule (grants : List Grant) (s : Subject) : DecidesByRule grants s where
  unmatched _ h := Check.isSatisfied_of_irrelevant h
  matched _ h := Check.isSatisfied_iff_isGiven h
  relevantOnly _ _ h := Check.isSatisfied_congr_relevant h
  alternatives _ := List.any_eq_true

/-- A grant to all clerks lets one of them read an order, although another order is denied to him. It
does not let him read all orders. -/
example :
    let clerk : Subject := ⟨"john", ["clerks"]⟩
    let give : Grant := { Grant.new "a" .give .processInstance with
      group := some "clerks", resourceId := "order", permissions := .ofList [.read] }
    let deny : Grant := { Grant.new "b" .deny .processInstance with
      user := some "john", resourceId := "other", permissions := .ofList [.all] }
    (Check.new .read .processInstance (some "order")).isSatisfied [give, deny] clerk = true ∧
      (Check.new .read .processInstance none).isSatisfied [give, deny] clerk = false := by
  decide

end Workflow

import Workflow.Proofs.Authorization.Rule

/-!
# Rights follow the grants

A grant that gives can only add to what a subject may do, and a grant that denies can only take away
from it; so can a permission that is added to a grant of either sort. There is one exception. A
check that answers yes where no grant is relevant answers no once the first one is, be it a grant
that gives.

* `Check.Preserves`: a change of the grants by which nothing that was given is lost.
  `Preserves.isSatisfied` concludes this for the decision.
* `preserves_of_denial_gone`, `preserves_of_giver_added`, `preserves_of_giver_extended`,
  `preserves_of_denial_reduced`: the changes of one grant in a list.
* `rights_follow_grants`: what they do to the decision for alternative checks.
-/

namespace Workflow

namespace Grant

variable {g : Grant} {s : Subject} {c : Check} {p q : Permission}

/-- What a grant carries, it carries with one permission more. -/
theorem HasBits.addPermission (h : g.HasBits q) (p : Permission) :
    (g.addPermission p).HasBits q := by
  intro i hi
  simp [Grant.addPermission, PermissionSet.insert, h i hi]

/-- What a grant is about and whom it is for has nothing to do with what it carries. -/
theorem isRelevant_addPermission : (g.addPermission p).IsRelevant s c ↔ g.IsRelevant s c :=
  ⟨fun h => ⟨h.resource, h.id, h.subject⟩, fun h => ⟨h.resource, h.id, h.subject⟩⟩

end Grant

/-! ## Changes that lose nothing -/

/-- From some grants to others nothing is lost for a check: what gave its permission has something
in its place that gives it in the same scope, and what denies it is in the place of something that
denied it in the same scope. -/
structure Check.Preserves (c : Check) (s : Subject) (grants grants' : List Grant) : Prop where
  gives : ∀ g ∈ grants, g.IsRelevant s c → g.Gives c.permission →
    ∃ g' ∈ grants', g'.IsRelevant s c ∧ g'.Gives c.permission ∧ g'.resourceId = g.resourceId
  denies : ∀ d ∈ grants', d.IsRelevant s c → d.Denies c.permission →
    ∃ d' ∈ grants, d'.IsRelevant s c ∧ d'.Denies c.permission ∧ d'.resourceId = d.resourceId

namespace Check

variable {c : Check} {s : Subject} {grants grants' before after : List Grant} {g : Grant}

theorem Preserves.isGiven (h : c.Preserves s grants grants') (hgiven : c.IsGiven grants s) :
    c.IsGiven grants' s := by
  obtain ⟨g, hg, hrelevant, hgives, hundenied⟩ := hgiven
  obtain ⟨g', hg', hrelevant', hgives', hscope⟩ := h.gives g hg hrelevant hgives
  refine ⟨g', hg', hrelevant', hgives', fun d hd hd_relevant hdenies hcovers => ?_⟩
  obtain ⟨d', hd', hd'_relevant, hdenies', hscope'⟩ := h.denies d hd hd_relevant hdenies
  refine hundenied d' hd' hd'_relevant hdenies' ?_
  simpa [Grant.CoversAsMuch, hscope, hscope'] using hcovers

/-- **Nothing that was satisfied is lost**, as long as a check that answers yes by itself is still
left to itself. -/
theorem Preserves.isSatisfied (h : c.Preserves s grants grants')
    (hunmatched : c.unmatched = some true → (∀ g ∈ grants, ¬ g.IsRelevant s c) →
      ∀ g ∈ grants', ¬ g.IsRelevant s c)
    (hsatisfied : c.isSatisfied grants s = true) : c.isSatisfied grants' s = true := by
  by_cases hsome : ∃ g ∈ grants, g.IsRelevant s c
  · have hgiven : c.IsGiven grants' s := h.isGiven ((isSatisfied_iff_isGiven hsome).1 hsatisfied)
    have hsome' : ∃ g ∈ grants', g.IsRelevant s c := by
      obtain ⟨g, hg, hrelevant, -⟩ := hgiven
      exact ⟨g, hg, hrelevant⟩
    exact (isSatisfied_iff_isGiven hsome').2 hgiven
  · have hnone : ∀ g ∈ grants, ¬ g.IsRelevant s c := by simpa using hsome
    rw [isSatisfied_of_irrelevant hnone] at hsatisfied
    have hyes : c.unmatched = some true := by
      cases hanswer : c.unmatched <;> simp_all
    rw [isSatisfied_of_irrelevant (hunmatched hyes hnone), hsatisfied]

/-! ## Changes of one grant -/

theorem preserves_of_denial_gone (hdeny : g.kind = .deny) :
    c.Preserves s (before ++ g :: after) (before ++ after) where
  gives other hother hrelevant hgives := by
    have hne : other ≠ g := fun heq => hgives.1 (heq ▸ hdeny)
    exact ⟨other, by simpa [hne] using hother, hrelevant, hgives, rfl⟩
  denies d hd hrelevant hdenies :=
    ⟨d, List.perm_middle.mem_iff.2 (List.mem_cons_of_mem g hd), hrelevant, hdenies, rfl⟩

theorem preserves_of_giver_added (hgiver : g.kind ≠ .deny) :
    c.Preserves s (before ++ after) (before ++ g :: after) where
  gives other hother hrelevant hgives :=
    ⟨other, List.perm_middle.mem_iff.2 (List.mem_cons_of_mem g hother), hrelevant, hgives, rfl⟩
  denies d hd hrelevant hdenies := by
    have hne : d ≠ g := fun heq => hgiver (heq ▸ hdenies.1)
    exact ⟨d, by simpa [hne] using hd, hrelevant, hdenies, rfl⟩

/-- One grant comes in place of another one. -/
theorem preserves_of_replaced {g' : Grant} (hid : g'.resourceId = g.resourceId)
    (hrelevant : g'.IsRelevant s c ↔ g.IsRelevant s c)
    (hgives : g.Gives c.permission → g'.Gives c.permission)
    (hdenies : g'.Denies c.permission → g.Denies c.permission) :
    c.Preserves s (before ++ g :: after) (before ++ g' :: after) where
  gives other hother hother_relevant hother_gives := by
    rcases List.mem_cons.1 (List.perm_middle.mem_iff.1 hother) with rfl | hrest
    · exact ⟨g', by simp, hrelevant.2 hother_relevant, hgives hother_gives, hid⟩
    · exact ⟨other, List.perm_middle.mem_iff.2 (List.mem_cons_of_mem g' hrest), hother_relevant,
        hother_gives, rfl⟩
  denies d hd hd_relevant hd_denies := by
    rcases List.mem_cons.1 (List.perm_middle.mem_iff.1 hd) with rfl | hrest
    · exact ⟨g, by simp, hrelevant.1 hd_relevant, hdenies hd_denies, hid.symm⟩
    · exact ⟨d, List.perm_middle.mem_iff.2 (List.mem_cons_of_mem g hrest), hd_relevant,
        hd_denies, rfl⟩

theorem preserves_of_giver_extended (hgiver : g.kind ≠ .deny) (p : Permission) :
    c.Preserves s (before ++ g :: after) (before ++ g.addPermission p :: after) :=
  preserves_of_replaced rfl Grant.isRelevant_addPermission
    (fun ⟨hkind, hbits⟩ => ⟨hkind, hbits.addPermission p⟩) fun hdenies => absurd hdenies.1 hgiver

theorem preserves_of_denial_reduced (hdeny : g.kind = .deny) (p : Permission) :
    c.Preserves s (before ++ g.addPermission p :: after) (before ++ g :: after) :=
  preserves_of_replaced rfl Grant.isRelevant_addPermission.symm
    (fun hgives => absurd hdeny hgives.1) fun ⟨hkind, hbits⟩ => ⟨hkind, hbits.addPermission p⟩

/-- A grant that is put in the place of another is relevant exactly if that one was. -/
theorem irrelevant_of_replaced {g' : Grant} (hrelevant : g'.IsRelevant s c ↔ g.IsRelevant s c)
    (hnone : ∀ other ∈ before ++ g :: after, ¬ other.IsRelevant s c) :
    ∀ other ∈ before ++ g' :: after, ¬ other.IsRelevant s c := by
  intro other hother
  rcases List.mem_cons.1 (List.perm_middle.mem_iff.1 hother) with rfl | hrest
  · exact fun h => hnone g (by simp) (hrelevant.1 h)
  · exact hnone other (List.perm_middle.mem_iff.2 (List.mem_cons_of_mem g hrest))

end Check

/-! ## Alternative checks -/

theorem satisfiesAny_of_forall {checks : List Check} {s : Subject} {grants grants' : List Grant}
    (h : ∀ c ∈ checks, c.isSatisfied grants s = true → c.isSatisfied grants' s = true)
    (hsatisfied : satisfiesAny grants s checks = true) : satisfiesAny grants' s checks = true := by
  obtain ⟨c, hc, hyes⟩ := List.any_eq_true.1 hsatisfied
  exact List.any_eq_true.2 ⟨c, hc, h c hc hyes⟩

theorem not_satisfiesAny_of_forall {checks : List Check} {s : Subject} {grants grants' : List Grant}
    (h : ∀ c ∈ checks, c.isSatisfied grants' s = true → c.isSatisfied grants s = true)
    (hrefused : satisfiesAny grants s checks = false) : satisfiesAny grants' s checks = false :=
  Bool.eq_false_iff.2 fun hsatisfied =>
    Bool.eq_false_iff.1 hrefused (satisfiesAny_of_forall h hsatisfied)

/-- How the decision for alternative checks follows one grant, at some place in a list of grants. -/
structure RightsFollow (s : Subject) (checks : List Check) (before after : List Grant) : Prop where
  /-- What is refused is still refused when a denial is added. -/
  denial_added : ∀ d : Grant, d.kind = .deny →
    satisfiesAny (before ++ after) s checks = false →
      satisfiesAny (before ++ d :: after) s checks = false
  /-- What is permitted is still permitted when a grant that gives is added, unless a check answers
  yes by itself. -/
  giver_added : (∀ c ∈ checks, c.unmatched ≠ some true) → ∀ g : Grant, g.kind ≠ .deny →
    satisfiesAny (before ++ after) s checks = true →
      satisfiesAny (before ++ g :: after) s checks = true
  /-- What is permitted is still permitted when a grant that gives has one permission more. -/
  giver_extended : ∀ (g : Grant) (p : Permission), g.kind ≠ .deny →
    satisfiesAny (before ++ g :: after) s checks = true →
      satisfiesAny (before ++ g.addPermission p :: after) s checks = true
  /-- What is refused is still refused when a denial has one permission more. -/
  denial_extended : ∀ (d : Grant) (p : Permission), d.kind = .deny →
    satisfiesAny (before ++ d :: after) s checks = false →
      satisfiesAny (before ++ d.addPermission p :: after) s checks = false

/-- **Rights follow the grants**, whatever the grants, the subject and the alternative checks, and
wherever in the list the grant stands. -/
theorem rights_follow_grants (s : Subject) (checks : List Check) (before after : List Grant) :
    RightsFollow s checks before after where
  denial_added d hdeny hrefused := by
    refine not_satisfiesAny_of_forall (fun c _ => ?_) hrefused
    refine (Check.preserves_of_denial_gone hdeny).isSatisfied fun _ hnone g hg => ?_
    exact hnone g (List.perm_middle.mem_iff.2 (List.mem_cons_of_mem d hg))
  giver_added hanswers g hgiver hsatisfied := by
    refine satisfiesAny_of_forall (fun c hc => ?_) hsatisfied
    exact (Check.preserves_of_giver_added hgiver).isSatisfied fun hyes =>
      absurd hyes (hanswers c hc)
  giver_extended g p hgiver hsatisfied := by
    refine satisfiesAny_of_forall (fun c _ => ?_) hsatisfied
    exact (Check.preserves_of_giver_extended hgiver p).isSatisfied fun _ =>
      Check.irrelevant_of_replaced Grant.isRelevant_addPermission
  denial_extended d p hdeny hrefused := by
    refine not_satisfiesAny_of_forall (fun c _ => ?_) hrefused
    exact (Check.preserves_of_denial_reduced hdeny p).isSatisfied fun _ =>
      Check.irrelevant_of_replaced Grant.isRelevant_addPermission.symm

/-- The exception: a check that answers yes by itself is refused once somebody is given something
else on the resource. -/
example :
    let check : Check := { Check.new .update .processDefinition (some "order") with
      unmatched := some true }
    let give : Grant := { Grant.new "a" .give .processDefinition with
      user := some "john", permissions := .ofList [.read] }
    satisfiesAny [] ⟨"john", []⟩ [check] = true ∧
      satisfiesAny [give] ⟨"john", []⟩ [check] = false := by
  decide

end Workflow

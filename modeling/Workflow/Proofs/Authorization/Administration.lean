import Workflow.Authorization.Administration
import Workflow.Proofs.Authorization.Free
import Workflow.Proofs.Authorization.Holding

/-!
# What administration changes

To save or to delete a grant takes a permission that is itself given by grants, those of the table
as it was found; it may be the very grant that is changed. Either all that is asked for is done, or
nothing is.

* `Grant.IsWellFormed`: the shape that a grant has to have, `fault?_eq_none_iff`.
* `Context.MayAdminister`: what takes a permission, in terms of the grants that are stored.
* `run_saveGrant`, `run_deleteGrant`: what saving and deleting do, each as one equation.
* `administration_changes_what_it_names`: when they succeed, which grants are different then, and
  that a failure changes nothing.
-/

namespace Workflow

/-- Work that is done if it is admitted, and otherwise not begun, succeeds exactly if it is
admitted, and changes nothing if it fails. -/
theorem Action.of_run_admitted {α : Type} {a : Action α} {c : Context} {st after : State}
    {admitted : Except Error Unit} {x : α}
    (h : a.run c st = match admitted with
      | .ok () => (.ok x, after)
      | .error e => (.error e, st)) :
    ((∃ y st', a.run c st = (.ok y, st')) ↔ admitted = .ok ()) ∧
      (∀ y st', a.run c st = (.ok y, st') → y = x ∧ st' = after) ∧
      ∀ e st', a.run c st = (.error e, st') → st' = st := by
  rw [h]
  cases admitted <;> simp [eq_comm]

/-! ## The shape of a grant -/

/-- The shape that a grant has to have. -/
structure Grant.IsWellFormed (g : Grant) : Prop where
  /-- A grant to everybody names every user and no group. -/
  everybody : g.kind = .everybody → g.user = some anyId ∧ g.group = none
  /-- Any other grant names a user or a group, and not both. -/
  somebody : g.kind ≠ .everybody → (g.user = none ↔ g.group ≠ none)
  /-- A resource is named. -/
  resource : g.resourceId ≠ ""

theorem Grant.fault?_eq_none_iff {g : Grant} : g.fault? = none ↔ g.IsWellFormed := by
  have hparts : g.IsWellFormed ↔ (g.kind = .everybody → g.user = some anyId ∧ g.group = none) ∧
      (g.kind ≠ .everybody → (g.user = none ↔ g.group ≠ none)) ∧ g.resourceId ≠ "" :=
    ⟨fun h => ⟨h.everybody, h.somebody, h.resource⟩, fun ⟨h, h', h''⟩ => ⟨h, h', h''⟩⟩
  rw [hparts, fault?]
  cases g.kind with
  | everybody =>
    by_cases huser : g.user = some anyId <;> cases g.group <;> simp [huser]
  | give => cases g.user <;> cases g.group <;> simp
  | deny => cases g.user <;> cases g.group <;> simp

/-! ## Who may change grants -/

/-- This may be done to a grant, or without an id to grants as such: nobody needs a permission, or
the subject has it by the grants that are stored. -/
def Context.MayAdminister (c : Context) (s : Store) (permission : Permission)
    (id : Option String) : Prop :=
  c.IsFree ∨ ∃ u, c.subject = some u ∧ s.Holds u permission .authorization id

/-- A grant may be saved: the one of its id may be changed if there is one, otherwise one may be
created. -/
def Context.MaySave (c : Context) (s : Store) (g : Grant) : Prop :=
  if s.grants.contains g.id then c.MayAdminister s .update (some g.id)
  else c.MayAdminister s .create none

theorem Context.mayAdminister_iff {c : Context} {s : Store} {permission : Permission}
    {id : Option String} :
    (c.authority s).require permission .authorization id = .ok () ↔
      c.MayAdminister s permission id := by
  by_cases hfree : c.IsFree
  · simp [MayAdminister, hfree, Authority.require_of_free (hfree.bound? s)]
  · obtain ⟨henforced, hsubject⟩ := not_or.1 hfree
    obtain ⟨u, hu⟩ := Option.ne_none_iff_exists'.1 hsubject
    have hbinds : c.Binds u := ⟨by simpa using henforced, hu⟩
    simp [MayAdminister, hfree, hbinds.require, hu]

namespace Administration

variable {g : Grant} {id : String} {c : Context} {st st' : State}

theorem requireSound_eq_ok : requireSound g = .ok () ↔ g.IsWellFormed := by
  rw [← Grant.fault?_eq_none_iff, requireSound]
  cases g.fault? <;> simp

/-! ## Saving -/

/-- What has to be the case for a grant to be saved. -/
def admitSave (g : Grant) (c : Context) (s : Store) : Except Error Unit := do
  requireSound g
  if s.grants.contains g.id then
    (c.authority s).require .update .authorization (some g.id)
  else (c.authority s).require .create .authorization none

theorem admitSave_eq_ok {s : Store} :
    admitSave g c s = .ok () ↔ g.IsWellFormed ∧ c.MaySave s g := by
  have hpermission : (if s.grants.contains g.id then
        (c.authority s).require .update .authorization (some g.id)
      else (c.authority s).require .create .authorization none) = .ok () ↔ c.MaySave s g := by
    rw [Context.MaySave]
    split <;> exact Context.mayAdminister_iff
  rw [admitSave, bind_eq_ok, hpermission]
  exact ⟨fun ⟨_, hsound, hmay⟩ => ⟨requireSound_eq_ok.1 hsound, hmay⟩,
    fun ⟨hsound, hmay⟩ => ⟨(), requireSound_eq_ok.2 hsound, hmay⟩⟩

/-- A write that takes a permission. -/
theorem run_authorize_modify {α : Type} {r : Authority → Except Error Unit}
    {f : Store → Except Error Store} {s : Store} (hf : f st.store = .ok s) (x : α) :
    (do Action.authorize r; Action.modify f; return x : Action α).run c st =
      match r (c.authority st.store) with
      | .ok () => (.ok x, { st with store := s })
      | .error e => (.error e, st) := by
  have hwrite : (Action.modify f).run c st = (.ok (), { st with store := s }) :=
    Action.run_modify_eq_ok.2 ⟨s, hf, rfl⟩
  rw [Action.authorize, Action.run_consult_bind]
  cases r (c.authority st.store) with
  | error e => rfl
  | ok u => exact Action.run_bind_ok hwrite

/-- **Saving a grant** files it under its id if it is admitted, and does nothing otherwise. -/
theorem run_saveGrant (g : Grant) (c : Context) (st : State) :
    (saveGrant g).run c st =
      match admitSave g c st.store with
      | .ok () => (.ok g, st.withGrants (st.store.grants.insert g.id g))
      | .error e => (.error e, st) := by
  rw [saveGrant, admitSave, Action.run_decided_bind]
  cases requireSound g with
  | error e => rfl
  | ok u =>
    dsimp only
    rw [Action.run_consult_bind]
    by_cases hknown : st.store.grants.contains g.id = true
    · have hreplaced : st.store.replaceGrant g = .ok (st.store.putGrant g) := if_pos hknown
      simp only [hknown, if_true]
      exact run_authorize_modify hreplaced g
    · have hadded : st.store.addGrant g = .ok (st.store.putGrant g) := if_neg hknown
      simp only [hknown]
      exact run_authorize_modify hadded g

/-! ## Deleting -/

/-- The grants that are left when one is deleted: all others, but for those about the one that is
deleted if permissions are enforced. -/
def remaining (id : String) (c : Context) (grants : Table Grant) : Table Grant :=
  if c.enforced then (grants.erase id).filter fun g => !g.isOn .authorization id
  else grants.erase id

theorem get?_remaining {grants : Table Grant} {k : String} {g : Grant} :
    (remaining id c grants).get? k = some g ↔ grants.get? k = some g ∧ k ≠ id ∧
      ¬ (c.enforced = true ∧ g.resource = .authorization ∧ g.resourceId = id) := by
  unfold remaining
  split
  · rename_i henforced
    have hother : (!g.isOn .authorization id) = true ↔
        ¬ (g.resource = .authorization ∧ g.resourceId = id) := by
      rw [Bool.not_eq_true', ← Bool.not_eq_true, Grant.isOn, Bool.and_eq_true,
        decide_eq_true_iff, decide_eq_true_iff]
    rw [Table.get?_filter, Option.filter_eq_some_iff, hother, Table.get?_erase]
    simp [henforced, and_assoc, and_left_comm]
  · rename_i henforced
    simp [henforced, and_comm]

/-- What has to be the case for a grant to be deleted. -/
def admitDelete (id : String) (c : Context) (s : Store) : Except Error Unit := do
  let _ ← Store.row s.grants .grant id
  (c.authority s).require .delete .authorization (some id)

theorem admitDelete_eq_ok {s : Store} : admitDelete id c s = .ok () ↔
    s.grants.contains id = true ∧ c.MayAdminister s .delete (some id) := by
  rw [admitDelete, bind_eq_ok, Context.mayAdminister_iff, exists_and_right, Table.contains,
    Option.isSome_iff_exists]
  simp only [Store.row_eq_ok]

/-- The grants about a resource go where permissions are enforced. -/
theorem run_deleteGrantsOn (resource : Resource) (id : String) (c : Context) (st : State) :
    (discard (deleteGrantsOn resource (some id))).run c st =
      (.ok (), if c.enforced then { st with store := st.store.eraseGrantsOn resource id }
        else st) := by
  rw [Action.run_discard_eq_ok]
  simp only [deleteGrantsOn, pure_bind]
  rw [Action.run_bind_ok (Action.run_context c st)]
  cases c.enforced with
  | true => exact ⟨_, rfl⟩
  | false => exact ⟨0, rfl⟩

/-- **Deleting a grant** takes it away with the grants about it if it is admitted, and does nothing
otherwise. -/
theorem run_deleteGrant (hfiled : st.store.grants.Filed (·.id)) (id : String) (c : Context) :
    (deleteGrant id).run c st =
      match admitDelete id c st.store with
      | .ok () => (.ok (), st.withGrants (remaining id c st.store.grants))
      | .error e => (.error e, st) := by
  rw [deleteGrant, admitDelete, Action.run_consult_bind]
  cases hrow : Store.row st.store.grants .grant id with
  | error e => rfl
  | ok g =>
    obtain rfl : g.id = id := hfiled id g (Store.row_eq_ok.1 hrow)
    dsimp only
    rw [Action.authorize, Action.run_consult_bind]
    change _ = match (c.authority st.store).require .delete .authorization (some g.id) with
      | .ok () => _
      | .error e => _
    cases (c.authority st.store).require .delete .authorization (some g.id) with
    | error e => rfl
    | ok u =>
      dsimp only
      rw [Action.run_bind_ok (Action.run_update ..), run_deleteGrantsOn, remaining]
      split <;> rfl

/-! ## Both together -/

/-- Saving a grant changes exactly what it names. -/
structure SavesWhatItNames (g : Grant) (c : Context) (st : State) : Prop where
  /-- It succeeds exactly if the grant is well formed and may be saved, by the grants before. -/
  succeeds : (∃ g' st', (saveGrant g).run c st = (.ok g', st')) ↔
    g.IsWellFormed ∧ c.MaySave st.store g
  /-- Then the grant stands under its id; every other grant and all else is as before. -/
  saved : ∀ g' st', (saveGrant g).run c st = (.ok g', st') → g' = g ∧
    st' = st.withGrants st'.store.grants ∧ st'.store.grants.get? g.id = some g ∧
    ∀ k, k ≠ g.id → st'.store.grants.get? k = st.store.grants.get? k
  /-- If it fails, nothing is changed. -/
  failed : ∀ e st', (saveGrant g).run c st = (.error e, st') → st' = st

/-- Deleting a grant changes exactly what it names. -/
structure DeletesWhatItNames (id : String) (c : Context) (st : State) : Prop where
  /-- It succeeds exactly if the grant is stored and may be deleted, by the grants before. -/
  succeeds : (∃ u st', (deleteGrant id).run c st = (.ok u, st')) ↔
    st.store.grants.contains id = true ∧ c.MayAdminister st.store .delete (some id)
  /-- Then the grant is gone, and with it, where permissions are enforced, the grants about it;
  every other grant and all else is as before. -/
  deleted : ∀ u st', (deleteGrant id).run c st = (.ok u, st') →
    st' = st.withGrants st'.store.grants ∧
    ∀ k g, st'.store.grants.get? k = some g ↔ st.store.grants.get? k = some g ∧ k ≠ id ∧
      ¬ (c.enforced = true ∧ g.resource = .authorization ∧ g.resourceId = id)
  /-- If it fails, nothing is changed. -/
  failed : ∀ e st', (deleteGrant id).run c st = (.error e, st') → st' = st

theorem savesWhatItNames (g : Grant) (c : Context) (st : State) : SavesWhatItNames g c st := by
  obtain ⟨hsucceeds, hdone, hfailed⟩ := Action.of_run_admitted (run_saveGrant g c st)
  refine ⟨hsucceeds.trans admitSave_eq_ok, fun g' st' h => ?_, hfailed⟩
  obtain ⟨rfl, rfl⟩ := hdone g' st' h
  refine ⟨rfl, rfl, by simp [State.withGrants], fun k hk => ?_⟩
  simp [State.withGrants, hk]

theorem deletesWhatItNames (hfiled : st.store.grants.Filed (·.id)) (id : String) (c : Context) :
    DeletesWhatItNames id c st := by
  obtain ⟨hsucceeds, hdone, hfailed⟩ := Action.of_run_admitted (run_deleteGrant hfiled id c)
  refine ⟨hsucceeds.trans admitDelete_eq_ok, fun u st' h => ?_, hfailed⟩
  obtain ⟨-, rfl⟩ := hdone u st' h
  exact ⟨rfl, fun k g => get?_remaining⟩

/-- **Administration changes exactly what it names.** Whatever grants are stored, whoever asks and
whether permissions are enforced or not, saving and deleting a grant succeed exactly if the grants
before permit it, change the grants that they name, and change nothing if they fail. Grants are
filed under their ids. -/
theorem administration_changes_what_it_names (g : Grant) (id : String) (c : Context) (st : State)
    (hfiled : st.store.grants.Filed (·.id)) :
    SavesWhatItNames g c st ∧ DeletesWhatItNames id c st :=
  ⟨savesWhatItNames g c st, deletesWhatItNames hfiled id c⟩

/-- All that John may do is to change and delete the grant that lets him. He may take the permission
to delete away from himself, or delete the grant, and with it goes the denial that is about it. Mary
may do neither. -/
theorem grant_deleted_by_its_own_permission :
    let own : Grant := { Grant.new "a" .give .authorization with
      user := some "john", resourceId := "a", permissions := .ofList [.update, .delete] }
    let about : Grant := { Grant.new "b" .deny .authorization with
      user := some "mary", resourceId := "a", permissions := .ofList [.read] }
    let other : Grant := { Grant.new "c" .give .task with
      user := some "mary", permissions := .ofList [.read] }
    let reduced := own.removePermission .delete
    let st : State := ⟨(((∅ : Store).putGrant own).putGrant about).putGrant other, 0⟩
    let john : Context := ⟨true, some ⟨"john", []⟩⟩
    let mary : Context := ⟨true, some ⟨"mary", []⟩⟩
    st.store.grants.Filed (·.id) ∧
    (∃ st', (saveGrant reduced).run john st = (.ok reduced, st') ∧
      st'.store.grants.get? "a" = some reduced ∧ st'.store.grants.get? "b" = some about) ∧
    (∃ st', (deleteGrant "a").run john st = (.ok (), st') ∧ st'.store.grants.get? "a" = none ∧
      st'.store.grants.get? "b" = none ∧ st'.store.grants.get? "c" = some other) ∧
    ∃ e, (deleteGrant "a").run mary st = (.error e, st) := by
  intro own about other reduced st john mary
  have hfiled : st.store.grants.Filed (·.id) :=
    ((Table.Filed.empty.insert own).insert about).insert other
  have hchanges (c : Context) := administration_changes_what_it_names reduced "a" c st hfiled
  have hknown : st.store.grants.contains "a" = true := by decide +kernel
  have habout : st.store.grants.get? "b" = some about := by decide +kernel
  have hother : st.store.grants.get? "c" = some other := by decide +kernel
  refine ⟨hfiled, ?_, ?_, ?_⟩
  · obtain ⟨hsaves, -⟩ := hchanges john
    have hholds : john.MayAdminister st.store .update (some "a") :=
      .inr ⟨_, rfl, by decide +kernel⟩
    have hmay : john.MaySave st.store reduced := (if_pos hknown).mpr hholds
    have hshape : reduced.IsWellFormed := Grant.fault?_eq_none_iff.1 (by decide)
    obtain ⟨g', st', hrun⟩ := hsaves.succeeds.2 ⟨hshape, hmay⟩
    obtain ⟨rfl, -, hsaved, hothers⟩ := hsaves.saved g' st' hrun
    exact ⟨st', hrun, hsaved, (hothers "b" (by decide)).trans habout⟩
  · obtain ⟨-, hdeletes⟩ := hchanges john
    have hmay : john.MayAdminister st.store .delete (some "a") := .inr ⟨_, rfl, by decide +kernel⟩
    obtain ⟨u, st', hrun⟩ := hdeletes.succeeds.2 ⟨hknown, hmay⟩
    obtain ⟨-, hleft⟩ := hdeletes.deleted u st' hrun
    refine ⟨st', hrun, ?_, ?_, ?_⟩
    · exact Option.eq_none_iff_forall_ne_some.2 fun g hg => ((hleft "a" g).1 hg).2.1 rfl
    · refine Option.eq_none_iff_forall_ne_some.2 fun g hg => ?_
      obtain ⟨hb, -, hnot⟩ := (hleft "b" g).1 hg
      cases habout.symm.trans hb
      exact hnot ⟨rfl, rfl, rfl⟩
    · exact (hleft "c" other).2 ⟨hother, by decide, by simp [other, Grant.new]⟩
  · obtain ⟨-, hdeletes⟩ := hchanges mary
    rcases hrun : (deleteGrant "a").run mary st with ⟨e | u, st'⟩
    · rw [hdeletes.failed e st' hrun]
      exact ⟨e, rfl⟩
    · obtain ⟨-, hfree | ⟨v, hv, hholds⟩⟩ := hdeletes.succeeds.1 ⟨u, st', hrun⟩
      · rcases hfree with hfree | hfree <;> cases hfree
      · cases hv
        exact absurd hholds (by decide +kernel)

end Administration

end Workflow

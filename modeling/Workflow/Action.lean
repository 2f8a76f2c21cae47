import Workflow.Authorization.Authority
import Workflow.Store

/-!
# Actions

An `Action` is a step of work in a `Context`: it sees on whose behalf it runs and whether
permissions are enforced, and it changes a `State`. An action that fails leaves the state as it is
at that point; `atomically` makes it leave the store as it was in the beginning.

The primitive actions are `consult`, which only reads, `change`, which writes all or nothing, and
`fresh`, which hands out an id that was not handed out before. For each there is a lemma that says
what running it does.
-/

namespace Workflow

/-- On whose behalf work is done. -/
structure Context where
  /-- Whether permissions are enforced. -/
  enforced : Bool
  /-- Who asked for the work, if anybody did. -/
  subject : Option Subject
  deriving DecidableEq

namespace Context

/-- Nobody's work, with permissions enforced as before. -/
def unauthenticated (c : Context) : Context := { c with subject := none }

/-- What decides about permissions, by the grants of a store. -/
def authority (c : Context) (s : Store) : Authority := ⟨c.enforced, c.subject, s.grants.rows⟩

end Context

/-- What actions change: the store, and how many ids were handed out. -/
structure State where
  /-- Everything the engine remembers. -/
  store : Store := ∅
  /-- How many ids were handed out. -/
  minted : Nat := 0
  deriving DecidableEq

namespace State

/-- The `n`th id that is handed out. -/
def mintedId (n : Nat) : String :=
  let digits := String.ofList (Nat.toDigits 16 n)
  "00000000-0000-4000-8000-" ++ String.ofList (List.replicate (12 - digits.length) '0') ++ digits

end State

/-- A step of work. -/
def Action (α : Type) : Type := Context → State → Except Error α × State

namespace Action

variable {α β : Type}

/-- Run an action. -/
def run (a : Action α) (c : Context) (st : State) : Except Error α × State := a c st

/-- Do nothing and answer. -/
protected def pure (x : α) : Action α := fun _ st => (.ok x, st)

/-- Go on with the answer of an action; its failure ends the work. -/
protected def bind (a : Action α) (f : α → Action β) : Action β := fun c st =>
  match a c st with
  | (.ok x, st) => f x c st
  | (.error e, st) => (.error e, st)

instance : Monad Action where
  pure := Action.pure
  bind := Action.bind

/-- Fail. -/
def fail (e : Error) : Action α := fun _ st => (.error e, st)

/-- Answer or fail as it was decided. -/
def decided (r : Except Error α) : Action α := fun _ st => (r, st)

/-- Answer from the context and the store, without changing anything. -/
def consult (f : Context → Store → Except Error α) : Action α := fun c st => (f c st.store, st)

/-- Answer from what the subject may do, without changing anything. -/
def authorize (f : Authority → Except Error α) : Action α := consult fun c s => f (c.authority s)

/-- Change the store and answer, or fail without changing it. -/
def change (f : Store → Except Error (α × Store)) : Action α := fun _ st =>
  match f st.store with
  | .ok (x, s) => (.ok x, { st with store := s })
  | .error e => (.error e, st)

/-- Change the store, or fail without changing it. -/
def modify (f : Store → Except Error Store) : Action Unit := change fun s => (f s).map ((), ·)

/-- Change the store. -/
def update (f : Store → Store) : Action Unit := fun _ st =>
  (.ok (), { st with store := f st.store })

/-- Hand out a fresh id. -/
def fresh : Action String := fun _ st =>
  (.ok (State.mintedId (st.minted + 1)), { st with minted := st.minted + 1 })

/-- The context of the work. -/
def context : Action Context := fun c st => (.ok c, st)

/-- Do the work on nobody's behalf. -/
def unauthenticated (a : Action α) : Action α := fun c st => a c.unauthenticated st

/-- Do the work on somebody's behalf. -/
def onBehalfOf (subject : Option Subject) (a : Action α) : Action α := fun c st =>
  a { c with subject := subject } st

/-- Answer with the outcome of an action, so that its failure does not end the work. -/
def attempt (a : Action α) : Action (Except Error α) := fun c st =>
  let (r, st) := a c st
  (.ok r, st)

/-- Do the work entirely or not at all: when it fails, the store is as it was before. Ids that were
handed out stay handed out. -/
def atomically (a : Action α) : Action α := fun c st =>
  match a c st with
  | (.ok x, st') => (.ok x, st')
  | (.error e, st') => (.error e, { st' with store := st.store })

/-- Append an entry to the audit log, in the name of the subject. -/
def audit (entry : LogEntry) : Action Unit := fun c st =>
  (.ok (), { st with store := st.store.record { entry with user := c.subject.map (·.user) } })

/-! ## What running an action does -/

@[simp] theorem run_pure (x : α) (c : Context) (st : State) :
    (pure x : Action α).run c st = (.ok x, st) := rfl

theorem run_bind (a : Action α) (f : α → Action β) (c : Context) (st : State) :
    (a >>= f).run c st =
      match a.run c st with
      | (.ok x, st) => (f x).run c st
      | (.error e, st) => (.error e, st) := rfl

theorem run_bind_ok {a : Action α} {f : α → Action β} {c : Context} {st st' : State} {x : α}
    (h : a.run c st = (.ok x, st')) : (a >>= f).run c st = (f x).run c st' := by
  rw [run_bind, h]

theorem run_bind_error {a : Action α} {f : α → Action β} {c : Context} {st st' : State}
    {e : Error} (h : a.run c st = (.error e, st')) : (a >>= f).run c st = (.error e, st') := by
  rw [run_bind, h]

@[simp] theorem run_fail (e : Error) (c : Context) (st : State) :
    (fail e : Action α).run c st = (.error e, st) := rfl

@[simp] theorem run_decided (r : Except Error α) (c : Context) (st : State) :
    (decided r).run c st = (r, st) := rfl

@[simp] theorem run_consult (f : Context → Store → Except Error α) (c : Context) (st : State) :
    (consult f).run c st = (f c st.store, st) := rfl

@[simp] theorem run_authorize (f : Authority → Except Error α) (c : Context) (st : State) :
    (authorize f).run c st = (f (c.authority st.store), st) := rfl

theorem run_change (f : Store → Except Error (α × Store)) (c : Context) (st : State) :
    (change f).run c st =
      match f st.store with
      | .ok (x, s) => (.ok x, { st with store := s })
      | .error e => (.error e, st) := rfl

theorem run_modify (f : Store → Except Error Store) (c : Context) (st : State) :
    (modify f).run c st =
      match f st.store with
      | .ok s => (.ok (), { st with store := s })
      | .error e => (.error e, st) := by
  rw [modify, run_change]
  cases f st.store <;> rfl

@[simp] theorem run_update (f : Store → Store) (c : Context) (st : State) :
    (update f).run c st = (.ok (), { st with store := f st.store }) := rfl

@[simp] theorem run_fresh (c : Context) (st : State) :
    fresh.run c st =
      (.ok (State.mintedId (st.minted + 1)), { st with minted := st.minted + 1 }) := rfl

@[simp] theorem run_context (c : Context) (st : State) : context.run c st = (.ok c, st) := rfl

@[simp] theorem run_unauthenticated (a : Action α) (c : Context) (st : State) :
    (unauthenticated a).run c st = a.run c.unauthenticated st := rfl

@[simp] theorem run_onBehalfOf (subject : Option Subject) (a : Action α) (c : Context)
    (st : State) :
    (onBehalfOf subject a).run c st = a.run { c with subject := subject } st := rfl

@[simp] theorem run_attempt (a : Action α) (c : Context) (st : State) :
    (attempt a).run c st = (.ok (a.run c st).1, (a.run c st).2) := rfl

theorem run_atomically (a : Action α) (c : Context) (st : State) :
    (atomically a).run c st =
      match a.run c st with
      | (.ok x, st') => (.ok x, st')
      | (.error e, st') => (.error e, { st' with store := st.store }) := rfl

@[simp] theorem run_audit (entry : LogEntry) (c : Context) (st : State) :
    (audit entry).run c st =
      (.ok (),
        { st with store := st.store.record { entry with user := c.subject.map (·.user) } }) := rfl

theorem map_id (a : Action α) : id <$> a = a := by
  funext c st
  change (match a c st with
    | (.ok x, st) => (pure x : Action α) c st
    | (.error e, st) => (.error e, st)) = a c st
  rcases a c st with ⟨_ | _, _⟩ <;> rfl

theorem bind_bind {γ : Type} (a : Action α) (f : α → Action β) (g : β → Action γ) :
    a >>= f >>= g = a >>= fun x => f x >>= g := by
  funext c st
  change (match (match a c st with
      | (.ok x, st) => f x c st
      | (.error e, st) => (.error e, st)) with
    | (.ok y, st) => g y c st
    | (.error e, st) => (.error e, st)) =
    match a c st with
    | (.ok x, st) => (f x >>= g) c st
    | (.error e, st) => (.error e, st)
  rcases a c st with ⟨_ | _, _⟩ <;> rfl

instance : LawfulMonad Action := LawfulMonad.mk' _ map_id (fun _ _ => rfl) bind_bind

end Action

end Workflow

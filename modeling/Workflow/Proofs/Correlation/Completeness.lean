import Mathlib
import Workflow.Proofs.Correlation.Targets
import Workflow.Proofs.Value.Equality

/-!
# The standard look-up is sound and complete

Whom a message is for can be said row by row: of the execution itself, of the process instance that
it belongs to, and of the subscriptions that it owns. The standard look-up finds exactly the
executions of which this is true, each once, and pairs each with the first of its subscriptions that
the message meets. It finds a definition to start exactly if the start event created last names one
that is active.

* `IsAddressed`: the executions that a message is for; `SubscribesFirst`: the subscription that one
  is found with.
* `IsBegun`: the definition that a message starts; `BeginsLast`: the start event that it names it by.
* `mem_selectExecutions_query`: the query selects the executions that the message is for.
* `startMatch?_eq_some_iff`: the definition that is found is the one that the message starts.
* `lookup_sound_and_complete`: both parts of the standard look-up, for every store that files
  executions and subscriptions by their ids.
-/

namespace Workflow.Correlation

/-! ## Whom a message is for -/

/-- A message of this name, or of any if there is none, meets this subscription of the execution. -/
structure Subscribes (s : Store) (e : Execution) (name : Option String) (sub : Subscription) :
    Prop where
  stored : sub ∈ s.subscriptions.rows
  message : sub.eventType = .message
  own : sub.executionId = some e.id
  named : ∀ n ∈ name, sub.eventName = some n

/-- Of the subscriptions of the execution that the message meets this one has the smallest id. -/
def SubscribesFirst (s : Store) (e : Execution) (name : Option String) (sub : Subscription) : Prop :=
  Subscribes s e name sub ∧ ∀ other, Subscribes s e name other → sub.id ≤ other.id

/-- A process instance has the business key and the variables that are asked for, a variable with
an equal value; whether a zero has a sign does not matter. -/
structure Criteria.HoldsOf (criteria : Criteria) (owner : Execution) : Prop where
  businessKey : ∀ key ∈ criteria.businessKey, owner.businessKey = some key
  keys : ∀ k v, criteria.keys.get? k = some v →
    ∃ w, owner.vars.get? k = some w ∧ w.numeric = v.numeric

/-- The message is for the execution: it is stored and not suspended, it belongs to the process
instance that is asked for, if one is, its process instance is stored and has what is asked for, and
it waits for the message. -/
structure IsAddressed (s : Store) (name : Option String) (criteria : Criteria) (e : Execution) :
    Prop where
  stored : e ∈ s.executions.rows
  active : e.state ≠ .suspended
  inside : ∀ id ∈ criteria.instanceId, e.instanceId = id
  owner : ∃ owner, s.executions.get? e.instanceId = some owner ∧ criteria.HoldsOf owner
  waits : ∃ sub, Subscribes s e name sub

/-! ## What a message starts -/

/-- The subscription belongs to a start event for messages of this name. -/
structure Begins (s : Store) (name : String) (sub : Subscription) : Prop where
  stored : sub ∈ s.subscriptions.rows
  message : sub.eventType = .message
  start : sub.executionId = none
  named : sub.eventName = some name

/-- Of the start events for the message this one was created last, and of those created last it has
the greatest id. -/
def BeginsLast (s : Store) (name : String) (sub : Subscription) : Prop :=
  Begins s name sub ∧ ∀ other, Begins s name other →
    other.created < sub.created ∨ other.created = sub.created ∧ other.id ≤ sub.id

/-- The message has a name, asks for no process instance and starts this definition: the start event
created last names it, as what to start or else as what it belongs to, and it is not suspended. -/
structure IsBegun (s : Store) (name : Option String) (criteria : Criteria) (d : ProcessDefinition)
    (activityId : Option String) : Prop where
  addressesNone : criteria.instanceId = none
  event : ∃ n sub id, name = some n ∧ BeginsLast s n sub ∧ sub.activityId = activityId ∧
    (sub.configuration = some id ∨ sub.configuration = none ∧ sub.definitionId = some id) ∧
    s.definitions.get? id = some d
  active : d.state ≠ .suspended

/-! ## Executions that are found -/

section

variable {s : Store} {name : Option String} {criteria : Criteria} {e owner : Execution}
  {sub : Subscription}

/-- The subscriptions that are looked through are those that the message meets. -/
theorem subscribes_iff : Subscribes s e name sub ↔
    sub ∈ s.subscriptions.rows ∧
      (sub.eventType = .message && sub.isOf e.id && name.all sub.isNamed) = true := by
  have hnamed : name.all sub.isNamed = true ↔ ∀ n ∈ name, sub.eventName = some n := by
    cases name <;> simp [Subscription.isNamed]
  simp only [Bool.and_eq_true, decide_eq_true_eq, Subscription.isOf, hnamed]
  exact ⟨fun h => ⟨h.stored, ⟨h.message, h.own⟩, h.named⟩,
    fun ⟨hstored, ⟨hmessage, hown⟩, hnamed⟩ => ⟨hstored, hmessage, hown, hnamed⟩⟩

/-- The subscription that is found is the first one that the message meets. -/
theorem head?_subscriptionsOf (h : s.subscriptions.Filed (·.id)) :
    (s.subscriptionsOf e.id .message name).head? = some sub ↔ SubscribesFirst s e name sub := by
  rw [Store.subscriptionsOf, h.head?_filter_eq_some_iff, SubscribesFirst, subscribes_iff, and_assoc]
  simp only [subscribes_iff, and_imp]

theorem cover_iff {vars wanted : Variables} : vars.cover wanted = true ↔
    ∀ k v, wanted.get? k = some v → ∃ w, vars.get? k = some w ∧ w.numeric = v.numeric := by
  simp only [Variables.cover, List.all_eq_true, Prod.forall, Table.mem_entries_iff]
  refine forall_congr' fun k => forall_congr' fun v => imp_congr_right fun _ => ?_
  cases vars.get? k <;> simp [Value.agrees_iff]

theorem mem_subscriptionsOf_iff :
    sub ∈ s.subscriptionsOf e.id .message name ↔ Subscribes s e name sub := by
  rw [Store.subscriptionsOf, List.mem_filter, subscribes_iff]

/-- What the query asks of the subscriptions is that the message meets one. -/
theorem waits_iff : (match name with
      | some n => s.subscriptions.rows.any fun sub => sub.isMessage && sub.isOf e.id && sub.isNamed n
      | none => !name.isNone ||
          s.subscriptions.rows.any fun sub => sub.isMessage && sub.isOf e.id) = true ↔
    ∃ sub, Subscribes s e name sub := by
  cases name <;> simp [subscribes_iff, Subscription.isMessage, and_assoc]

/-- What the query asks of an execution and of its process instance. -/
theorem accepts_query_iff : (criteria.query name).accepts e owner s.subscriptions.rows = true ↔
    (∀ id ∈ criteria.instanceId, e.instanceId = id) ∧ criteria.HoldsOf owner ∧
      e.state ≠ .suspended ∧ ∃ sub, Subscribes s e name sub := by
  have hactive : (!(true && e.isSuspended)) = true ↔ e.state ≠ .suspended := by
    simp [Execution.isSuspended, SuspensionState.isSuspended]
  rw [ExecutionQuery.accepts, Bool.and_eq_true, Bool.and_eq_true, Bool.and_eq_true,
    Bool.and_eq_true]
  refine (and_congr (and_congr (and_congr (and_congr meets_iff meetsSome_iff) hactive) cover_iff)
    waits_iff).trans ?_
  constructor
  · rintro ⟨⟨⟨⟨hid, hbusiness⟩, hstate⟩, hvars⟩, hwaits⟩
    exact ⟨hid, ⟨hbusiness, hvars⟩, hstate, hwaits⟩
  · rintro ⟨hid, ⟨hbusiness, hvars⟩, hstate, hwaits⟩
    exact ⟨⟨⟨⟨hid, hbusiness⟩, hstate⟩, hvars⟩, hwaits⟩

/-- **The query selects the executions that the message is for.** -/
theorem mem_selectExecutions_query :
    e ∈ s.selectExecutions (criteria.query name) ↔ IsAddressed s name criteria e := by
  rw [mem_selectExecutions]
  constructor
  · rintro ⟨hstored, owner, howner, haccepts⟩
    obtain ⟨hinside, hholds, hactive, hwaits⟩ := accepts_query_iff.1 haccepts
    exact ⟨hstored, hactive, hinside, ⟨owner, howner, hholds⟩, hwaits⟩
  · rintro ⟨hstored, hactive, hinside, ⟨owner, howner, hholds⟩, hwaits⟩
    exact ⟨hstored, owner, howner, accepts_query_iff.2 ⟨hinside, hholds, hactive, hwaits⟩⟩

/-- What is found are the selected executions, each with its first subscription. -/
theorem waitingMatches_eq_map (s : Store) (name : Option String) (criteria : Criteria) :
    ∃ found : List (Execution × Subscription),
      waitingMatches s name criteria = found.map (fun p => .waiting p.1 p.2) ∧
        found.map (·.1) = s.selectExecutions (criteria.query name) ∧
        ∀ p ∈ found, (s.subscriptionsOf p.1.id .message name).head? = some p.2 := by
  have hwaits : ∀ e ∈ s.selectExecutions (criteria.query name),
      ∃ sub, (s.subscriptionsOf e.id .message name).head? = some sub := by
    intro e he
    obtain ⟨sub, hsub⟩ := (mem_selectExecutions_query.1 he).waits
    rw [← Option.isSome_iff_exists, List.isSome_head?]
    exact List.ne_nil_of_mem (mem_subscriptionsOf_iff.2 hsub)
  unfold waitingMatches
  generalize s.selectExecutions (criteria.query name) = selected at hwaits
  induction selected with
  | nil => exact ⟨[], rfl, rfl, by simp⟩
  | cons e rest ih =>
    obtain ⟨sub, hsub⟩ := hwaits e List.mem_cons_self
    obtain ⟨found, hfound, hselected, hfirst⟩ :=
      ih fun e' he' => hwaits e' (List.mem_cons_of_mem _ he')
    refine ⟨(e, sub) :: found, ?_, congrArg (e :: ·) hselected, ?_⟩
    · rw [List.filterMap_cons, hsub, hfound]
      rfl
    · rintro p (_ | ⟨_, hp⟩)
      · exact hsub
      · exact hfirst p hp

end

/-! ## Definitions that are found -/

section

variable {s : Store} {name : Option String} {criteria : Criteria}

/-- The start event that is found is the one created last. -/
theorem startSubscription?_eq_some_iff (h : s.subscriptions.Filed (·.id)) {n : String}
    {sub : Subscription} : s.startSubscription? n = some sub ↔ BeginsLast s n sub := by
  have hbegins (sub : Subscription) : Begins s n sub ↔ sub ∈ s.subscriptions.rows ∧
      (sub.isMessage && sub.isStart && sub.isNamed n) = true := by
    simp only [Bool.and_eq_true, Subscription.isMessage, Subscription.isStart,
      Subscription.isNamed, decide_eq_true_eq, Option.isNone_iff_eq_none]
    exact ⟨fun h => ⟨h.stored, ⟨h.message, h.start⟩, h.named⟩,
      fun ⟨hstored, ⟨hmessage, hstart⟩, hnamed⟩ => ⟨hstored, hmessage, hstart, hnamed⟩⟩
  rw [Store.startSubscription?, h.greatest?_filter_eq_some_iff, BeginsLast, hbegins, and_assoc]
  simp only [hbegins, and_imp]

/-- **The definition that is found is the one that the message starts.** -/
theorem startMatch?_eq_some_iff (h : s.subscriptions.Filed (·.id)) {target : Match} :
    startMatch? s name criteria = some target ↔
      ∃ d activityId, target = .start d activityId ∧ IsBegun s name criteria d activityId := by
  constructor
  · intro hfound
    unfold startMatch? at hfound
    split at hfound
    · rename_i n hnone
      simp only [Option.bind_eq_bind, Option.bind_eq_some_iff] at hfound
      obtain ⟨sub, hsub, id, hid, d, hd, htarget⟩ := hfound
      split at htarget <;> cases htarget
      rename_i hactive
      refine ⟨d, sub.activityId, rfl, hnone, ⟨n, sub, id, rfl, ?_, rfl, ?_, hd⟩, ?_⟩
      · exact (startSubscription?_eq_some_iff h).1 hsub
      · exact Option.or_eq_some_iff.1 hid
      · simpa [ProcessDefinition.isSuspended, SuspensionState.isSuspended] using hactive
    · cases hfound
  · rintro ⟨d, _, rfl, hnone, ⟨n, sub, id, rfl, hlast, rfl, hid, hd⟩, hactive⟩
    have hsub := (startSubscription?_eq_some_iff h).2 hlast
    have hnotSuspended : d.isSuspended = false := by
      simpa [ProcessDefinition.isSuspended, SuspensionState.isSuspended] using hactive
    simp [startMatch?, hnone, hsub, Option.or_eq_some_iff.2 hid, hd, hnotSuspended]

end

/-! ## The standard look-up -/

/-- Executions with subscriptions are what is to be found for a message. -/
structure Finds (s : Store) (name : Option String) (criteria : Criteria)
    (found : List (Execution × Subscription)) : Prop where
  /-- The ids of the executions ascend, so none occurs twice. -/
  ascending : found.Pairwise fun p q => p.1.id < q.1.id
  /-- The executions are those that the message is for. -/
  executions : ∀ e, e ∈ found.map (·.1) ↔ IsAddressed s name criteria e
  /-- Each is with the first of its subscriptions that the message meets. -/
  subscriptions : ∀ p ∈ found, SubscribesFirst s p.1 name p.2
  /-- None that the query selects is left out. -/
  selected : found.map (·.1) = s.selectExecutions (criteria.query name)

/-- **The standard look-up is sound and complete.** It always answers; the executions that it finds
are those that the message is for, and it finds a definition exactly if the message starts it. The
store files executions and subscriptions by their ids. -/
theorem lookup_sound_and_complete (s : Store) (hexecutions : s.executions.Filed (·.id))
    (hsubscriptions : s.subscriptions.Filed (·.id)) (name : Option String) (criteria : Criteria) :
    (∃ found, Lookup.standard.waiting s name criteria =
        .ok (found.map fun p => .waiting p.1 p.2) ∧ Finds s name criteria found) ∧
      ∃ begun, Lookup.standard.start s name criteria = .ok begun ∧
        ∀ target, begun = some target ↔
          ∃ d activityId, target = .start d activityId ∧ IsBegun s name criteria d activityId := by
  constructor
  · obtain ⟨found, hfound, hselected, hfirst⟩ := waitingMatches_eq_map s name criteria
    refine ⟨found, congrArg Except.ok hfound, ?_, fun e => ?_, fun p hp => ?_, hselected⟩
    · have hascending : (s.selectExecutions (criteria.query name)).Pairwise fun e e' => e.id < e'.id :=
        (List.pairwise_map.1 hexecutions.ascending_ids).filter _
      rw [← hselected, List.pairwise_map] at hascending
      exact hascending
    · rw [hselected]
      exact mem_selectExecutions_query
    · exact (head?_subscriptionsOf hsubscriptions).1 (hfirst p hp)
  · exact ⟨_, rfl, fun _ => startMatch?_eq_some_iff hsubscriptions⟩

/-- A branch of Ann's order in batch 7 waits for the payment with two subscriptions, and a branch of
Bob's order in the same batch waits as well. Ann's payment for the batch is for the first branch
only, which is found with its first subscription; it starts the version that the later of two start
events names. -/
theorem payment_found_for_branch :
    let old := ProcessDefinition.new "a" "order" 1
    let new := ProcessDefinition.new "b" "order" 2
    let order (id customer : String) :=
      { Execution.instanceOf id old with
        businessKey := some "7"
        vars := .ofList [("customer", .text customer), ("discount", .double ⟨false, 0, 0⟩)] }
    let branch := Execution.childOf "k" (order "i" "ann")
    let other := Execution.childOf "l" (order "j" "bob")
    let paid (id execution instanceId : String) :=
      Subscription.toMessage id "paid" execution instanceId "wait" 0
    let begin (id definition : String) := Subscription.toStartMessage id "paid" definition "begin"
    let store := [paid "s" "k" "i", paid "t" "k" "i", paid "u" "l" "j", begin "v" old.id 2,
      begin "w" new.id 1].foldl Store.putSubscription
        ([order "i" "ann", order "j" "bob", branch, other].foldl Store.putExecution
          ([old, new].foldl Store.putDefinition ∅))
    let criteria : Criteria := ⟨some "7", none,
      .ofList [("customer", .text "ann"), ("discount", .double ⟨true, 0, 0⟩)]⟩
    store.executions.Filed (·.id) ∧ store.subscriptions.Filed (·.id) ∧
      Lookup.standard.waiting store (some "paid") criteria =
        .ok [.waiting branch (paid "s" "k" "i")] ∧
      Finds store (some "paid") criteria [(branch, paid "s" "k" "i")] ∧
      IsBegun store (some "paid") criteria old (some "begin") := by
  intro old new order branch other paid begin store criteria
  have hexecutions : store.executions.Filed (·.id) :=
    (((Table.Filed.empty.insert (order "i" "ann")).insert (order "j" "bob")).insert
      branch).insert other
  have hsubscriptions : store.subscriptions.Filed (·.id) :=
    ((((Table.Filed.empty.insert (paid "s" "k" "i")).insert (paid "t" "k" "i")).insert
      (paid "u" "l" "j")).insert (begin "v" old.id 2)).insert (begin "w" new.id 1)
  have hwaiting : Lookup.standard.waiting store (some "paid") criteria =
      .ok [.waiting branch (paid "s" "k" "i")] := by cbv
  have hstart : Lookup.standard.start store (some "paid") criteria =
      .ok (some (.start old (some "begin"))) := by cbv
  obtain ⟨⟨found, hfound, hfinds⟩, begun, hbegun, hiff⟩ :=
    lookup_sound_and_complete store hexecutions hsubscriptions (some "paid") criteria
  obtain rfl : found = [(branch, paid "s" "k" "i")] := by
    rw [hwaiting] at hfound
    obtain ⟨p, rfl, hp⟩ := List.map_eq_singleton_iff.1 (Except.ok.inj hfound).symm
    obtain ⟨hexecution, hsubscription⟩ := Match.waiting.inj hp
    exact congrArg (fun p => [p]) (Prod.ext hexecution hsubscription)
  rw [hstart] at hbegun
  obtain ⟨d, activityId, htarget, hbegins⟩ := (hiff _).1 (Except.ok.inj hbegun).symm
  cases htarget
  exact ⟨hexecutions, hsubscriptions, hwaiting, hfinds, hbegins⟩

end Workflow.Correlation

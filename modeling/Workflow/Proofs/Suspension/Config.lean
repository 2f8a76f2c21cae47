import Workflow.Proofs.Value.Json
import Workflow.Suspension.Config

/-!
# What the schedule keeps is read back

The text that the schedule keeps of a request is read back to the same kind of resource, state,
selectors and dependent resources: `Config.ofText?_text`. Twelve units of fuel are enough for it,
one for each step down and from member to member.

`Value.parts?_members` says that a record with members left out is taken apart again, as long as the
names of its members are different.
-/

namespace Workflow

namespace Value

/-! ## Records with members left out -/

variable {κ : Type} {kinds : List κ} {name : κ → String}

/-- The member of a name is the part that was put under it. -/
theorem lookup_members (hnames : (kinds.map name).Nodup) (part : κ → Option Value) {kind : κ}
    (hkind : kind ∈ kinds) :
    (kinds.filterMap fun k => (part k).map fun v => (name k, v)).lookup (name kind) =
      part kind := by
  induction kinds with
  | nil => cases hkind
  | cons k rest ih =>
    obtain ⟨hnew, hrest⟩ := List.nodup_cons.1 hnames
    by_cases hsame : name kind = name k
    · obtain rfl : kind = k := by
        rcases List.mem_cons.1 hkind with h | h
        · exact h
        · exact absurd (hsame ▸ List.mem_map_of_mem h) hnew
      cases hpart : part kind with
      | some v => simp [hpart]
      | none =>
        -- no later member has this name
        rw [List.filterMap_cons_none (by rw [hpart]; rfl), List.lookup_eq_none_iff]
        intro p hp
        obtain ⟨k', hk', he⟩ := List.mem_filterMap.1 hp
        obtain ⟨v, -, rfl⟩ := Option.map_eq_some_iff.1 he
        have hname : name k' ≠ name kind := fun e => hnew (e ▸ List.mem_map_of_mem hk')
        simpa using hname.symm
    · have hlater : kind ∈ rest :=
        (List.mem_cons.1 hkind).resolve_left fun e => hsame (congrArg name e)
      cases hpart : part k with
      | some v => simp [hpart, List.lookup_cons, beq_eq_false_iff_ne.2 hsame, ih hrest hlater]
      | none => simp [hpart, ih hrest hlater]

/-- No name comes twice. -/
theorem countP_members (hnames : (kinds.map name).Nodup) (part : κ → Option Value) (n : String) :
    (kinds.filterMap fun k => (part k).map fun v => (name k, v)).countP (·.1 = n) ≤ 1 := by
  have hdiffer : (kinds.filterMap fun k => (part k).map fun v => (name k, v)).Pairwise
      fun p q => p.1 ≠ q.1 := by
    refine (List.pairwise_map.1 hnames).filterMap _ fun k k' hne p hp q hq => ?_
    obtain ⟨v, -, rfl⟩ := Option.map_eq_some_iff.1 hp
    obtain ⟨w, -, rfl⟩ := Option.map_eq_some_iff.1 hq
    exact hne
  have hcount := List.nodup_iff_count.1 (List.pairwise_map.2 hdiffer) n
  rwa [List.count, List.countP_map] at hcount

theorem parts?_members (hnames : (kinds.map name).Nodup) (part : κ → Option Value) :
    (members (kinds.filterMap fun k => (part k).map fun v => (name k, v))).parts?
      (kinds.map name) = some (kinds.map part) := by
  rw [parts?, partsFrom?, if_pos]
  · rw [List.map_map]
    exact congrArg some (List.map_congr_left fun kind hkind => lookup_members hnames part hkind)
  · simp [countP_members hnames part]

end Value

namespace Suspension

namespace Selectors

theorem ofValue?_named (s : Selectors) : ofValue? (.members s.named) = some s := by
  have htext (given : Option String) :
      optionalPart Value.asText? (given.map .text) = some given := by
    cases given <;> rfl
  have hfields : (SelectorKind.values.map (·.field)).Nodup := by decide
  have hparts : (Value.members s.named).parts? (SelectorKind.values.map (·.field)) =
      some (SelectorKind.values.map fun kind => (s.get kind).map .text) := by
    rw [← Value.parts?_members hfields]
    simp [named, Function.comp_def]
  rw [ofValue?, hparts]
  simp [SelectorKind.values, get, htext]

theorem length_named (s : Selectors) : s.named.length ≤ 5 := List.length_filterMap_le ..

/-- Selectors are read back by the outline of their names. -/
theorem reads_named (s : Selectors) (depth : Nat) :
    Json.Reads 7 (depth + 1) (.ofNames (SelectorKind.values.map (·.field))) (.members s.named) := by
  have hmembers : ∀ p ∈ s.named, Json.Reads 1 depth
      ((Outline.ofNames (SelectorKind.values.map (·.field))).member p.1) p.2 := by
    intro p hp
    obtain ⟨kind, hkind, hvalue⟩ := List.mem_filterMap.1 hp
    obtain ⟨v, -, rfl⟩ := Option.map_eq_some_iff.1 hvalue
    rw [Outline.member_ofNames, if_pos (List.mem_map_of_mem hkind)]
    exact Json.reads_text (o := .all) (by simp) depth v
  have hlength := s.length_named
  exact (Json.reads_members (by simp [Outline.ofNames]) hmembers).mono (by omega)

end Selectors

namespace Config

theorem ofValue?_toValue (c : Config) : ofValue? c.toValue = some c := by
  obtain ⟨target, state, selectors, dependents⟩ := c
  have hparts : (toValue ⟨target, state, selectors, dependents⟩).parts? names =
      some [some target.toValue, some state.toValue, some (.members selectors.named),
        some (.bool dependents)] := rfl
  have htarget : Target.ofValue? target.toValue = some target := by cases target <;> rfl
  have hstate : SuspensionState.ofValue? state.toValue = some state := by cases state <;> rfl
  simp [ofValue?, hparts, part, htarget, hstate, selectors.ofValue?_named, Value.asBool?]

theorem reads_toValue (c : Config) : Json.Reads 12 Json.maxDepth outline c.toValue := by
  have htarget : outline.member "target" = .all := rfl
  have hstate : outline.member "state" = .all := rfl
  have hmembers : ∀ p ∈ [("target", c.target.toValue), ("state", c.state.toValue),
      ("selectors", Value.members c.selectors.named), ("includeSubResources", .bool c.dependents)],
      Json.Reads 7 126 (outline.member p.1) p.2 := by
    simp only [List.forall_mem_cons, htarget, hstate]
    refine ⟨?_, ?_, c.selectors.reads_named _, (Json.reads_bool _ _ _).mono (by decide), nofun⟩
    · exact (Json.reads_text (by simp) _ _).mono (by decide)
    · exact (Json.reads_text (by simp) _ _).mono (by decide)
  exact Json.reads_members (by simp [outline]) hmembers

/-- **What the schedule keeps of a request is read back.** -/
theorem ofText?_text (c : Config) : ofText? c.text = some c := by
  have hlength : 5 ≤ (Json.chars c.toValue).length := by
    obtain ⟨tail, htail⟩ :
        ∃ tail, Json.chars c.toValue = '\x7b' :: '"' :: 't' :: 'a' :: 'r' :: tail := ⟨_, rfl⟩
    simp only [htail, List.length_cons]
    omega
  rw [ofText?, text, Value.document?_json c.reads_toValue (by omega), Option.bind_some,
    ofValue?_toValue]

end Config

end Suspension

end Workflow

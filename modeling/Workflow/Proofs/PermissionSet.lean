import Workflow.Permission

/-!
# Sets of permissions, step by step

A set of permissions begins as any word of 32 bits, whatever the storage holds, and permissions are
added and taken away one after the other. Every bit is then as the last step left it that names a
permission to which the bit belongs. A permission with a bit of its own shares it with `all` only,
the bits that no permission is named after belong to `all` only, and the sign belongs to none.

* `Permission.owns`: the bits that belong to a permission; `owns_place`, `owns_unnamed` and
  `owns_sign` say to whom a bit belongs.
* `PermissionSet.after`: the set after some steps; `getLsbD_after` says what becomes of each bit.
* `contains_iff`, `mem_toList`, `ofList_toList`: what asking a set, listing it and writing it down
  show of its word.
* `last_step_decides`: all of it, for any word and any steps.
-/

namespace Workflow

/-! ## Bits of permissions -/

namespace Permission

/-- Whether a bit belongs to a permission. -/
def owns (p : Permission) (i : Nat) : Bool := p.bits.getLsbD i

/-- The place of the bit of a permission that has one of its own. -/
def place (p : Permission) : Nat := p.bits.toNat.log2

theorem bits_of_single {p : Permission} (h : p ∈ singles) :
    p.bits = BitVec.twoPow 32 p.place ∧ 0 < p.place ∧ p.place < 12 := by
  revert h
  cases p <;> decide

theorem owns_of_single {p : Permission} (h : p ∈ singles) (i : Nat) :
    p.owns i = decide (p.place = i) := by
  obtain ⟨hbits, -, hplace⟩ := bits_of_single h
  rw [owns, hbits, BitVec.getLsbD_twoPow]
  simp [show p.place < 32 by omega]

theorem owns_all (i : Nat) : all.owns i = decide (i < 31) := by
  have hbits : all.bits = (BitVec.allOnes 31).setWidth 32 := by decide
  rw [owns, hbits, BitVec.getLsbD_setWidth, BitVec.getLsbD_allOnes]
  rw [Bool.and_eq_right_iff_imp]
  simp only [decide_eq_true_eq]
  omega

@[simp] theorem owns_none (i : Nat) : none.owns i = false := BitVec.getLsbD_zero

/-- A permission is one of those with a bit of their own, or `none`, or `all`. -/
theorem mem_singles_or (p : Permission) : p ∈ singles ∨ p = none ∨ p = all := by
  cases p <;> decide

/-- A bit of a single permission belongs to it and to `all`. -/
theorem owns_place {p : Permission} (h : p ∈ singles) (q : Permission) :
    q.owns p.place = decide (q = p ∨ q = all) := by
  have hbound := (bits_of_single h).2.2
  rcases mem_singles_or q with hq | rfl | rfl
  · have hinjective : q.place = p.place ↔ q = p := by
      revert hq h
      cases p <;> cases q <;> decide
    have hall : q ≠ all := by
      rintro rfl
      exact absurd hq (by decide)
    simp [owns_of_single hq, hinjective, hall]
  · have hne : none ≠ p := by
      rintro rfl
      exact absurd h (by decide)
    simp [hne]
  · rw [owns_all]
    simp [show p.place < 31 by omega]

/-- The bits that no permission is named after. -/
def Unnamed (i : Nat) : Prop := i = 0 ∨ 12 ≤ i ∧ i < 31

theorem owns_unnamed {i : Nat} (h : Unnamed i) (q : Permission) : q.owns i = decide (q = all) := by
  unfold Unnamed at h
  rcases mem_singles_or q with hq | rfl | rfl
  · obtain ⟨-, hlow, hhigh⟩ := bits_of_single hq
    have hall : q ≠ all := by
      rintro rfl
      exact absurd hq (by decide)
    rw [owns_of_single hq]
    simp [hall, show q.place ≠ i by omega]
  · simp
  · rw [owns_all]
    simp [show i < 31 by omega]

/-- The sign bit belongs to no permission. -/
theorem owns_sign (q : Permission) : q.owns 31 = false := by
  cases q <;> decide

end Permission

namespace PermissionSet

/-! ## Steps -/

/-- A step that changes a set of permissions. -/
inductive Step where
  /-- A permission is added. -/
  | insert (p : Permission)
  /-- A permission is taken away. -/
  | erase (p : Permission)

/-- The permission that a step names. -/
def Step.permission : Step → Permission
  | insert p | erase p => p

/-- Whether a step adds the permission that it names. -/
def Step.adds : Step → Bool
  | insert _ => true
  | erase _ => false

/-- Take a step. -/
def step (s : PermissionSet) : Step → PermissionSet
  | .insert p => s.insert p
  | .erase p => s.erase p

/-- Take steps one after the other. -/
def after (s : PermissionSet) (steps : List Step) : PermissionSet := steps.foldl step s

/-- What the last of some steps has left, or what there was in the beginning if there is none. -/
def leftBy (steps : List Step) (start : Bool) : Bool := (steps.getLast?.map Step.adds).getD start

theorem leftBy_cons (step : Step) (steps : List Step) (start : Bool) :
    leftBy (step :: steps) start = leftBy steps step.adds := by
  rw [leftBy, leftBy, List.getLast?_cons]
  cases steps.getLast? <;> rfl

/-- A step sets or clears the bits of the permission that it names. -/
theorem getLsbD_step (s : PermissionSet) (step : Step) (i : Nat) :
    (s.step step).bits.getLsbD i =
      if step.permission.owns i then step.adds else s.bits.getLsbD i := by
  cases step with
  | insert p =>
    change (s.bits ||| p.bits).getLsbD i = if p.owns i then true else s.bits.getLsbD i
    rw [BitVec.getLsbD_or, Permission.owns]
    split <;> rename_i hown <;> simp [hown]
  | erase p =>
    change (s.bits &&& ~~~p.bits).getLsbD i = if p.owns i then false else s.bits.getLsbD i
    rw [BitVec.getLsbD_and, BitVec.getLsbD_not, Permission.owns]
    split <;> rename_i hown
    · simp [hown]
    · rw [Bool.eq_false_iff.2 hown, Bool.not_false, Bool.and_true, Bool.and_eq_left_iff_imp,
        decide_eq_true_eq]
      exact BitVec.lt_of_getLsbD

/-- **Every bit is as the last step left it** that names a permission to which it belongs. -/
theorem getLsbD_after (s : PermissionSet) (steps : List Step) (i : Nat) :
    (s.after steps).bits.getLsbD i =
      leftBy (steps.filter fun step => step.permission.owns i) (s.bits.getLsbD i) := by
  induction steps generalizing s with
  | nil => rfl
  | cons step steps ih =>
    have hrest : s.after (step :: steps) = (s.step step).after steps := rfl
    rw [hrest, ih, getLsbD_step, List.filter_cons]
    split
    · rw [leftBy_cons]
    · rfl

/-! ## What a set says of its word -/

/-- A set contains a permission if it has all bits that belong to it. -/
theorem contains_iff {s : PermissionSet} {p : Permission} :
    s.contains p = true ↔ ∀ i, p.owns i = true → s.bits.getLsbD i = true := by
  rw [contains, beq_iff_eq]
  constructor
  · intro h i hi
    rw [Permission.owns, ← h, BitVec.getLsbD_and, Bool.and_eq_true] at hi
    exact hi.1
  · intro h
    refine BitVec.eq_of_getLsbD_eq fun i _ => ?_
    rw [BitVec.getLsbD_and, Bool.and_eq_right_iff_imp]
    exact h i

theorem contains_of_single {p : Permission} (h : p ∈ Permission.singles) (s : PermissionSet) :
    s.contains p = s.bits.getLsbD p.place := by
  rw [Bool.eq_iff_iff, contains_iff]
  simp [Permission.owns_of_single h]

theorem mem_toList {s : PermissionSet} {p : Permission} :
    p ∈ s.toList ↔ p ∈ Permission.singles ∧ s.contains p = true := List.mem_filter

/-- The list is in ascending order of the numbers of the permissions. -/
theorem ascending_toList (s : PermissionSet) :
    s.toList.Pairwise fun p q => p.value < q.value := by
  have hsingles : Permission.singles.Pairwise fun p q => p.value < q.value := by decide
  exact hsingles.filter _

/-- The bits of a set of some permissions are those that belong to one of them. -/
theorem getLsbD_ofList (ps : List Permission) (i : Nat) :
    (ofList ps).bits.getLsbD i = ps.any (·.owns i) := by
  have hfold (s : PermissionSet) :
      (ps.foldl insert s).bits.getLsbD i = (s.bits.getLsbD i || ps.any (·.owns i)) := by
    induction ps generalizing s with
    | nil => simp
    | cons p ps ih =>
      have hbit : (s.insert p).bits.getLsbD i = (s.bits.getLsbD i || p.owns i) := BitVec.getLsbD_or
      rw [List.foldl_cons, ih, hbit, List.any_cons, Bool.or_assoc]
  rw [ofList, hfold]
  simp [empty]

/-- Writing the permissions of a set down keeps the bits that a permission is named after. -/
theorem ofList_toList (s : PermissionSet) : ofList s.toList = ⟨s.bits &&& 0xffe⟩ := by
  have hnamed : (0xffe : BitVec 32) = (ofList Permission.singles).bits := by decide
  have hbits : (ofList s.toList).bits = s.bits &&& 0xffe := by
    refine BitVec.eq_of_getLsbD_eq fun i _ => ?_
    rw [hnamed, BitVec.getLsbD_and, getLsbD_ofList, getLsbD_ofList, Bool.eq_iff_iff]
    simp only [List.any_eq_true, mem_toList, Bool.and_eq_true]
    constructor
    · rintro ⟨p, ⟨hp, hcontains⟩, hi⟩
      exact ⟨contains_iff.1 hcontains i hi, p, hp, hi⟩
    · rintro ⟨hbit, p, hp, hi⟩
      refine ⟨p, ⟨hp, ?_⟩, hi⟩
      rw [Permission.owns_of_single hp, decide_eq_true_eq] at hi
      rw [contains_of_single hp, hi, hbit]
  exact congrArg PermissionSet.mk hbits

/-! ## After any steps -/

/-- What there is to say of a set after some steps. -/
structure StepsDecide (s : PermissionSet) (steps : List Step) : Prop where
  /-- A single permission is contained as the last step that names it or `all` has left it, or as its
  bit was in the beginning. -/
  single : ∀ p ∈ Permission.singles, (s.after steps).contains p =
    leftBy (steps.filter fun step => step.permission = p ∨ step.permission = .all)
      (s.bits.getLsbD p.place)
  /-- The sign never changes. -/
  sign : (s.after steps).bits.msb = s.bits.msb
  /-- A bit that no permission is named after changes by `all` only. -/
  unnamed : ∀ i, Permission.Unnamed i → (s.after steps).bits.getLsbD i =
    leftBy (steps.filter fun step => step.permission = .all) (s.bits.getLsbD i)
  all : (s.after steps).contains .all = true ↔ ∀ i < 31, (s.after steps).bits.getLsbD i = true
  none : (s.after steps).contains .none = true
  /-- The list holds the single permissions that are contained, each once, in ascending order. -/
  listed : ∀ p, p ∈ (s.after steps).toList ↔
    p ∈ Permission.singles ∧ (s.after steps).contains p = true
  ascending : (s.after steps).toList.Pairwise fun p q => p.value < q.value
  named : ofList (s.after steps).toList = ⟨(s.after steps).bits &&& 0xffe⟩

/-- **Sets of permissions behave as sets.** For any word in the beginning and any steps, the last
step that names a permission or `all` decides whether the permission is contained; bits without a
name follow `all`, and the sign follows nothing. -/
theorem last_step_decides (s : PermissionSet) (steps : List Step) : s.StepsDecide steps where
  single p hp := by
    rw [contains_of_single hp, getLsbD_after]
    congr 2
    funext step
    exact Permission.owns_place hp step.permission
  sign := by
    rw [BitVec.msb_eq_getLsbD_last, BitVec.msb_eq_getLsbD_last, getLsbD_after]
    have hnobody : (steps.filter fun step => step.permission.owns 31) = [] := by
      simp [Permission.owns_sign]
    rw [hnobody]
    rfl
  unnamed i hi := by
    rw [getLsbD_after]
    congr 2
    funext step
    exact Permission.owns_unnamed hi step.permission
  all := by
    rw [contains_iff]
    simp [Permission.owns_all]
  none := by
    rw [contains_iff]
    simp
  listed _ := mem_toList
  ascending := ascending_toList _
  named := ofList_toList _

/-- Of a word with every bit set, the sign is left when `all` is taken away. -/
example : (ofValue (-1)).after [.erase .all, .insert .read] = ⟨0x80000002⟩ := by decide

end PermissionSet

end Workflow

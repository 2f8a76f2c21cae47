import Workflow.Value

/-!
# What it means that values agree

Queries and correlation compare values by `Value.agrees`. It is equality but for the sign of zero:
`Value.numeric` forgets that sign wherever a double stands in a value, and two values agree exactly
if they are the same after that.

* `Double.sameNumber_iff`, `Value.agrees_iff`: agreement is equality of the numeric forms.
* `Value.agrees_equivalence`: so it is an equivalence.
-/

namespace Workflow

/-- The double as a number: there is one zero only, without a sign. -/
def Double.numeric (x : Double) : Double := if x.significand = 0 then ⟨false, 0, 0⟩ else x

theorem Double.sameNumber_iff {x y : Double} : x.sameNumber y = true ↔ x.numeric = y.numeric := by
  have hzero {z : Double} (h : z.significand ≠ 0) : z ≠ ⟨false, 0, 0⟩ := by
    rintro rfl
    exact h rfl
  by_cases hx : x.significand = 0 <;> by_cases hy : y.significand = 0
  · simp [sameNumber, isZero, numeric, hx, hy]
  · have hne : x ≠ y := fun h => hy (h ▸ hx)
    simp [sameNumber, isZero, numeric, hx, hy, hne, (hzero hy).symm]
  · have hne : x ≠ y := fun h => hx (h ▸ hy)
    simp [sameNumber, isZero, numeric, hx, hy, hne, hzero hx]
  · simp [sameNumber, isZero, numeric, hx, hy]

namespace Value

mutual

/-- The value with every double as a number. -/
def numeric : Value → Value
  | .double x => .double x.numeric
  | .list items => .list (numericItems items)
  | .members named => .members (numericMembers named)
  | v => v

/-- Every item with its doubles as numbers. -/
def numericItems : List Value → List Value
  | [] => []
  | v :: rest => numeric v :: numericItems rest

/-- Every member with its doubles as numbers. -/
def numericMembers : List (String × Value) → List (String × Value)
  | [] => []
  | (k, v) :: rest => (k, numeric v) :: numericMembers rest

end

mutual

/-- **Values agree if they are equal as numbers, texts and so on**: the same but for signs of
zeros. -/
theorem agrees_iff : (a b : Value) → (a.agrees b = true ↔ a.numeric = b.numeric)
  | .null, b => by cases b <;> simp [agrees, numeric]
  | .bool _, b => by cases b <;> simp [agrees, numeric]
  | .integer _, b => by cases b <;> simp [agrees, numeric]
  | .double _, b => by cases b <;> simp [agrees, numeric, Double.sameNumber_iff]
  | .text _, b => by cases b <;> simp [agrees, numeric]
  | .list as, b => by
    cases b with
    | list bs => simpa [agrees, numeric] using agreesItems_iff as bs
    | _ => simp [agrees, numeric]
  | .members as, b => by
    cases b with
    | members bs => simpa [agrees, numeric] using agreesMembers_iff as bs
    | _ => simp [agrees, numeric]

theorem agreesItems_iff :
    (as bs : List Value) → (agreesItems as bs = true ↔ numericItems as = numericItems bs)
  | [], bs => by cases bs <;> simp [agreesItems, numericItems]
  | a :: as, [] => by simp [agreesItems, numericItems]
  | a :: as, b :: bs => by
    simp [agreesItems, numericItems, agrees_iff a b, agreesItems_iff as bs]

theorem agreesMembers_iff : (as bs : List (String × Value)) →
    (agreesMembers as bs = true ↔ numericMembers as = numericMembers bs)
  | [], bs => by cases bs <;> simp [agreesMembers, numericMembers]
  | a :: as, [] => by simp [agreesMembers, numericMembers]
  | (k, a) :: as, (l, b) :: bs => by
    simp [agreesMembers, numericMembers, agrees_iff a b, agreesMembers_iff as bs, and_assoc]

end

theorem agrees_equivalence : Equivalence fun a b : Value => a.agrees b = true where
  refl a := (agrees_iff a a).2 rfl
  symm h := (agrees_iff _ _).2 ((agrees_iff _ _).1 h).symm
  trans h h' := (agrees_iff _ _).2 (((agrees_iff _ _).1 h).trans ((agrees_iff _ _).1 h'))

/-- Both zeros agree, and an integer is no double. -/
example :
    (list [.double ⟨true, 0, 0⟩]).agrees (.list [.double ⟨false, 0, -1074⟩]) = true ∧
      (integer 0).agrees (.double ⟨false, 0, 0⟩) = false := by
  decide

end Value

end Workflow

import Workflow.Number.Double
import Workflow.Text.Quoted
import Workflow.Table

/-!
# Values of process variables

A `Value` is what a process variable may hold: nothing, a truth value, an integer, a double, a text,
a list, or an object whose members have names. Integers and doubles are told apart: `1` is never
`1.0`. Objects keep their members in ascending order of name, which `object` establishes.

* `agrees` is the comparison that queries and correlation use: doubles are compared as numbers,
  everything else by being the same.
* `shown` writes a value for a reader, each part under the name of its kind.
* `Variables` are values filed under names; `Variables.shown` writes them for a reader.
-/

namespace Workflow

/-- What a process variable may hold. -/
inductive Value where
  | null
  | bool (b : Bool)
  | integer (n : Int)
  | double (x : Double)
  | text (s : String)
  | list (items : List Value)
  | members (named : List (String × Value))
  deriving Inhabited

namespace Value

/-! ## Equality and agreement -/

mutual

/-- Whether two values are the same. -/
def same : Value → Value → Bool
  | .null, .null => true
  | .bool a, .bool b => a == b
  | .integer a, .integer b => a == b
  | .double a, .double b => decide (a = b)
  | .text a, .text b => a == b
  | .list a, .list b => sameItems a b
  | .members a, .members b => sameMembers a b
  | _, _ => false

/-- Whether two lists hold the same values. -/
def sameItems : List Value → List Value → Bool
  | [], [] => true
  | a :: as, b :: bs => same a b && sameItems as bs
  | _, _ => false

/-- Whether two lists hold the same named values. -/
def sameMembers : List (String × Value) → List (String × Value) → Bool
  | [], [] => true
  | (k, a) :: as, (l, b) :: bs => k == l && same a b && sameMembers as bs
  | _, _ => false

end

mutual

theorem same_refl : (a : Value) → same a a = true
  | .null => rfl
  | .bool b => by simp [same]
  | .integer n => by simp [same]
  | .double x => by simp [same]
  | .text s => by simp [same]
  | .list items => by simp [same, sameItems_refl items]
  | .members named => by simp [same, sameMembers_refl named]

theorem sameItems_refl : (as : List Value) → sameItems as as = true
  | [] => rfl
  | a :: as => by simp [sameItems, same_refl a, sameItems_refl as]

theorem sameMembers_refl : (as : List (String × Value)) → sameMembers as as = true
  | [] => rfl
  | (k, a) :: as => by simp [sameMembers, same_refl a, sameMembers_refl as]

end

mutual

theorem eq_of_same : (a b : Value) → same a b = true → a = b
  | .null, b, h => by cases b <;> simp_all [same]
  | .bool a, b, h => by cases b <;> simp_all [same]
  | .integer a, b, h => by cases b <;> simp_all [same]
  | .double a, b, h => by cases b <;> simp_all [same]
  | .text a, b, h => by cases b <;> simp_all [same]
  | .list as, b, h => by
    cases b with
    | list bs => rw [eq_of_sameItems as bs (by simpa [same] using h)]
    | _ => simp [same] at h
  | .members as, b, h => by
    cases b with
    | members bs => rw [eq_of_sameMembers as bs (by simpa [same] using h)]
    | _ => simp [same] at h

theorem eq_of_sameItems : (as bs : List Value) → sameItems as bs = true → as = bs
  | [], [], _ => rfl
  | [], _ :: _, h => by simp [sameItems] at h
  | _ :: _, [], h => by simp [sameItems] at h
  | a :: as, b :: bs, h => by
    have h' : same a b = true ∧ sameItems as bs = true := by simpa [sameItems] using h
    rw [eq_of_same a b h'.1, eq_of_sameItems as bs h'.2]

theorem eq_of_sameMembers :
    (as bs : List (String × Value)) → sameMembers as bs = true → as = bs
  | [], [], _ => rfl
  | [], _ :: _, h => by simp [sameMembers] at h
  | _ :: _, [], h => by simp [sameMembers] at h
  | (k, a) :: as, (l, b) :: bs, h => by
    have h' : (k = l ∧ same a b = true) ∧ sameMembers as bs = true := by
      simpa [sameMembers] using h
    rw [h'.1.1, eq_of_same a b h'.1.2, eq_of_sameMembers as bs h'.2]

end

instance : DecidableEq Value := fun a b =>
  if h : same a b = true then isTrue (eq_of_same a b h)
  else isFalse fun e => h (e ▸ same_refl a)

mutual

/-- Whether two values are equal as data: doubles are compared as numbers, so both zeros agree. -/
def agrees : Value → Value → Bool
  | .double a, .double b => a.sameNumber b
  | .list a, .list b => agreesItems a b
  | .members a, .members b => agreesMembers a b
  | .null, .null => true
  | .bool a, .bool b => a == b
  | .integer a, .integer b => a == b
  | .text a, .text b => a == b
  | _, _ => false

/-- Whether two lists agree item by item. -/
def agreesItems : List Value → List Value → Bool
  | [], [] => true
  | a :: as, b :: bs => agrees a b && agreesItems as bs
  | _, _ => false

/-- Whether two lists of members have the same names and agreeing values. -/
def agreesMembers : List (String × Value) → List (String × Value) → Bool
  | [], [] => true
  | (k, a) :: as, (l, b) :: bs => k == l && agrees a b && agreesMembers as bs
  | _, _ => false

end

/-! ## Objects -/

/-- The object with these members, in ascending order of name; of two members of one name the
later one counts. -/
def object (named : List (String × Value)) : Value := .members (Table.ofList named).entries

/-- The member of this name, if the value is an object that has one. -/
def member? (v : Value) (name : String) : Option Value :=
  match v with
  | .members named => named.lookup name
  | _ => none

mutual

/-- The value with the members of every object in ascending order of name. -/
def ordered : Value → Value
  | .list items => .list (orderedItems items)
  | .members named => object (orderedMembers named)
  | v => v

/-- Every item with its objects in order. -/
def orderedItems : List Value → List Value
  | [] => []
  | v :: rest => ordered v :: orderedItems rest

/-- Every member with its objects in order. -/
def orderedMembers : List (String × Value) → List (String × Value)
  | [] => []
  | (k, v) :: rest => (k, ordered v) :: orderedMembers rest

end

/-! ## Values for a reader -/

mutual

/-- The characters of a value written for a reader. -/
def shownChars : Value → List Char
  | .null => "Null".toList
  | .bool b => "Bool(".toList ++ (toString b).toList ++ [')']
  | .integer n => "Number(".toList ++ (toString n).toList ++ [')']
  | .double x => "Number(".toList ++ x.text.toList ++ [')']
  | .text s => "String(".toList ++ (Text.quoted s).toList ++ [')']
  | .list items => "Array [".toList ++ shownItems items ++ [']']
  | .members named => "Object ".toList ++ '\x7b' :: (shownMembers named ++ ['\x7d'])

/-- The items of a list with commas between them. -/
def shownItems : List Value → List Char
  | [] => []
  | [v] => shownChars v
  | v :: rest => shownChars v ++ ',' :: ' ' :: shownItems rest

/-- Named values with commas between them. -/
def shownMembers : List (String × Value) → List Char
  | [] => []
  | [(k, v)] => (Text.quoted k).toList ++ ':' :: ' ' :: shownChars v
  | (k, v) :: rest =>
    (Text.quoted k).toList ++ ':' :: ' ' :: (shownChars v ++ ',' :: ' ' :: shownMembers rest)

end

/-- A value written for a reader, each part under the name of its kind. -/
def shown (v : Value) : String := String.ofList v.shownChars

end Value

/-- Process variables: values filed under names. -/
abbrev Variables : Type := Table Value

namespace Variables

/-- Variables written for a reader. -/
def shown (vars : Variables) : String :=
  String.ofList ('\x7b' :: (Value.shownMembers vars.entries ++ ['\x7d']))

/-- Whether every variable of `wanted` has an agreeing value in `vars`. -/
def cover (vars wanted : Variables) : Bool :=
  wanted.entries.all fun e =>
    match vars.get? e.1 with
    | some v => v.agrees e.2
    | none => false

end Variables

end Workflow

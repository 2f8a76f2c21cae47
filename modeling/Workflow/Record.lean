import Workflow.Value

/-!
# Records

A record is a value that stands for something else: an object with one member for each part, or a
list of the parts in order. Names stand for the cases of an enumeration.

`Value.parts?` takes a record apart; `part`, `optionalPart` and `defaultPart` read one part of it.
Requests are read more freely: `Value.need`, `Value.may` and `Value.orElse` read one member of an
object, where null is as good as nothing.
-/

namespace Workflow

namespace Value

/-- The value of an optional part. -/
def ofOption {α : Type} (f : α → Value) : Option α → Value
  | some a => f a
  | none => .null

/-- An optional text. -/
def ofText? (t : Option String) : Value := ofOption .text t

/-- A list of texts. -/
def ofTexts (ts : List String) : Value := .list (ts.map .text)

/-- The text that a value is. -/
def asText? : Value → Option String
  | .text s => some s
  | _ => none

/-- The truth value that a value is. -/
def asBool? : Value → Option Bool
  | .bool b => some b
  | _ => none

/-- The integer that a value is, if it lies between two bounds. -/
def asInteger? (low high : Int) : Value → Option Int
  | .integer n => if low ≤ n ∧ n ≤ high then some n else none
  | _ => none

/-- The date that a value is: milliseconds before or after 1970 began. -/
def asDate? : Value → Option Int
  | .integer n => some n
  | _ => none

/-- The number of 32 bits, without sign, that a value is. -/
def asWord32? (v : Value) : Option Nat := (v.asInteger? 0 4294967295).map Int.toNat

/-- The number of 64 bits, without sign, that a value is. -/
def asWord64? (v : Value) : Option Nat := (v.asInteger? 0 18446744073709551615).map Int.toNat

/-- The number of 32 bits, with sign, that a value is. -/
def asInt32? (v : Value) : Option Int := v.asInteger? (-2147483648) 2147483647

/-- The values that a list holds, each read the same way. -/
def asList? {α : Type} (f : Value → Option α) : Value → Option (List α)
  | .list items => items.mapM f
  | _ => none

/-- The variables that an object stands for. -/
def asVariables? : Value → Option Variables
  | .members named => some (Table.ofList named)
  | _ => none

/-- The object of some variables. -/
def ofVariables (vars : Variables) : Value := .members vars.entries

/-- The case that a name stands for; a name may also be the only member of an object, with null. -/
def asCase? {α : Type} (cases : List α) (name : α → String) : Value → Option α
  | .text s => cases.find? (name · = s)
  | .members [(s, .null)] => cases.find? (name · = s)
  | _ => none

/-- The parts of a record, by name or in order. A part that is not there is `none`; a list must
have at least `least` parts and no more than there are names, an object no name twice. -/
def partsFrom? (least : Nat) (names : List String) : Value → Option (List (Option Value))
  | .list items =>
    if least ≤ items.length ∧ items.length ≤ names.length then
      some (items.map some ++ List.replicate (names.length - items.length) none)
    else none
  | .members named =>
    if names.all fun name => named.countP (·.1 = name) ≤ 1 then
      some (names.map fun name => named.lookup name)
    else none
  | _ => none

/-- The parts of a record; a list must have all of them. -/
def parts? (names : List String) (v : Value) : Option (List (Option Value)) :=
  v.partsFrom? names.length names

end Value

/-! ## Reading parts -/

/-- A part that must be there. -/
def part {α : Type} (f : Value → Option α) (v : Option Value) : Option α := v.bind f

/-- A part that may be missing or null. -/
def optionalPart {α : Type} (f : Value → Option α) : Option Value → Option (Option α)
  | none | some .null => some none
  | some v => (f v).map some

/-- A part that has a value of its own when it is missing. -/
def defaultPart {α : Type} (default : α) (f : Value → Option α) : Option Value → Option α
  | none => some default
  | some v => f v

/-! ## Reading members -/

namespace Value

/-- The member of this name, unless it is missing or null. -/
def given? (v : Value) (name : String) : Option Value := (v.member? name).filter (· ≠ .null)

/-- A member that must be given. -/
def need {α : Type} (v : Value) (name : String) (f : Value → Option α) : Option α :=
  (v.given? name).bind f

/-- A member that may be given. -/
def may {α : Type} (v : Value) (name : String) (f : Value → Option α) : Option (Option α) :=
  match v.given? name with
  | some x => (f x).map some
  | none => some none

/-- A member that has a value of its own when it is not given. -/
def orElse {α : Type} (v : Value) (name : String) (default : α) (f : Value → Option α) :
    Option α :=
  match v.given? name with
  | some x => f x
  | none => some default

end Value

end Workflow

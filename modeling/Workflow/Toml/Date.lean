import Workflow.Value.Json

/-!
# Dates and times of TOML

A date is a year of four digits, a month and a day; a time is an hour, a minute and a second,
perhaps with a fraction. A time may follow a date after a `T` or a space, and then an offset from
universal time. `date?` reads what stands at the front: a date must be in the calendar.
-/

namespace Workflow.Toml

/-- The number that the first `n` characters write, and what follows them. -/
def fixedDigits? (n : Nat) (cs : List Char) : Option (Nat × List Char) :=
  let ds := cs.take n
  if ds.length = n && ds.all Char.isDigit then some (Json.ofDigits ds, cs.drop n) else none

/-- A number of two digits between two bounds, and what follows it. -/
def twoDigits? (low high : Nat) (cs : List Char) : Option (Nat × List Char) := do
  let (n, rest) ← fixedDigits? 2 cs
  if low ≤ n ∧ n ≤ high then some (n, rest) else none

/-- What follows a character that must be there. -/
def after? (c : Char) : List Char → Option (List Char)
  | d :: rest => if c = d then some rest else none
  | [] => none

/-- Every fourth year has a day more, of the full hundreds only every fourth. -/
def isLeapYear (year : Nat) : Bool := year % 4 = 0 && (year % 100 ≠ 0 || year % 400 = 0)

/-- How many days a month has. -/
def monthLength (year month : Nat) : Nat :=
  if month = 2 then if isLeapYear year then 29 else 28
  else if month ∈ [4, 6, 9, 11] then 30 else 31

/-- What follows a date without a time. -/
def afterDay? (cs : List Char) : Option (List Char) := do
  let (year, cs) ← fixedDigits? 4 cs
  let (month, cs) ← (after? '-' cs).bind (twoDigits? 1 12)
  let (_, cs) ← (after? '-' cs).bind (twoDigits? 1 (monthLength year month))
  some cs

/-- What follows a time. The second 60 is there for leap seconds. -/
def afterTime? (cs : List Char) : Option (List Char) := do
  let (_, cs) ← twoDigits? 0 23 cs
  let (_, cs) ← (after? ':' cs).bind (twoDigits? 0 59)
  let (_, cs) ← (after? ':' cs).bind (twoDigits? 0 60)
  match cs with
  | '.' :: rest => some (if rest.head?.any Char.isDigit then rest.dropWhile Char.isDigit else cs)
  | _ => some cs

/-- What follows an offset from universal time, if there is one. -/
def afterOffset (cs : List Char) : List Char :=
  match cs with
  | [] => []
  | c :: rest =>
    if c = 'Z' ∨ c = 'z' then rest
    else if c = '+' ∨ c = '-' then
      let clock := do
        let (_, cs) ← twoDigits? 0 23 rest
        let (_, cs) ← (after? ':' cs).bind (twoDigits? 0 59)
        some cs
      clock.getD cs
    else cs

/-- What follows a date, a time or both. -/
def afterDate? (cs : List Char) : Option (List Char) :=
  match afterDay? cs with
  | none => afterTime? cs
  | some [] => some []
  | some (c :: rest) =>
    if c = 'T' ∨ c = 't' ∨ c = ' ' then
      match afterTime? rest with
      | some rest => some (afterOffset rest)
      | none => some (c :: rest)
    else some (c :: rest)

/-- The date at the front, as an object that holds its text, and what follows it. -/
def date? (cs : List Char) : Option (Value × List Char) :=
  (afterDate? cs).map fun rest =>
    (.members [("date", .text (String.ofList (cs.take (cs.length - rest.length))))], rest)

end Workflow.Toml

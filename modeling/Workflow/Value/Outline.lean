/-!
# How much of a text is of interest

A reader that looks for a few members of an object need not mind what else the text holds, as long
as the rest is well formed. An `Outline` says where it looks.

* `all`: everything is read.
* `nothing`: the text is only passed over. Its brackets, names and escapes must be in order, but no
  number can be too great, no escaped half of a character stands alone, and no level is too deep.
* `only parts`: the members with these names are read, each as far as its own outline says; of a
  list, the items in the order of the names.

`member_ofNames` says which members an outline of names reads.
-/

namespace Workflow

/-- Which parts of a text are read. -/
inductive Outline where
  | all
  | nothing
  | only (parts : List (String × Outline))

namespace Outline

/-- The members of these names, with all they hold. -/
def ofNames (names : List String) : Outline := only (names.map (·, all))

/-- How much of a member is of interest. -/
def member (o : Outline) (name : String) : Outline :=
  match o with
  | only parts => (parts.lookup name).getD nothing
  | o => o

/-- How much of the first item of a list is of interest. -/
def item : Outline → Outline
  | only ((_, o) :: _) => o
  | only [] => all
  | o => o

/-- What is of interest in the items after the first. -/
def afterItem : Outline → Outline
  | only parts => only (parts.drop 1)
  | o => o

/-- How many levels may be opened inside a list or an object, if one more may be opened at all: what
is passed over may nest at will. -/
def enter? : Outline → Nat → Option Nat
  | nothing, depth => some depth
  | _, 0 => none
  | _, depth + 1 => some depth

@[simp] theorem all_member (name : String) : all.member name = all := rfl

@[simp] theorem all_item : all.item = all := rfl

@[simp] theorem all_afterItem : all.afterItem = all := rfl

@[simp] theorem nothing_member (name : String) : nothing.member name = nothing := rfl

@[simp] theorem nothing_item : nothing.item = nothing := rfl

@[simp] theorem nothing_afterItem : nothing.afterItem = nothing := rfl

/-- Of an object, the members with the names are read and all others are passed over. -/
theorem member_ofNames (names : List String) (name : String) :
    (ofNames names).member name = if name ∈ names then all else nothing := by
  induction names with
  | nil => rfl
  | cons first rest ih =>
    by_cases h : name = first
    · simp [ofNames, member, h]
    · have hf : (name == first) = false := beq_eq_false_iff_ne.2 h
      simpa [ofNames, member, List.lookup_cons, h, hf] using ih

end Outline

end Workflow

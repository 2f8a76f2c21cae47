/-!
# Permissions and sets of permissions

A `Permission` is one right that a grant can carry. Eleven of them own one bit of a 32-bit word
each; `none` owns no bit and `all` every bit but the sign. A `PermissionSet` is such a word: it
contains a permission when it has all the bits of it, so every set contains `none`.
-/

namespace Workflow

/-- A right that a grant can carry. -/
inductive Permission where
  | none
  | all
  | read
  | update
  | create
  | delete
  | access
  | readTasks
  | updateTasks
  | createInstances
  | readInstances
  | updateInstances
  | deleteInstances
  deriving DecidableEq, Repr

namespace Permission

/-- Every permission, in order of declaration. -/
def values : List Permission :=
  [none, all, read, update, create, delete, access, readTasks, updateTasks, createInstances,
    readInstances, updateInstances, deleteInstances]

/-- The permissions that own one bit, in ascending order of it. -/
def singles : List Permission :=
  [read, update, create, delete, access, readTasks, updateTasks, createInstances, readInstances,
    updateInstances, deleteInstances]

/-- The bits of a permission. -/
def bits : Permission → BitVec 32
  | none => 0
  | all => 0x7fffffff
  | read => 2
  | update => 4
  | create => 8
  | delete => 16
  | access => 32
  | readTasks => 64
  | updateTasks => 128
  | createInstances => 256
  | readInstances => 512
  | updateInstances => 1024
  | deleteInstances => 2048

/-- The number under which a permission is stored. -/
def value (p : Permission) : Int := p.bits.toInt

/-- The name of a permission. -/
def name : Permission → String
  | none => "NONE"
  | all => "ALL"
  | read => "READ"
  | update => "UPDATE"
  | create => "CREATE"
  | delete => "DELETE"
  | access => "ACCESS"
  | readTasks => "READ_TASKS"
  | updateTasks => "UPDATE_TASKS"
  | createInstances => "CREATE_INSTANCES"
  | readInstances => "READ_INSTANCES"
  | updateInstances => "UPDATE_INSTANCES"
  | deleteInstances => "DELETE_INSTANCES"

/-- The permission of a name. -/
def ofName? (name : String) : Option Permission := values.find? (·.name = name)

/-- The permission stored under a number. -/
def ofValue? (value : Int) : Option Permission := values.find? (·.value = value)

end Permission

/-- A set of permissions as a word of 32 bits; bits that no permission owns are kept. -/
structure PermissionSet where
  /-- The word. -/
  bits : BitVec 32
  deriving DecidableEq, Repr

namespace PermissionSet

/-- The set without any bit. -/
def empty : PermissionSet := ⟨0⟩

instance : EmptyCollection PermissionSet := ⟨empty⟩

instance : Inhabited PermissionSet := ⟨empty⟩

/-- Add a permission: set its bits. -/
def insert (s : PermissionSet) (p : Permission) : PermissionSet := ⟨s.bits ||| p.bits⟩

/-- Take a permission away: clear its bits. -/
def erase (s : PermissionSet) (p : Permission) : PermissionSet := ⟨s.bits &&& ~~~p.bits⟩

/-- Whether every bit of a permission is set. -/
def contains (s : PermissionSet) (p : Permission) : Bool := s.bits &&& p.bits == p.bits

/-- Whether no bit is set. -/
def isEmpty (s : PermissionSet) : Bool := s.bits == 0

/-- The permissions with a bit of their own that the set contains. -/
def toList (s : PermissionSet) : List Permission := Permission.singles.filter s.contains

/-- The set of some permissions. -/
def ofList (ps : List Permission) : PermissionSet := ps.foldl insert empty

/-- The set of one permission. -/
def singleton (p : Permission) : PermissionSet := ⟨p.bits⟩

/-- The word as a signed number. -/
def value (s : PermissionSet) : Int := s.bits.toInt

/-- The set whose word is the signed number `n`. -/
def ofValue (n : Int) : PermissionSet := ⟨BitVec.ofInt 32 n⟩

end PermissionSet

end Workflow

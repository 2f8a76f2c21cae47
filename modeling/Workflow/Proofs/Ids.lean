import Workflow.Action

/-!
# Ids that are handed out

The ids that are handed out count upwards in hexadecimal digits, so no id is handed out twice.
`mintedId_injective` reads the number back from an id; the zeros in front of the digits do not
count. `ne_mintedId` tells other ids apart from them.
-/

namespace Workflow.State

/-- The value of a hexadecimal digit. -/
def hexDigit (c : Char) : Nat := if c.isDigit then c.toNat - '0'.toNat else c.toNat - 'a'.toNat + 10

/-- The number that hexadecimal digits are read as. -/
def hexValue (digits : List Char) : Nat := digits.foldl (fun n c => 16 * n + hexDigit c) 0

theorem hexDigit_digitChar : ∀ n < 16, hexDigit (Nat.digitChar n) = n := by decide

theorem hexValue_concat (digits : List Char) (c : Char) :
    hexValue (digits ++ [c]) = 16 * hexValue digits + hexDigit c := by
  simp [hexValue]

theorem hexValue_toDigits (n : Nat) : hexValue (Nat.toDigits 16 n) = n := by
  induction n using Nat.strongRecOn with
  | ind n ih =>
    rcases Nat.lt_or_ge n 16 with hlt | hge
    · rw [Nat.toDigits_of_lt_base hlt]
      simpa [hexValue] using hexDigit_digitChar n hlt
    · rw [Nat.toDigits_of_base_le (by decide) hge, hexValue_concat, ih (n / 16) (by omega),
        hexDigit_digitChar _ (Nat.mod_lt n (by decide))]
      omega

/-- Zeros in front do not count. -/
theorem hexValue_replicate_append (k : Nat) (digits : List Char) :
    hexValue (List.replicate k '0' ++ digits) = hexValue digits := by
  induction k with
  | zero => rfl
  | succ k ih => exact ih

theorem toList_mintedId (n : Nat) : (mintedId n).toList =
    "00000000-0000-4000-8000-".toList ++
      (List.replicate (12 - (Nat.toDigits 16 n).length) '0' ++ Nat.toDigits 16 n) := by
  unfold mintedId
  -- the digits are not to be computed
  generalize Nat.toDigits 16 n = digits
  simp only [String.toList_append, String.toList_ofList, String.length_ofList, List.append_assoc]

/-- **No id is handed out twice.** -/
theorem mintedId_injective {m n : Nat} (h : mintedId m = mintedId n) : m = n := by
  have hdigits := congrArg String.toList h
  rw [toList_mintedId, toList_mintedId, List.append_cancel_left_eq] at hdigits
  have hvalues := congrArg hexValue hdigits
  rwa [hexValue_replicate_append, hexValue_replicate_append, hexValue_toDigits,
    hexValue_toDigits] at hvalues

theorem ne_mintedId {id : String} (h : id.toList.head? ≠ some '0') (n : Nat) : id ≠ mintedId n := by
  rintro rfl
  rw [toList_mintedId] at h
  exact h rfl

end Workflow.State

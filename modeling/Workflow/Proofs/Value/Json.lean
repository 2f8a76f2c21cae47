import Workflow.Value.Json

/-!
# Reading back what was written

The JSON text of a value is read back to the value. Here this is shown for the values that records
are made of: texts, truth values, and objects whose members are read back. Numbers and lists are not
treated.

* `textEnd_textBody`: a text between quotes, whatever its characters.
* `Reads n depth o v` says that a value is read back, by an outline, with so much fuel and so many
  levels; `reads_text`, `reads_bool` and `reads_members` show it for a value from its parts.
* `document?_json`: a whole document.
-/

namespace Workflow.Json

/-! ## Texts -/

/-- One more character in front of a text that was read. -/
def push (c : Char) (r : Option (List Char × List Char)) : Option (List Char × List Char) :=
  r.map fun r => (c :: r.1, r.2)

/-- A character that is written as its code, whatever follows it. -/
theorem textEnd_code {a b c d ch : Char} {n : Nat} (hn : hexQuad? a b c d = some n)
    (hch : ofUnit? n = some ch) (rest : List Char) :
    textEnd ('\\' :: 'u' :: a :: b :: c :: d :: rest) = push ch (textEnd rest) := by
  rw [textEnd.eq_def]
  split
  case h_5 hno heq =>
    simp only [List.cons.injEq, true_and] at heq
    exact absurd heq.2.symm (hno _ _ _ _ _ heq.1.symm)
  case h_6 hno heq =>
    simp only [List.cons.injEq] at heq
    exact absurd heq.2.symm (hno _ _ heq.1.symm)
  all_goals simp_all [push]

/-- A character that is written after a backslash. -/
theorem textEnd_unescaped {c ch : Char} (hc : c ≠ 'u') (hch : unescaped? c = some ch)
    (rest : List Char) : textEnd ('\\' :: c :: rest) = push ch (textEnd rest) := by
  rw [textEnd.eq_def]
  split
  case h_6 hno heq =>
    simp only [List.cons.injEq] at heq
    exact absurd heq.2.symm (hno _ _ heq.1.symm)
  all_goals simp_all [push]

/-- A character that is written as it is. -/
theorem textEnd_plain {c : Char} (hquote : c ≠ '"') (hslash : c ≠ '\\') (hcontrol : ¬c.toNat < 0x20)
    (rest : List Char) : textEnd (c :: rest) = push c (textEnd rest) := by
  rw [textEnd.eq_def]
  split
  case h_6 hno heq =>
    obtain ⟨rfl, rfl⟩ := List.cons.inj heq
    simp [hcontrol, hslash, push]
  all_goals simp_all

theorem hexQuad?_control :
    ∀ n < 0x20, hexQuad? '0' '0' (Nat.digitChar (n / 16)) (Nat.digitChar (n % 16)) = some n := by
  decide

/-- Every character is read as it was written. -/
theorem textEnd_escaped (c : Char) (rest : List Char) :
    textEnd (escaped c ++ rest) = push c (textEnd rest) := by
  have hcode (n : Nat) (h : c.toNat = n) : Char.ofNat n = c := h ▸ Char.ofNat_toNat c
  unfold escaped
  split
  · rename_i h
    subst h
    exact textEnd_unescaped (by decide) rfl rest
  split
  · rename_i h
    subst h
    exact textEnd_unescaped (by decide) rfl rest
  split
  · rename_i h
    subst h
    exact textEnd_unescaped (by decide) rfl rest
  split
  · rename_i h
    subst h
    exact textEnd_unescaped (by decide) rfl rest
  split
  · rename_i h
    subst h
    exact textEnd_unescaped (by decide) rfl rest
  split
  · rename_i h
    obtain rfl : '\x08' = c := hcode 8 h
    exact textEnd_unescaped (by decide) rfl rest
  split
  · rename_i h
    obtain rfl : '\x0c' = c := hcode 12 h
    exact textEnd_unescaped (by decide) rfl rest
  split
  · rename_i h
    refine textEnd_code (hexQuad?_control _ h) ?_ rest
    rw [ofUnit?, if_neg (by omega), hcode _ rfl]
  · exact textEnd_plain ‹_› ‹_› ‹_› rest

theorem textEnd_textBody (cs rest : List Char) :
    textEnd (textBody cs ++ rest) = some (cs, rest) := by
  induction cs with
  | nil => rw [textBody, List.singleton_append, textEnd]
  | cons c cs ih => rw [textBody, List.append_assoc, textEnd_escaped, ih, push, Option.map_some]

theorem readText?_textBody {o : Outline} (ho : o ≠ .nothing) (s : String) (rest : List Char) :
    readText? o (textBody s.toList ++ rest) = some (s, rest) := by
  cases o with
  | nothing => exact absurd rfl ho
  | all => simp [readText?, textEnd_textBody]
  | only parts => simp [readText?, textEnd_textBody]

/-! ## Values -/

/-- The value is read back by an outline, with this much fuel or more and so many levels to open,
whatever follows it. -/
def Reads (n depth : Nat) (o : Outline) (v : Value) : Prop :=
  ∀ fuel, n ≤ fuel → ∀ rest, readValue? fuel depth o (chars v ++ rest) = some (v, rest)

theorem Reads.mono {n n' depth : Nat} {o : Outline} {v : Value} (h : Reads n depth o v)
    (hn : n ≤ n') : Reads n' depth o v := fun fuel hfuel => h fuel (Nat.le_trans hn hfuel)

theorem skipBlanks_cons {c : Char} (h : isBlank c = false) (rest : List Char) :
    skipBlanks (c :: rest) = c :: rest := by
  simp [skipBlanks, h]

theorem reads_text {o : Outline} (ho : o ≠ .nothing) (depth : Nat) (s : String) :
    Reads 1 depth o (.text s) := by
  rintro (_ | fuel) hfuel rest
  · omega
  · rw [chars, textChars, List.cons_append, readValue?, skipBlanks_cons rfl]
    simp only [readText?_textBody ho, Option.map_some]

theorem reads_bool (o : Outline) (depth : Nat) (b : Bool) : Reads 1 depth o (.bool b) := by
  rintro (_ | fuel) hfuel rest
  · omega
  · cases b <;> rfl

/-- How reading goes on after a member, by the next character: with another member, or back to what
encloses the object. -/
def afterMember? (fuel depth : Nat) (o : Outline) (p : String × Value) :
    List Char → Option (List (String × Value) × List Char)
  | ',' :: rest => (readMembers? fuel depth o rest).map fun r => (p :: r.1, r.2)
  | '\x7d' :: rest => some ([p], rest)
  | _ => none

theorem readMembers?_member {o : Outline} (ho : o ≠ .nothing) {n depth fuel : Nat} {k : String}
    {v : Value} (h : Reads n depth (o.member k) v) (hfuel : n ≤ fuel) (tail : List Char) :
    readMembers? (fuel + 1) depth o (textChars k ++ ':' :: (chars v ++ tail)) =
      afterMember? fuel depth o (k, v) (skipBlanks tail) := by
  rw [textChars, List.cons_append, readMembers?, skipBlanks_cons rfl]
  simp only [readText?_textBody ho, skipBlanks_cons (c := ':') rfl, h fuel hfuel]
  rfl

/-- Members are read back one after the other; each takes one unit of fuel from the next. -/
theorem readMembers?_memberChars {o : Outline} (ho : o ≠ .nothing) {n depth : Nat}
    {named : List (String × Value)} (hne : named ≠ [])
    (h : ∀ p ∈ named, Reads n depth (o.member p.1) p.2) {fuel : Nat}
    (hfuel : n + named.length ≤ fuel) (rest : List Char) :
    readMembers? fuel depth o (memberChars named ++ '\x7d' :: rest) = some (named, rest) := by
  induction named generalizing fuel with
  | nil => exact absurd rfl hne
  | cons p more ih =>
    obtain ⟨k, v⟩ := p
    obtain ⟨fuel, rfl⟩ : ∃ f, fuel = f + 1 := ⟨fuel - 1, by simp at hfuel; omega⟩
    rw [List.length_cons] at hfuel
    have hv : Reads n depth (o.member k) v := h (k, v) List.mem_cons_self
    cases more with
    | nil =>
      rw [memberChars, List.append_assoc, List.cons_append,
        readMembers?_member ho hv (by omega), skipBlanks_cons rfl]
      rfl
    | cons q more =>
      have hroom : n + (q :: more).length ≤ fuel := by omega
      have hrest := ih (by simp) (fun p hp => h p (List.mem_cons_of_mem _ hp)) hroom
      rw [memberChars, List.append_assoc, List.cons_append, List.append_assoc, List.cons_append,
        readMembers?_member ho hv (by omega), skipBlanks_cons rfl, afterMember?, hrest]
      · rfl
      · exact List.cons_ne_nil q more

theorem enter?_succ {o : Outline} (ho : o ≠ .nothing) (depth : Nat) :
    o.enter? (depth + 1) = some depth := by
  cases o <;> first | rfl | exact absurd rfl ho

/-- An object is read back if its members are. -/
theorem reads_members {o : Outline} (ho : o ≠ .nothing) {n depth : Nat}
    {named : List (String × Value)} (h : ∀ p ∈ named, Reads n depth (o.member p.1) p.2) :
    Reads (n + named.length + 1) (depth + 1) o (.members named) := by
  rintro (_ | fuel) hfuel rest
  · omega
  · rw [chars, List.cons_append, List.append_assoc, List.singleton_append, readValue?,
      skipBlanks_cons rfl]
    simp only [enter?_succ ho]
    cases named with
    | nil => rfl
    | cons p more =>
      have hroom : n + (p :: more).length ≤ fuel := by omega
      have hmembers := readMembers?_memberChars ho (List.cons_ne_nil p more) h hroom rest
      -- the first character is the quote of the first name, so the object is not empty
      obtain ⟨tail, htail⟩ : ∃ tail, memberChars (p :: more) ++ '\x7d' :: rest = '"' :: tail := by
        cases more <;> exact ⟨_, rfl⟩
      rw [htail] at hmembers ⊢
      rw [skipBlanks_cons rfl]
      change (readMembers? fuel depth o ('"' :: tail)).map _ = _
      rw [hmembers]
      rfl

end Workflow.Json

namespace Workflow.Value

/-- **A document is read back.** Twice its length is fuel enough if the value does not need more. -/
theorem document?_json {n : Nat} {o : Outline} {v : Value} (h : Json.Reads n Json.maxDepth o v)
    (hn : n ≤ 2 * (Json.chars v).length + 2) : document? o v.json = some v := by
  have hread := h (2 * (Json.chars v).length + 2) hn []
  rw [List.append_nil] at hread
  simp only [document?, json, String.toList_ofList, hread]
  rfl

end Workflow.Value

import Workflow.Store

/-!
# Rows filed under their own ids

A table is *filed* by an id when every row stands under its own id, as the store files all of its
rows. Then no two rows have the same id, a row is found again by its id, and taking the row of an id
away takes away exactly one row.

* `Filed.get?_of_mem`: a row is found by its id.
* `Filed.ascending_ids`, `Filed.nodup_ids`: ids ascend and occur once.
* `Filed.erase_filter`: what is left when a row is taken away by its id.
* `Filed.head?_filter_eq_some_iff`, `Filed.greatest?_filter_eq_some_iff`: which row comes first, and
  which one is the greatest, told by the ids.
* `Filed.insert`, `Filed.erase`, `Filed.map`: the operations keep a table filed.
* `keys_modify`, `size_insert_of_new`: changes keep the keys, a new row is one row more.
* `Related r`: two tables agree row by row, up to a relation of rows.
-/

namespace Workflow.Table

variable {α β : Type}

/-- Every row stands under its own id. -/
def Filed (id : α → String) (t : Table α) : Prop := ∀ k v, t.get? k = some v → id v = k

namespace Filed

variable {id : α → String} {t : Table α}

theorem empty : (∅ : Table α).Filed id := fun _ _ h => by cases h

/-- A row is found by its id. -/
theorem get?_of_mem (h : t.Filed id) {v : α} (hv : v ∈ t.rows) : t.get? (id v) = some v := by
  obtain ⟨k, hk⟩ := mem_rows_iff.1 hv
  rw [h k v hk]
  exact hk

/-- A row is the one that is found by its id. -/
theorem eq_of_get? (h : t.Filed id) {v w : α} (hv : v ∈ t.rows) {k : String} (hk : id v = k)
    (hw : t.get? k = some w) : v = w := by
  subst hk
  exact Option.some.inj ((h.get?_of_mem hv).symm.trans hw)

/-- Two rows of one id are the same row. -/
theorem eq_of_id_eq (h : t.Filed id) {v w : α} (hv : v ∈ t.rows) (hw : w ∈ t.rows)
    (e : id v = id w) : v = w :=
  h.eq_of_get? hv e (h.get?_of_mem hw)

/-- The ids of the rows are the keys. -/
theorem map_id_rows (h : t.Filed id) : t.rows.map id = t.keys := by
  rw [rows, keys, List.map_map]
  refine List.map_congr_left fun p hp => ?_
  exact h p.1 p.2 (mem_entries_iff.1 hp)

/-- The ids ascend. -/
theorem ascending_ids (h : t.Filed id) : (t.rows.map id).Pairwise (· < ·) := by
  rw [h.map_id_rows, keys]
  exact List.pairwise_map.2 t.ascending

/-- No id occurs twice. -/
theorem nodup_ids (h : t.Filed id) : (t.rows.map id).Nodup := by
  refine h.ascending_ids.imp fun hlt he => ?_
  rw [he] at hlt
  exact String.lt_irrefl _ hlt

theorem nodup_rows (h : t.Filed id) : t.rows.Nodup :=
  (List.pairwise_map.1 h.nodup_ids).imp fun hne he => hne (congrArg id he)

/-- Filing a row under its id keeps the table filed. -/
theorem insert (h : t.Filed id) (v : α) : (t.insert (id v) v).Filed id := by
  intro k w hw
  rw [get?_insert] at hw
  split at hw
  · rename_i hk
    rw [← Option.some.inj hw, hk]
  · exact h k w hw

theorem erase (h : t.Filed id) (k : String) : (t.erase k).Filed id := by
  intro j v hv
  rw [get?_erase] at hv
  split at hv
  · cases hv
  · exact h j v hv

theorem filter (h : t.Filed id) (p : α → Bool) : (t.filter p).Filed id := by
  intro k v hv
  rw [get?_filter, Option.filter_eq_some_iff] at hv
  exact h k v hv.1

/-- Changes that keep the ids keep the table filed. -/
theorem map (h : t.Filed id) {id' : β → String} {f : α → β} (hf : ∀ v, id' (f v) = id v) :
    (t.map f).Filed id' := by
  intro k w hw
  rw [get?_map, Option.map_eq_some_iff] at hw
  obtain ⟨v, hv, rfl⟩ := hw
  rw [hf]
  exact h k v hv

theorem modify (h : t.Filed id) {f : α → α} (hf : ∀ v, id (f v) = id v) (k : String) :
    (t.modify k f).Filed id := by
  intro j w hw
  rw [get?_modify] at hw
  split at hw
  · obtain ⟨v, hv, rfl⟩ := Option.map_eq_some_iff.1 hw
    rw [hf]
    exact h j v hv
  · exact h j w hw

end Filed

/-! ## First and greatest rows -/

namespace Filed

variable {id : α → String} {t : Table α}

/-- Of the rows that pass a test the first is the one of the smallest id. -/
theorem head?_filter_eq_some_iff (h : t.Filed id) {p : α → Bool} {v : α} :
    (t.rows.filter p).head? = some v ↔
      v ∈ t.rows ∧ p v = true ∧ ∀ w ∈ t.rows, p w = true → id v ≤ id w := by
  have hleast {u : α} (hu : (t.rows.filter p).head? = some u) :
      u ∈ t.rows ∧ p u = true ∧ ∀ w ∈ t.rows, p w = true → id u ≤ id w := by
    obtain ⟨rest, hlist⟩ := List.head?_eq_some_iff.1 hu
    have hascending : (u :: rest).Pairwise fun a b => id a < id b := by
      rw [← hlist]
      exact (List.pairwise_map.1 h.ascending_ids).filter p
    have hmem (w : α) : w ∈ u :: rest ↔ w ∈ t.rows ∧ p w = true := by rw [← hlist, List.mem_filter]
    have hfirst := (hmem u).1 List.mem_cons_self
    refine ⟨hfirst.1, hfirst.2, fun w hw hp => ?_⟩
    rcases List.mem_cons.1 ((hmem w).2 ⟨hw, hp⟩) with rfl | hrest
    · exact String.le_refl _
    · exact Std.le_of_lt ((List.pairwise_cons.1 hascending).1 w hrest)
  refine ⟨hleast, fun ⟨hv, hp, hle⟩ => ?_⟩
  cases hu : (t.rows.filter p).head? with
  | none =>
    rw [List.head?_eq_none_iff, List.filter_eq_nil_iff] at hu
    exact absurd hp (hu v hv)
  | some u =>
    obtain ⟨hmem, hpu, hle'⟩ := hleast hu
    rw [h.eq_of_id_eq hv hmem (String.le_antisymm (hle u hmem hpu) (hle' v hv hp))]

end Filed

/-- Of rows in ascending order the greatest is the last among equals. -/
theorem last_of_greatest? {measure : α → Int} {id : α → String} {rows : List α} {best : α}
    (hrows : rows.Pairwise fun a b => id a < id b) (h : greatest? measure rows = some best)
    {row : α} (hrow : row ∈ rows) :
    measure row < measure best ∨ measure row = measure best ∧ id row ≤ id best := by
  induction rows generalizing best with
  | nil => cases hrow
  | cons first rest ih =>
    obtain ⟨hfirst, hrest⟩ := List.pairwise_cons.1 hrows
    rw [greatest?] at h
    cases hb : greatest? measure rest with
    | none =>
      rw [hb] at h
      obtain rfl := Option.some.inj h
      rw [greatest?_eq_none_iff] at hb
      subst hb
      obtain rfl := List.mem_singleton.1 hrow
      exact .inr ⟨rfl, String.le_refl _⟩
    | some b =>
      rw [hb] at h
      dsimp only at h
      split at h
      · rename_i hlt
        obtain rfl := Option.some.inj h
        rcases List.mem_cons.1 hrow with rfl | hmem
        · exact .inr ⟨rfl, String.le_refl _⟩
        · exact .inl (Int.lt_of_le_of_lt (le_greatest? hb hmem) hlt)
      · rename_i hle
        obtain rfl := Option.some.inj h
        rcases List.mem_cons.1 hrow with rfl | hmem
        · rcases Int.lt_or_eq_of_le (Int.not_lt.1 hle) with hlt | heq
          · exact .inl hlt
          · exact .inr ⟨heq, Std.le_of_lt (hfirst _ (greatest?_mem hb))⟩
        · exact ih hrest hb hmem

/-- Of the rows that pass a test the greatest has the greatest id among equals. -/
theorem Filed.greatest?_filter_eq_some_iff {id : α → String} {t : Table α} (h : t.Filed id)
    {measure : α → Int} {p : α → Bool} {v : α} :
    greatest? measure (t.rows.filter p) = some v ↔
      v ∈ t.rows ∧ p v = true ∧ ∀ w ∈ t.rows, p w = true →
        measure w < measure v ∨ measure w = measure v ∧ id w ≤ id v := by
  have hgreatest {u : α} (hu : greatest? measure (t.rows.filter p) = some u) :
      u ∈ t.rows ∧ p u = true ∧ ∀ w ∈ t.rows, p w = true →
        measure w < measure u ∨ measure w = measure u ∧ id w ≤ id u := by
    obtain ⟨hmem, hp⟩ := List.mem_filter.1 (greatest?_mem hu)
    have hascending := (List.pairwise_map.1 h.ascending_ids).filter p
    exact ⟨hmem, hp, fun w hw hpw =>
      last_of_greatest? hascending hu (List.mem_filter.2 ⟨hw, hpw⟩)⟩
  refine ⟨hgreatest, fun ⟨hv, hp, hbest⟩ => ?_⟩
  cases hu : greatest? measure (t.rows.filter p) with
  | none =>
    rw [greatest?_eq_none_iff, List.filter_eq_nil_iff] at hu
    exact absurd hp (hu v hv)
  | some u =>
    obtain ⟨hmem, hpu, hbest'⟩ := hgreatest hu
    rcases hbest u hmem hpu with hlt | ⟨heq, hle⟩
    · rcases hbest' v hv hp with hlt' | ⟨heq', -⟩ <;> exfalso <;> omega
    · rcases hbest' v hv hp with hlt' | ⟨-, hle'⟩
      · exfalso; omega
      · rw [h.eq_of_id_eq hmem hv (String.le_antisymm hle hle')]

/-! ## Rows after a change -/

theorem mem_rows_insert {t : Table α} {k : String} {v w : α} (h : w ∈ (t.insert k v).rows) :
    w = v ∨ w ∈ t.rows := by
  obtain ⟨j, hj⟩ := mem_rows_iff.1 h
  rw [get?_insert] at hj
  split at hj
  · exact .inl (Option.some.inj hj).symm
  · exact .inr (mem_rows_iff.2 ⟨j, hj⟩)

theorem mem_rows_modify {t : Table α} {k : String} {f : α → α} {w : α}
    (h : w ∈ (t.modify k f).rows) : ∃ v ∈ t.rows, w = v ∨ w = f v := by
  obtain ⟨j, hj⟩ := mem_rows_iff.1 h
  rw [get?_modify] at hj
  split at hj
  · obtain ⟨v, hv, rfl⟩ := Option.map_eq_some_iff.1 hj
    exact ⟨v, mem_rows_iff.2 ⟨j, hv⟩, .inr rfl⟩
  · exact ⟨w, mem_rows_iff.2 ⟨j, hj⟩, .inl rfl⟩

/-! ## Two tables in one -/

theorem get?_insertAll (t : Table α) {pairs : List (String × α)}
    (h : pairs.Pairwise (fun a b => a.1 < b.1)) (k : String) :
    (t.insertAll pairs).get? k = (pairs.lookup k).or (t.get? k) := by
  induction pairs generalizing t with
  | nil => rfl
  | cons p rest ih =>
    obtain ⟨j, v⟩ := p
    obtain ⟨hlt, hrest⟩ := List.pairwise_cons.1 h
    have hstep : (t.insertAll ((j, v) :: rest)).get? k =
        (rest.lookup k).or (if k = j then some v else t.get? k) := by
      rw [← get?_insert]
      exact ih (t.insert j v) hrest
    rw [hstep]
    by_cases hk : k = j
    · have hnone : rest.lookup j = none := by
        refine List.lookup_eq_none_iff.2 fun q hq => ?_
        have hne : j ≠ q.1 := fun e => String.lt_irrefl j (e ▸ hlt q hq)
        simpa using hne
      simp [hk, hnone]
    · simp [List.lookup_cons, beq_eq_false_iff_ne.2 hk, hk]

/-- In the rows of both tables, those of the second come first. -/
theorem get?_union (t u : Table α) (k : String) :
    (t.union u).get? k = (u.get? k).or (t.get? k) := get?_insertAll t u.ascending k

theorem union_union_self (t u : Table α) : (t.union u).union u = t.union u := by
  apply ext
  intro k
  rw [get?_union, get?_union]
  cases u.get? k <;> rfl

/-! ## Taking a row away -/

theorem rows_filter (t : Table α) (p : α → Bool) : (t.filter p).rows = t.rows.filter p := by
  simp only [rows, filter, List.filter_map, Function.comp_def]

theorem filter_eq_self {t : Table α} {p : α → Bool} (h : ∀ v ∈ t.rows, p v) : t.filter p = t := by
  apply ext
  intro k
  rw [get?_filter]
  cases hk : t.get? k with
  | none => rfl
  | some v => rw [Option.filter_some, if_pos (h v (mem_rows_iff.2 ⟨k, hk⟩))]

/-- Erasing the row of an id. -/
theorem Filed.erase_eq_filter {id : α → String} {t : Table α} (h : t.Filed id) (k : String) :
    t.erase k = t.filter fun v => id v ≠ k := by
  apply ext
  intro j
  rw [get?_erase, get?_filter]
  cases hv : t.get? j with
  | none => simp
  | some v =>
    have hj := h j v hv
    by_cases hk : j = k <;> simp [Option.filter, hj, hk]

theorem filter_filter (t : Table α) (p q : α → Bool) :
    (t.filter p).filter q = t.filter fun v => p v && q v := by
  apply ext
  intro k
  rw [get?_filter, get?_filter, get?_filter, Option.filter_filter]

/-- Erasing a row by its id after others were filtered out. -/
theorem Filed.erase_filter [DecidableEq α] {id : α → String} {t : Table α} (h : t.Filed id)
    (p : α → Bool) {v : α} (hv : v ∈ t.rows) :
    (t.filter p).erase (id v) = t.filter fun w => p w && w ≠ v := by
  apply ext
  intro k
  rw [get?_erase, get?_filter, get?_filter]
  split
  · rename_i hk
    rw [hk, h.get?_of_mem hv]
    simp [Option.filter]
  · rename_i hk
    cases hw : t.get? k with
    | none => rfl
    | some w =>
      have hne : w ≠ v := fun e => hk (by rw [← e, h k w hw])
      simp [Option.filter, hne]

/-! ## Totals -/

theorem perm_filter_key {l : List (String × α)} (h : l.Pairwise (fun a b => a.1 < b.1))
    {k : String} {v : α} (hk : (k, v) ∈ l) : l.Perm ((k, v) :: l.filter (fun e => e.1 != k)) := by
  induction l with
  | nil => cases hk
  | cons head rest ih =>
    obtain ⟨hlt, hrest⟩ := List.pairwise_cons.1 h
    rcases List.mem_cons.1 hk with rfl | hk
    · have hkeep : rest.filter (fun e => e.1 != k) = rest := by
        refine List.filter_eq_self.2 fun e he => ?_
        have hne : e.1 ≠ k := fun heq => String.lt_irrefl k (heq ▸ hlt e he)
        simpa using hne
      rw [List.filter_cons_of_neg (by simp), hkeep]
    · have hne : head.1 ≠ k := fun heq => String.lt_irrefl _ (heq ▸ hlt (k, v) hk)
      rw [List.filter_cons_of_pos (by simpa using hne)]
      exact ((ih hrest hk).cons head).trans (.swap ..)

/-- The rows are the row of a key and those that are left without it. -/
theorem rows_perm_erase {t : Table α} {k : String} {v : α} (h : t.get? k = some v) :
    t.rows.Perm (v :: (t.erase k).rows) := by
  have hperm := perm_filter_key t.ascending (mem_entries_iff.2 h)
  exact hperm.map fun e : String × α => e.2

theorem erase_insert (t : Table α) (k : String) (v : α) : (t.insert k v).erase k = t.erase k := by
  apply ext
  intro j
  rw [get?_erase, get?_insert, get?_erase]
  split <;> rfl

theorem erase_eq_self {t : Table α} {k : String} (h : t.get? k = none) : t.erase k = t := by
  apply ext
  intro j
  rw [get?_erase]
  split
  · rename_i hj
    rw [hj, h]
  · rfl

theorem isEmpty_entries_iff {t : Table α} : t.entries.isEmpty = true ↔ t = ∅ := by
  obtain ⟨entries, hascending⟩ := t
  change entries.isEmpty = true ↔ Table.mk entries hascending = ⟨[], .nil⟩
  simp

theorem size_eq_length_keys (t : Table α) : t.size = t.keys.length := by
  rw [size, keys, List.length_map]

/-- A row under a new key is one row more. -/
theorem size_insert_of_new {t : Table α} {k : String} (h : t.get? k = none) (v : α) :
    (t.insert k v).size = t.size + 1 := by
  have hperm : (t.insert k v).rows.Perm (v :: t.rows) := by
    have hrow : (t.insert k v).get? k = some v := by simp
    have hrows := rows_perm_erase hrow
    rwa [erase_insert, erase_eq_self h] at hrows
  simpa [size, rows] using hperm.length_eq

/-! ## Changing rows -/

theorem map_map {γ : Type} (t : Table α) (f : α → β) (g : β → γ) :
    (t.map f).map g = t.map (g ∘ f) := by
  apply ext
  intro k
  simp only [get?_map, Option.map_map]

theorem rows_map (t : Table α) (f : α → β) : (t.map f).rows = t.rows.map f := by
  simp only [rows, map, List.map_map, Function.comp_def]

/-- Two changes that do the same to the rows make the same table. -/
theorem map_congr {t : Table α} {f g : α → β} (h : ∀ v ∈ t.rows, f v = g v) :
    t.map f = t.map g := by
  apply ext
  intro k
  rw [get?_map, get?_map]
  refine Option.map_congr fun v hv => h v (mem_rows_iff.2 ⟨k, hv⟩)

/-- A change that does nothing to the rows leaves the table as it is. -/
theorem map_eq_self {t : Table α} {f : α → α} (h : ∀ v ∈ t.rows, f v = v) : t.map f = t := by
  apply ext
  intro k
  rw [get?_map]
  cases hk : t.get? k with
  | none => rfl
  | some v => rw [Option.map_some, h v (mem_rows_iff.2 ⟨k, hk⟩)]

@[simp] theorem map_self (t : Table α) : t.map (fun v => v) = t := map_eq_self fun _ _ => rfl

/-- What a change does not see of a row that is put in place of another. -/
theorem map_insert {t : Table α} {k : String} {v v' : α} {f : α → β} (hk : t.get? k = some v)
    (h : f v' = f v) : (t.insert k v').map f = t.map f := by
  apply ext
  intro j
  rw [get?_map, get?_map, get?_insert]
  split
  · rename_i hj
    rw [hj, hk, Option.map_some, Option.map_some, h]
  · rfl

/-- Tables with rows under the same keys have the same keys. -/
theorem keys_eq_of_contains {t : Table α} {u : Table β}
    (h : ∀ k, t.contains k = u.contains k) : t.keys = u.keys := by
  have hkeys {γ : Type} (w : Table γ) : w.keys = (w.map fun _ => ()).keys := by
    simp only [keys, map, List.map_map, Function.comp_def]
  have hsame : (t.map fun _ => ()) = u.map fun _ => () := by
    apply ext
    intro k
    have hk : (t.get? k).isSome = (u.get? k).isSome := h k
    rw [get?_map, get?_map]
    revert hk
    cases t.get? k <;> cases u.get? k <;> simp
  rw [hkeys t, hkeys u, hsame]

@[simp] theorem keys_map (t : Table α) (f : α → β) : (t.map f).keys = t.keys :=
  keys_eq_of_contains fun k => contains_map t f k

@[simp] theorem keys_modify (t : Table α) (k : String) (f : α → α) :
    (t.modify k f).keys = t.keys := by
  refine keys_eq_of_contains fun j => ?_
  unfold contains
  rw [get?_modify]
  split <;> simp

theorem modify_eq_self {t : Table α} {f : α → α} (h : ∀ v, f v = v) {k : String} :
    t.modify k f = t := by
  have hid : f = id := funext h
  apply ext
  intro j
  rw [get?_modify, hid]
  simp

/-! ## Tables row by row -/

/-- Two tables have rows under the same keys, and rows under the same key are related. -/
def Related (r : α → β → Prop) (t : Table α) (u : Table β) : Prop :=
  ∀ k, Option.Rel r (t.get? k) (u.get? k)

namespace Related

variable {r : α → α → Prop} {t u w : Table α}

theorem refl (hr : ∀ v, r v v) (t : Table α) : t.Related r t := by
  intro k
  cases t.get? k with
  | none => exact .none
  | some v => exact .some (hr v)

theorem trans (hr : ∀ a b c, r a b → r b c → r a c) (h : t.Related r u) (h' : u.Related r w) :
    t.Related r w := by
  intro k
  have hk := h k
  have hk' := h' k
  revert hk hk'
  generalize t.get? k = x, u.get? k = y, w.get? k = z
  intro hk hk'
  cases hk with
  | none => exact hk'
  | some hab =>
    cases hk' with
    | some hbc => exact .some (hr _ _ _ hab hbc)

/-- Changing the rows that there are as the relation allows. -/
theorem map_of_mem {f : α → α} (h : ∀ v ∈ t.rows, r v (f v)) : t.Related r (t.map f) := by
  intro k
  rw [get?_map]
  cases hk : t.get? k with
  | none => exact .none
  | some v => exact .some (h v (mem_rows_iff.2 ⟨k, hk⟩))

/-- Changing every row as the relation allows. -/
theorem map {f : α → α} (h : ∀ v, r v (f v)) (t : Table α) : t.Related r (t.map f) :=
  map_of_mem fun v _ => h v

/-- Changing one row as the relation allows. -/
theorem insert (hr : ∀ v, r v v) {k : String} {v v' : α} (hk : t.get? k = some v) (h : r v v') :
    t.Related r (t.insert k v') := by
  intro j
  rw [get?_insert]
  split
  · rename_i hj
    rw [hj, hk]
    exact .some h
  · exact refl hr t j

/-- Filing related rows under one key. -/
theorem insert_insert (h : t.Related r u) (k : String) {v w : α} (hvw : r v w) :
    (t.insert k v).Related r (u.insert k w) := by
  intro j
  rw [get?_insert, get?_insert]
  split
  · exact .some hvw
  · exact h j

/-- Changes that lead from related rows to related rows. -/
theorem modify_modify (h : t.Related r u) (k : String) {f g : α → α}
    (hfg : ∀ v w, r v w → r (f v) (g w)) : (t.modify k f).Related r (u.modify k g) := by
  intro j
  have hj := h j
  rw [get?_modify, get?_modify]
  split
  · revert hj
    generalize t.get? j = x, u.get? j = y
    rintro (hvw | _)
    · exact .some (hfg _ _ ‹_›)
    · exact .none
  · exact hj

/-- Related tables have the same keys. -/
theorem contains (h : t.Related r u) (k : String) : u.contains k = t.contains k := by
  unfold Table.contains
  have hk := h k
  revert hk
  generalize t.get? k = x, u.get? k = y
  intro hk
  cases hk <;> rfl

/-- If related rows have the same id, being filed by the id passes on. -/
theorem filed {id : α → String} (h : t.Related r u) (hr : ∀ v w, r v w → id w = id v)
    (ht : t.Filed id) : u.Filed id := by
  intro k w hw
  have hk := h k
  rw [hw] at hk
  revert ht hk
  cases hv : t.get? k with
  | none => intro _ hk; cases hk
  | some v =>
    intro ht hk
    cases hk with
    | some hvw => exact (hr v w hvw).trans (ht k v hv)

end Related

end Workflow.Table

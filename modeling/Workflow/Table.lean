/-!
# Tables of rows filed under text keys

A `Table` holds its rows in ascending order of key, each key at most once; the order is part of the
type. Looking up, inserting, erasing and changing rows are the operations; for each of them one
lemma says what it does to `get?`, and `ext` says that a table is what `get?` shows of it.

* `get?_insert`, `get?_erase`, `get?_map`, `get?_filter`: the effect of an operation on a look-up.
* `le_greatest?`: no row measures more than the greatest.
* `mem_entries_iff`: a pair stands in the table exactly when a look-up finds it.
* `ext`: two tables with the same look-ups are equal.
-/

namespace Workflow

/-- Rows filed under text keys, in ascending order of key. -/
structure Table (α : Type) where
  /-- The rows with their keys. -/
  entries : List (String × α)
  /-- Keys ascend, so each occurs at most once. -/
  ascending : entries.Pairwise (fun a b => a.1 < b.1)
  deriving DecidableEq

namespace Table

variable {α β : Type}

/-- The table without rows. -/
def empty : Table α := ⟨[], .nil⟩

instance : EmptyCollection (Table α) := ⟨empty⟩

instance : Inhabited (Table α) := ⟨empty⟩

/-- The rows in ascending order of key. -/
def rows (t : Table α) : List α := t.entries.map (·.2)

/-- The keys in ascending order. -/
def keys (t : Table α) : List String := t.entries.map (·.1)

/-- How many rows there are. -/
def size (t : Table α) : Nat := t.entries.length

/-- The row filed under `k`. -/
def get? (t : Table α) (k : String) : Option α := t.entries.lookup k

/-- Whether a row is filed under `k`. -/
def contains (t : Table α) (k : String) : Bool := (t.get? k).isSome

/-- Put `v` under `k` into an ascending list of pairs, in place of what stood there. -/
def insertEntry (k : String) (v : α) : List (String × α) → List (String × α)
  | [] => [(k, v)]
  | (l, w) :: rest =>
    if k < l then (k, v) :: (l, w) :: rest
    else if k = l then (k, v) :: rest
    else (l, w) :: insertEntry k v rest

theorem mem_insertEntry {k : String} {v : α} {p : String × α} {l : List (String × α)}
    (h : p ∈ insertEntry k v l) : p = (k, v) ∨ p ∈ l := by
  induction l with
  | nil => simpa [insertEntry] using h
  | cons head rest ih =>
    obtain ⟨m, w⟩ := head
    rw [insertEntry] at h
    split at h
    · simpa using h
    · split at h
      · rcases List.mem_cons.1 h with h | h
        · exact .inl h
        · exact .inr (List.mem_cons_of_mem _ h)
      · rcases List.mem_cons.1 h with h | h
        · exact .inr (h ▸ List.mem_cons_self)
        · exact (ih h).imp id (List.mem_cons_of_mem _)

theorem insertEntry_ascending (k : String) (v : α) {l : List (String × α)}
    (h : l.Pairwise (fun a b => a.1 < b.1)) :
    (insertEntry k v l).Pairwise (fun a b => a.1 < b.1) := by
  induction l with
  | nil => simp [insertEntry]
  | cons head rest ih =>
    obtain ⟨m, w⟩ := head
    have hrest := List.pairwise_cons.1 h
    rw [insertEntry]
    split
    · rename_i hlt
      refine List.pairwise_cons.2 ⟨fun p hp => ?_, h⟩
      rcases List.mem_cons.1 hp with rfl | hp
      · exact hlt
      · exact String.lt_trans hlt (hrest.1 p hp)
    · rename_i hlt
      split
      · rename_i heq
        subst heq
        exact List.pairwise_cons.2 hrest
      · rename_i hne
        refine List.pairwise_cons.2 ⟨fun p hp => ?_, ih hrest.2⟩
        rcases mem_insertEntry hp with rfl | hp
        · exact Std.lt_of_le_of_ne (String.not_lt.1 hlt) (Ne.symm hne)
        · exact hrest.1 p hp

/-- File `v` under `k`, in place of what was filed there. -/
def insert (t : Table α) (k : String) (v : α) : Table α :=
  ⟨insertEntry k v t.entries, insertEntry_ascending k v t.ascending⟩

/-- Keep the rows that pass a test. -/
def filter (t : Table α) (p : α → Bool) : Table α :=
  ⟨t.entries.filter (fun e => p e.2), t.ascending.sublist List.filter_sublist⟩

/-- Remove the row filed under `k`. -/
def erase (t : Table α) (k : String) : Table α :=
  ⟨t.entries.filter (fun e => e.1 != k), t.ascending.sublist List.filter_sublist⟩

/-- Change every row, each under its own key. -/
def map (t : Table α) (f : α → β) : Table β :=
  ⟨t.entries.map (fun e => (e.1, f e.2)), List.pairwise_map.2 t.ascending⟩

/-- Change the row filed under `k`, if there is one. -/
def modify (t : Table α) (k : String) (f : α → α) : Table α :=
  match t.get? k with
  | some v => t.insert k (f v)
  | none => t

/-- File every pair in turn, later ones in place of earlier ones. -/
def insertAll (t : Table α) (pairs : List (String × α)) : Table α :=
  pairs.foldl (fun acc p => acc.insert p.1 p.2) t

/-- The table of some pairs, a later pair in place of an earlier one with the same key. -/
def ofList (pairs : List (String × α)) : Table α := empty.insertAll pairs

/-- The rows of both tables; where both have a row under a key, the one of `u`. -/
def union (t u : Table α) : Table α := t.insertAll u.entries

/-- The row with the greatest measure; of several such rows the last. -/
def greatest? (measure : α → Int) : List α → Option α
  | [] => none
  | row :: rest =>
    match greatest? measure rest with
    | some best => if measure best < measure row then some row else some best
    | none => some row

/-! ## What a look-up shows -/

@[simp] theorem get?_empty (k : String) : (empty : Table α).get? k = none := rfl

theorem lookup_insertEntry (k : String) (v : α) (l : List (String × α)) (j : String) :
    (insertEntry k v l).lookup j = if j = k then some v else l.lookup j := by
  induction l with
  | nil =>
    by_cases h : j = k
    · simp [insertEntry, h]
    · simp [insertEntry, List.lookup_cons, beq_eq_false_iff_ne.2 h, h]
  | cons head rest ih =>
    obtain ⟨m, w⟩ := head
    rw [insertEntry]
    split
    · by_cases h : j = k
      · simp [h]
      · simp [List.lookup_cons, beq_eq_false_iff_ne.2 h, h]
    · split
      · rename_i heq
        subst heq
        by_cases h : j = k
        · simp [h]
        · simp [List.lookup_cons, beq_eq_false_iff_ne.2 h, h]
      · rename_i hne
        by_cases h : j = m
        · subst h
          simp [Ne.symm hne]
        · simp only [List.lookup_cons, beq_eq_false_iff_ne.2 h, ih]

@[simp] theorem get?_insert (t : Table α) (k : String) (v : α) (j : String) :
    (t.insert k v).get? j = if j = k then some v else t.get? j :=
  lookup_insertEntry k v t.entries j

theorem lookup_filter_key (l : List (String × α)) (k j : String) :
    (l.filter (fun e => e.1 != k)).lookup j = if j = k then none else l.lookup j := by
  induction l with
  | nil => simp
  | cons head rest ih =>
    obtain ⟨m, w⟩ := head
    by_cases hm : m = k
    · subst hm
      rw [List.filter_cons_of_neg (by simp), ih]
      by_cases hj : j = m
      · simp [hj]
      · simp [List.lookup_cons, beq_eq_false_iff_ne.2 hj]
    · rw [List.filter_cons_of_pos (by simpa using hm)]
      by_cases hj : j = m
      · subst hj
        simp [hm]
      · simp [List.lookup_cons, beq_eq_false_iff_ne.2 hj, ih]

@[simp] theorem get?_erase (t : Table α) (k j : String) :
    (t.erase k).get? j = if j = k then none else t.get? j :=
  lookup_filter_key t.entries k j

theorem lookup_map_row (f : α → β) (l : List (String × α)) (k : String) :
    (l.map (fun e => (e.1, f e.2))).lookup k = (l.lookup k).map f := by
  induction l with
  | nil => rfl
  | cons head rest ih =>
    obtain ⟨m, w⟩ := head
    by_cases h : k = m
    · simp [h]
    · simp [List.lookup_cons, beq_eq_false_iff_ne.2 h, ih]

@[simp] theorem get?_map (t : Table α) (f : α → β) (k : String) :
    (t.map f).get? k = (t.get? k).map f :=
  lookup_map_row f t.entries k

theorem lookup_eq_some_iff {l : List (String × α)} (h : l.Pairwise (fun a b => a.1 < b.1))
    {k : String} {v : α} : l.lookup k = some v ↔ (k, v) ∈ l := by
  induction l with
  | nil => simp
  | cons head rest ih =>
    obtain ⟨m, w⟩ := head
    have hrest := List.pairwise_cons.1 h
    by_cases hk : k = m
    · subst hk
      simp only [List.lookup_cons, beq_self_eq_true, Option.some.injEq, List.mem_cons,
        Prod.mk.injEq, true_and]
      refine ⟨fun hv => .inl hv.symm, fun hv => hv.elim Eq.symm fun hmem => ?_⟩
      exact absurd (hrest.1 _ hmem) (String.lt_irrefl k)
    · simp only [List.lookup_cons, beq_eq_false_iff_ne.2 hk, ih hrest.2, List.mem_cons,
        Prod.mk.injEq, hk, false_and, false_or]

/-- A pair stands in the table exactly when a look-up finds it. -/
theorem mem_entries_iff {t : Table α} {k : String} {v : α} :
    (k, v) ∈ t.entries ↔ t.get? k = some v :=
  (lookup_eq_some_iff t.ascending).symm

theorem mem_rows_iff {t : Table α} {v : α} : v ∈ t.rows ↔ ∃ k, t.get? k = some v := by
  simp only [rows, List.mem_map, Prod.exists, mem_entries_iff]
  exact ⟨fun ⟨k, w, h, e⟩ => ⟨k, e ▸ h⟩, fun ⟨k, h⟩ => ⟨k, v, h, rfl⟩⟩

theorem get?_filter (t : Table α) (p : α → Bool) (k : String) :
    (t.filter p).get? k = (t.get? k).filter p := by
  apply Option.ext
  intro v
  rw [Option.filter_eq_some_iff]
  rw [← mem_entries_iff, ← mem_entries_iff]
  simp only [filter, List.mem_filter]

@[simp] theorem get?_modify (t : Table α) (k : String) (f : α → α) (j : String) :
    (t.modify k f).get? j = if j = k then (t.get? j).map f else t.get? j := by
  unfold modify
  split
  · rename_i v h
    rw [get?_insert]
    split
    · rename_i hj; rw [hj, h]; rfl
    · rfl
  · rename_i h
    split
    · rename_i hj; rw [hj, h]; rfl
    · rfl

/-! ## Keys -/

/-- A key is one that a row is filed under. -/
theorem mem_keys_iff {t : Table α} {k : String} : k ∈ t.keys ↔ t.contains k = true := by
  simp only [keys, List.mem_map, Prod.exists, mem_entries_iff, contains, Option.isSome_iff_exists]
  exact ⟨fun ⟨_, v, h, e⟩ => ⟨v, e ▸ h⟩, fun ⟨v, h⟩ => ⟨k, v, h, rfl⟩⟩

@[simp] theorem contains_map (t : Table α) (f : α → β) (k : String) :
    (t.map f).contains k = t.contains k := by
  simp [contains]

theorem contains_insertAll (t : Table α) (pairs : List (String × α)) (k : String) :
    (t.insertAll pairs).contains k = (t.contains k || (pairs.map (·.1)).contains k) := by
  induction pairs generalizing t with
  | nil => simp [insertAll]
  | cons p rest ih =>
    have h : (t.insert p.1 p.2).contains k = (t.contains k || k == p.1) := by
      by_cases hk : k = p.1 <;> simp [contains, hk]
    change ((t.insert p.1 p.2).insertAll rest).contains k = _
    rw [ih, h, List.map_cons, List.contains_cons, Bool.or_assoc]

/-- The keys of both tables. -/
theorem contains_union (t u : Table α) (k : String) :
    (t.union u).contains k = (t.contains k || u.contains k) := by
  rw [union, contains_insertAll]
  congr 1
  rw [Bool.eq_iff_iff, List.contains_iff_mem]
  exact mem_keys_iff

/-! ## The greatest row -/

theorem greatest?_eq_none_iff {measure : α → Int} {rows : List α} :
    greatest? measure rows = none ↔ rows = [] := by
  cases rows with
  | nil => simp [greatest?]
  | cons row rest =>
    rw [greatest?]
    split
    · split <;> simp
    · simp

theorem greatest?_mem {measure : α → Int} {rows : List α} {best : α}
    (h : greatest? measure rows = some best) : best ∈ rows := by
  induction rows generalizing best with
  | nil => simp [greatest?] at h
  | cons row rest ih =>
    rw [greatest?] at h
    split at h
    · rename_i b hb
      split at h
      · exact Option.some.inj h ▸ List.mem_cons_self
      · exact List.mem_cons_of_mem _ (ih (Option.some.inj h ▸ hb))
    · exact Option.some.inj h ▸ List.mem_cons_self

theorem le_greatest? {measure : α → Int} {rows : List α} {best : α}
    (h : greatest? measure rows = some best) {row : α} (hrow : row ∈ rows) :
    measure row ≤ measure best := by
  induction rows generalizing best with
  | nil => cases hrow
  | cons first rest ih =>
    rw [greatest?] at h
    split at h
    · rename_i b hb
      split at h
      · rename_i hlt
        obtain rfl := Option.some.inj h
        rcases List.mem_cons.1 hrow with rfl | hrow
        · exact Int.le_refl _
        · exact Int.le_trans (ih hb hrow) (Int.le_of_lt hlt)
      · rename_i hle
        obtain rfl := Option.some.inj h
        rcases List.mem_cons.1 hrow with rfl | hrow
        · exact Int.not_lt.1 hle
        · exact ih hb hrow
    · rename_i hnone
      obtain rfl := Option.some.inj h
      rw [greatest?_eq_none_iff] at hnone
      subst hnone
      rcases List.mem_cons.1 hrow with rfl | hrow
      · exact Int.le_refl _
      · cases hrow

/-! ## Extensionality -/

/-- A table is what its look-ups show. -/
theorem ext {t u : Table α} (h : ∀ k, t.get? k = u.get? k) : t = u := by
  obtain ⟨a, ha⟩ := t
  obtain ⟨b, hb⟩ := u
  suffices a = b by subst this; rfl
  have mem : ∀ k v, (k, v) ∈ a ↔ (k, v) ∈ b := fun k v => by
    rw [← lookup_eq_some_iff ha, ← lookup_eq_some_iff hb]
    exact Eq.to_iff (congrArg (· = some v) (h k))
  clear h
  induction a generalizing b with
  | nil =>
    cases b with
    | nil => rfl
    | cons q _ => exact absurd ((mem q.1 q.2).2 List.mem_cons_self) List.not_mem_nil
  | cons p as ih =>
    cases b with
    | nil => exact absurd ((mem p.1 p.2).1 List.mem_cons_self) List.not_mem_nil
    | cons q bs =>
      have hp := List.pairwise_cons.1 ha
      have hq := List.pairwise_cons.1 hb
      have heq : p = q := by
        rcases List.mem_cons.1 ((mem p.1 p.2).1 List.mem_cons_self) with h | h
        · exact h
        · rcases List.mem_cons.1 ((mem q.1 q.2).2 List.mem_cons_self) with h' | h'
          · exact h'.symm
          · exact absurd (hp.1 _ h') (String.lt_asymm (hq.1 _ h))
      subst heq
      congr 1
      refine ih hp.2 bs hq.2 fun k v => ?_
      have hm := mem k v
      simp only [List.mem_cons] at hm
      constructor
      · intro h
        rcases hm.1 (.inr h) with h' | h'
        · exact absurd (hp.1 _ h) (h' ▸ String.lt_irrefl _)
        · exact h'
      · intro h
        rcases hm.2 (.inr h) with h' | h'
        · exact absurd (hq.1 _ h) (h' ▸ String.lt_irrefl _)
        · exact h'

end Table

end Workflow

import Mathlib.Data.List.Nodup
import Mathlib.Data.List.Perm.Subperm

namespace LicoMesh.Library

/-! Tables with a primary key. Row order is insertion order. -/

structure Table (κ ρ : Type) (key : ρ → κ) where
  rows : List ρ
  keysNodup : (rows.map key).Nodup

namespace Table

variable {κ ρ : Type} {key : ρ → κ}

def empty : Table κ ρ key := ⟨[], List.nodup_nil⟩

/-- Removes every row that satisfies the predicate. -/
def deleteWhere (table : Table κ ρ key) (drop : ρ → Bool) : Table κ ρ key where
  rows := table.rows.filter fun row => !drop row
  keysNodup := table.keysNodup.sublist (List.filter_sublist.map key)

@[simp] theorem rows_empty : (empty : Table κ ρ key).rows = [] := rfl

variable (table : Table κ ρ key)
include table

@[simp] theorem rows_deleteWhere (drop : ρ → Bool) :
    (table.deleteWhere drop).rows = table.rows.filter fun row => !drop row := rfl

theorem eq_of_key_eq (hleft : left ∈ table.rows) (hright : right ∈ table.rows)
    (hkey : key left = key right) : left = right :=
  List.inj_on_of_nodup_map table.keysNodup hleft hright hkey

/-! Counting rows by key. -/

theorem countP_eq_length_keys (p : ρ → Bool) :
    table.rows.countP p = ((table.rows.filter p).map key).length := by
  rw [List.length_map, List.countP_eq_length_filter]

theorem nodup_filter_keys (p : ρ → Bool) : ((table.rows.filter p).map key).Nodup :=
  table.keysNodup.sublist (List.filter_sublist.map key)

omit table

variable {left right : Table κ ρ key}

theorem countP_le
    (h : ∀ row ∈ left.rows, p row → ∃ other ∈ right.rows, key other = key row ∧ q other) :
    left.rows.countP p ≤ right.rows.countP q := by
  rw [countP_eq_length_keys, countP_eq_length_keys]
  refine (List.subperm_of_subset (left.nodup_filter_keys p) ?_).length_le
  intro k member
  obtain ⟨row, hrow, rfl⟩ := List.mem_map.mp member
  obtain ⟨present, holds⟩ := List.mem_filter.mp hrow
  obtain ⟨other, hother, same, holds'⟩ := h row present holds
  rw [← same]
  exact List.mem_map_of_mem (List.mem_filter.mpr ⟨hother, holds'⟩)

theorem countP_le_succ {p q : ρ → Bool} {extra : κ}
    (h : ∀ row ∈ left.rows, p row → key row = extra ∨
      ∃ other ∈ right.rows, key other = key row ∧ q other) :
    left.rows.countP p ≤ right.rows.countP q + 1 := by
  rw [countP_eq_length_keys, countP_eq_length_keys, ← @List.length_cons _ extra]
  refine (List.subperm_of_subset (left.nodup_filter_keys p) ?_).length_le
  intro k member
  obtain ⟨row, hrow, rfl⟩ := List.mem_map.mp member
  obtain ⟨present, holds⟩ := List.mem_filter.mp hrow
  rcases h row present holds with here | ⟨other, hother, same, holds'⟩
  · rw [here]
    exact List.mem_cons_self
  · rw [← same]
    exact List.mem_cons_of_mem _ (List.mem_map_of_mem (List.mem_filter.mpr ⟨hother, holds'⟩))

section Keyed

variable [DecidableEq κ]

def find? (table : Table κ ρ key) (k : κ) : Option ρ :=
  table.rows.find? fun row => decide (key row = k)

theorem find?_eq_some_iff {table : Table κ ρ key} :
    table.find? k = some row ↔ row ∈ table.rows ∧ key row = k := by
  constructor
  · intro found
    exact ⟨List.mem_of_find?_eq_some found, by simpa using List.find?_some found⟩
  · rintro ⟨member, rfl⟩
    cases found : table.find? (key row) with
    | none =>
      have absent := List.find?_eq_none.mp found row member
      simp at absent
    | some other =>
      have hother := List.mem_of_find?_eq_some found
      have hkey : key other = key row := by simpa using List.find?_some found
      rw [table.eq_of_key_eq hother member hkey]

include table

variable {row : ρ}

theorem find?_of_mem (member : row ∈ table.rows) : table.find? (key row) = some row :=
  find?_eq_some_iff.mpr ⟨member, rfl⟩

theorem mem_of_find? (found : table.find? k = some row) : row ∈ table.rows :=
  (find?_eq_some_iff.mp found).1

theorem key_of_find? (found : table.find? k = some row) : key row = k :=
  (find?_eq_some_iff.mp found).2

omit table

theorem find?_eq_none_iff {table : Table κ ρ key} :
    table.find? k = none ↔ ∀ row ∈ table.rows, key row ≠ k := by
  simp [find?, List.find?_eq_none]

@[simp] theorem find?_empty (k : κ) : (empty : Table κ ρ key).find? k = none := rfl

theorem find?_deleteWhere {table : Table κ ρ key} : (table.deleteWhere drop).find? k = some row ↔
      table.find? k = some row ∧ drop row = false := by
  simp only [find?_eq_some_iff, rows_deleteWhere, List.mem_filter, Bool.not_eq_true']
  tauto

def insertFresh (table : Table κ ρ key) (row : ρ)
    (fresh : table.find? (key row) = none) : Table κ ρ key where
  rows := table.rows ++ [row]
  keysNodup := by
    rw [List.map_append, List.nodup_append]
    refine ⟨table.keysNodup, by simp, ?_⟩
    intro left hleft right hright heq
    obtain ⟨member, hmember, rfl⟩ := List.mem_map.mp hleft
    have hright : right = key row := by simpa using hright
    exact find?_eq_none_iff.mp fresh member hmember (heq.trans hright)

/-- `INSERT`: fails on a key that is already present. -/
def insert? (table : Table κ ρ key) (row : ρ) : Option (Table κ ρ key) :=
  if fresh : table.find? (key row) = none then some (table.insertFresh row fresh) else none

/-- `INSERT OR IGNORE`: keeps the present row on a key conflict. -/
def insertOrIgnore (table : Table κ ρ key) (row : ρ) : Table κ ρ key :=
  if fresh : table.find? (key row) = none then table.insertFresh row fresh else table

/-- `UPDATE … WHERE key = k`, for an update that leaves the key alone. -/
def modify (table : Table κ ρ key) (k : κ) (update : ρ → ρ)
    (keeps : ∀ row, key (update row) = key row) : Table κ ρ key where
  rows := table.rows.map fun row => if key row = k then update row else row
  keysNodup := by
    have same : (table.rows.map fun row => if key row = k then update row else row).map key =
        table.rows.map key := by
      rw [List.map_map]
      refine List.map_congr_left ?_
      intro row _
      by_cases hkey : key row = k
      · simp [hkey, keeps row]
      · simp [hkey]
    rw [same]
    exact table.keysNodup

/-- `INSERT … ON CONFLICT DO UPDATE`. -/
def upsert (table : Table κ ρ key) (row : ρ) (update : ρ → ρ)
    (keeps : ∀ row, key (update row) = key row) : Table κ ρ key :=
  if fresh : table.find? (key row) = none then table.insertFresh row fresh
  else table.modify (key row) update keeps

include table

@[simp] theorem rows_insertFresh (row : ρ) (fresh : table.find? (key row) = none) :
    (table.insertFresh row fresh).rows = table.rows ++ [row] := rfl

theorem find?_insertFresh (row : ρ) (fresh : table.find? (key row) = none) (k : κ) :
    (table.insertFresh row fresh).find? k =
      if k = key row then some row else table.find? k := by
  by_cases hkey : k = key row
  · subst hkey
    simp [find?_eq_some_iff]
  · have hother : ¬ key row = k := fun h => hkey h.symm
    simp [find?, hkey, hother]

theorem find?_modify (k : κ) (update : ρ → ρ) (keeps : ∀ row, key (update row) = key row)
    (other : κ) : (table.modify k update keeps).find? other =
      if other = k then (table.find? k).map update else table.find? other := by
  have found : ∀ rows : List ρ,
      (rows.map fun row => if key row = k then update row else row).find?
          (fun row => decide (key row = other)) =
        if other = k then (rows.find? fun row => decide (key row = k)).map update
        else rows.find? fun row => decide (key row = other) := by
    intro rows
    induction rows with
    | nil => simp
    | cons row rest induction =>
      by_cases hrow : key row = k <;> by_cases hother : other = k
      · subst hother
        simp [hrow, keeps row]
      · have hne : ¬ k = other := fun h => hother h.symm
        simpa [hrow, keeps row, hother, hne] using induction
      · subst hother
        simpa [hrow] using induction
      · by_cases hmatch : key row = other
        · simp [hother, hmatch]
        · simpa [hrow, hother, hmatch] using induction
  exact found table.rows

theorem find?_insertOrIgnore (row : ρ) (k : κ) : (table.insertOrIgnore row).find? k =
      if k = key row then some ((table.find? (key row)).getD row) else table.find? k := by
  unfold insertOrIgnore
  split
  · rename_i fresh
    simp [find?_insertFresh, fresh]
  · rename_i present
    obtain ⟨existing, found⟩ := Option.ne_none_iff_exists'.mp present
    by_cases hkey : k = key row
    · simp [hkey, found]
    · simp [hkey]

omit table

variable {table next : Table κ ρ key}

theorem find?_insert? (inserted : table.insert? row = some next) (k : κ) :
    next.find? k = if k = key row then some row else table.find? k := by
  unfold insert? at inserted
  split at inserted
  · cases inserted
    exact find?_insertFresh ..
  · cases inserted

theorem fresh_of_insert?
    (inserted : table.insert? row = some next) : table.find? (key row) = none := by
  unfold insert? at inserted
  split at inserted
  · assumption
  · cases inserted

theorem exists_of_insert?_eq_none {table : Table κ ρ key}
    (conflict : table.insert? row = none) : ∃ other ∈ table.rows, key other = key row := by
  unfold insert? at conflict
  split at conflict
  · cases conflict
  · rename_i taken
    obtain ⟨other, found⟩ := Option.ne_none_iff_exists'.mp taken
    exact ⟨other, find?_eq_some_iff.mp found⟩

theorem rows_insert?
    (inserted : table.insert? row = some next) : next.rows = table.rows ++ [row] := by
  unfold insert? at inserted
  split at inserted
  · cases inserted
    rfl
  · cases inserted

theorem exists_remainder {table : Table κ ρ key} (found : table.find? k = some row) : ∃ remainder :
    List ρ, table.rows.Perm (row :: remainder) ∧ (∀ other ∈ remainder, key other ≠ k) ∧
      ∀ update keeps, (table.modify k update keeps).rows.Perm (update row :: remainder) := by
  obtain ⟨member, rfl⟩ := find?_eq_some_iff.mp found
  obtain ⟨before, after, split⟩ := List.append_of_mem member
  have nodup := table.keysNodup
  rw [split, List.map_append, List.map_cons, List.nodup_append] at nodup
  obtain ⟨_, htail, hdisjoint⟩ := nodup
  have hbefore : ∀ other ∈ before, key other ≠ key row := fun other hother =>
    hdisjoint _ (List.mem_map_of_mem hother) _ (by simp)
  have hafter : ∀ other ∈ after, key other ≠ key row := by
    intro other hother heq
    exact (List.nodup_cons.mp htail).1 (heq ▸ List.mem_map_of_mem hother)
  refine ⟨before ++ after, ?_, ?_, ?_⟩
  · rw [split]
    exact List.perm_middle
  · intro other hother
    rcases List.mem_append.mp hother with h | h
    · exact hbefore other h
    · exact hafter other h
  · intro update keeps
    have same : ∀ rows : List ρ, (∀ other ∈ rows, key other ≠ key row) →
        (rows.map fun other => if key other = key row then update other else other) = rows := by
      intro rows hrows
      conv => rhs; rw [← List.map_id rows]
      refine List.map_congr_left ?_
      intro other hother
      simp [hrows other hother]
    simp only [modify, split, List.map_append, List.map_cons, same before hbefore,
      same after hafter, if_true]
    exact List.perm_middle

end Keyed

end Table

end LicoMesh.Library

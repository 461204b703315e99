import LicoMesh.Library.Table

namespace LicoMesh.Library.Table

/-! Tables as maps that are set, mapped and merged row by row. -/

variable {κ ρ : Type} {key : ρ → κ}

def mapRows (table : Table κ ρ key) (update : ρ → ρ)
    (keeps : ∀ row, key (update row) = key row) : Table κ ρ key where
  rows := table.rows.map update
  keysNodup := by
    have same : (table.rows.map update).map key = table.rows.map key := by
      rw [List.map_map]
      exact List.map_congr_left fun row _ => keeps row
    rw [same]
    exact table.keysNodup

@[simp] theorem rows_mapRows (table : Table κ ρ key) (update : ρ → ρ)
    (keeps : ∀ row, key (update row) = key row) :
    (table.mapRows update keeps).rows = table.rows.map update := rfl

structure Join (key : ρ → κ) where
  join : ρ → ρ → ρ
  keeps : ∀ row other, key row = key other → key (join row other) = key row

/-- The other row wins. -/
def Join.latest (key : ρ → κ) : Join key where
  join := fun _ other => other
  keeps := fun _ _ same => same.symm

variable [DecidableEq κ]

theorem find?_mapRows (table : Table κ ρ key) (update : ρ → ρ)
    (keeps : ∀ row, key (update row) = key row) (k : κ) :
    (table.mapRows update keeps).find? k = (table.find? k).map update := by
  have found : ∀ rows : List ρ,
      (rows.map update).find? (fun row => decide (key row = k)) =
        (rows.find? fun row => decide (key row = k)).map update := by
    intro rows
    induction rows with
    | nil => rfl
    | cons row rest induction =>
      by_cases same : key row = k
      · simp [keeps, same]
      · simpa [keeps, same] using induction
  exact found table.rows

/-- `Map.set` with what `join` makes of the row already there. -/
def joinRow (join : Join key) (table : Table κ ρ key) (row : ρ) : Table κ ρ key :=
  if fresh : table.find? (key row) = none then table.insertFresh row fresh
  else
    table.mapRows (fun other => if key other = key row then join.join other row else other) (by
      intro other
      split
      · rename_i same
        exact join.keeps other row same
      · rfl)

theorem find?_joinRow (join : Join key) (table : Table κ ρ key) (row : ρ) (k : κ) :
    (table.joinRow join row).find? k =
      if k = key row then some ((table.find? k).elim row fun other => join.join other row)
      else table.find? k := by
  unfold joinRow
  split
  · rename_i fresh
    rw [find?_insertFresh]
    split
    · rename_i same
      rw [same, fresh]
      rfl
    · rfl
  · rename_i present
    rw [find?_mapRows]
    obtain ⟨existing, found⟩ := Option.ne_none_iff_exists'.mp present
    have hkey := table.key_of_find? found
    split
    · rename_i same
      simp [same, found, hkey]
    · rename_i different
      cases other : table.find? k with
      | none => rfl
      | some row' =>
        have hkey' : key row' ≠ key row := fun same =>
          different ((table.key_of_find? other).symm.trans same)
        simp [hkey']

/-- `Map.set`. -/
def set (table : Table κ ρ key) (row : ρ) : Table κ ρ key := table.joinRow (.latest key) row

theorem find?_set (table : Table κ ρ key) (row : ρ) (k : κ) :
    (table.set row).find? k = if k = key row then some row else table.find? k := by
  unfold set
  rw [find?_joinRow]
  cases table.find? k <;> rfl

def setAll (table : Table κ ρ key) (rows : List ρ) : Table κ ρ key := rows.foldl set table

theorem find?_setAll_of_not_mem {rows : List ρ} : ∀ {table : Table κ ρ key},
      (∀ row ∈ rows, key row ≠ k) → (table.setAll rows).find? k = table.find? k := by
  induction rows with
  | nil => intro table _; rfl
  | cons row rest induction =>
    intro table absent
    have head : k ≠ key row := fun same => absent row List.mem_cons_self same.symm
    change ((table.set row).setAll rest).find? k = table.find? k
    rw [induction fun other member => absent other (List.mem_cons_of_mem _ member), find?_set,
      if_neg head]

def merge (join : Join key) (left right : Table κ ρ key) : Table κ ρ key :=
  right.rows.foldl (joinRow join) left

theorem find?_merge (join : Join key) (left right : Table κ ρ key) (k : κ) :
    (left.merge join right).find? k =
      match left.find? k, right.find? k with
      | none, found => found
      | some row, none => some row
      | some row, some other => some (join.join row other) := by
  have folded : ∀ (rows : List ρ), (rows.map key).Nodup → ∀ left : Table κ ρ key,
      (rows.foldl (joinRow join) left).find? k =
        match left.find? k, rows.find? fun row => decide (key row = k) with
        | none, found => found
        | some row, none => some row
        | some row, some other => some (join.join row other) := by
    intro rows
    induction rows with
    | nil =>
      intro _ left
      cases found : left.find? k <;> simp [found]
    | cons row rest induction =>
      intro nodup left
      obtain ⟨absent, nodup⟩ := List.nodup_cons.mp nodup
      rw [List.foldl_cons, induction nodup, find?_joinRow]
      by_cases same : k = key row
      · have none_left : rest.find? (fun other => decide (key other = k)) = none := by
          rw [List.find?_eq_none]
          intro other member equal
          refine absent (List.mem_map.mpr ⟨other, member, ?_⟩)
          rw [← same]
          simpa using equal
        rw [none_left, if_pos same]
        subst same
        cases left.find? (key row) <;> simp
      · have different : ¬ key row = k := fun equal => same equal.symm
        simp [same, different]
  exact folded right.rows right.keysNodup left

theorem joinRow_of_mem (join : Join key) (table : Table κ ρ key)
    {row : ρ} (member : row ∈ table.rows) (same : join.join row row = row) :
    table.joinRow join row = table := by
  have rows : table.rows.map (fun other =>
      if key other = key row then join.join other row else other) = table.rows := by
    refine (List.map_congr_left fun other isOther => ?_).trans (List.map_id _)
    split
    · rename_i sameKey
      rw [table.eq_of_key_eq isOther member sameKey, same]
      rfl
    · rfl
  unfold joinRow
  rw [dif_neg (by rw [table.find?_of_mem member]; exact Option.some_ne_none row)]
  cases table
  simpa [mapRows] using rows

theorem merge_self (join : Join key) (table : Table κ ρ key)
    (same : ∀ row, join.join row row = row) : table.merge join table = table := by
  have folded : ∀ rows : List ρ, (∀ row ∈ rows, row ∈ table.rows) →
      rows.foldl (joinRow join) table = table := by
    intro rows members
    induction rows with
    | nil => rfl
    | cons row rest induction =>
      rw [List.foldl_cons, joinRow_of_mem join table (members row List.mem_cons_self) (same row)]
      exact induction fun other member => members other (List.mem_cons_of_mem _ member)
  exact folded table.rows fun _ member => member

end LicoMesh.Library.Table

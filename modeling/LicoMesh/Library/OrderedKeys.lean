import Mathlib.Data.List.Sort

namespace LicoMesh.Library

open List

/-! Keys kept in ascending order, and the pages that a cursor cuts from them. -/

section OrderedKeys

variable {κ : Type} [LinearOrder κ]

def insertKey (key : κ) (keys : List κ) : List κ :=
  if key ∈ keys then keys else keys.orderedInsert (· ≤ ·) key

def isAfter (cursor : Option κ) (key : κ) : Bool :=
  match cursor with
  | none => true
  | some last => last < key

variable {key other : κ} {keys : List κ}

theorem mem_insertKey : other ∈ insertKey key keys ↔ other = key ∨ other ∈ keys := by
  unfold insertKey
  split
  · next present =>
      refine ⟨.inr, fun found => found.elim (fun same => ?_) id⟩
      rwa [same]
  · exact mem_orderedInsert _

theorem ascending_insertKey (ascending : keys.Pairwise (· < ·)) :
    (insertKey key keys).Pairwise (· < ·) := by
  unfold insertKey
  split
  · exact ascending
  · next absent =>
      induction keys with
      | nil => exact pairwise_singleton _ _
      | cons first rest induction =>
        obtain ⟨before, ascendingRest⟩ := pairwise_cons.mp ascending
        rw [mem_cons, not_or] at absent
        obtain ⟨notFirst, absentRest⟩ := absent
        rw [orderedInsert_cons]
        split
        · next le =>
            have less : key < first := lt_of_le_of_ne le notFirst
            refine pairwise_cons.mpr ⟨fun later isLater => ?_, ascending⟩
            rcases mem_cons.mp isLater with rfl | isRest
            · exact less
            · exact less.trans (before later isRest)
        · next notLe =>
            refine pairwise_cons.mpr ⟨fun later isLater => ?_, induction ascendingRest absentRest⟩
            rcases (mem_orderedInsert _).mp isLater with rfl | isRest
            · exact not_le.mp notLe
            · exact before later isRest

theorem filter_insertKey (leftOut : selects key = false) :
    (insertKey key keys).filter selects = keys.filter selects := by
  unfold insertKey
  split
  · rfl
  · next absent =>
      clear absent
      induction keys with
      | nil => simp [leftOut]
      | cons first rest induction =>
        rw [orderedInsert_cons]
        split
        · rw [filter_cons_of_neg (by simp [leftOut])]
        · rw [filter_cons, filter_cons, induction]

theorem filter_isAfter {first last : List κ} (ascending : (first ++ last).Pairwise (· < ·)) :
    (first ++ last).filter (isAfter first.getLast?) = last := by
  rcases eq_nil_or_concat first with rfl | ⟨start, key, rfl⟩
  · exact filter_eq_self.mpr fun _ _ => rfl
  · have after : isAfter (start.concat key).getLast? = fun other => decide (key < other) := by
      funext other
      rw [concat_eq_append, getLast?_append]
      rfl
    obtain ⟨_, ascendingLast, across⟩ := pairwise_append.mp ascending
    rw [after, filter_append]
    have none : (start.concat key).filter (fun other => decide (key < other)) = [] := by
      refine filter_eq_nil_iff.mpr fun other isFirst => ?_
      rw [decide_eq_true_eq, not_lt]
      rw [concat_eq_append] at isFirst
      rcases mem_append.mp isFirst with isStart | isKey
      · have ascendingFirst := (pairwise_append.mp ascending).1
        rw [concat_eq_append] at ascendingFirst
        exact ((pairwise_append.mp ascendingFirst).2.2 other isStart key
          (mem_singleton_self key)).le
      · exact (mem_singleton.mp isKey).le
    rw [none, nil_append]
    refine filter_eq_self.mpr fun other isLast => decide_eq_true ?_
    exact across key (by simp) other isLast

end OrderedKeys

end LicoMesh.Library

import Mathlib.Data.List.Nodup
import Mathlib.Data.List.Range

namespace LicoMesh.Library

open List

/-! The most recent entries of a log, and maps that describe them by key. -/

variable {bound : Nat} {ε κ β : Type}

def recent (bound : Nat) (log : List ε) : List ε := log.drop (log.length - bound)

theorem recent_sublist (bound : Nat) (log : List ε) : (recent bound log).Sublist log :=
  drop_sublist _ _

theorem length_recent (bound : Nat) (log : List ε) :
    (recent bound log).length = min bound log.length := by
  unfold recent
  rw [length_drop]
  omega

theorem map_recent (f : ε → β) (bound : Nat) (log : List ε) :
    (recent bound log).map f = recent bound (log.map f) := by
  unfold recent
  rw [map_drop, length_map]

theorem recent_of_le (short : log.length ≤ bound) : recent bound log = log := by
  unfold recent
  rw [Nat.sub_eq_zero_of_le short, drop_zero]

theorem recent_append_recent (bound : Nat) (log rest : List ε) :
    recent bound (recent bound log ++ rest) = recent bound (log ++ rest) := by
  have shorter : recent bound log ++ rest = (log ++ rest).drop (log.length - bound) := by
    unfold recent
    rw [drop_append_of_le_length (by omega)]
  rw [shorter]
  unfold recent
  rw [drop_drop, length_drop]
  congr 1
  rw [length_append]
  omega

theorem recent_snoc (bound : Nat) (log : List ε) (entry : ε) :
    recent bound (recent bound log ++ [entry]) = recent bound (log ++ [entry]) :=
  recent_append_recent bound log [entry]

theorem recent_append_of_le (long : bound ≤ rest.length) (log : List ε) :
    recent bound (log ++ rest) = recent bound rest := by
  unfold recent
  rw [length_append, drop_append, drop_eq_nil_of_le (by omega), nil_append]
  congr 1
  omega

theorem mem_recent_append
    (isIn : entry ∈ recent bound (log ++ rest)) : entry ∈ recent bound log ∨ entry ∈ rest := by
  rw [← recent_append_recent] at isIn
  exact mem_append.mp ((recent_sublist _ _).subset isIn)

theorem recent_drop_snoc (short : window.length ≤ bound) (positive : 0 < bound) (log : List ε)
    (entry : ε) : recent bound (log ++ (window.drop (window.length + 1 - bound) ++ [entry])) =
      recent bound (log ++ (window ++ [entry])) := by
  rcases Nat.lt_or_ge window.length bound with space | full
  · rw [Nat.sub_eq_zero_of_le space, drop_zero]
  · have same : window.length = bound := Nat.le_antisymm short full
    have one : window.length + 1 - bound = 1 := by omega
    rw [one]
    have before : (window.drop 1 ++ [entry]).length = bound := by
      rw [length_append, length_drop, length_singleton]
      omega
    have after : bound ≤ (window ++ [entry]).length := by
      rw [length_append]
      omega
    rw [recent_append_of_le (Nat.le_of_eq before.symm) log, recent_append_of_le after log,
      recent_of_le (Nat.le_of_eq before)]
    unfold recent
    rw [length_append, length_singleton, one, drop_append_of_le_length (by omega)]

section Keyed

variable [DecidableEq κ] {key : ε → κ}

theorem find?_of_key_not_mem {log : List ε} (absent : k ∉ log.map key) :
    log.find? (fun entry => key entry = k) = none := by
  rw [find?_eq_none]
  intro entry member same
  exact absent (of_decide_eq_true same ▸ mem_map_of_mem member)

section

variable {log : List ε} (distinct : (log.map key).Nodup) (count : Nat)
include distinct count

theorem find?_drop (k : κ) :
    (if k ∈ (log.take count).map key then none else log.find? fun entry => key entry = k) =
      (log.drop count).find? fun entry => key entry = k := by
  have parts := take_append_drop count log
  split
  · rename_i dropped
    rw [← parts, map_append] at distinct
    exact (find?_of_key_not_mem fun kept => disjoint_of_nodup_append distinct dropped kept).symm
  · rename_i kept
    conv_lhs => rw [← parts, find?_append, find?_of_key_not_mem kept]
    rfl

theorem filter_take_keys :
    (log.filter fun entry => key entry ∉ (log.take count).map key) = log.drop count := by
  have parts := take_append_drop count log
  conv_lhs => rw [← parts, filter_append]
  rw [filter_eq_nil_iff.mpr, filter_eq_self.mpr, nil_append]
  · intro entry member
    rw [← parts, map_append] at distinct
    refine decide_eq_true fun dropped => ?_
    exact disjoint_of_nodup_append distinct (by rwa [parts] at dropped) (mem_map_of_mem member)
  · intro entry member kept
    exact of_decide_eq_true kept (by rw [parts]; exact mem_map_of_mem member)

theorem flatMap_filter_drop
    {keyOf : β → κ} (keyed : ∀ entry, ∀ item ∈ items entry, keyOf item = key entry) :
    ((log.flatMap items).filter fun item => keyOf item ∉ (log.take count).map key) =
      (log.drop count).flatMap items := by
  have parts := take_append_drop count log
  conv_lhs => enter [2]; rw [← parts, flatMap_append]
  rw [filter_append]
  have first : ((log.take count).flatMap items).filter
      (fun item => keyOf item ∉ (log.take count).map key) = [] := by
    rw [filter_eq_nil_iff]
    intro item member kept
    obtain ⟨entry, present, inside⟩ := mem_flatMap.mp member
    apply of_decide_eq_true kept
    rw [keyed entry item inside]
    exact mem_map_of_mem present
  have second : ((log.drop count).flatMap items).filter
      (fun item => keyOf item ∉ (log.take count).map key) = (log.drop count).flatMap items := by
    rw [filter_eq_self]
    intro item member
    obtain ⟨entry, present, inside⟩ := mem_flatMap.mp member
    rw [keyed entry item inside]
    rw [← parts, map_append] at distinct
    exact decide_eq_true fun dropped =>
      disjoint_of_nodup_append distinct dropped (mem_map_of_mem present)
  rw [first, second, nil_append]

end

end Keyed

section Numbered

variable {key : ε → Nat}

theorem filter_numbered {log : List ε}
    (numbered : log.map key = range' start log.length) (number : Nat) (bound : start ≤ number + 1) :
    (log.filter fun entry => number < key entry) = log.drop (number + 1 - start) := by
  induction log generalizing start with
  | nil => rw [drop_nil, filter_nil]
  | cons entry rest induction =>
    rw [map_cons, length_cons, range'_succ, cons.injEq] at numbered
    obtain ⟨first, later⟩ := numbered
    rw [filter_cons]
    by_cases last : start = number + 1
    · have all : ∀ other ∈ rest, decide (number < key other) = true := by
        intro other member
        have known := @mem_map_of_mem _ _ _ _ key member
        rw [later, mem_range'_1] at known
        exact decide_eq_true (by omega)
      rw [if_pos (decide_eq_true (by omega)), filter_eq_self.mpr all, last, Nat.sub_self, drop_zero]
    · have older : ¬decide (number < key entry) = true := by
        rw [decide_eq_true_eq, first]
        omega
      have next : number + 1 - start = (number + 1 - (start + 1)) + 1 := by omega
      rw [if_neg older, induction later (by omega), next, drop_succ_cons]

theorem filter_drop_numbered {log : List ε} (numbered : log.map key = range' 1 log.length)
    (bound : dropped ≤ number) :
    ((log.drop dropped).filter fun entry => number < key entry) = log.drop number := by
  by_cases long : dropped ≤ log.length
  · have rest : (log.drop dropped).map key =
        range' (1 + dropped) (log.drop dropped).length := by
      rw [map_drop, numbered, drop_range', length_drop, Nat.mul_one]
    rw [filter_numbered rest number (by omega), drop_drop]
    congr 1
    omega
  · rw [drop_eq_nil_of_le (by omega), drop_eq_nil_of_le (by omega), filter_nil]

end Numbered

end LicoMesh.Library

import Mathlib.Data.List.Rotate
import Mathlib.Data.List.Range

namespace LicoMesh.Library

/-! Slots dealt from a cycle that starts over at its end. -/

section Cycle

variable {α : Type} {cycle : List α} {positive : 0 < cycle.length}

def cycleAt (cycle : List α) (positive : 0 < cycle.length) (cursor : Nat) : α :=
  cycle.get ⟨cursor % cycle.length, Nat.mod_lt _ positive⟩

/-- The next `slots` members of the cycle from a cursor on. -/
def cycleSlots (cycle : List α) (positive : 0 < cycle.length) (cursor slots : Nat) : List α :=
  (List.range slots).map fun slot => cycleAt cycle positive (cursor + slot)

theorem cycleAt_congr (same : first % cycle.length = second % cycle.length) :
    cycleAt cycle positive first = cycleAt cycle positive second := by
  unfold cycleAt
  simp only [same]

@[simp] theorem length_cycleSlots (cursor slots : Nat) :
    (cycleSlots cycle positive cursor slots).length = slots := by
  simp [cycleSlots]

theorem cycleSlots_congr (same : first % cycle.length = second % cycle.length) (slots : Nat) :
    cycleSlots cycle positive first slots = cycleSlots cycle positive second slots := by
  refine List.map_congr_left ?_
  intro slot _
  refine cycleAt_congr ?_
  rw [Nat.add_mod, same, ← Nat.add_mod]

theorem cycleSlots_succ (cursor slots : Nat) : cycleSlots cycle positive cursor (slots + 1) =
      cycleAt cycle positive cursor :: cycleSlots cycle positive (cursor + 1) slots := by
  unfold cycleSlots
  rw [List.range_succ_eq_map, List.map_cons, List.map_map]
  refine congrArg _ (List.map_congr_left ?_)
  intro slot _
  refine cycleAt_congr (congrArg (· % cycle.length) ?_)
  omega

theorem cycleSlots_add (cursor first second : Nat) :
    cycleSlots cycle positive cursor (first + second) =
      cycleSlots cycle positive cursor first ++
        cycleSlots cycle positive (cursor + first) second := by
  induction first generalizing cursor with
  | zero => simp [cycleSlots]
  | succ first induction =>
    rw [Nat.succ_add, cycleSlots_succ, cycleSlots_succ, induction, List.cons_append,
      Nat.add_assoc, Nat.add_comm 1 first]

theorem take_drop_cycleSlots (inside : start + length ≤ slots) (cursor : Nat) :
    ((cycleSlots cycle positive cursor slots).drop start).take length =
      cycleSlots cycle positive (cursor + start) length := by
  obtain ⟨rest, rfl⟩ := Nat.exists_eq_add_of_le inside
  rw [Nat.add_assoc, cycleSlots_add, List.drop_left' (length_cycleSlots ..), cycleSlots_add,
    List.take_left' (length_cycleSlots ..)]

theorem cycleSlots_round (cursor : Nat) :
    cycleSlots cycle positive cursor cycle.length = cycle.rotate cursor := by
  refine List.ext_getElem (by simp) ?_
  intro slot _ inside
  rw [List.getElem_rotate]
  simp only [cycleSlots, cycleAt, List.getElem_map, List.getElem_range, List.get_eq_getElem,
    Nat.add_comm]

theorem count_cycleSlots_round [BEq α] [LawfulBEq α] (cursor : Nat) (member : α) :
    (cycleSlots cycle positive cursor cycle.length).count member = cycle.count member := by
  rw [cycleSlots_round]
  exact (List.rotate_perm cycle cursor).count_eq member

end Cycle

end LicoMesh.Library

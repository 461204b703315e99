import Mathlib.Data.List.Nodup

namespace LicoMesh.Library

open Function

open Function (update)

/-! Doubly linked lists whose links are fields of the elements: append at the end, unlink anywhere. -/

structure LinkedList (ι : Type) where
  head : Option ι
  tail : Option ι
  next : ι → Option ι
  previous : ι → Option ι

namespace LinkedList

variable {ι : Type}

structure Holds (list : LinkedList ι) (contents : List ι) : Prop where
  nodup : contents.Nodup
  head : list.head = contents.head?
  tail : list.tail = contents.getLast?
  next : ∀ before node after, contents = before ++ node :: after → list.next node = after.head?
  previous : ∀ before node after, contents = before ++ node :: after →
    list.previous node = before.getLast?

theorem Holds.congr {list other : LinkedList ι} (holds : list.Holds contents)
    (head : other.head = list.head) (tail : other.tail = list.tail)
    (next : ∀ node ∈ contents, other.next node = list.next node)
    (previous : ∀ node ∈ contents, other.previous node = list.previous node) :
    other.Holds contents where
  nodup := holds.nodup
  head := head.trans holds.head
  tail := tail.trans holds.tail
  next := by
    intro before node after split
    rw [next node (by simp [split])]
    exact holds.next before node after split
  previous := by
    intro before node after split
    rw [previous node (by simp [split])]
    exact holds.previous before node after split

theorem Holds.empty {list : LinkedList ι} (head : list.head = none) (tail : list.tail = none) :
    list.Holds [] where
  nodup := List.nodup_nil
  head := head
  tail := tail
  next := fun before node after split => by simp at split
  previous := fun before node after split => by simp at split

theorem eq_append_cases (split : before ++ after = left ++ node :: right) :
    (∃ between, before = left ++ node :: between ∧ right = between ++ after) ∨
      ∃ between, after = between ++ node :: right ∧ left = before ++ between := by
  obtain ⟨between, rfl, rest⟩ | ⟨between, rfl, rest⟩ := List.append_eq_append_iff.mp split
  · exact .inr ⟨between, rest, rfl⟩
  · cases between with
    | nil => exact .inr ⟨[], rest.symm, by simp⟩
    | cons first between =>
      obtain ⟨rfl, rfl⟩ := List.cons.inj rest
      exact .inl ⟨between, rfl, rfl⟩

variable [DecidableEq ι] (list : LinkedList ι)

def push (node : ι) : LinkedList ι where
  head := match list.tail with
    | none => some node
    | some _ => list.head
  tail := some node
  next := match list.tail with
    | none => update list.next node none
    | some last => update (update list.next node none) last (some node)
  previous := update list.previous node list.tail

def unlink (node : ι) : LinkedList ι where
  head := match list.previous node with
    | none => list.next node
    | some _ => list.head
  tail := match list.next node with
    | none => list.previous node
    | some _ => list.tail
  next :=
    let bypassed := match list.previous node with
      | none => list.next
      | some before => update list.next before (list.next node)
    update bypassed node none
  previous :=
    let bypassed := match list.next node with
      | none => list.previous
      | some after => update list.previous after (list.previous node)
    update bypassed node none

variable {list}

theorem unlink_next (different : other ≠ node) : (list.unlink node).next other =
      if list.previous node = some other then list.next node else list.next other := by
  dsimp only [unlink]
  rw [update_of_ne different]
  cases list.previous node with
  | none => simp
  | some before => simp [update_apply, eq_comm]

theorem unlink_previous (different : other ≠ node) : (list.unlink node).previous other =
      if list.next node = some other then list.previous node else list.previous other := by
  dsimp only [unlink]
  rw [update_of_ne different]
  cases list.next node with
  | none => simp
  | some after => simp [update_apply, eq_comm]

theorem push_next (different : other ≠ node) : (list.push node).next other =
      if list.tail = some other then some node else list.next other := by
  dsimp only [push]
  cases list.tail with
  | none => simp [different]
  | some last => simp [update_apply, different, eq_comm]

theorem push_next_self (fresh : list.tail ≠ some node) : (list.push node).next node = none := by
  dsimp only [push]
  cases tail : list.tail with
  | none => simp
  | some last =>
    have different : node ≠ last := fun same => fresh (by rw [tail, same])
    simp [different]

variable {before after contents : List ι} {node : ι} (holds : list.Holds (before ++ node :: after))

include holds in
theorem Holds.unlink : (list.unlink node).Holds (before ++ after) := by
  have nodup := holds.nodup
  have next := holds.next before node after rfl
  have previous := holds.previous before node after rfl
  constructor
  case nodup => exact nodup.sublist (by simp)
  case head =>
    dsimp only [LinkedList.unlink]
    rw [previous, next, holds.head]
    cases before with
    | nil => rfl
    | cons first before => simp [List.getLast?_cons]
  case tail =>
    dsimp only [LinkedList.unlink]
    rw [previous, next, holds.tail]
    cases after with
    | nil => simp
    | cons first after => simp [List.getLast?_append, List.getLast?_cons]
  case next =>
    intro left other right split
    obtain ⟨between, rfl, rfl⟩ | ⟨between, rfl, rfl⟩ := eq_append_cases split
    · have different : other ≠ node := by grind
      have old := holds.next left other (between ++ node :: after) (by simp)
      rw [unlink_next different, previous, next]
      cases between with
      | nil => simp
      | cons first between =>
        rw [if_neg (by grind), old]
        rfl
    · have different : other ≠ node := by grind
      have old := holds.next (before ++ node :: between) other right (by simp)
      rw [unlink_next different, previous, if_neg, old]
      intro last
      exact List.disjoint_of_nodup_append nodup (List.mem_of_getLast? last) (by simp)
  case previous =>
    intro left other right split
    obtain ⟨between, rfl, rfl⟩ | ⟨between, rfl, rfl⟩ := eq_append_cases split
    · have different : other ≠ node := by grind
      have old := holds.previous left other (between ++ node :: after) (by simp)
      rw [unlink_previous different, next, if_neg, old]
      intro first
      exact List.disjoint_of_nodup_append nodup (by simp)
        (List.mem_cons_of_mem _ (List.mem_of_head? first))
    · have different : other ≠ node := by grind
      have old := holds.previous (before ++ node :: between) other right (by simp)
      rw [unlink_previous different, next, previous]
      cases between with
      | nil => simp
      | cons first between =>
        have first_ne : first ≠ other := by grind
        rw [if_neg (by simpa using first_ne), old]
        simp [List.getLast?_append, List.getLast?_cons]

theorem Holds.push (holds : list.Holds contents) (fresh : node ∉ contents) :
    (list.push node).Holds (contents ++ [node]) := by
  have tail := holds.tail
  have fresh_tail : list.tail ≠ some node := by
    rw [tail]
    exact fun last => fresh (List.mem_of_getLast? last)
  constructor
  case nodup => exact List.nodup_append.mpr ⟨holds.nodup, by simp, by grind⟩
  case head =>
    dsimp only [LinkedList.push]
    rw [tail, holds.head]
    cases contents with
    | nil => rfl
    | cons oldest contents => simp [List.getLast?_cons]
  case tail => simp [LinkedList.push]
  case next =>
    intro left other right split
    obtain ⟨between, rfl, rfl⟩ | ⟨between, single, rfl⟩ := eq_append_cases split
    · have different : other ≠ node := by grind
      have old := holds.next left other between rfl
      rw [push_next different, tail]
      cases between with
      | nil => simp
      | cons second between =>
        have nodup := holds.nodup
        rw [if_neg (by grind), old]
        rfl
    · obtain ⟨rfl, rfl⟩ : other = node ∧ right = [] := by
        cases between with
        | nil => simp_all
        | cons second between => simp at single
      exact push_next_self fresh_tail
  case previous =>
    intro left other right split
    dsimp only [LinkedList.push]
    obtain ⟨between, rfl, rfl⟩ | ⟨between, single, rfl⟩ := eq_append_cases split
    · have different : other ≠ node := by grind
      rw [update_of_ne different]
      exact holds.previous left other between rfl
    · obtain ⟨rfl, rfl⟩ : other = node ∧ between = [] := by
        cases between with
        | nil => simp_all
        | cons second between => simp at single
      simp [tail]

include holds

theorem Holds.unlink_next_other (outside : other ∉ before ++ node :: after) :
    (list.unlink node).next other = list.next other := by
  rw [unlink_next (by grind), holds.previous before node after rfl, if_neg]
  exact fun last => outside (by grind [List.mem_of_getLast? last])

theorem Holds.unlink_previous_other (outside : other ∉ before ++ node :: after) :
    (list.unlink node).previous other = list.previous other := by
  rw [unlink_previous (by grind), holds.next before node after rfl, if_neg]
  exact fun first => outside (by grind [List.mem_of_head? first])

omit holds

theorem Holds.push_next_other (holds : list.Holds contents) (different : other ≠ node)
    (outside : other ∉ contents) : (list.push node).next other = list.next other := by
  rw [push_next different, holds.tail, if_neg]
  exact fun last => outside (List.mem_of_getLast? last)

theorem push_previous_other (different : other ≠ node) :
    (list.push node).previous other = list.previous other :=
  update_of_ne different _ _

end LinkedList

end LicoMesh.Library

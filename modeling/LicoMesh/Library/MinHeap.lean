import Mathlib

namespace LicoMesh.Library

/-! Binary heaps in an array: the element at `i` has its children at `2 * i + 1` and `2 * i + 2`. -/

variable {α : Type} {key : α → Int} {heap : Array α}

/-- No element of the array is before the one at its parent. -/
def IsMinHeap (key : α → Int) (heap : Array α) : Prop :=
  ∀ i, (h : i < heap.size) → 0 < i → key heap[(i - 1) / 2] ≤ key heap[i]

theorem IsMinHeap.head_le (ordered : IsMinHeap key heap) (i : Nat) (inside : i < heap.size) :
    key heap[0] ≤ key heap[i] := by
  induction i using Nat.strongRecOn with
  | ind i ih =>
    rcases Nat.eq_zero_or_pos i with rfl | positive
    · exact Int.le_refl _
    · exact Int.le_trans (ih ((i - 1) / 2) (by omega) (by omega)) (ordered i inside positive)

def bubbleUp (key : α → Int) (heap : Array α) (index : Nat) : Array α :=
  if h : 0 < index ∧ index < heap.size then
    if key heap[(index - 1) / 2] ≤ key heap[index] then heap
    else bubbleUp key (heap.swap ((index - 1) / 2) index) ((index - 1) / 2)
  else heap
termination_by index

theorem bubbleUp_perm (key : α → Int) (heap : Array α) (index : Nat) :
    (bubbleUp key heap index).Perm heap := by
  fun_induction bubbleUp key heap index with
  | case1 => exact .refl _
  | case2 heap index h later ih => exact ih.trans (Array.swap_perm _ _)
  | case3 => exact .refl _

/-- Only the element at `index` may be before its parent, which is not after its children. -/
theorem bubbleUp_isMinHeap {index : Nat} (inside : index < heap.size)
    (elsewhere : ∀ i, (h : i < heap.size) → 0 < i → i ≠ index → key heap[(i - 1) / 2] ≤ key heap[i])
    (below : ∀ i, (h : i < heap.size) → 0 < i → (i - 1) / 2 = index → 0 < index →
      key heap[(index - 1) / 2] ≤ key heap[i]) : IsMinHeap key (bubbleUp key heap index) := by
  fun_induction bubbleUp key heap index with
  | case1 heap index h ordered =>
    intro i inside positive
    by_cases same : i = index
    · subst same
      exact ordered
    · exact elsewhere i inside positive same
  | case2 heap index h later ih =>
    refine ih (by grind) ?_ ?_
    · intro i inside positive other
      grind
    · grind
  | case3 heap index h => intro i; grind

theorem IsMinHeap.push (ordered : IsMinHeap key heap) (item : α) :
    IsMinHeap key (bubbleUp key (heap.push item) heap.size) := by
  refine bubbleUp_isMinHeap (by simp) ?_ ?_
  · intro i inside positive other
    have := ordered i (by grind) positive
    grind
  · grind

def smaller (key : α → Int) (heap : Array α) (child : Nat) (best : Fin heap.size) : Fin heap.size :=
  if h : child < heap.size then if key heap[child] < key heap[best] then ⟨child, h⟩ else best
  else best

def smallest (key : α → Int) (heap : Array α) (index : Fin heap.size) : Fin heap.size :=
  smaller key heap (index * 2 + 2) (smaller key heap (index * 2 + 1) index)

theorem smallest_cases (key : α → Int) (heap : Array α) (index : Fin heap.size) :
    (smallest key heap index = index ∨ (smallest key heap index).val = index * 2 + 1 ∨
      (smallest key heap index).val = index * 2 + 2) ∧
    key heap[smallest key heap index] ≤ key heap[index] ∧
    ∀ i, (h : i < heap.size) → 0 < i → (i - 1) / 2 = index →
      key heap[smallest key heap index] ≤ key heap[i] := by
  unfold smallest smaller
  grind

def siftDown (key : α → Int) (heap : Array α) (index : Fin heap.size) : Array α :=
  if smallest key heap index = index then heap
  else siftDown key (heap.swap (smallest key heap index) index) ⟨smallest key heap index, by simp⟩
termination_by heap.size - index
decreasing_by
  have := (smallest_cases key heap index).1
  grind

theorem siftDown_perm (key : α → Int) (heap : Array α) (index : Fin heap.size) :
    (siftDown key heap index).Perm heap := by
  fun_induction siftDown key heap index with
  | case1 => exact .refl _
  | case2 heap index other ih => exact ih.trans (Array.swap_perm _ _)

/-- Only the element at `index` may be after its children, which are not before its parent. -/
theorem siftDown_isMinHeap {index : Fin heap.size}
    (elsewhere : ∀ i, (h : i < heap.size) → 0 < i → (i - 1) / 2 ≠ index →
      key heap[(i - 1) / 2] ≤ key heap[i])
    (below : ∀ i, (h : i < heap.size) → 0 < i → (i - 1) / 2 = index → 0 < index.val →
      key heap[(index.val - 1) / 2] ≤ key heap[i]) : IsMinHeap key (siftDown key heap index) := by
  fun_induction siftDown key heap index with
  | case1 heap index same =>
    obtain ⟨-, -, least⟩ := smallest_cases key heap index
    intro i inside positive
    by_cases child : (i - 1) / 2 = index
    · have := least i inside positive child
      grind
    · exact elsewhere i inside positive child
  | case2 heap index other ih =>
    obtain ⟨place, better, least⟩ := smallest_cases key heap index
    refine ih ?_ ?_
    · intro i inside positive off
      grind
    · intro i inside positive child _
      grind

theorem pop_size_pos (long : 1 < heap.size) : 0 < heap.pop.size := by
  rw [Array.size_pop]
  omega

/-- The array without its first element, whose place the last one takes. -/
def popHeap (key : α → Int) (heap : Array α) : Array α :=
  if h : 1 < heap.size then
    siftDown key (heap.pop.set 0 heap[heap.size - 1] (pop_size_pos h))
      ⟨0, by rw [Array.size_set]; exact pop_size_pos h⟩
  else heap.pop

variable (key) in
theorem popHeap_size (heap : Array α) : (popHeap key heap).size = heap.size - 1 := by
  unfold popHeap
  split
  · rw [(siftDown_perm key _ _).size_eq, Array.size_set, Array.size_pop]
  · exact Array.size_pop

theorem IsMinHeap.popHeap (ordered : IsMinHeap key heap) : IsMinHeap key (popHeap key heap) := by
  unfold Library.popHeap
  split
  · refine siftDown_isMinHeap ?_ (by grind)
    intro i inside positive child
    have := ordered i (by grind) positive
    grind
  · intro i inside
    grind

theorem mem_popHeap {item : α} (nonempty : 0 < heap.size) :
    item ∈ heap ↔ item = heap[0] ∨ item ∈ popHeap key heap := by
  unfold popHeap
  split
  next several =>
    rw [(siftDown_perm key _ _).mem_iff, Array.mem_iff_getElem, Array.mem_iff_getElem]
    constructor
    · rintro ⟨i, inside, rfl⟩
      rcases Nat.eq_zero_or_pos i with rfl | positive
      · exact .inl rfl
      · refine .inr ⟨if i = heap.size - 1 then 0 else i, by grind, by grind⟩
    · rintro (rfl | ⟨i, inside, rfl⟩)
      · exact ⟨0, nonempty, rfl⟩
      · exact ⟨if i = 0 then heap.size - 1 else i, by grind, by grind⟩
  next => grind [Array.mem_iff_getElem]

end LicoMesh.Library

import Mathlib.Data.Finset.Card

namespace LicoMesh.Library

/-! Descendants of a node, generation by generation, where every node has one parent. -/

variable {α : Type}

def generations (children : α → List α) : Nat → List α → List α
  | 0, _ => []
  | depth + 1, parents =>
    parents.flatMap children ++ generations children depth (parents.flatMap children)

inductive Descends (children : α → List α) (root : α) : Nat → α → Prop
  | root : Descends children root 0 root
  | child {depth : Nat} {parent node : α} (descends : Descends children root depth parent)
      (isChild : node ∈ children parent) : Descends children root (depth + 1) node

variable {children : α → List α} {parent : α → α} {root node child : α} {depth : Nat}

theorem Descends.first (isChild : node ∈ children root) : Descends children root 1 node :=
  .child .root isChild

theorem Descends.under {inner : Nat} (first : node ∈ children root)
    (descends : Descends children node inner child) : Descends children root (inner + 1) child := by
  induction descends with
  | root => exact .first first
  | child _ isChild induction => exact .child induction isChild

theorem Descends.preserves {property : α → Prop} (isRoot : property root)
    (passes : ∀ node child, property node → child ∈ children node → property child)
    (descends : Descends children root depth node) : property node := by
  induction descends with
  | root => exact isRoot
  | child _ isChild induction => exact passes _ _ induction isChild

theorem Descends.split (descends : Descends children root (depth + 1) child) :
    ∃ node ∈ children root, Descends children node depth child := by
  induction depth generalizing child with
  | zero =>
    cases descends with
    | child above isChild =>
      cases above with
      | root => exact ⟨child, isChild, .root⟩
  | succ depth induction =>
    cases descends with
    | child above isChild =>
      obtain ⟨node, isNode, inner⟩ := induction above
      exact ⟨node, isNode, .child inner isChild⟩

theorem mem_generations : node ∈ generations children depth parents ↔
      ∃ root ∈ parents, ∃ level, level < depth ∧ Descends children root (level + 1) node := by
  induction depth generalizing parents with
  | zero =>
    simp only [generations, List.not_mem_nil, Nat.not_lt_zero, false_and, exists_false, and_false]
  | succ depth induction =>
    simp only [generations, List.mem_append, induction, List.mem_flatMap]
    constructor
    · rintro (⟨root, isRoot, isChild⟩ | ⟨middle, ⟨root, isRoot, isChild⟩, level, small, below⟩)
      · exact ⟨root, isRoot, 0, Nat.zero_lt_succ _, .first isChild⟩
      · exact ⟨root, isRoot, level + 1, Nat.succ_lt_succ small, below.under isChild⟩
    · rintro ⟨root, isRoot, level, small, descends⟩
      obtain ⟨middle, isMiddle, below⟩ := descends.split
      cases level with
      | zero =>
        cases below with
        | root => exact .inl ⟨root, isRoot, isMiddle⟩
      | succ level =>
        exact .inr ⟨middle, ⟨root, isRoot, isMiddle⟩, level, Nat.lt_of_succ_lt_succ small, below⟩

section Ancestors

variable (isParent : ∀ node above, node ∈ children above → parent node = above)
include isParent

variable (descends : Descends children root depth node)
include descends

theorem Descends.ancestor (within : steps ≤ depth) :
    Descends children root (depth - steps) (Nat.iterate parent steps node) := by
  induction steps generalizing depth node with
  | zero => exact descends
  | succ steps induction =>
    cases descends with
    | root => exact absurd within (Nat.not_succ_le_zero _)
    | child above isChild =>
      rw [Nat.add_sub_add_right, Function.iterate_succ_apply, isParent _ _ isChild]
      exact induction above (Nat.le_of_succ_le_succ within)

theorem Descends.top : Nat.iterate parent depth node = root := by
  have top := descends.ancestor isParent (Nat.le_refl depth)
  rw [Nat.sub_self] at top
  cases top
  rfl

omit descends

variable {nodes : List α} (known : ∀ node above, node ∈ children above → node ∈ nodes)
include known

include descends in
omit isParent in
theorem Descends.mem (isRoot : root ∈ nodes) : node ∈ nodes := by
  cases descends with
  | root => exact isRoot
  | child _ isChild => exact known _ _ isChild

theorem generations_closed [DecidableEq α] (isRoot : root ∈ nodes)
    (acyclic : root ∉ generations children nodes.length [root])
    (isIn : node ∈ generations children nodes.length [root]) (isChild : child ∈ children node) :
    child ∈ generations children nodes.length [root] := by
  obtain ⟨_, isOnly, level, small, descends⟩ := mem_generations.mp isIn
  obtain rfl := List.mem_singleton.mp isOnly
  refine mem_generations.mpr ⟨_, isOnly, level + 1, ?_, .child descends isChild⟩
  by_contra deep
  -- The node and its ancestors are more than there are nodes, so one of them occurs twice.
  have more : nodes.toFinset.card < (Finset.range (level + 2)).card := by
    rw [Finset.card_range]
    have := nodes.toFinset_card_le
    omega
  have maps : ∀ steps ∈ Finset.range (level + 2),
      Nat.iterate parent steps node ∈ nodes.toFinset := by
    intro steps isStep
    have within := Finset.mem_range.mp isStep
    exact List.mem_toFinset.mpr
      ((descends.ancestor isParent (Nat.le_of_lt_succ within)).mem known isRoot)
  obtain ⟨first, isFirst, second, isSecond, apart, same⟩ :=
    Finset.exists_ne_map_eq_of_card_lt_of_maps_to more maps
  have twice : ∀ low high, low < high → high ≤ level + 1 →
      Nat.iterate parent low node = Nat.iterate parent high node → False := by
    intro low high less bound met
    have atLow := descends.ancestor isParent (show low ≤ level + 1 by omega)
    have atHigh := descends.ancestor isParent bound
    rw [← met] at atHigh
    have loop := atLow.ancestor isParent (show level + 1 - high ≤ level + 1 - low by omega)
    rw [atHigh.top isParent] at loop
    refine acyclic (mem_generations.mpr ⟨_, isOnly, high - low - 1, by omega, ?_⟩)
    rwa [show high - low - 1 + 1 = level + 1 - low - (level + 1 - high) by omega]
  rcases Nat.lt_or_gt_of_ne apart with less | greater
  · exact twice first second less (Nat.le_of_lt_succ (Finset.mem_range.mp isSecond)) same
  · exact twice second first greater (Nat.le_of_lt_succ (Finset.mem_range.mp isFirst)) same.symm

end Ancestors

end LicoMesh.Library

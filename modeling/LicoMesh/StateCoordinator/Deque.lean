import LicoMesh.Library.LinkedList
import Mathlib.Algebra.GroupWithZero.Nat
import Mathlib.Data.List.Perm.Basic

namespace LicoMesh.StateCoordinator

open Prod

open Function (update)
open Library

/-! A queue of bounded length whose links are kept in arrays, so that an element is removed from the
middle in one step. -/

variable {slot : Nat}

/-- An index of `-1` in the source is none, and so is an undefined value. The free list has its last
slot first. -/
structure BoundedMutationDeque (α : Type) where
  capacity : Nat
  size : Nat
  head : Option Nat
  tail : Option Nat
  values : Nat → Option α
  next : Nat → Option Nat
  previous : Nat → Option Nat
  free : List Nat

namespace BoundedMutationDeque

variable {α : Type}

def new (capacity : Nat) : BoundedMutationDeque α where
  capacity := capacity
  size := 0
  head := none
  tail := none
  values _ := none
  next _ := none
  previous _ := none
  free := List.range capacity

variable (deque : BoundedMutationDeque α)

def unlink (slot : Nat) : Option α × BoundedMutationDeque α :=
  let previous := deque.previous slot
  let next := deque.next slot
  (deque.values slot,
    { deque with
      head := match previous with
        | none => next
        | some _ => deque.head
      tail := match next with
        | none => previous
        | some _ => deque.tail
      values := update deque.values slot none
      next :=
        let bypassed := match previous with
          | none => deque.next
          | some previous => update deque.next previous next
        update bypassed slot none
      previous :=
        let bypassed := match next with
          | none => deque.previous
          | some next => update deque.previous next previous
        update bypassed slot none
      free := slot :: deque.free
      size := deque.size - 1 })

def enqueue (value : α) : Option (Nat × BoundedMutationDeque α) :=
  if deque.size ≥ deque.capacity then none
  else
    match deque.free with
    | [] => none
    | slot :: free =>
      some (slot,
        { deque with
          free := free
          values := update deque.values slot (some value)
          previous := update deque.previous slot deque.tail
          head := match deque.tail with
            | none => some slot
            | some _ => deque.head
          next :=
            let cleared := update deque.next slot none
            match deque.tail with
            | none => cleared
            | some tail => update cleared tail (some slot)
          tail := some slot
          size := deque.size + 1 })

def dequeue : Option α × BoundedMutationDeque α :=
  match deque.head with
  | none => (none, deque)
  | some slot => deque.unlink slot

def remove (slot : Nat) : Option α × BoundedMutationDeque α :=
  if slot ≥ deque.capacity then (none, deque)
  else
    match deque.values slot with
    | none => (none, deque)
    | some _ => deque.unlink slot

/-- The arrays hold these slots with these values, in this order. -/
structure Represents (contents : List (Nat × α)) : Prop where
  nodup : (contents.map fst).Nodup
  head : deque.head = (contents.map fst).head?
  tail : deque.tail = (contents.map fst).getLast?
  next : ∀ before slot after, contents.map fst = before ++ slot :: after →
    deque.next slot = after.head?
  previous : ∀ before slot after, contents.map fst = before ++ slot :: after →
    deque.previous slot = before.getLast?
  values : ∀ slot value, deque.values slot = some value ↔ (slot, value) ∈ contents
  slots : (deque.free ++ contents.map fst).Perm (List.range deque.capacity)
  size : deque.size = contents.length

theorem new_represents (capacity : Nat) : (new capacity : BoundedMutationDeque α).Represents [] where
  nodup := List.nodup_nil
  head := rfl
  tail := rfl
  next := by
    intro before slot after split
    simp at split
  previous := by
    intro before slot after split
    simp at split
  values := by
    intro slot value
    simp [new]
  slots := by simp [new]
  size := rfl

variable {deque}

theorem Represents.unlink_fst (represents : deque.Represents contents)
    (member : (slot, value) ∈ contents) : (deque.unlink slot).1 = some value :=
  (represents.values slot value).mpr member

theorem unlink_next (different : other ≠ slot) : (deque.unlink slot).2.next other =
      if deque.previous slot = some other then deque.next slot else deque.next other := by
  unfold unlink
  cases previous : deque.previous slot with
  | none => simp [different]
  | some before =>
    by_cases same : other = before
    · subst same
      simp [different]
    · simp [different, same, Ne.symm same]

theorem unlink_previous (different : other ≠ slot) : (deque.unlink slot).2.previous other =
      if deque.next slot = some other then deque.previous slot else deque.previous other := by
  unfold unlink
  cases next : deque.next slot with
  | none => simp [different]
  | some after =>
    by_cases same : other = after
    · subst same
      simp [different]
    · simp [different, same, Ne.symm same]

theorem Represents.unlink_snd (represents : deque.Represents (before ++ (slot, value) :: after)) :
    (deque.unlink slot).2.Represents (before ++ after) := by
  have nodup := represents.nodup
  have whole : (before ++ (slot, value) :: after).map fst =
      before.map fst ++ slot :: after.map fst := by simp
  have slots := represents.slots
  have head := represents.head
  have tail := represents.tail
  have nextOf := represents.next
  have previousOf := represents.previous
  rw [whole] at nodup slots head tail
  simp only [whole] at nextOf previousOf
  have next := nextOf _ _ _ rfl
  have previous := previousOf _ _ _ rfl
  constructor
  case nodup =>
    rw [List.map_append]
    exact nodup.sublist (by simp)
  case head =>
    dsimp only [unlink]
    rw [previous, next, head, List.map_append]
    cases before with
    | nil => rfl
    | cons first before => simp [List.getLast?_cons]
  case tail =>
    dsimp only [unlink]
    rw [previous, next, tail, List.map_append]
    cases after with
    | nil => simp
    | cons first after => simp [List.getLast?_append, List.getLast?_cons]
  case next =>
    intro left other right split
    rw [List.map_append] at split
    rcases LinkedList.eq_append_cases split with ⟨between, left_eq, rfl⟩ | ⟨between, right_eq, rfl⟩
    · rw [left_eq] at nodup nextOf previous
      have different : other ≠ slot := by grind
      have old := nextOf left other (between ++ slot :: after.map fst) (by simp)
      rw [unlink_next different, previous, next]
      cases between with
      | nil => simp
      | cons first between =>
        rw [if_neg (by grind), old]
        rfl
    · rw [right_eq] at nodup nextOf
      have different : other ≠ slot := by grind
      have old := nextOf (before.map fst ++ slot :: between) other right (by simp)
      rw [unlink_next different, previous, if_neg, old]
      intro last
      exact List.disjoint_of_nodup_append nodup (List.mem_of_getLast? last) (by simp)
  case previous =>
    intro left other right split
    rw [List.map_append] at split
    rcases LinkedList.eq_append_cases split with ⟨between, left_eq, rfl⟩ | ⟨between, right_eq, rfl⟩
    · rw [left_eq] at nodup previousOf
      have different : other ≠ slot := by grind
      have old := previousOf left other (between ++ slot :: after.map fst) (by simp)
      rw [unlink_previous different, next, if_neg, old]
      intro first
      exact List.disjoint_of_nodup_append nodup (by simp)
        (List.mem_cons_of_mem _ (List.mem_of_head? first))
    · rw [right_eq] at nodup previousOf next
      have different : other ≠ slot := by grind
      have old := previousOf (before.map fst ++ slot :: between) other right (by simp)
      rw [unlink_previous different, next, previous]
      cases between with
      | nil => simp
      | cons first between =>
        have first_ne : first ≠ other := by
          have later := (List.nodup_append.mp nodup).2.1
          simp only [List.cons_append, List.nodup_cons] at later
          rintro rfl
          exact later.2.1 (by simp)
        rw [if_neg (by simpa using first_ne), old]
        simp [List.getLast?_append, List.getLast?_cons]
  case values =>
    intro other found
    dsimp only [unlink]
    by_cases same : other = slot
    · subst same
      simp
      grind
    · rw [Function.update_of_ne same, represents.values]
      simp [same]
  case slots =>
    rw [List.map_append]
    have moved : (slot :: deque.free ++ (before.map fst ++ after.map fst)).Perm
        (deque.free ++ (before.map fst ++ slot :: after.map fst)) := by
      rw [List.cons_append, ← List.append_assoc, ← List.append_assoc]
      exact List.perm_middle.symm
    exact moved.trans slots
  case size =>
    have size := represents.size
    dsimp only [unlink]
    simp at size ⊢
    omega

theorem Represents.enqueue (represents : deque.Represents contents) {next : BoundedMutationDeque α}
    (enqueued : deque.enqueue value = some (slot, next)) :
    next.Represents (contents ++ [(slot, value)]) := by
  unfold BoundedMutationDeque.enqueue at enqueued
  split at enqueued
  · cases enqueued
  cases free : deque.free with
  | nil =>
    rw [free] at enqueued
    cases enqueued
  | cons first rest =>
    rw [free] at enqueued
    simp only [Option.some.injEq, Prod.mk.injEq] at enqueued
    obtain ⟨rfl, rfl⟩ := enqueued
    have slots := represents.slots
    have fresh : first ∉ contents.map Prod.fst := by
      have nodup := slots.nodup_iff.mpr List.nodup_range
      rw [free] at nodup
      exact fun member => List.disjoint_of_nodup_append nodup (by simp) member
    have tail := represents.tail
    constructor
    case nodup =>
      rw [List.map_append]
      refine List.nodup_append.mpr ⟨represents.nodup, by simp, ?_⟩
      rintro slot member other same rfl
      simp only [List.map_cons, List.map_nil, List.mem_singleton] at same
      exact fresh (same ▸ member)
    case head =>
      dsimp only
      rw [tail, represents.head, List.map_append]
      cases contents with
      | nil => rfl
      | cons oldest contents => simp [List.getLast?_cons]
    case tail => simp
    case next =>
      intro before other after split
      dsimp only
      rw [List.map_append, List.map_cons, List.map_nil] at split
      rcases LinkedList.eq_append_cases split with ⟨between, left_eq, rfl⟩ | ⟨between, right_eq, rfl⟩
      · have different : other ≠ first := by
          rintro rfl
          exact fresh (by simp [left_eq])
        have old := represents.next before other between left_eq
        cases between with
        | nil =>
          have last : deque.tail = some other := by simp [tail, left_eq]
          simp [last]
        | cons second between =>
          have last : deque.tail = some ((second :: between).getLast (by simp)) := by
            rw [tail, left_eq, List.getLast?_append, List.getLast?_cons_cons,
              List.getLast?_eq_some_getLast (by simp)]
            rfl
          have last_ne : other ≠ (second :: between).getLast (by simp) := by
            have nodup := represents.nodup
            rw [left_eq] at nodup
            have later := (List.nodup_cons.mp (List.nodup_append.mp nodup).2.1).1
            exact fun same => later (same ▸ List.getLast_mem _)
          rw [last]
          dsimp only
          rw [Function.update_of_ne last_ne, Function.update_of_ne different, old]
          rfl
      · obtain ⟨rfl, rfl, rfl⟩ : other = first ∧ between = [] ∧ after = [] := by
          cases between with
          | nil => simp_all
          | cons second between => simp at right_eq
        cases last : deque.tail with
        | none => simp
        | some newest =>
          have newest_ne : other ≠ newest := by
            rintro rfl
            exact fresh (List.mem_of_getLast? (tail ▸ last))
          dsimp only
          rw [Function.update_of_ne newest_ne, Function.update_self]
          rfl
    case previous =>
      intro before other after split
      dsimp only
      rw [List.map_append, List.map_cons, List.map_nil] at split
      rcases LinkedList.eq_append_cases split with ⟨between, left_eq, rfl⟩ | ⟨between, right_eq, rfl⟩
      · have different : other ≠ first := by
          rintro rfl
          exact fresh (by simp [left_eq])
        rw [Function.update_of_ne different]
        exact represents.previous before other between left_eq
      · obtain ⟨rfl, rfl⟩ : other = first ∧ between = [] := by
          cases between with
          | nil => simp_all
          | cons second between => simp at right_eq
        simp [tail]
    case values =>
      intro other found
      dsimp only
      have absent : (first, found) ∉ contents := fun member =>
        fresh (List.mem_map_of_mem member)
      by_cases same : other = first
      · subst same
        simp [absent, eq_comm]
      · rw [Function.update_of_ne same, represents.values]
        simp [same]
    case slots =>
      rw [free] at slots
      rw [List.map_append, List.map_cons, List.map_nil]
      have moved : (rest ++ (contents.map Prod.fst ++ [first])).Perm
          (first :: rest ++ contents.map Prod.fst) := by
        rw [← List.append_assoc]
        exact List.perm_append_singleton _ _
      exact moved.trans slots
    case size => simp [represents.size]

theorem Represents.enqueue_isSome (represents : deque.Represents contents)
    (value : α) (room : deque.size < deque.capacity) : (deque.enqueue value).isSome := by
  unfold BoundedMutationDeque.enqueue
  rw [if_neg (by omega)]
  cases free : deque.free with
  | nil =>
    have slots := represents.slots.length_eq
    rw [free] at slots
    simp [← represents.size] at slots
    omega
  | cons first rest => rfl

theorem Represents.dequeue (represents : deque.Represents contents) :
    (contents = [] ∧ deque.dequeue = (none, deque)) ∨ ∃ slot value rest, contents =
    (slot, value) :: rest ∧ deque.dequeue.1 = some value ∧ deque.dequeue.2.Represents rest := by
  unfold BoundedMutationDeque.dequeue
  rw [represents.head]
  cases contents with
  | nil =>
    left
    exact ⟨rfl, rfl⟩
  | cons oldest rest =>
    right
    refine ⟨oldest.1, oldest.2, rest, rfl, ?_, ?_⟩
    · exact represents.unlink_fst (List.mem_cons_self ..)
    · have split : deque.Represents ([] ++ oldest :: rest) := represents
      exact split.unlink_snd

theorem Represents.remove (represents : deque.Represents contents) (slot : Nat) :
    (slot ∉ contents.map fst ∧ deque.remove slot = (none, deque)) ∨
      ∃ before value after, contents = before ++ (slot, value) :: after ∧
        (deque.remove slot).1 = some value ∧ (deque.remove slot).2.Represents (before ++ after) := by
  cases found : deque.values slot with
  | none =>
    left
    constructor
    · rintro member
      obtain ⟨⟨other, value⟩, inside, rfl⟩ := List.mem_map.mp member
      rw [(represents.values other value).mpr inside] at found
      cases found
    · unfold BoundedMutationDeque.remove
      rw [found]
      split <;> rfl
  | some value =>
    right
    have inside := (represents.values slot value).mp found
    have bounded : slot < deque.capacity := by
      have member : slot ∈ deque.free ++ contents.map fst :=
        List.mem_append_right _ (List.mem_map_of_mem inside)
      exact List.mem_range.mp (represents.slots.mem_iff.mp member)
    obtain ⟨before, after, rfl⟩ := List.append_of_mem inside
    have removed : deque.remove slot = deque.unlink slot := by
      unfold BoundedMutationDeque.remove
      rw [if_neg (by omega), found]
    refine ⟨before, value, after, rfl, ?_, ?_⟩
    · rw [removed]
      exact represents.unlink_fst inside
    · rw [removed]
      exact represents.unlink_snd

end BoundedMutationDeque

theorem filter_slot {α : Type} {before after : List (Nat × α)} {value : α}
    (nodup : ((before ++ (slot, value) :: after).map fst).Nodup) :
    (before ++ (slot, value) :: after).filter (fun held => held.1 ≠ slot) = before ++ after := by
  rw [List.map_append, List.map_cons] at nodup
  have others : ∀ held ∈ before ++ after, held.1 ≠ slot := by
    intro held member same
    rcases List.mem_append.mp member with earlier | later
    · exact List.disjoint_of_nodup_append nodup (List.mem_map_of_mem earlier) (by simp [same])
    · have inside : held.1 ∈ after.map fst := List.mem_map_of_mem later
      exact (List.nodup_cons.mp (List.nodup_append.mp nodup).2.1).1 (same ▸ inside)
  rw [List.filter_append, List.filter_cons_of_neg (by simp), ← List.filter_append,
    List.filter_eq_self]
  intro held member
  simpa using others held member

structure MutationQueue (α : Type) where
  deque : BoundedMutationDeque α
  contents : List (Nat × α)
  represents : deque.Represents contents

namespace MutationQueue

variable {α : Type}

def new (capacity : Nat) : MutationQueue α :=
  ⟨BoundedMutationDeque.new capacity, [], BoundedMutationDeque.new_represents capacity⟩

variable (queue : MutationQueue α)

def size : Nat := queue.deque.size

def capacity : Nat := queue.deque.capacity

def enqueue (value : α) : Option (Nat × MutationQueue α) :=
  match enqueued : queue.deque.enqueue value with
  | none => none
  | some (slot, deque) =>
    some (slot, ⟨deque, queue.contents ++ [(slot, value)], queue.represents.enqueue enqueued⟩)

def dequeue : Option (α × MutationQueue α) :=
  match taken : queue.deque.dequeue.1 with
  | none => none
  | some value =>
    some (value, ⟨queue.deque.dequeue.2, queue.contents.tail, by
      rcases queue.represents.dequeue with ⟨_, unchanged⟩ | ⟨slot, found, rest, whole, _, after⟩
      · rw [unchanged] at taken
        cases taken
      · rw [whole]
        exact after⟩)

def remove (slot : Nat) : Option (α × MutationQueue α) :=
  match taken : (queue.deque.remove slot).1 with
  | none => none
  | some value =>
    some (value, ⟨(queue.deque.remove slot).2,
      queue.contents.filter fun held => held.1 ≠ slot, by
      rcases queue.represents.remove slot with
        ⟨_, unchanged⟩ | ⟨before, found, after, whole, _, left⟩
      · rw [unchanged] at taken
        cases taken
      · have nodup := queue.represents.nodup
        rw [whole] at nodup ⊢
        rw [filter_slot nodup]
        exact left⟩)

theorem size_eq : queue.size = queue.contents.length := queue.represents.size

theorem size_le : queue.size ≤ queue.capacity := by
  have slots := queue.represents.slots.length_eq
  rw [size_eq]
  simp at slots
  unfold capacity
  omega

variable {queue}

theorem slots_nodup : (queue.contents.map fst).Nodup := queue.represents.nodup

theorem enqueue_contents (enqueued : queue.enqueue value = some (slot, next)) :
    next.contents = queue.contents ++ [(slot, value)] ∧ next.capacity = queue.capacity := by
  unfold enqueue at enqueued
  split at enqueued
  · cases enqueued
  · rename_i slot deque taken
    cases enqueued
    refine ⟨rfl, ?_⟩
    unfold BoundedMutationDeque.enqueue at taken
    unfold capacity
    grind

theorem enqueue_isSome (value : α) (room : queue.size < queue.capacity) :
    (queue.enqueue value).isSome := by
  have taken := queue.represents.enqueue_isSome value room
  unfold enqueue
  split
  · rename_i full
    rw [full] at taken
    cases taken
  · rfl

theorem unlink_capacity (deque : BoundedMutationDeque α) (slot : Nat) :
    (deque.unlink slot).2.capacity = deque.capacity := rfl

theorem dequeue_none (empty : queue.dequeue = none) : queue.contents = [] := by
  unfold dequeue at empty
  split at empty
  · rename_i nothing
    rcases queue.represents.dequeue with ⟨isEmpty, _⟩ | ⟨_, value, _, _, found, _⟩
    · exact isEmpty
    · rw [found] at nothing
      cases nothing
  · cases empty

theorem dequeue_some (taken : queue.dequeue = some (value, next)) :
    ∃ slot, queue.contents = (slot, value) :: next.contents ∧ next.capacity = queue.capacity := by
  unfold dequeue at taken
  split at taken
  · cases taken
  · rename_i value' first
    cases taken
    rcases queue.represents.dequeue with ⟨_, unchanged⟩ | ⟨slot, found, rest, whole, same, _⟩
    · rw [unchanged] at first
      cases first
    · rw [same] at first
      cases first
      refine ⟨slot, ?_, ?_⟩
      · change queue.contents = (slot, value) :: queue.contents.tail
        rw [whole, List.tail_cons]
      · unfold capacity BoundedMutationDeque.dequeue
        grind [unlink_capacity]

theorem remove_some (taken : queue.remove slot = some (value, next)) :
    ∃ before after, queue.contents = before ++ (slot, value) :: after ∧
      next.contents = before ++ after ∧ next.capacity = queue.capacity := by
  unfold remove at taken
  split at taken
  · cases taken
  · rename_i value' first
    cases taken
    rcases queue.represents.remove slot with ⟨_, unchanged⟩ | ⟨before, found, after, whole, same, _⟩
    · rw [unchanged] at first
      cases first
    · rw [same] at first
      cases first
      have nodup := queue.represents.nodup
      rw [whole] at nodup
      refine ⟨before, after, whole, ?_, ?_⟩
      · dsimp only
        rw [whole, filter_slot nodup]
      · unfold capacity BoundedMutationDeque.remove
        grind [unlink_capacity]

end MutationQueue

end LicoMesh.StateCoordinator
